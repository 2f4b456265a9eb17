import RequireForm.Proofs.Source.Cursor

/-!
# Path literals read back

    `a"b` ;     between backticks, a quote of another kind is part of the path
    `a`b` ;     the path ends at the second backtick: `a` is read, not a`b

A literal is printed with a value between its quotes. It is read back as that value, up to where it
ends, exactly if the value is not empty and holds neither the quote nor a line feed. And whatever is
read is, printed again, what stood there.

  1. `PathLiteral.wellFormed_iff`: the values that a quote can enclose.
  2. `Text.exists_before_of_byteAt?`: an ASCII byte stands between two characters.
  3. `PathLiteral.path_reads_back`: both directions, for texts and for offsets.
-/

namespace RequireForm

open Text

/-! ## Where an ASCII byte stands -/

/-- A byte that is an ASCII character starts a character. -/
theorem Text.exists_before_of_byteAt? {t : Text} {n : Nat} {b : UInt8}
    (h : t.byteAt? n = some b) (hb : b.toNat < 128) :
    ∃ before s, t = before ++ s ∧ before.byteLength = n := by
  induction t generalizing n with
  | nil => exact nomatch h
  | cons c t ih =>
      rw [byteAt?, bytes_cons] at h
      by_cases hn : n < c.utf8Size
      · rw [List.getElem?_append_left (by rwa [String.length_utf8EncodeChar])] at h
        have hmem : b ∈ String.utf8EncodeChar c := List.mem_of_getElem? h
        -- only an ASCII character has such a byte, and it has no other
        have hc : c.toNat < 128 := by
          by_contra hc
          have hle := le_of_mem_utf8EncodeChar (Nat.not_lt.mp hc) hmem
          omega
        rw [utf8Size_of_ascii hc] at hn
        exact ⟨[], c :: t, rfl, by rw [byteLength_nil]; omega⟩
      · have hle : (String.utf8EncodeChar c).length ≤ n := by
          rw [String.length_utf8EncodeChar]
          omega
        rw [List.getElem?_append_right hle, String.length_utf8EncodeChar] at h
        obtain ⟨before, s, rfl, hbefore⟩ := ih h
        exact ⟨c :: before, s, rfl, by rw [byteLength_cons, hbefore]; omega⟩

/-- A cursor that finds a path stands between two characters. -/
theorem Scan.exists_before_of_path {source : Text} {n m : Nat} {p : PathLiteral}
    (h : path source n = .ok (some (p, m))) :
    ∃ before s, source = before ++ s ∧ before.byteLength = n := by
  have hpeek : peek source n = .ok (some (source.byteAt? n, n)) := rfl
  rw [path, bind_apply, hpeek] at h
  cases hb : source.byteAt? n with
  | none =>
      rw [hb] at h
      cases h
  | some b =>
      have hdemand : demand (some b) source n = .ok (some (b, n)) := rfl
      rw [hb] at h
      simp only [bind_apply, hdemand] at h
      cases hquote : seen PathLiteral.isQuote b with
      | false =>
          rw [hquote] at h
          cases h
      | true =>
          rw [seen, Bool.and_eq_true, decide_eq_true_eq] at hquote
          exact exists_before_of_byteAt? hb hquote.1

namespace PathLiteral

variable {p : PathLiteral} {before v rest source : Text} {n m : Nat}

/-- What may stand between two quotes. -/
theorem wellFormed_iff (hq : isQuote p.quote = true) :
    WellFormed ⟨p.quote, v⟩ ↔ v ≠ [] ∧ p.quote ∉ v ∧ '\n' ∉ v := by
  have hrun : Run (inside p.quote) v ↔ p.quote ∉ v ∧ '\n' ∉ v := by
    simp only [Run, inside, Bool.and_eq_true, decide_eq_true_eq]
    constructor
    · intro h
      exact ⟨fun hm => (h _ hm).1 rfl, fun hm => (h _ hm).2 rfl⟩
    · rintro ⟨hquote, hfeed⟩ c hc
      exact ⟨fun heq => hquote (heq ▸ hc), fun heq => hfeed (heq ▸ hc)⟩
  rw [← hrun]
  exact ⟨fun h => ⟨h.value_ne_nil, h.value⟩, fun h => ⟨hq, h.1, h.2⟩⟩

/-- The text of a printed literal is read back whole. -/
theorem read?_quoting_iff :
    read? (p.quoting v ++ rest) = some (⟨p.quote, v⟩, rest) ↔ WellFormed ⟨p.quote, v⟩ :=
  read?_eq_some_iff.trans ⟨fun h => h.1, fun h => ⟨h, rfl⟩⟩

/-- A cursor finds at an offset what is read off the text there. -/
theorem path_eq_ok_iff {u s : Text} :
    Scan.path (before ++ (u ++ s)) before.byteLength = .ok (some (p, (before ++ u).byteLength)) ↔
      read? (u ++ s) = some (p, s) := by
  have hagrees : Scan.Agrees Scan.path before (u ++ s) (read? (u ++ s)) := .path
  cases hread : read? (u ++ s) with
  | none =>
      rw [hread] at hagrees
      have hnone : Scan.path (before ++ (u ++ s)) before.byteLength = .ok none := hagrees
      rw [hnone]
      exact ⟨fun h => (nomatch h), fun h => (nomatch h)⟩
  | some found =>
      obtain ⟨p', rest⟩ := found
      rw [hread] at hagrees
      obtain ⟨w, hw, hpath⟩ := hagrees
      rw [hpath]
      constructor
      · intro h
        obtain ⟨rfl, hlength⟩ := Prod.mk.inj (Option.some.inj (Except.ok.inj h))
        -- both ends of the literal are one offset, and so one place of the source
        have hcut : (w ++ rest).cutBytes? w.byteLength = some (w, rest) :=
          cutBytes?_eq_some_iff.mpr ⟨rfl, rfl⟩
        have hcut' : (w ++ rest).cutBytes? w.byteLength = some (before ++ u, s) :=
          cutBytes?_eq_some_iff.mpr ⟨by rw [hw, List.append_assoc], hlength.symm⟩
        obtain ⟨-, rfl⟩ := Prod.mk.inj (Option.some.inj (hcut.symm.trans hcut'))
        rfl
      · intro h
        obtain ⟨rfl, rfl⟩ := Prod.mk.inj (Option.some.inj h)
        rw [← List.append_assoc] at hw
        rw [List.append_cancel_right hw]

/-- What a cursor finds is the slice that it has passed. -/
theorem slice?_of_path (h : Scan.path source n = .ok (some (p, m))) :
    source.slice? n m = some p.written := by
  obtain ⟨before, s, rfl, rfl⟩ := Scan.exists_before_of_path h
  have hagrees : Scan.Agrees Scan.path before s (read? s) := .path
  cases hread : read? s with
  | none =>
      rw [hread] at hagrees
      have hnone : Scan.path (before ++ s) before.byteLength = .ok none := hagrees
      rw [hnone] at h
      exact nomatch h
  | some found =>
      obtain ⟨p', rest⟩ := found
      obtain ⟨-, rfl⟩ := read?_eq_some_iff.mp hread
      have hend : Scan.path (before ++ (p'.written ++ rest)) before.byteLength
          = .ok (some (p', (before ++ p'.written).byteLength)) := path_eq_ok_iff.mpr hread
      rw [hend] at h
      obtain ⟨rfl, rfl⟩ := Prod.mk.inj (Option.some.inj (Except.ok.inj h))
      exact slice?_append

/-- A literal that is printed with a value is read back, up to its end, exactly if the value is not
    empty and holds neither the quote nor a line feed; and what is read anywhere is, printed with
    its own value, the text that has been passed. -/
theorem path_reads_back :
    (∀ (p : PathLiteral) (before v rest : Text), isQuote p.quote = true →
      let literal := p.quoting v
      let safe := v ≠ [] ∧ p.quote ∉ v ∧ '\n' ∉ v
      (read? (literal ++ rest) = some (⟨p.quote, v⟩, rest) ↔ safe) ∧
        (Scan.path (before ++ (literal ++ rest)) before.byteLength
          = .ok (some (⟨p.quote, v⟩, (before ++ literal).byteLength)) ↔ safe)) ∧
      (∀ (s rest : Text) (p : PathLiteral),
        read? s = some (p, rest) → s = p.quoting p.value ++ rest) ∧
      ∀ (source : Text) (n m : Nat) (p : PathLiteral),
        Scan.path source n = .ok (some (p, m)) → source.slice? n m = some (p.quoting p.value) := by
  refine ⟨?_, ?_, ?_⟩
  · intro p before v rest hq literal safe
    have hread : read? (literal ++ rest) = some (⟨p.quote, v⟩, rest) ↔ safe :=
      read?_quoting_iff.trans (wellFormed_iff hq)
    exact ⟨hread, path_eq_ok_iff.trans hread⟩
  · intro s rest p h
    exact (read?_eq_some_iff.mp h).2
  · intro source n m p h
    exact slice?_of_path h

/-- Between backticks stand an accented letter and a quote of another kind. -/
theorem path_reads_back_accented :
    isQuote '\x60' = true ∧
      Scan.path "é = \x60é'\x60;".toList 5 = .ok (some (⟨'\x60', ['é', '\'']⟩, 10)) ∧
      slice? "é = \x60é'\x60;".toList 5 10 = some "\x60é'\x60".toList := by
  have hq : isQuote '\x60' = true := by decide
  have hpath : Scan.path "é = \x60é'\x60;".toList 5 = .ok (some (⟨'\x60', ['é', '\'']⟩, 10)) :=
    (path_reads_back.1 ⟨'\x60', []⟩ "é = ".toList ['é', '\''] [';'] hq).2.mpr (by decide)
  exact ⟨hq, hpath, path_reads_back.2.2 _ _ _ _ hpath⟩

end PathLiteral

end RequireForm
