import RequireForm.Proofs.Source.Cut

/-!
# What the leaf readers accept

Each reader of `RequireForm.Source.Reading` is pinned down by one equivalence: it gives a
result exactly on the texts that are written in one way, a beginning of its own form and any
rest at which that form has ended.

  1. Spaces: `skipSpaces`, `spaces?`.
  2. Words and names: `word?`, `name?`.
  3. `PathLiteral.read?`, for the literals that are `WellFormed`.
-/

namespace RequireForm

open Text

variable {s rest w name : Text}

/-! ## Spaces -/

theorem skipSpaces_of_stops (hs : Stops isSpace s) : skipSpaces s = s :=
  dropWhile_append_of_run (w := []) run_nil hs

theorem skipSpaces_run (hw : Spaces w) (hs : Stops isSpace s) : skipSpaces (w ++ s) = s :=
  dropWhile_append_of_run hw hs

theorem stops_skipSpaces (s : Text) : Stops isSpace (skipSpaces s) := stops_dropWhile _ _

/-- What `skipSpaces` steps over. -/
theorem exists_spaces (s : Text) : ∃ w, Spaces w ∧ s = w ++ skipSpaces s :=
  ⟨s.takeWhile isSpace, run_takeWhile _ _, List.takeWhile_append_dropWhile.symm⟩

theorem spaces?_eq_some_iff :
    spaces? s = some rest ↔
      ∃ w, w ≠ [] ∧ Spaces w ∧ Stops isSpace rest ∧ s = w ++ rest := by
  constructor
  · intro h
    cases s with
    | nil => cases h
    | cons c t =>
        rw [spaces?] at h
        split at h
        · next hc =>
            obtain ⟨w, hw, ht⟩ := exists_spaces t
            have hr : skipSpaces t = rest := Option.some.inj h
            refine ⟨c :: w, List.cons_ne_nil _ _, run_cons.mpr ⟨hc, hw⟩, ?_, ?_⟩
            · rw [← hr]; exact stops_skipSpaces t
            · rw [List.cons_append, ← hr, ← ht]
        · cases h
  · rintro ⟨w, hne, hw, hr, rfl⟩
    cases w with
    | nil => exact absurd rfl hne
    | cons c w =>
        obtain ⟨hc, hw⟩ := run_cons.mp hw
        rw [List.cons_append, spaces?, if_pos hc, skipSpaces_run hw hr]

/-! ## Words and names -/

theorem word?_eq_some_iff :
    word? w s = some rest ↔ s = w ++ rest ∧ nameEnds rest = true := by
  unfold word?
  constructor
  · intro h
    split at h
    · next t hs =>
        split at h
        · next ht =>
            obtain rfl : t = rest := Option.some.inj h
            exact ⟨after?_eq_some_iff.mp hs, ht⟩
        · exact nomatch h
    · exact nomatch h
  · rintro ⟨rfl, hr⟩
    simp only [after?_append, hr, if_true]

theorem word?_append (hr : nameEnds rest = true) : word? w (w ++ rest) = some rest :=
  word?_eq_some_iff.mpr ⟨rfl, hr⟩

/-- A text that starts with another character does not start with a word. -/
theorem word?_cons_eq_none {b c : Char} (h : b ≠ c) : word? (b :: w) (c :: s) = none := by
  simp [word?, after?, h]

/-- Whether a word starts a line is seen on that line. -/
theorem word?_line {t : Text} (hw : '\n' ∉ w) (h : word? w t = none)
    (hrest : Piece.LineEnd rest) : word? w (t ++ rest) = none := by
  cases hr : word? w (t ++ rest) with
  | none => rfl
  | some r =>
      obtain ⟨hs, hends⟩ := word?_eq_some_iff.mp hr
      rcases List.append_eq_append_iff.mp hs with ⟨v, rfl, hv⟩ | ⟨v, rfl, rfl⟩
      · have hnil : v = [] := by
          rcases hrest with rfl | ⟨u, rfl⟩
          · exact (List.append_eq_nil_iff.mp hv.symm).1
          · cases v with
            | nil => rfl
            | cons c v =>
                rw [← (List.cons.inj hv).1] at hw
                exact absurd (List.mem_append_right _ List.mem_cons_self) hw
        subst hnil
        rw [List.append_nil] at h
        rw [word?_eq_some_iff.mpr ⟨(List.append_nil t).symm, rfl⟩] at h
        exact nomatch h
      · have hends' : nameEnds v = true := by
          cases v with
          | nil => rfl
          | cons c v => exact hends
        rw [word?_append hends'] at h
        exact nomatch h

/-- Spaces end a name, and so does what ends one behind them. -/
theorem nameEnds_spaces_append (hw : Spaces w) (hs : nameEnds s = true) :
    nameEnds (w ++ s) = true :=
  nameEnds_iff.mpr (stops_of_run (fun _ => not_isNameChar_of_isSpace) hw (nameEnds_iff.mp hs))

/-- A gap that is not empty ends a name. -/
theorem nameEnds_gap_append (hne : w ≠ []) (hw : Spaces w) : nameEnds (w ++ s) = true := by
  obtain ⟨c, w, rfl⟩ := List.exists_cons_of_ne_nil hne
  exact nameEnds_iff.mpr (not_isNameChar_of_isSpace (run_cons.mp hw).1)

/-- A word that ends in front of a gap and a name has a gap behind it. -/
theorem gap_ne_nil {gap after : Text} (hends : nameEnds (gap ++ (name ++ after)) = true)
    (hn : Specifier.isName name = true) : gap ≠ [] := by
  rintro rfl
  obtain ⟨hne, hrun⟩ := isName_iff.mp hn
  obtain ⟨c, name, rfl⟩ := List.exists_cons_of_ne_nil hne
  have hc : isNameChar c = false := nameEnds_iff.mp hends
  rw [(run_cons.mp hrun).1] at hc
  exact nomatch hc

theorem stops_isSpace_name (hn : Specifier.isName name = true) : Stops isSpace (name ++ s) :=
  stops_name (fun _ => not_isSpace_of_isNameChar) hn

/-- Two names that are read off one text to their ends are the same. -/
theorem name_append_unique {name' rest' : Text} (hn : Specifier.isName name = true)
    (hr : nameEnds rest = true) (hn' : Specifier.isName name' = true)
    (hr' : nameEnds rest' = true) (h : name ++ rest = name' ++ rest') :
    name = name' ∧ rest = rest' :=
  run_append_unique (isName_iff.mp hn).2 (nameEnds_iff.mp hr) (isName_iff.mp hn').2
    (nameEnds_iff.mp hr') h

theorem name?_eq_some_iff :
    name? s = some (name, rest) ↔
      s = name ++ rest ∧ Specifier.isName name = true ∧ nameEnds rest = true := by
  constructor
  · intro h
    unfold name? at h
    split at h
    · exact nomatch h
    · next hne =>
        obtain ⟨hn, hr⟩ := Prod.mk.inj (Option.some.inj h)
        rw [← hn, ← hr, isName_iff, nameEnds_iff]
        exact ⟨List.takeWhile_append_dropWhile.symm, ⟨hne, run_takeWhile _ _⟩,
          stops_dropWhile _ _⟩
  · rintro ⟨rfl, hn, hr⟩
    obtain ⟨hne, hrun⟩ := isName_iff.mp hn
    have hstop := nameEnds_iff.mp hr
    unfold name?
    rw [takeWhile_append_of_run hrun hstop, dropWhile_append_of_run hrun hstop]
    split
    · exact absurd rfl hne
    · rfl

theorem name?_append (hn : Specifier.isName name = true) (hr : nameEnds rest = true) :
    name? (name ++ rest) = some (name, rest) :=
  name?_eq_some_iff.mpr ⟨rfl, hn, hr⟩

/-- No name starts where no name character does. -/
theorem name?_eq_none_iff : name? s = none ↔ nameEnds s = true := by
  rw [nameEnds_iff]
  cases s with
  | nil => simp [name?]
  | cons c s => cases hc : isNameChar c <;> simp [name?, hc]

/-! ## Path literals -/

namespace PathLiteral

variable {p : PathLiteral}

/-- A literal that can be written down and read back: between two of the three quotes stands
    a text that is not empty and holds neither the quote nor a line feed. -/
structure WellFormed (p : PathLiteral) : Prop where
  quote : isQuote p.quote = true
  value_ne_nil : p.value ≠ []
  value : Run (inside p.quote) p.value

instance : Decidable p.WellFormed :=
  decidable_of_iff (isQuote p.quote = true ∧ p.value ≠ [] ∧ Run (inside p.quote) p.value)
    ⟨fun ⟨hq, hne, hv⟩ => ⟨hq, hne, hv⟩, fun ⟨hq, hne, hv⟩ => ⟨hq, hne, hv⟩⟩

theorem inside_self (q : Char) : inside q q = false := by simp [inside]

theorem read?_eq_some_iff :
    read? s = some (p, rest) ↔ p.WellFormed ∧ s = p.written ++ rest := by
  constructor
  · intro h
    cases s with
    | nil => cases h
    | cons q t =>
        rw [read?] at h
        split at h
        · next hq =>
            have ht : t = t.takeWhile (inside q) ++ t.dropWhile (inside q) :=
              List.takeWhile_append_dropWhile.symm
            have hrun := run_takeWhile (inside q) t
            split at h
            · next c value d rest' hv hd =>
                split at h
                · next hdq =>
                    obtain ⟨hp, hr⟩ := Prod.mk.inj (Option.some.inj h)
                    rw [hv] at hrun
                    refine ⟨?_, ?_⟩
                    · rw [← hp]; exact ⟨hq, List.cons_ne_nil _ _, hrun⟩
                    · rw [ht, hv, hd, hdq, ← hp, ← hr]
                      simp [written, quoting]
                · cases h
            · cases h
        · cases h
  · rintro ⟨⟨hq, hne, hv⟩, rfl⟩
    obtain ⟨q, value⟩ := p
    cases value with
    | nil => exact absurd rfl hne
    | cons c value =>
        have hstop : Stops (inside q) (q :: rest) := inside_self q
        have htake := takeWhile_append_of_run hv hstop
        have hdrop := dropWhile_append_of_run hv hstop
        rw [show written ⟨q, c :: value⟩ ++ rest = q :: (c :: value ++ q :: rest) by
          simp [written, quoting], read?, if_pos hq]
        simp only at htake hdrop
        rw [htake, hdrop]
        exact if_pos rfl

theorem read?_written (hp : p.WellFormed) : read? (p.written ++ rest) = some (p, rest) :=
  read?_eq_some_iff.mpr ⟨hp, rfl⟩

/-- A literal that is read off a text is determined by it. -/
theorem written_append_unique {p' : PathLiteral} {rest' : Text} (hp : p.WellFormed)
    (hp' : p'.WellFormed) (h : p.written ++ rest = p'.written ++ rest') :
    p = p' ∧ rest = rest' := by
  have hr : read? (p.written ++ rest) = some (p, rest) := read?_written hp
  rw [h, read?_written hp'] at hr
  exact (Prod.mk.inj (Option.some.inj hr)).imp Eq.symm Eq.symm

theorem not_isSpace_of_isQuote {c : Char} (h : isQuote c = true) : isSpace c = false := by
  simp only [isQuote, Bool.or_eq_true, decide_eq_true_eq] at h
  rcases h with (rfl | rfl) | rfl <;> decide

theorem not_isNameChar_of_isQuote {c : Char} (h : isQuote c = true) : isNameChar c = false := by
  simp only [isQuote, Bool.or_eq_true, decide_eq_true_eq] at h
  rcases h with (rfl | rfl) | rfl <;> decide

theorem not_isQuote_of_isNameChar {c : Char} (h : isNameChar c = true) : isQuote c = false := by
  cases hq : isQuote c with
  | false => rfl
  | true => rw [not_isNameChar_of_isQuote hq] at h; exact Bool.noConfusion h

/-- Between its quotes, a literal stands on one line if the text does that is put there. -/
theorem WellFormed.not_mem_quoting {value : Text} {c : Char} (hp : p.WellFormed)
    (hc : isQuote c = false) (h : c ∉ value) : c ∉ p.quoting value := by
  have hquote : c ≠ p.quote := fun hq => by
    rw [hq, hp.quote] at hc
    exact Bool.noConfusion hc
  intro hm
  rcases List.mem_cons.mp hm with hm | hm
  · exact hquote hm
  · rcases List.mem_append.mp hm with hm | hm
    · exact h hm
    · exact hquote (List.mem_singleton.mp hm)

theorem WellFormed.not_mem_value (hp : p.WellFormed) : '\n' ∉ p.value := fun hm =>
  absurd (hp.value _ hm) (by simp [inside])

theorem WellFormed.not_mem_written (hp : p.WellFormed) : '\n' ∉ p.written :=
  hp.not_mem_quoting (by decide) hp.not_mem_value

theorem WellFormed.stops_spaces (hp : p.WellFormed) : Stops isSpace (p.written ++ rest) :=
  not_isSpace_of_isQuote hp.quote

theorem WellFormed.nameEnds (hp : p.WellFormed) : nameEnds (p.written ++ rest) = true :=
  nameEnds_iff.mpr (not_isNameChar_of_isQuote hp.quote)

end PathLiteral

end RequireForm
