import RequireForm.Proofs.Import.Grammar

/-!
# Statements in front of a fence

    TEXT FENCE REST

A fence is a character that stands in no statement outside of its path, such as a parenthesis,
a dot or a `;`. If no path that starts in TEXT reaches the fence, a statement that starts in TEXT
ends in TEXT, and REST has no say in it. Two things keep a path from the fence: line feeds behind
all quotes of TEXT, and a line feed behind the fence.

  1. `Fence`: the characters that are fences.
  2. `PathsEnd`: no path reaches the fence; `Sealed.pathsEnd`, `pathsEnd_feed`: two causes.
  3. `split_fence`, `split_path`, `split_from`: what is read in front of the fence.
  4. `Import.read?_fence`: an import in front of the fence.
-/

namespace RequireForm

open Text

variable {c : Char} {t u v w x rest name : Text} {p : PathLiteral}

/-! ## Fences -/

theorem not_mem_of_run {q : Char → Bool} (hq : q c = false) (h : Run q w) : c ∉ w := fun hm =>
  Bool.false_ne_true (hq.symm.trans (h c hm))

/-- A character that stands in no statement outside of a path and starts no comment. -/
structure Fence (c : Char) : Prop where
  not_listChar : isListChar c = false
  not_quote : PathLiteral.isQuote c = false
  not_mark : c ∉ ['\x7b', '\x7d', '*', '/']

instance : Decidable (Fence c) :=
  decidable_of_iff (isListChar c = false ∧ PathLiteral.isQuote c = false ∧
      c ∉ ['\x7b', '\x7d', '*', '/'])
    ⟨fun ⟨hl, hq, hm⟩ => ⟨hl, hq, hm⟩, fun ⟨hl, hq, hm⟩ => ⟨hl, hq, hm⟩⟩

namespace Fence

theorem not_nameChar (hc : Fence c) : isNameChar c = false := by
  have h := hc.not_listChar
  simp only [isListChar, Bool.or_eq_false_iff] at h
  exact h.1.1

theorem not_blank (hc : Fence c) : isBlank c = false := by
  have h := hc.not_listChar
  simp only [isListChar, Bool.or_eq_false_iff] at h
  exact h.1.2

theorem not_space (hc : Fence c) : isSpace c = false := by
  cases hs : isSpace c with
  | false => rfl
  | true => exact (isBlank_of_isSpace hs).symm.trans hc.not_blank

theorem not_mem_spaces (hc : Fence c) (hw : Spaces w) : c ∉ w := not_mem_of_run hc.not_space hw

theorem not_mem_name (hc : Fence c) (hn : Specifier.isName name = true) : c ∉ name :=
  not_mem_of_run hc.not_nameChar (isName_iff.mp hn).2

theorem ne_of_mem {d : Char} (hc : Fence c) (hd : d ∈ ['\x7b', '\x7d', '*', '/']) : c ≠ d := by
  rintro rfl
  exact hc.not_mark hd

theorem not_mem_list (hc : Fence c) {b : ListSyntax} (hb : b.Fits) : c ∉ b.text := by
  simp only [ListSyntax.text, List.mem_cons, List.mem_append, not_or]
  exact ⟨hc.ne_of_mem (by decide), not_mem_of_run hc.not_listChar (ListSyntax.run_isListChar hb),
    hc.ne_of_mem (by decide), List.not_mem_nil⟩

theorem not_mem_star (hc : Fence c) {d : StarSyntax} {after : Text} (hd : d.Fits after) :
    c ∉ d.text := by
  have hstar : c ≠ '*' := hc.ne_of_mem (by decide)
  cases d with
  | bare => exact fun hm => hstar (List.mem_singleton.mp hm)
  | named gap₁ gap₂ name =>
      obtain ⟨h₁, h₂, -, hn, -⟩ := hd
      simp only [StarSyntax.text, StarSyntax.tail, List.mem_cons, List.mem_append, not_or]
      exact ⟨hstar, hc.not_mem_spaces h₁, hc.not_mem_name (by decide), hc.not_mem_spaces h₂,
        hc.not_mem_name hn⟩

end Fence

/-! ## What keeps a path from the fence -/

/-- A text without quotes. -/
abbrev Unquoted (t : Text) : Prop := Run (!PathLiteral.isQuote ·) t

theorem unquoted_of_isListChar (h : Run isListChar w) : Unquoted w :=
  run_mono (fun c hc => by
    cases hq : PathLiteral.isQuote c with
    | false => rfl
    | true => rw [(PathLiteral.not_isListChar_of_isQuote hq).1] at hc; exact nomatch hc) h

/-- Each quote has a line feed behind it. -/
def Sealed : Text → Prop
  | [] => True
  | c :: u => (PathLiteral.isQuote c = true → '\n' ∈ u) ∧ Sealed u

/-- No path that starts in `u` reaches the fence `c` behind it. -/
def PathsEnd (u : Text) (c : Char) (x : Text) : Prop :=
  ∀ w v, u = w ++ v → ∀ (p : PathLiteral) (rest : Text), p.WellFormed →
    v ++ c :: x = p.written ++ rest → ∃ v', v = p.written ++ v' ∧ rest = v' ++ c :: x

theorem Sealed.suffix (h : Sealed (w ++ u)) : Sealed u := by
  induction w with
  | nil => exact h
  | cons c w ih => exact ih h.2

/-- A text without quotes is sealed in front of a sealed one. -/
theorem Sealed.append (hw : Unquoted w) (hu : Sealed u) :
    Sealed (w ++ u) := by
  induction w with
  | nil => exact hu
  | cons c w ih =>
      obtain ⟨hc, hw⟩ := run_cons.mp hw
      refine ⟨fun hq => ?_, ih hw⟩
      rw [hq] at hc
      exact nomatch hc

theorem sealed_of_unquoted (h : Unquoted t) : Sealed t := by
  have hseal := Sealed.append h (u := []) trivial
  rwa [List.append_nil] at hseal

theorem PathsEnd.suffix (h : PathsEnd (w ++ u) c x) : PathsEnd u c x := by
  intro w' v hu
  exact h (w ++ w') v (by rw [hu, List.append_assoc])

/-- A path is written in one piece before the fence, or the fence stands in it. -/
theorem split_written (h : u ++ c :: x = p.written ++ rest) :
    (∃ v, u = p.written ++ v ∧ rest = v ++ c :: x) ∨
      ∃ a, p.written = u ++ c :: a ∧ x = a ++ rest := by
  rcases List.append_eq_append_iff.mp h with ⟨a, ha, hx⟩ | ⟨v, hu, hr⟩
  · cases a with
    | nil =>
        rw [List.append_nil] at ha
        exact Or.inl ⟨[], by rw [List.append_nil, ha], hx.symm⟩
    | cons d a =>
        obtain ⟨rfl, hx'⟩ := List.cons.inj hx
        exact Or.inr ⟨a, ha, hx'⟩
  · exact Or.inl ⟨v, hu, hr⟩

/-- Behind the quotes of a sealed text a line feed comes before the fence. -/
theorem Sealed.pathsEnd (hc : Fence c) (hu : Sealed u) (x : Text) : PathsEnd u c x := by
  intro w v hv p rest hp h
  rcases split_written h with hend | ⟨a, ha, -⟩
  · exact hend
  · rw [hv] at hu
    have hv := hu.suffix
    cases v with
    | nil =>
        -- the fence would be the opening quote
        have hq : p.quote = c := (List.cons.inj ha).1
        exact absurd (hq ▸ hp.quote) (by simp [hc.not_quote])
    | cons d v =>
        -- the line feed behind the opening quote would stand in the path
        have hq : p.quote = d := (List.cons.inj ha).1
        have hfeed := hv.1 (hq ▸ hp.quote)
        refine absurd ?_ hp.not_mem_written
        rw [ha]
        exact List.mem_append_left _ (List.mem_cons_of_mem _ hfeed)

/-- A line feed right behind the fence keeps every path in front of it: a path would have to be
    closed by the fence itself. -/
theorem pathsEnd_feed (hc : Fence c) (u x : Text) : PathsEnd u c ('\n' :: x) := by
  intro w v _ p rest hp h
  rcases split_written h with hend | ⟨a, ha, hx⟩
  · exact hend
  · have hlast : p.written = (p.quote :: p.value) ++ [p.quote] := rfl
    rcases List.eq_nil_or_concat a with rfl | ⟨a, d, rfl⟩
    · have hq : p.quote = c := (List.cons.inj (List.append_inj_right' (hlast.symm.trans ha) rfl)).1
      exact absurd (hq ▸ hp.quote) (by simp [hc.not_quote])
    · have hfeed : '\n' ∈ a.concat d := by
        cases a with
        | nil => exact List.mem_singleton.mpr (List.cons.inj hx).1
        | cons e a =>
            rw [(List.cons.inj hx).1]
            exact List.mem_cons_self
      refine absurd ?_ hp.not_mem_written
      rw [ha]
      exact List.mem_append_right _ (List.mem_cons_of_mem _ hfeed)

/-! ## What is read in front of the fence -/

/-- A path ends in front of the fence, and what stands before it holds no fence. -/
theorem split_path (hw : c ∉ w) (hp : p.WellFormed) (hu : PathsEnd u c x)
    (h : u ++ c :: x = w ++ (p.written ++ rest)) :
    ∃ v, u = w ++ (p.written ++ v) ∧ rest = v ++ c :: x := by
  obtain ⟨v, hv, hrest⟩ := split_fence hw h
  obtain ⟨v', rfl, rfl⟩ := hu w v hv p rest hp hrest.symm
  exact ⟨v', hv, rfl⟩

/-- The word `from` and its path end in front of the fence. -/
theorem split_from {gap₁ gap₂ : Text} (hc : Fence c) (hw : c ∉ w) (h₁ : Spaces gap₁)
    (h₂ : Spaces gap₂) (hp : p.WellFormed) (hu : PathsEnd u c x)
    (h : u ++ c :: x = w ++ (gap₁ ++ (fromWord ++ (gap₂ ++ (p.written ++ rest))))) :
    ∃ v, u = w ++ (gap₁ ++ (fromWord ++ (gap₂ ++ (p.written ++ v)))) ∧ rest = v ++ c :: x := by
  have hword : c ∉ w ++ (gap₁ ++ (fromWord ++ gap₂)) := by
    simp only [List.mem_append, not_or]
    exact ⟨hw, hc.not_mem_spaces h₁, hc.not_mem_name (by decide), hc.not_mem_spaces h₂⟩
  have hsplit : u ++ c :: x = w ++ (gap₁ ++ (fromWord ++ gap₂)) ++ (p.written ++ rest) := by
    rw [h]
    simp only [List.append_assoc]
  obtain ⟨v, rfl, rfl⟩ := split_path hword hp hu hsplit
  exact ⟨v, by simp only [List.append_assoc], rfl⟩

/-- What ends with a character that does not stand in `n` is read in front of `n`. -/
theorem split_closed {d : Char} {a n : Text} (hd : d ∉ n) (h : v ++ n = (w ++ [d]) ++ a) :
    ∃ a', v = (w ++ [d]) ++ a' ∧ a = a' ++ n := by
  rcases List.append_eq_append_iff.mp h with ⟨e, he, hn⟩ | ⟨a', rfl, rfl⟩
  · rcases List.eq_nil_or_concat e with rfl | ⟨e, d', rfl⟩
    · rw [List.append_nil] at he
      exact ⟨[], by rw [he, List.append_nil], hn.symm⟩
    · -- the character would stand in `n`
      rw [List.concat_eq_append, ← List.append_assoc] at he
      obtain rfl : d = d' := (List.cons.inj (List.append_inj_right' he rfl)).1
      refine absurd ?_ hd
      rw [hn]
      simp
  · exact ⟨a', rfl, rfl⟩

/-- A path ends in front of a text without quotes. -/
theorem split_unquoted {a n : Text} (hp : p.WellFormed) (hn : Unquoted n)
    (h : v ++ n = w ++ (p.written ++ a)) : ∃ a', v = w ++ (p.written ++ a') ∧ a = a' ++ n := by
  have hwritten (a : Text) :
      w ++ (p.written ++ a) = ((w ++ p.quote :: p.value) ++ [p.quote]) ++ a := by
    simp only [PathLiteral.written, PathLiteral.quoting, List.append_assoc, List.cons_append]
  rw [hwritten] at h
  obtain ⟨a', rfl, rfl⟩ := split_closed (not_mem_of_run (by simp [hp.quote]) hn) h
  exact ⟨a', (hwritten a').symm, rfl⟩

/-- What stands behind the fence is not looked at. -/
theorem stops_fence {q : Char → Bool} (h : Stops q (v ++ c :: x)) (x' : Text) :
    Stops q (v ++ c :: x') := by
  cases v with
  | nil => exact h
  | cons d v => exact h

theorem nameEnds_fence (h : nameEnds (v ++ c :: x) = true) (x' : Text) :
    nameEnds (v ++ c :: x') = true :=
  nameEnds_iff.mpr (stops_fence (nameEnds_iff.mp h) x')

/-! ## Imports in front of the fence -/

/-- A character that may stand in an import in front of its path. -/
def isFrontChar (c : Char) : Bool := isListChar c || c = '\x7b' || c = '\x7d' || c = '*'

theorem run_isFrontChar (h : Run isListChar w) : Run isFrontChar w :=
  run_mono (fun c hc => by simp [isFrontChar, hc]) h

theorem ImportSyntax.path_of_fits {d : ImportSyntax} (h : d.Fits) : d.meaning.path.WellFormed := by
  cases d with
  | effects gap p => exact h.2
  | binding gap d gap₁ gap₂ p => exact h.2.2.2.2

/-- The parts of an import in front of its path are names, blanks, commas, braces and stars. -/
theorem ImportSyntax.exists_front_run {d : ImportSyntax} (hd : d.Fits) :
    ∃ w, d.text = w ++ d.meaning.path.written ∧ Run isFrontChar w := by
  have hspaces {gap : Text} (h : Spaces gap) : Run isFrontChar gap :=
    run_isFrontChar (run_isListChar_of_spaces h)
  have hname {name : Text} (h : Specifier.isName name = true) : Run isFrontChar name :=
    run_isFrontChar (run_isListChar_of_isName h)
  have hkeyword : Run isFrontChar keyword := hname (by decide)
  have hfrom : Run isFrontChar fromWord := hname (by decide)
  have hgroup {after : Text} {g : GroupSyntax} (hg : g.Fits after) : Run isFrontChar g.text := by
    cases g with
    | list b =>
        have hbody := run_isFrontChar (ListSyntax.run_isListChar hg)
        exact run_cons.mpr ⟨by decide, run_append.mpr ⟨hbody, by decide⟩⟩
    | star d =>
        cases d with
        | bare => exact run_cons.mpr ⟨by decide, run_nil⟩
        | named gap₁ gap₂ name =>
            obtain ⟨h₁, h₂, -, hn, -⟩ := hg
            exact run_cons.mpr ⟨by decide, run_append.mpr ⟨hspaces h₁, run_append.mpr
              ⟨hname (by decide), run_append.mpr ⟨hspaces h₂, hname hn⟩⟩⟩⟩
  cases d with
  | effects gap p =>
      obtain ⟨⟨-, hgap⟩, -⟩ := hd
      exact ⟨keyword ++ gap, (List.append_assoc _ _ _).symm,
        run_append.mpr ⟨hkeyword, hspaces hgap⟩⟩
  | binding gap d gap₁ gap₂ p =>
      obtain ⟨⟨-, hgap⟩, hd, h₁, h₂, -⟩ := hd
      have hbound : Run isFrontChar d.text := by
        cases d with
        | group g => exact hgroup hd
        | default name => exact hname hd.1
        | both name gap₃ gap₄ g =>
            obtain ⟨⟨hn, -⟩, h₃, h₄, hg⟩ := hd
            exact run_append.mpr ⟨hname hn, run_append.mpr ⟨hspaces h₃, run_cons.mpr
              ⟨by decide, run_append.mpr ⟨hspaces h₄, hgroup hg⟩⟩⟩⟩
      refine ⟨keyword ++ (gap ++ (d.text ++ (gap₁ ++ (fromWord ++ gap₂)))), ?_, ?_⟩
      · simp only [text_binding, List.append_assoc]
        rfl
      · exact run_append.mpr ⟨hkeyword, run_append.mpr ⟨hspaces hgap, run_append.mpr
          ⟨hbound, run_append.mpr ⟨hspaces h₁, run_append.mpr ⟨hfrom, hspaces h₂⟩⟩⟩⟩⟩

/-- The parts of an import in front of its path hold no fence. -/
theorem ImportSyntax.exists_front (hc : Fence c) {d : ImportSyntax} (hd : d.Fits) :
    ∃ w, d.text = w ++ d.meaning.path.written ∧ c ∉ w := by
  obtain ⟨w, hw, hrun⟩ := exists_front_run hd
  refine ⟨w, hw, not_mem_of_run ?_ hrun⟩
  have hlist := hc.not_listChar
  have hopen : c ≠ '\x7b' := hc.ne_of_mem (by decide)
  have hclose : c ≠ '\x7d' := hc.ne_of_mem (by decide)
  have hstar : c ≠ '*' := hc.ne_of_mem (by decide)
  simp [isFrontChar, hlist, hopen, hclose, hstar]

/-- An import that starts in front of the fence ends with its path in front of the fence, and is
    read there whatever comes behind it. -/
theorem Import.read?_fence {i : Import} (hc : Fence c) (hu : PathsEnd u c x)
    (h : read? (u ++ c :: x) = some (i, rest)) :
    ∃ w v, u = w ++ i.path.written ++ v ∧ rest = v ++ c :: x ∧ i.path.WellFormed ∧
      ∀ t, read? (w ++ i.path.written ++ t) = some (i, t) := by
  obtain ⟨d, hd, hs, rfl⟩ := read?_eq_some_iff.mp h
  have hp := ImportSyntax.path_of_fits hd
  obtain ⟨w, hw, hcw⟩ := ImportSyntax.exists_front hc hd
  rw [hw, List.append_assoc] at hs
  obtain ⟨v, rfl, rfl⟩ := split_path hcw hp hu hs
  refine ⟨w, v, (List.append_assoc _ _ _).symm, rfl, hp, fun t => ?_⟩
  exact read?_eq_some_iff.mpr ⟨d, hd, by rw [hw], rfl⟩

end RequireForm
