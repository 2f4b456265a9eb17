import Mathlib.Data.List.Induction
import RequireForm.Proofs.Source.Run

/-!
# Cutting a text — pieces, words and trimmed texts

  1. `cutAt_append_cons`, `cutAt_eq_singleton`: a text is cut where the first cut character
     stands, or nowhere.
  2. `words_eq_nil_iff`, `words_eq_cons_iff`: the words of a text, one after the other, with
     the blanks that part them.
  3. `trim_eq_nil_iff`, `words_trim`: trimming takes away blanks and no word.
-/

namespace RequireForm

namespace Text

variable {p : Char → Bool} {c : Char} {t u v w rest : Text} {ws : List Text}

/-! ## Pieces -/

theorem cutAt_ne_nil (p : Char → Bool) (t : Text) : cutAt p t ≠ [] := by
  cases t with
  | nil => exact List.cons_ne_nil _ _
  | cons c t =>
      rw [cutAt]
      split
      · exact List.cons_ne_nil _ _
      · split <;> exact List.cons_ne_nil _ _

/-- A character at which no cut is made goes to the first piece. -/
theorem cutAt_cons_of_not (h : p c = false) {piece : Text} {pieces : List Text}
    (ht : cutAt p t = piece :: pieces) : cutAt p (c :: t) = (c :: piece) :: pieces := by
  simp only [cutAt, h, ht, Bool.false_eq_true, if_false]

theorem cutAt_append_cons (ht : Run (!p ·) t) (hc : p c = true) :
    cutAt p (t ++ c :: rest) = t :: cutAt p rest := by
  induction t with
  | nil => simp only [List.nil_append, cutAt, hc, if_true]
  | cons d t ih =>
      obtain ⟨hd, ht⟩ := run_cons.mp ht
      exact cutAt_cons_of_not (Bool.not_eq_true' _ ▸ hd) (ih ht)

theorem cutAt_eq_singleton (ht : Run (!p ·) t) : cutAt p t = [t] := by
  induction t with
  | nil => rfl
  | cons d t ih =>
      obtain ⟨hd, ht⟩ := run_cons.mp ht
      exact cutAt_cons_of_not (Bool.not_eq_true' _ ▸ hd) (ih ht)

/-- A cut character at the end adds an empty piece. -/
theorem cutAt_concat (hc : p c = true) : cutAt p (t ++ [c]) = cutAt p t ++ [[]] := by
  induction t with
  | nil => simp [cutAt, hc]
  | cons d t ih =>
      cases hd : p d with
      | true => simp only [List.cons_append, cutAt, hd, ih, if_true]
      | false =>
          obtain ⟨piece, pieces, ht⟩ := List.exists_cons_of_ne_nil (cutAt_ne_nil p t)
          rw [ht, List.cons_append] at ih
          rw [List.cons_append, cutAt_cons_of_not hd ih, cutAt_cons_of_not hd ht]
          rfl

/-! ## Words -/

/-- The characters that words are made of. -/
abbrev isInk (c : Char) : Bool := !isBlank c

theorem words_cons_blank (hc : isBlank c = true) : words (c :: t) = words t := by
  rw [words, cutAt, if_pos hc]
  rfl

theorem words_blanks_append (hu : Blanks u) : words (u ++ t) = words t := by
  induction u with
  | nil => rfl
  | cons c u ih =>
      obtain ⟨hc, hu⟩ := run_cons.mp hu
      rw [List.cons_append, words_cons_blank hc, ih hu]

theorem words_append_blanks (hu : Blanks u) : words (t ++ u) = words t := by
  induction u using List.reverseRecOn with
  | nil => rw [List.append_nil]
  | append_singleton u c ih =>
      obtain ⟨hu, hc⟩ := run_append.mp hu
      have hc : isBlank c = true := hc c (List.mem_singleton_self c)
      rw [← List.append_assoc, words, cutAt_concat hc, List.filter_append, ← words, ih hu]
      exact List.append_nil _

theorem words_word_append (hne : w ≠ []) (hw : Run isInk w) (hr : Stops isInk rest) :
    words (w ++ rest) = w :: words rest := by
  cases rest with
  | nil =>
      rw [List.append_nil, words, cutAt_eq_singleton hw]
      simp [hne, words, cutAt]
  | cons c rest =>
      have hc : isBlank c = true := by simpa using hr
      rw [words_cons_blank hc, words, cutAt_append_cons hw hc]
      simp [hne, words]

theorem words_eq_nil_iff : words t = [] ↔ Blanks t := by
  constructor
  · intro h
    obtain ⟨u, rest, rfl, hu, hr⟩ := exists_run isBlank t
    obtain ⟨w, rest', rfl, hw, hr'⟩ := exists_run isInk rest
    cases w with
    | nil =>
        cases rest' with
        | nil => simpa using hu
        | cons c rest' =>
            rw [List.nil_append, stops_cons] at hr
            rw [stops_cons] at hr'
            simp [hr] at hr'
    | cons c w =>
        rw [words_blanks_append hu, words_word_append (List.cons_ne_nil _ _) hw hr'] at h
        exact absurd h (List.cons_ne_nil _ _)
  · intro h
    have := words_append_blanks (t := []) h
    simpa [words, cutAt] using this

/-- The first word of a text, the blanks before it and what follows it. -/
theorem words_eq_cons_iff :
    words t = w :: ws ↔
      ∃ u rest, t = u ++ (w ++ rest) ∧ Blanks u ∧ w ≠ [] ∧ Run isInk w ∧ Stops isInk rest ∧
        words rest = ws := by
  constructor
  · intro h
    obtain ⟨u, rest, rfl, hu, hr⟩ := exists_run isBlank t
    obtain ⟨w', rest', rfl, hw, hr'⟩ := exists_run isInk rest
    rw [words_blanks_append hu] at h
    have hne : w' ≠ [] := by
      rintro rfl
      cases rest' with
      | nil => simp [words, cutAt] at h
      | cons c rest' =>
          rw [List.nil_append, stops_cons] at hr
          rw [stops_cons] at hr'
          simp [hr] at hr'
    rw [words_word_append hne hw hr'] at h
    obtain ⟨rfl, rfl⟩ := List.cons.inj h
    exact ⟨u, rest', rfl, hu, hne, hw, hr', rfl⟩
  · rintro ⟨u, rest, rfl, hu, hne, hw, hr, rfl⟩
    rw [words_blanks_append hu, words_word_append hne hw hr]

/-! ## Trimming -/

theorem exists_trimEnd (t : Text) : ∃ u, Blanks u ∧ t = trimEnd t ++ u := by
  refine ⟨(t.reverse.takeWhile isBlank).reverse, ?_, ?_⟩
  · intro c hc
    exact run_takeWhile isBlank t.reverse c (List.mem_reverse.mp hc)
  · rw [trimEnd, ← List.reverse_append, List.takeWhile_append_dropWhile, List.reverse_reverse]

theorem trimEnd_eq_nil_iff : trimEnd t = [] ↔ Blanks t := by
  rw [trimEnd, List.reverse_eq_nil_iff, List.dropWhile_eq_nil_iff]
  simp only [List.mem_reverse]
  rfl

theorem exists_trim (t : Text) : ∃ u v, Blanks u ∧ Blanks v ∧ t = u ++ (trim t ++ v) := by
  obtain ⟨v, hv, he⟩ := exists_trimEnd (t.dropWhile isBlank)
  refine ⟨t.takeWhile isBlank, v, run_takeWhile _ _, hv, ?_⟩
  rw [trim, ← he, List.takeWhile_append_dropWhile]

theorem words_trim (t : Text) : words (trim t) = words t := by
  obtain ⟨u, v, hu, hv, he⟩ := exists_trim t
  conv => rhs; rw [he]
  rw [words_blanks_append hu, words_append_blanks hv]

theorem trim_eq_nil_iff : trim t = [] ↔ Blanks t := by
  constructor
  · intro h
    rw [← words_eq_nil_iff, ← words_trim, h]
    rfl
  · intro h
    rw [trim, trimEnd_eq_nil_iff]
    exact fun c hc => h c ((List.dropWhile_suffix isBlank).subset hc)

end Text

end RequireForm
