import Mathlib.Data.List.TakeWhile
import RequireForm.Source.Reading

/-!
# Runs — the longest beginning of one kind of character

Every reader steps over a run of characters and stops at the first one of another kind. What
it steps over is then determined by the text: a text is cut in only one way into a run and a
rest that the run could not take in.

  1. `Text.Run`, `Text.Stops`: what is stepped over, and where it ends.
  2. `run_append_unique`: there is only one such cut, the one of `takeWhile` and `dropWhile`.
  3. `firstLine_append_feed`: the run up to a line feed.
  4. The characters that readers tell apart.
-/

namespace RequireForm

namespace Text

/-- Every character of the text satisfies `p`. -/
def Run (p : Char → Bool) (t : Text) : Prop := ∀ c ∈ t, p c = true

/-- The text does not go on with a character that satisfies `p`. -/
def Stops (p : Char → Bool) : Text → Prop
  | [] => True
  | c :: _ => p c = false

variable {p : Char → Bool} {c : Char} {t u w w' rest rest' : Text}

instance : Decidable (Run p t) := decidable_of_iff (t.all p = true) List.all_eq_true

instance : Decidable (Stops p t) :=
  match t with
  | [] => isTrue trivial
  | c :: _ => inferInstanceAs (Decidable (p c = false))

@[simp] theorem run_nil : Run p [] := fun _ h => nomatch h

@[simp] theorem run_cons : Run p (c :: t) ↔ p c = true ∧ Run p t := List.forall_mem_cons

@[simp] theorem run_append : Run p (t ++ u) ↔ Run p t ∧ Run p u := List.forall_mem_append

@[simp] theorem stops_nil : Stops p [] := trivial

@[simp] theorem stops_cons : Stops p (c :: t) ↔ p c = false := Iff.rfl

theorem run_mono {q : Char → Bool} (hpq : ∀ c, p c = true → q c = true) (h : Run p t) :
    Run q t :=
  fun c hc => hpq c (h c hc)

/-- A text that is not empty stops where its first character does. -/
theorem stops_append (hne : t ≠ []) : Stops p (t ++ u) ↔ Stops p t := by
  cases t with
  | nil => exact absurd rfl hne
  | cons c t => rfl

/-- A run of other characters stops `p` at once. -/
theorem stops_of_run {q : Char → Bool} (hpq : ∀ c, q c = true → p c = false)
    (h : Run q t) (hu : Stops p u) : Stops p (t ++ u) := by
  cases t with
  | nil => exact hu
  | cons c t => exact hpq c (run_cons.mp h).1

theorem run_takeWhile (p : Char → Bool) (t : Text) : Run p (t.takeWhile p) :=
  fun _ hc => List.mem_takeWhile_imp hc

theorem stops_dropWhile (p : Char → Bool) (t : Text) : Stops p (t.dropWhile p) := by
  induction t with
  | nil => trivial
  | cons c t ih =>
      rw [List.dropWhile_cons]
      split
      · exact ih
      · next h => exact (Bool.not_eq_true _).mp h

theorem takeWhile_append_of_run (hw : Run p w) (hr : Stops p rest) :
    (w ++ rest).takeWhile p = w := by
  rw [List.takeWhile_append_of_pos hw]
  cases rest with
  | nil => simp
  | cons c rest => simp [stops_cons.mp hr]

theorem dropWhile_append_of_run (hw : Run p w) (hr : Stops p rest) :
    (w ++ rest).dropWhile p = rest := by
  rw [List.dropWhile_append_of_pos hw]
  cases rest with
  | nil => simp
  | cons c rest => simp [stops_cons.mp hr]

/-- A text is cut in one way only into a run and a rest at which it stops. -/
theorem run_append_unique (hw : Run p w) (hr : Stops p rest) (hw' : Run p w')
    (hr' : Stops p rest') (h : w ++ rest = w' ++ rest') : w = w' ∧ rest = rest' := by
  have ht := congrArg (List.takeWhile p) h
  have hd := congrArg (List.dropWhile p) h
  rw [takeWhile_append_of_run hw hr, takeWhile_append_of_run hw' hr'] at ht
  rw [dropWhile_append_of_run hw hr, dropWhile_append_of_run hw' hr'] at hd
  exact ⟨ht, hd⟩

/-- Every text has such a cut. -/
theorem exists_run (p : Char → Bool) (t : Text) :
    ∃ w rest, t = w ++ rest ∧ Run p w ∧ Stops p rest :=
  ⟨t.takeWhile p, t.dropWhile p, List.takeWhile_append_dropWhile.symm, run_takeWhile p t,
    stops_dropWhile p t⟩

/-! ## First lines -/

theorem firstLine_cons (hc : c ≠ '\n') : firstLine (c :: t) = c :: firstLine t :=
  List.takeWhile_cons_of_pos (decide_eq_true hc)

/-- What stands behind a line feed is not on the first line. -/
theorem firstLine_append_feed (t rest : Text) : firstLine (t ++ '\n' :: rest) = firstLine t := by
  induction t with
  | nil => rfl
  | cons c t ih =>
      by_cases hc : c = '\n'
      · subst hc
        rfl
      · rw [List.cons_append, firstLine_cons hc, firstLine_cons hc, ih]

/-! ## Kinds of characters -/

/-- A run of the spaces that part the words of a statement. -/
abbrev Spaces (t : Text) : Prop := Run isSpace t

/-- A run of blanks, as they stand around the items of a list. -/
abbrev Blanks (t : Text) : Prop := Run isBlank t

end Text

open Text

/-- A text that does not hold a character ends in front of it. -/
theorem split_fence {c : Char} {u w x rest : Text} (hw : c ∉ w) (h : u ++ c :: x = w ++ rest) :
    ∃ v, u = w ++ v ∧ rest = v ++ c :: x := by
  rcases List.append_eq_append_iff.mp h with ⟨v, rfl, hv⟩ | ⟨v, rfl, rfl⟩
  · cases v with
    | nil => exact ⟨[], by simp only [List.append_nil], hv.symm⟩
    | cons d v =>
        -- the fence would stand in `w`
        obtain ⟨rfl, -⟩ := List.cons.inj hv
        exact absurd (List.mem_append_right u List.mem_cons_self) hw
  · exact ⟨v, rfl, rfl⟩

theorem nameEnds_iff {t : Text} : nameEnds t = true ↔ Stops isNameChar t := by
  cases t with
  | nil => simp [nameEnds]
  | cons c t => simp [nameEnds]

theorem isName_iff {w : Text} :
    Specifier.isName w = true ↔ w ≠ [] ∧ Run isNameChar w := by
  simp [Specifier.isName, Run]

/-- A name stops everything that takes in no name character. -/
theorem stops_name {p : Char → Bool} {name t : Text}
    (hp : ∀ c, isNameChar c = true → p c = false) (hn : Specifier.isName name = true) :
    Stops p (name ++ t) := by
  obtain ⟨hne, hrun⟩ := isName_iff.mp hn
  obtain ⟨c, name, rfl⟩ := List.exists_cons_of_ne_nil hne
  exact hp c (run_cons.mp hrun).1

theorem not_isNameChar_of_isSpace {c : Char} (h : isSpace c = true) : isNameChar c = false := by
  simp only [isSpace, Bool.or_eq_true, decide_eq_true_eq] at h
  rcases h with ((rfl | rfl) | rfl) | rfl <;> decide

theorem isBlank_of_isSpace {c : Char} (h : isSpace c = true) : isBlank c = true := by
  simp only [isSpace, Bool.or_eq_true, decide_eq_true_eq] at h
  rcases h with ((rfl | rfl) | rfl) | rfl <;> decide

theorem not_isSpace_of_isNameChar {c : Char} (h : isNameChar c = true) : isSpace c = false := by
  cases hs : isSpace c with
  | false => rfl
  | true => rw [not_isNameChar_of_isSpace hs] at h; exact Bool.noConfusion h

/-- No character of a name is blank: both sets are ranges of code points, and no range of the
    one meets a range of the other. -/
theorem not_isBlank_of_isNameChar {c : Char} (h : isNameChar c = true) : isBlank c = false := by
  delta isNameChar Char.isAlphanum Char.isAlpha Char.isUpper Char.isLower Char.isDigit at h
  simp only [Bool.or_eq_true, Bool.and_eq_true, decide_eq_true_eq, ge_iff_le,
    UInt32.le_iff_toNat_le] at h
  change ((((65 ≤ c.toNat ∧ c.toNat ≤ 90) ∨ (97 ≤ c.toNat ∧ c.toNat ≤ 122)) ∨
    (48 ≤ c.toNat ∧ c.toNat ≤ 57)) ∨ c = '_') ∨ c = '$' at h
  simp only [isBlank, Bool.or_eq_false_iff, Bool.and_eq_false_iff, decide_eq_false_iff_not]
  rcases h with (((h | h) | h) | rfl) | rfl
  · omega
  · omega
  · omega
  · decide
  · decide

theorem not_isNameChar_of_isBlank {c : Char} (h : isBlank c = true) : isNameChar c = false := by
  cases hc : isNameChar c with
  | false => rfl
  | true =>
      rw [not_isBlank_of_isNameChar hc] at h
      exact nomatch h

end RequireForm
