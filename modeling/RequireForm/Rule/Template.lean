import RequireForm.Pattern.Search

/-!
# Templates — texts with placeholders for parts of a match

Behind a `$` stands what to put in: `$` for the sign itself, `&` for the match, a backtick and
`'` for the text before and after it, a number for a group, `<name>` for a group with a name.
A `$` with anything else behind it stands for itself.

  1. `placeholder?`: behind a `$`.
  2. `expand`: a whole template.
-/

namespace RequireForm

namespace Template

open Pattern (Captures)

/-- The value of a decimal digit. -/
def digit? (c : Char) : Option Nat :=
  if '0' ≤ c ∧ c ≤ '9' then some (c.toNat - 48) else none

/-- The match has a group with that number; 0 is none. -/
def hasGroup (m : Captures) (n : Nat) : Bool := 1 ≤ n && n ≤ m.groups.length

/-- What a group matches: nothing if it takes no part in the match. -/
def groupText (m : Captures) (n : Nat) : Text := (m.group? n).getD []

/-- What the group of a two-digit number matches, if there is such a group. -/
def twoDigits? (m : Captures) (tens : Nat) : Text → Option (Text × Text)
  | [] => none
  | c :: rest => do
      let units ← digit? c
      if hasGroup m (tens * 10 + units) then some (groupText m (tens * 10 + units), rest)
      else none

/-- What a group matches whose number starts with a digit: two digits are taken if there is
    such a group, else one. -/
def number? (m : Captures) (first : Nat) (s : Text) : Option (Text × Text) :=
  match twoDigits? m first s with
  | some found => some found
  | none => if hasGroup m first then some (groupText m first, s) else none

/-- What a placeholder stands for, behind its `$`, and what follows it. -/
def placeholder? (m : Captures) : Text → Option (Text × Text)
  | [] => none
  | '$' :: s => some (['$'], s)
  | '&' :: s => some (m.whole, s)
  | '\x60' :: s => some (m.before, s)
  | '\x27' :: s => some (m.after, s)
  | '<' :: s =>
      match s.dropWhile (· ≠ '>') with
      | [] => none
      | _ :: rest => some ((m.named? (s.takeWhile (· ≠ '>'))).getD [], rest)
  | c :: s => (digit? c).bind (number? m · s)

/-! ## A placeholder is at least one character -/

theorem length_le_of_dropWhile_eq_cons {p : Char → Bool} {c : Char} {s rest : Text}
    (h : s.dropWhile p = c :: rest) : rest.length ≤ s.length := by
  have := (List.dropWhile_suffix p (l := s)).length_le
  rw [h] at this
  exact Nat.le_of_succ_le this

theorem length_le_of_twoDigits? {m : Captures} {tens : Nat} {s value rest : Text}
    (h : twoDigits? m tens s = some (value, rest)) : rest.length ≤ s.length := by
  cases s with
  | nil => simp [twoDigits?] at h
  | cons c s =>
    simp only [twoDigits?, Option.bind_eq_bind, Option.bind_eq_some_iff] at h
    obtain ⟨units, -, h⟩ := h
    split at h
    · obtain ⟨-, rfl⟩ := Prod.mk.inj (Option.some.inj h)
      exact Nat.le_succ _
    · cases h

theorem length_le_of_number? {m : Captures} {first : Nat} {s value rest : Text}
    (h : number? m first s = some (value, rest)) : rest.length ≤ s.length := by
  rw [number?] at h
  split at h
  · next found hfound =>
    cases Option.some.inj h
    exact length_le_of_twoDigits? hfound
  · split at h
    · obtain ⟨-, rfl⟩ := Prod.mk.inj (Option.some.inj h)
      exact Nat.le_refl _
    · cases h

theorem length_lt_of_placeholder? {m : Captures} {s value rest : Text}
    (h : placeholder? m s = some (value, rest)) : rest.length < s.length := by
  unfold placeholder? at h
  split at h
  · cases h
  · obtain ⟨-, rfl⟩ := Prod.mk.inj (Option.some.inj h)
    exact Nat.lt_succ_self _
  · obtain ⟨-, rfl⟩ := Prod.mk.inj (Option.some.inj h)
    exact Nat.lt_succ_self _
  · obtain ⟨-, rfl⟩ := Prod.mk.inj (Option.some.inj h)
    exact Nat.lt_succ_self _
  · obtain ⟨-, rfl⟩ := Prod.mk.inj (Option.some.inj h)
    exact Nat.lt_succ_self _
  · split at h
    · cases h
    · next hrest =>
      obtain ⟨-, rfl⟩ := Prod.mk.inj (Option.some.inj h)
      exact Nat.lt_succ_of_le (length_le_of_dropWhile_eq_cons hrest)
  · obtain ⟨first, -, h⟩ := Option.bind_eq_some_iff.1 h
    exact Nat.lt_succ_of_le (length_le_of_number? h)

/-! ## Expansion -/

/-- A template with every placeholder replaced by what it stands for. -/
def expand (m : Captures) (template : Text) : Text :=
  match template with
  | [] => []
  | c :: s =>
      if c = '$' then
        match _h : placeholder? m s with
        | some (value, rest) => value ++ expand m rest
        | none => '$' :: expand m s
      else c :: expand m s
termination_by template.length
decreasing_by
  · exact Nat.lt_succ_of_lt (length_lt_of_placeholder? (by assumption))
  · exact Nat.lt_succ_self _
  · exact Nat.lt_succ_self _

end Template

end RequireForm
