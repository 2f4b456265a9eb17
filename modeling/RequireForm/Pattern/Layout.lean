import RequireForm.Text

/-!
# Layout — blanks and comments in a verbose pattern

Where a pattern is verbose, blanks do not count, and `#` starts a comment that ends with its
line. Every reader of patterns is told whether that holds where it stands.

  1. `skipLayout`, which never lengthens a text.
  2. Numbers and braced texts, in which layout may stand as well.
-/

namespace RequireForm

namespace Pattern

/-- Step over layout, from inside a comment or not. -/
def skipLayoutFrom (inComment : Bool) : Text → Text
  | [] => []
  | c :: rest =>
      if inComment then skipLayoutFrom (c ≠ '\n') rest
      else if c = '#' then skipLayoutFrom true rest
      else if Text.isBlank c then skipLayoutFrom false rest
      else c :: rest

/-- Step over layout, which there is in a verbose pattern only. -/
def skipLayout (verbose : Bool) (s : Text) : Text :=
  if verbose then skipLayoutFrom false s else s

@[simp] theorem skipLayout_false (s : Text) : skipLayout false s = s := rfl

theorem length_skipLayoutFrom_le (inComment : Bool) (s : Text) :
    (skipLayoutFrom inComment s).length ≤ s.length := by
  induction s generalizing inComment with
  | nil => simp [skipLayoutFrom]
  | cons c rest ih =>
    rw [skipLayoutFrom]
    split
    · exact Nat.le_succ_of_le (ih _)
    · split
      · exact Nat.le_succ_of_le (ih _)
      · split
        · exact Nat.le_succ_of_le (ih _)
        · exact Nat.le_refl _

theorem length_skipLayout_le (verbose : Bool) (s : Text) :
    (skipLayout verbose s).length ≤ s.length := by
  cases verbose with
  | false => exact Nat.le_refl _
  | true => exact length_skipLayoutFrom_le false s

/-- The next character that counts. Of a comment only its sign is passed over. -/
def ahead? (verbose : Bool) (s : Text) : Option Char :=
  if verbose then
    match s.dropWhile Text.isBlank with
    | '#' :: rest => (rest.dropWhile Text.isBlank).head?
    | rest => rest.head?
  else s.head?

/-- A decimal digit. -/
def isDigit (c : Char) : Bool := '0' ≤ c && c ≤ '9'

/-- Read characters of one kind with layout behind each of them. -/
def spaced (verbose : Bool) (p : Char → Bool) (s : Text) : Text × Text :=
  match s with
  | [] => ([], [])
  | c :: rest =>
      if p c then
        let (run, after) := spaced verbose p (skipLayout verbose rest)
        (c :: run, after)
      else ([], c :: rest)
termination_by s.length
decreasing_by exact Nat.lt_succ_of_le (length_skipLayout_le _ _)

/-- The largest count of a repetition. -/
def maxCount : Nat := 4294967295

/-- The number that decimal digits write. -/
def decimalValue (digits : Text) : Nat :=
  digits.foldl (fun n c => n * 10 + (c.toNat - 48)) 0

/-- Read a count, which may stand between blanks. -/
def count? (verbose : Bool) (s : Text) : Option (Nat × Text) :=
  match spaced verbose isDigit (s.dropWhile Text.isBlank) with
  | ([], _) => none
  | (digits, rest) =>
      if decimalValue digits ≤ maxCount then
        some (decimalValue digits, (spaced verbose Text.isBlank rest).2)
      else none

/-- Read up to the closing brace, behind the opening one. -/
def braced? (verbose : Bool) (s : Text) : Option (Text × Text) :=
  match spaced verbose (· ≠ '\x7d') (skipLayout verbose s) with
  | (inner, '\x7d' :: rest) => some (inner, rest)
  | _ => none

end Pattern

end RequireForm
