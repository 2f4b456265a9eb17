/-!
# Texts — characters in order, measured in bytes

A text is the list of its characters. Sources are read character by character, while the
positions that are told to the outside count UTF-8 bytes and lines, so both are measures on
texts here.

  1. Measures: `Text.byteLength`, `Text.lineBreaks`, both additive over `++`.
  2. Blank characters, and trimming and splitting by them.
  3. Cutting a text at a separator, and joining pieces with one.
-/

namespace RequireForm

/-- A text: its characters in order. -/
abbrev Text := List Char

namespace Text

/-! ## Measures -/

/-- The length of a text in UTF-8 bytes. -/
def byteLength : Text → Nat
  | [] => 0
  | c :: rest => c.utf8Size + byteLength rest

/-- The number of line feeds in a text. -/
def lineBreaks : Text → Nat
  | [] => 0
  | c :: rest => (if c = '\n' then 1 else 0) + lineBreaks rest

@[simp] theorem byteLength_nil : byteLength [] = 0 := rfl

@[simp] theorem byteLength_cons (c : Char) (t : Text) :
    byteLength (c :: t) = c.utf8Size + byteLength t := rfl

@[simp] theorem byteLength_append (s t : Text) :
    byteLength (s ++ t) = byteLength s + byteLength t := by
  induction s with
  | nil => simp
  | cons c rest ih => simp [ih, Nat.add_assoc]

@[simp] theorem lineBreaks_nil : lineBreaks [] = 0 := rfl

@[simp] theorem lineBreaks_cons (c : Char) (t : Text) :
    lineBreaks (c :: t) = (if c = '\n' then 1 else 0) + lineBreaks t := rfl

@[simp] theorem lineBreaks_append (s t : Text) :
    lineBreaks (s ++ t) = lineBreaks s + lineBreaks t := by
  induction s with
  | nil => simp
  | cons c rest ih => simp [ih, Nat.add_assoc]

/-! ## Blanks -/

/-- A blank character: one with the Unicode property `White_Space`. -/
def isBlank (c : Char) : Bool :=
  let n := c.toNat
  (0x9 ≤ n && n ≤ 0xd) || n = 0x20 || n = 0x85 || n = 0xa0 || n = 0x1680 ||
    (0x2000 ≤ n && n ≤ 0x200a) || n = 0x2028 || n = 0x2029 || n = 0x202f || n = 0x205f ||
    n = 0x3000

/-- Drop the blanks at the end. -/
def trimEnd (t : Text) : Text := (t.reverse.dropWhile isBlank).reverse

/-- Drop the blanks at both ends. -/
def trim (t : Text) : Text := trimEnd (t.dropWhile isBlank)

/-- Cut a text at every character that satisfies `p`: one more piece than there are cuts. -/
def cutAt (p : Char → Bool) : Text → List Text
  | [] => [[]]
  | c :: rest =>
      if p c then [] :: cutAt p rest
      else match cutAt p rest with
        | [] => [[c]]
        | piece :: pieces => (c :: piece) :: pieces

/-- The maximal runs of characters that are not blank. -/
def words (t : Text) : List Text := (cutAt isBlank t).filter (· ≠ [])

/-! ## Joining and beginnings -/

/-- Join texts with a separator between each two. -/
def join (separator : Text) : List Text → Text
  | [] => []
  | [t] => t
  | t :: rest => t ++ separator ++ join separator rest

/-- What follows `beginning` in a text that starts with it. -/
def after? : Text → Text → Option Text
  | [], t => some t
  | _ :: _, [] => none
  | b :: beginning, c :: t => if b = c then after? beginning t else none

theorem after?_append (b t : Text) : after? b (b ++ t) = some t := by
  induction b with
  | nil => rfl
  | cons c rest ih => simp [after?, ih]

theorem after?_eq_some_iff {b t rest : Text} : after? b t = some rest ↔ t = b ++ rest := by
  induction b generalizing t with
  | nil => simp [after?, eq_comm]
  | cons c b ih =>
    cases t with
    | nil => simp [after?]
    | cons d t =>
      by_cases h : c = d
      · simp [after?, h, ih]
      · simp [after?, h, Ne.symm h]

/-- The order of texts: by their first characters that differ, and a beginning before what it
    is a beginning of. -/
def le : Text → Text → Bool
  | [], _ => true
  | _ :: _, [] => false
  | c :: s, d :: t => c.toNat < d.toNat || (c = d && le s t)

/-- What stands before the first line feed. -/
def firstLine (t : Text) : Text := t.takeWhile (· ≠ '\n')

/-- A number in decimal. -/
def ofNat (n : Nat) : Text := Nat.toDigits 10 n

end Text

end RequireForm
