import RequireForm.Text

/-!
# Character sets — code points in ranges

A set of characters is a list of ranges of code points, with both ends in it. Ranges may
overlap and come in any order; `CharSet.sorted` brings a set into the one form with ranges
in order and apart, which the complement needs.

  1. Membership, and the operations of sets.
  2. `CharSet.ofRangeText`, `CharSet.ofRangeLines`: tables of a standard are written as texts
     of hexadecimal ranges.
-/

namespace RequireForm

/-- A set of characters, as ranges of code points. -/
structure CharSet where
  ranges : List (Nat × Nat)
  deriving DecidableEq, Repr

namespace CharSet

/-- The largest code point. -/
def top : Nat := 0x10ffff

/-- The set holds a character. -/
def contains (s : CharSet) (c : Char) : Bool :=
  s.ranges.any fun r => r.1 ≤ c.toNat && c.toNat ≤ r.2

/-! ## Building sets -/

def empty : CharSet := ⟨[]⟩

/-- Every character. -/
def all : CharSet := ⟨[(0, top)]⟩

/-- The characters from one code point to another. -/
def range (low high : Nat) : CharSet := ⟨[(low, high)]⟩

/-- One character. -/
def single (c : Char) : CharSet := range c.toNat c.toNat

/-- The characters of a text. -/
def ofText (t : Text) : CharSet := ⟨t.map fun c => (c.toNat, c.toNat)⟩

def union (s t : CharSet) : CharSet := ⟨s.ranges ++ t.ranges⟩

/-- Join ranges that touch or overlap, the range at hand first; the others come in order of
    their lower ends. -/
def joinFrom (low high : Nat) : List (Nat × Nat) → List (Nat × Nat)
  | [] => [(low, high)]
  | (a, b) :: rest =>
      if a ≤ high + 1 then joinFrom low (max high b) rest
      else (low, high) :: joinFrom a b rest

/-- The same set with its ranges in order and apart from each other. -/
def sorted (s : CharSet) : CharSet :=
  match s.ranges.mergeSort fun a b => a.1 ≤ b.1 with
  | [] => empty
  | (low, high) :: rest => ⟨joinFrom low high rest⟩

/-- The gaps from `low` upwards between ranges in order. -/
def gaps (low : Nat) : List (Nat × Nat) → List (Nat × Nat)
  | [] => if low ≤ top then [(low, top)] else []
  | (a, b) :: rest => if low < a then (low, a - 1) :: gaps (b + 1) rest else gaps (b + 1) rest

/-- Every character that is not in the set. -/
def complement (s : CharSet) : CharSet := ⟨gaps 0 s.sorted.ranges⟩

def inter (s t : CharSet) : CharSet := (s.complement.union t.complement).complement

def diff (s t : CharSet) : CharSet := s.inter t.complement

/-- What is in exactly one of two sets. -/
def exclusive (s t : CharSet) : CharSet := (s.diff t).union (t.diff s)

/-- The set is within ASCII. -/
def isAscii (s : CharSet) : Bool := s.ranges.all (·.2 ≤ 0x7f)

/-- Some character of the set is in the given range. -/
def meets (s : CharSet) (low high : Nat) : Bool :=
  s.ranges.any fun r => r.1 ≤ high && low ≤ r.2

/-! ## Tables -/

/-- The value of a hexadecimal digit. -/
def hexDigit? (c : Char) : Option Nat :=
  if '0' ≤ c ∧ c ≤ '9' then some (c.toNat - 48)
  else if 'a' ≤ c ∧ c ≤ 'f' then some (c.toNat - 87)
  else if 'A' ≤ c ∧ c ≤ 'F' then some (c.toNat - 55)
  else none

/-- The value of hexadecimal digits; characters of another kind count as zero. -/
def hexValue (t : Text) : Nat := t.foldl (fun n c => n * 16 + (hexDigit? c).getD 0) 0

/-- Every second code point, `n` of them. -/
def everySecond (low : Nat) : Nat → List (Nat × Nat)
  | 0 => []
  | n + 1 => (low, low) :: everySecond (low + 2) n

/-- One item of a table: `a`, `a-b`, or `a-b/2` for every second code point. -/
def rangesOfItem (item : Text) : List (Nat × Nat) :=
  let low := hexValue (item.takeWhile (· ≠ '-'))
  match item.dropWhile (· ≠ '-') with
  | [] => [(low, low)]
  | _ :: rest =>
      let high := hexValue (rest.takeWhile (· ≠ '/'))
      match rest.dropWhile (· ≠ '/') with
      | [] => [(low, high)]
      | _ => everySecond low ((high - low) / 2 + 1)

/-- The set that a table describes: its items, set apart by spaces. -/
def ofRangeText (table : String) : CharSet :=
  ⟨(Text.words table.toList).flatMap rangesOfItem⟩

/-- The set that the lines of a table describe. -/
def ofRangeLines (lines : List String) : CharSet :=
  ⟨lines.flatMap fun line => (ofRangeText line).ranges⟩

/-! ## Membership laws -/

theorem contains_single (a c : Char) : (single a).contains c = true ↔ c = a := by
  simp only [contains, single, range, List.any_cons, List.any_nil, Bool.or_false,
    Bool.and_eq_true, decide_eq_true_eq]
  constructor
  · intro ⟨h₁, h₂⟩
    exact Char.toNat_inj.mp (by omega)
  · rintro rfl
    simp

end CharSet

end RequireForm
