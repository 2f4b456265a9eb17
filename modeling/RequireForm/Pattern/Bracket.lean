import RequireForm.Pattern.Primitive

/-!
# Brackets — reading sets of characters

Between brackets stand characters, ranges, classes and further brackets, and operations
between them that are taken from left to right.

  1. `asciiClass?`: a class that is written as `[:name:]`.
  2. `BracketDraft`: brackets that are still open, and what ends, opens or extends them.
  3. `ClassSet.read?`: behind the first bracket, up to the one that closes it.
-/

namespace RequireForm

namespace Pattern

/-! ## Classes by name -/

/-- The classes of ASCII characters. -/
def asciiClasses : List (String × String) := [
  ("alnum", "30-39 41-5a 61-7a"), ("alpha", "41-5a 61-7a"), ("ascii", "0-7f"),
  ("blank", "9 20"), ("cntrl", "0-1f 7f"), ("digit", "30-39"), ("graph", "21-7e"),
  ("lower", "61-7a"), ("print", "20-7e"), ("punct", "21-2f 3a-40 5b-60 7b-7e"),
  ("space", "9-d 20"), ("upper", "41-5a"), ("word", "30-39 41-5a 5f 61-7a"),
  ("xdigit", "30-39 41-46 61-66")]

/-- The set of ASCII characters with a name. -/
def asciiSet? (name : Text) : Option CharSet :=
  (asciiClasses.find? (·.1.toList = name)).map fun row => CharSet.ofRangeText row.2

/-- Read a sign of negation, if there is one. -/
def caret : Text → Bool × Text
  | '^' :: s => (true, s)
  | s => (false, s)

/-- Read a class by its name, behind the `[` of `[:name:]`. -/
def asciiClass? : Text → Option (ClassSet × Text)
  | ':' :: s =>
      let (negated, s) := caret s
      match s.takeWhile (· ≠ ':'), s.dropWhile (· ≠ ':') with
      | name, ':' :: ']' :: rest => (asciiSet? name).map fun set => (.ascii negated set, rest)
      | _, _ => none
  | _ => none

/-! ## Open brackets -/

/-- Brackets that are open: whether they are negated, what stands before the last operation,
    and what has been read since, last first. -/
structure Bracket where
  negated : Bool
  left? : Option (ClassSet × ClassOp)
  items : List ClassSet

namespace Bracket

/-- What has been read between the brackets. -/
def contents (b : Bracket) : ClassSet :=
  let right := ClassSet.ofItems b.items.reverse
  match b.left? with
  | none => right
  | some (left, op) => .operation op left right

/-- Another item. -/
def add (b : Bracket) (item : ClassSet) : Bracket := { b with items := item :: b.items }

/-- An operation ends its left side. -/
def operate (b : Bracket) (op : ClassOp) : Bracket := ⟨b.negated, some (b.contents, op), []⟩

/-- A literal bracket or dash as an item. -/
def sign (c : Char) : ClassSet := .literal (.verbatim c)

/-- Read the beginning behind a `[`: dashes there stand for themselves, and so does a `]` that
    comes first. -/
def start (verbose : Bool) (s : Text) : Bracket × Text :=
  let (negated, s) := caret (skipLayout verbose s)
  match spaced verbose (· = '-') (skipLayout verbose s) with
  | ([], ']' :: s) => (⟨negated, none, [sign ']']⟩, s)
  | (dashes, s) => (⟨negated, none, dashes.map sign⟩, s)

end Bracket

/-- Brackets within brackets: the innermost, and those around it from the inside out. -/
structure BracketDraft where
  inner : Bracket
  outer : List Bracket

namespace BracketDraft

/-- Change the innermost brackets. -/
def within (d : BracketDraft) (f : Bracket → Bracket) : BracketDraft :=
  { d with inner := f d.inner }

/-- Open brackets. -/
def opened (d : BracketDraft) (b : Bracket) : BracketDraft := ⟨b, d.inner :: d.outer⟩

/-- Close the innermost brackets: the draft goes on, or the outermost are complete. -/
def close (d : BracketDraft) : BracketDraft ⊕ (Bool × ClassSet) :=
  match d.outer with
  | [] => .inr (d.inner.negated, d.inner.contents)
  | b :: outer => .inl ⟨b.add (.bracket d.inner.negated d.inner.contents), outer⟩

end BracketDraft

/-! ## Items -/

/-- Read a primitive between brackets. -/
def bracketPrimitive? (verbose : Bool) : Text → Option (Primitive × Text)
  | [] => none
  | '\\' :: s => Primitive.escape? verbose s
  | c :: s => some (.literal (.verbatim c), s)

/-- A range, whose ends are in order. -/
def range? (low high : Primitive) : Option ClassSet := do
  let low ← low.literal?
  let high ← high.literal?
  if low.char ≤ high.char then some (.range low high) else none

/-- A dash makes a range unless a dash or the closing bracket comes after it. -/
def makesRange (verbose : Bool) (afterDash : Text) : Bool :=
  let next := ahead? verbose afterDash
  next ≠ some ']' && next ≠ some '-'

/-- Read an item: a primitive, or a range from one to another. -/
def bracketItem? (verbose : Bool) (s : Text) : Option (ClassSet × Text) := do
  let (low, s) ← bracketPrimitive? verbose s
  match skipLayout verbose s with
  | '-' :: rest =>
      if makesRange verbose rest then
        let (high, s) ← bracketPrimitive? verbose (skipLayout verbose rest)
        return (← range? low high, s)
      else return (← low.item?, '-' :: rest)
  | s => return (← low.item?, s)

/-- One step of reading between brackets. -/
def BracketDraft.step (verbose : Bool) (d : BracketDraft) :
    Text → Option ((BracketDraft ⊕ (Bool × ClassSet)) × Text)
  | [] => none
  | '[' :: s =>
      match asciiClass? s with
      | some (item, s) => some (.inl (d.within (·.add item)), s)
      | none =>
          let (b, s) := Bracket.start verbose s
          some (.inl (d.opened b), s)
  | ']' :: s => some (d.close, s)
  | '&' :: '&' :: s => some (.inl (d.within (·.operate .both)), s)
  | '-' :: '-' :: s => some (.inl (d.within (·.operate .minus)), s)
  | '~' :: '~' :: s => some (.inl (d.within (·.operate .exclusive)), s)
  | s => (bracketItem? verbose s).map fun (item, s) => (.inl (d.within (·.add item)), s)

/-- Read on until the outermost brackets are complete. Each step reads a character at least,
    so `fuel` is no limit if it is the number of characters. -/
def BracketDraft.read? (verbose : Bool) :
    Nat → BracketDraft → Text → Option ((Bool × ClassSet) × Text)
  | 0, _, _ => none
  | fuel + 1, d, s =>
      match d.step verbose (skipLayout verbose s) with
      | none => none
      | some (.inl d, s) => BracketDraft.read? verbose fuel d s
      | some (.inr set, s) => some (set, s)

/-- Read a set behind its first bracket, and whether it is negated. -/
def ClassSet.read? (verbose : Bool) (s : Text) : Option ((Bool × ClassSet) × Text) :=
  let (b, rest) := Bracket.start verbose s
  BracketDraft.read? verbose s.length ⟨b, []⟩ rest

end Pattern

end RequireForm
