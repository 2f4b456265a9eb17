import RequireForm.Pattern.Expr
import RequireForm.Unicode.ByteRanges

/-!
# Size — patterns that are too large

A pattern is measured as an automaton over bytes, once as it reads a text forwards and once
as it reads it backwards. Counts multiply what they repeat.

  1. `CharSet.size`, `Expr.size`: the measures.
  2. `Expr.fits`: neither automaton is larger than `sizeLimit`.
-/

namespace RequireForm

namespace Pattern

/-- The way in which a text is read. -/
inductive Direction where
  | forward | backward
  deriving DecidableEq, Repr

/-- The size of a state. -/
def stateSize : Nat := 32

/-- The size of a way out of a state that reads a byte. -/
def readSize : Nat := 8

/-- The size of a way out of a state that reads nothing. -/
def choiceSize : Nat := 4

/-- The size of a state that chooses one of two. -/
def forkSize : Nat := stateSize + 2 * choiceSize

/-- The size of the states that read one of many characters. -/
def classSize (d : Direction) (s : CharSet) : Nat :=
  match d with
  | .forward =>
      s.forwardNodes.foldl
        (fun n node => n + stateSize + readSize * (ByteRanges.byFirst node).length) stateSize
  | .backward =>
      2 * stateSize + choiceSize * s.sequences.length + stateSize * s.beginnings

/-- The size of the states that read a character of a set. -/
def charsSize (d : Direction) (s : CharSet) : Nat :=
  match s.sorted.ranges with
  | [] => stateSize
  | [(low, high)] =>
      if low = high then stateSize * (Char.ofNat low).utf8Size
      else if s.isAscii then 2 * stateSize + readSize else classSize d s
  | ranges => if s.isAscii then 2 * stateSize + readSize * ranges.length else classSize d s

/-- The size of `n` rounds. -/
def roundsSize (n size : Nat) : Nat := if n = 0 then stateSize else n * size

/-- The size of a repetition, given the size of its body. -/
def repeatedSize (min : Nat) (max? : Option Nat) (emptyBody : Bool) (body : Nat) : Nat :=
  match max? with
  | none =>
      if min = 0 then
        if emptyBody then 2 * forkSize + stateSize + body else forkSize + body
      else min * body + forkSize
  | some max =>
      if min = max then roundsSize min body
      else if min = 0 ∧ max = 1 then forkSize + stateSize + body
      else roundsSize min body + stateSize + (max - min) * (forkSize + body)

namespace Expr

/-- A branch that is an alternation adds its branches to the outer one. -/
def isAlt : Expr → Bool
  | alt _ _ => true
  | _ => false

/-- The size of an expression. -/
def size (d : Direction) : Expr → Nat
  | empty => stateSize
  | chars set => charsSize d set
  | look _ => stateSize
  | repeated min max? _ body => repeatedSize min max? body.canBeEmpty (body.size d)
  | group _ body => body.size d + if d = .forward then 2 * stateSize else 0
  | seq left right => left.size d + right.size d
  | alt left right =>
      let branch := fun e size => if isAlt e then size - 2 * stateSize else size + choiceSize
      2 * stateSize + branch left (left.size d) + branch right (right.size d)

/-- The size of what stands around every expression. -/
def frameSize : Nat := forkSize + 7 * stateSize

/-- The largest size of an automaton. -/
def sizeLimit : Nat := 10485760

/-- The expression is not too large. -/
def fits (e : Expr) : Bool :=
  frameSize + e.size .forward ≤ sizeLimit && frameSize + e.size .backward ≤ sizeLimit

end Expr

end Pattern

end RequireForm
