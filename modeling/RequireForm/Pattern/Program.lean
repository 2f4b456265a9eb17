import RequireForm.Pattern.Expr

/-!
# Programs — expressions as steps

A program is an expression laid out in steps that name each other by number. It is laid out
from its end, so that every step is told what follows it.

  1. `Step`, and `Layout` of steps.
  2. `Expr.lay`: an expression in front of what follows it.
  3. `Program.ofExpr`.
-/

namespace RequireForm

namespace Pattern

/-- A step of a program. Where two steps may follow, the first is preferred. -/
inductive Step where
  /-- Read a character of a set. -/
  | read (set : CharSet) (next : Nat)
  /-- Go on where a condition holds. -/
  | check (look : Look) (next : Nat)
  /-- Go on with one of two steps. -/
  | fork (first second : Nat)
  /-- Note the place under a number. -/
  | mark (slot next : Nat)
  /-- The match is complete. -/
  | accept

/-- The steps that have been laid out. -/
abbrev Steps := Array Step

namespace Step

/-- Lay out one more step, and tell its number. -/
def lay (step : Step) (steps : Steps) : Nat × Steps := (steps.size, steps.push step)

/-- A choice between a round of a repetition and its end. -/
def round (greedy : Bool) (body after : Nat) : Step :=
  if greedy then fork body after else fork after body

end Step

namespace Expr

/-- What lays out some steps in front of a following one. -/
abbrev Layer := Nat → Steps → Nat × Steps

/-- `n` rounds. -/
def layRounds (body : Layer) : Nat → Layer
  | 0, next, steps => (next, steps)
  | n + 1, next, steps =>
      let (next, steps) := body next steps
      layRounds body n next steps

/-- At most `n` rounds, after each of which one may go on `after` the repetition. -/
def layOptional (body : Layer) (greedy : Bool) (after : Nat) : Nat → Layer
  | 0, next, steps => (next, steps)
  | n + 1, next, steps =>
      let (next, steps) := body next steps
      let (next, steps) := (Step.round greedy next after).lay steps
      layOptional body greedy after n next steps

/-- A loop: the step that chooses whether to go round, and the first step of its body. -/
def layLoop (body : Layer) (greedy : Bool) (after : Nat) (steps : Steps) :
    (Nat × Nat) × Steps :=
  let (choice, steps) := Step.accept.lay steps
  let (first, steps) := body choice steps
  ((choice, first), steps.set! choice (Step.round greedy first after))

/-- Any number of rounds from one upwards. -/
def layPlus (body : Layer) (greedy : Bool) (after : Nat) (steps : Steps) : Nat × Steps :=
  let ((_, first), steps) := layLoop body greedy after steps
  (first, steps)

/-- Any number of rounds. A body that can be empty is tried once before the choice whether to
    go round, or a round would be preferred that matches nothing. -/
def layStar (body : Layer) (emptyBody greedy : Bool) (after : Nat) (steps : Steps) :
    Nat × Steps :=
  if emptyBody then
    let (first, steps) := layPlus body greedy after steps
    (Step.round greedy first after).lay steps
  else
    let ((choice, _), steps) := layLoop body greedy after steps
    (choice, steps)

/-- A repetition. -/
def layRepeated (body : Layer) (emptyBody : Bool) (min : Nat) (max? : Option Nat)
    (greedy : Bool) : Layer := fun next steps =>
  match max?, min with
  | some max, min =>
      let (next, steps) := layOptional body greedy next (max - min) next steps
      layRounds body min next steps
  | none, 0 => layStar body emptyBody greedy next steps
  | none, min + 1 =>
      let (next, steps) := layPlus body greedy next steps
      layRounds body min next steps

/-- Lay out an expression in front of a following step: the number of its first step. -/
def lay : Expr → Layer
  | empty, next, steps => (next, steps)
  | chars set, next, steps => (Step.read set next).lay steps
  | look l, next, steps => (Step.check l next).lay steps
  | repeated min max? greedy body, next, steps =>
      layRepeated body.lay body.canBeEmpty min max? greedy next steps
  | group index body, next, steps =>
      let (next, steps) := (Step.mark (2 * index + 1) next).lay steps
      let (next, steps) := body.lay next steps
      (Step.mark (2 * index) next).lay steps
  | seq left right, next, steps =>
      let (next, steps) := right.lay next steps
      left.lay next steps
  | alt left right, next, steps =>
      let (second, steps) := right.lay next steps
      let (first, steps) := left.lay next steps
      (Step.fork first second).lay steps

end Expr

/-- A program: its steps, and the number of the first one. -/
structure Program where
  steps : Steps
  first : Nat

/-- The program of an expression. -/
def Program.ofExpr (e : Expr) : Program :=
  let (accept, steps) := Step.accept.lay #[]
  let (first, steps) := e.lay accept steps
  ⟨steps, first⟩

end Pattern

end RequireForm
