import RequireForm.Pattern.Class

/-!
# The meaning of a pattern — from what is written to an expression

Flags hold from where they are written to the end of their group, across the branches of an
alternation. What a pattern may not hold under its flags makes it meaningless.

  1. Literals, dots and assertions under flags.
  2. `Node.expr?`: the meaning of a node, and the flags behind it.
-/

namespace RequireForm

namespace Pattern

/-! ## Leaves -/

/-- A literal under flags. A byte that is no character stands for none. -/
def Literal.expr? (f : Flags) (l : Literal) : Option Expr :=
  if !f.unicode && l.isByte && 0x7f < l.char.toNat then none
  else some (.chars (f.fold (CharSet.single l.char)))

/-- The characters that end a line, as far as `.` is concerned. -/
def Flags.lineEnds (f : Flags) : CharSet :=
  if f.crlf then CharSet.ofText ['\r', '\n'] else CharSet.single '\n'

/-- A dot under flags; there is none but in Unicode mode. -/
def Flags.dot? (f : Flags) : Option Expr :=
  if f.unicode then
    some (.chars (if f.dotAll then CharSet.all else f.lineEnds.complement))
  else none

/-- An assertion under flags. -/
def Assertion.look (f : Flags) : Assertion → Look
  | lineStart => if f.multiline then .lineStart f.crlf else .textStart
  | lineEnd => if f.multiline then .lineEnd f.crlf else .textEnd
  | textStart => .textStart
  | textEnd => .textEnd
  | wordBoundary => .wordBoundary f.unicode
  | noWordBoundary => .noWordBoundary f.unicode
  | wordStart => .wordStart f.unicode
  | wordEnd => .wordEnd f.unicode
  | wordStartHalf => .wordStartHalf f.unicode
  | wordEndHalf => .wordEndHalf f.unicode

namespace Expr

/-- One expression after another. -/
def append : Expr → Expr → Expr
  | empty, right => right
  | left, empty => left
  | left, right => seq left right

end Expr

/-! ## Nodes -/

namespace Node

mutual
/-- The meaning of a node under flags, and the flags behind it. -/
def expr? (f : Flags) : Node → Option (Expr × Flags)
  | empty => some (.empty, f)
  | literal l => (l.expr? f).map (·, f)
  | dot => f.dot?.map (·, f)
  | assertion a => some (.look (a.look f), f)
  | property negated name => (f.property? negated name).map (.chars ·, f)
  | shorthand negated class_ => (f.shorthand? negated class_).map (.chars ·, f)
  | bracket negated inner => do
      let set ← inner.set? f
      return (.chars (← f.folded? negated set), f)
  | repetition min max? greedy body => do
      let (e, _) ← expr? f body
      return (.times min max? (greedy != f.swapGreed) e, f)
  | capture index body => do
      let (e, _) ← expr? f body
      return (.group index e, f)
  | group change body => do
      let (e, _) ← expr? (f.changed change) body
      return (e, f)
  | flags change => some (.empty, f.changed change)
  | concat items => concatExpr? f items
  | alternation branches => alternationExpr? f branches

/-- The meaning of nodes one after another. -/
def concatExpr? (f : Flags) : List Node → Option (Expr × Flags)
  | [] => some (.empty, f)
  | item :: items => do
      let (e, f) ← expr? f item
      let (rest, f) ← concatExpr? f items
      return (e.append rest, f)

/-- The meaning of a choice between nodes. -/
def alternationExpr? (f : Flags) : List Node → Option (Expr × Flags)
  | [] => some (.empty, f)
  | [branch] => expr? f branch
  | branch :: branches => do
      let (e, f) ← expr? f branch
      let (rest, f) ← alternationExpr? f branches
      return (.alt e rest, f)
end

end Node

end Pattern

end RequireForm
