import RequireForm.Unicode.CharSet

/-!
# Pattern syntax — the tree that a pattern is written as

The tree keeps what is written and nothing of what it means: flags are nodes, a name is a
name, and a property is not looked up.

  1. `ClassSet`: what stands between brackets. `Node`: a pattern.
  2. `depth`: how deeply parts are nested; patterns nested beyond `Node.maxDepth` are refused.
-/

namespace RequireForm

namespace Pattern

/-- A condition on the place between two characters. -/
inductive Assertion where
  | lineStart | lineEnd | textStart | textEnd
  | wordBoundary | noWordBoundary
  | wordStart | wordEnd | wordStartHalf | wordEndHalf
  deriving DecidableEq, Repr

/-- A class of characters that is written as one letter. -/
inductive Shorthand where
  | digit | space | word
  deriving DecidableEq, Repr

/-- A Unicode property: by its name, or by the name of a property and one of its values. -/
inductive PropertyName where
  | plain (name : Text)
  | valued (name value : Text)
  deriving DecidableEq, Repr

/-- A literal character; `isByte` if it is written as `\x` with two digits. -/
structure Literal where
  char : Char
  isByte : Bool
  deriving DecidableEq, Repr

/-- An operation between two sets in one pair of brackets. -/
inductive ClassOp where
  | both | minus | exclusive
  deriving DecidableEq, Repr

/-- What stands between brackets. -/
inductive ClassSet where
  | literal (l : Literal)
  | range (low high : Literal)
  | ascii (negated : Bool) (set : CharSet)
  | property (negated : Bool) (name : PropertyName)
  | shorthand (negated : Bool) (class_ : Shorthand)
  | bracket (negated : Bool) (inner : ClassSet)
  | union (items : List ClassSet)
  | operation (op : ClassOp) (left right : ClassSet)

/-- A change of flags: of each flag whether it is switched, and to what. -/
structure FlagChange where
  caseless : Option Bool := none
  multiline : Option Bool := none
  dotAll : Option Bool := none
  swapGreed : Option Bool := none
  unicode : Option Bool := none
  crlf : Option Bool := none
  verbose : Option Bool := none
  deriving DecidableEq, Repr

/-- A pattern as it is written. -/
inductive Node where
  | empty
  | literal (l : Literal)
  | dot
  | assertion (a : Assertion)
  | property (negated : Bool) (name : PropertyName)
  | shorthand (negated : Bool) (class_ : Shorthand)
  | bracket (negated : Bool) (inner : ClassSet)
  | repetition (min : Nat) (max? : Option Nat) (greedy : Bool) (body : Node)
  | capture (index : Nat) (body : Node)
  | group (change : FlagChange) (body : Node)
  | flags (change : FlagChange)
  | concat (items : List Node)
  | alternation (branches : List Node)

namespace ClassSet

/-- A set of items; one item stands for itself. -/
def ofItems : List ClassSet → ClassSet
  | [item] => item
  | items => .union items

mutual
/-- How deeply brackets, unions and operations are nested. -/
def depth : ClassSet → Nat
  | .bracket _ inner => depth inner + 1
  | .union [] => 0
  | .union (item :: items) => max (depth item) (depthOfAll items) + 1
  | .operation _ left right => max (depth left) (depth right) + 1
  | _ => 0

/-- The greatest depth among items. -/
def depthOfAll : List ClassSet → Nat
  | [] => 0
  | item :: items => max (depth item) (depthOfAll items)
end

end ClassSet

namespace Node

/-- The deepest nesting that is accepted. -/
def maxDepth : Nat := 250

/-- Parts that follow each other; one part stands for itself. -/
def ofItems : List Node → Node
  | [] => .empty
  | [item] => item
  | items => .concat items

/-- Branches of which one is taken; one branch stands for itself. -/
def ofBranches : List Node → Node
  | [branch] => branch
  | branches => .alternation branches

mutual
/-- How deeply groups, repetitions, brackets, sequences and alternations are nested. -/
def depth : Node → Nat
  | .bracket _ inner => inner.depth + 1
  | .repetition _ _ _ body => depth body + 1
  | .capture _ body => depth body + 1
  | .group _ body => depth body + 1
  | .concat items => depthOfAll items + 1
  | .alternation branches => depthOfAll branches + 1
  | _ => 0

/-- The greatest depth among nodes. -/
def depthOfAll : List Node → Nat
  | [] => 0
  | item :: items => max (depth item) (depthOfAll items)
end

end Node

end Pattern

end RequireForm
