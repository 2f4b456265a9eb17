import RequireForm.Pattern.Bracket
import RequireForm.Unicode.Property

/-!
# Drafts — reading a pattern from left to right

A draft holds the groups that are still open, the finished branches and the items of the
innermost one, and what counts for the whole pattern: the capture groups so far.

  1. Flags and names, which follow a `(?`.
  2. `Draft`: what closes, repeats and extends it.
  3. `Pattern.read?`: a pattern and the names of its groups.
-/

namespace RequireForm

namespace Pattern

/-! ## Flags -/

namespace FlagChange

/-- Switch the flag of a letter, which may be switched once only. -/
def switch? (f : FlagChange) (on : Bool) : Char → Option FlagChange
  | 'i' => if f.caseless.isSome then none else some { f with caseless := some on }
  | 'm' => if f.multiline.isSome then none else some { f with multiline := some on }
  | 's' => if f.dotAll.isSome then none else some { f with dotAll := some on }
  | 'U' => if f.swapGreed.isSome then none else some { f with swapGreed := some on }
  | 'u' => if f.unicode.isSome then none else some { f with unicode := some on }
  | 'R' => if f.crlf.isSome then none else some { f with crlf := some on }
  | 'x' => if f.verbose.isSome then none else some { f with verbose := some on }
  | _ => none

/-- Switch flags off, one for each letter. -/
def switchOff? (f : FlagChange) : Text → Option FlagChange
  | [] => some f
  | c :: t => (f.switch? false c).bind (switchOff? · t)

/-- Read letters of flags: after a `-`, which needs a letter behind it, they are switched
    off. -/
def ofLetters? (f : FlagChange) : Text → Option FlagChange
  | [] => some f
  | '-' :: t => if t = [] then none else f.switchOff? t
  | c :: t => (f.switch? true c).bind (ofLetters? · t)

end FlagChange

/-- A character that ends the letters of flags. -/
def endsFlags (c : Char) : Bool := c = ':' || c = ')'

/-! ## Names -/

/-- A character that a group's name may start with. -/
def startsGroupName (c : Char) : Bool := c = '_' || Property.alphabetic.contains c

/-- A character that a group's name may go on with. -/
def continuesGroupName (c : Char) : Bool :=
  c = '_' || c = '.' || c = '[' || c = ']' || Property.alphanumeric.contains c

/-- A text that a group may be named by. -/
def isGroupName : Text → Bool
  | [] => false
  | c :: t => startsGroupName c && t.all continuesGroupName

/-! ## Drafts -/

/-- A group that is not closed yet: the capture group of an index, or a group that changes
    flags. -/
inductive GroupKind where
  | capture (index : Nat)
  | plain (change : FlagChange)

/-- A group around its body. -/
def GroupKind.node (body : Node) : GroupKind → Node
  | .capture index => .capture index body
  | .plain change => .group change body

/-- What stands before an open group, to be gone on with behind it. -/
structure Level where
  kind : GroupKind
  branches : List Node
  items : List Node
  verbose : Bool

/-- A pattern that has been read in part. Branches and items are kept last first. -/
structure Draft where
  outer : List Level
  branches : List Node
  items : List Node
  verbose : Bool
  groups : Nat
  names : List (Text × Nat)

namespace Draft

def empty : Draft := ⟨[], [], [], false, 0, []⟩

/-- Another item. -/
def add (d : Draft) (item : Node) : Draft := { d with items := item :: d.items }

/-- What the innermost group holds. -/
def body (d : Draft) : Node :=
  Node.ofBranches (Node.ofItems d.items.reverse :: d.branches).reverse

/-- A branch ends. -/
def nextBranch (d : Draft) : Draft :=
  { d with branches := Node.ofItems d.items.reverse :: d.branches, items := [] }

/-- A group opens. -/
def opened (d : Draft) (kind : GroupKind) (verbose : Bool) : Draft :=
  { d with
    outer := ⟨kind, d.branches, d.items, d.verbose⟩ :: d.outer
    branches := []
    items := []
    verbose := verbose }

/-- The innermost group closes. -/
def close? (d : Draft) : Option Draft :=
  match d.outer with
  | [] => none
  | level :: outer => some { d with
      outer := outer
      branches := level.branches
      items := level.kind.node d.body :: level.items
      verbose := level.verbose }

/-- The last item is repeated. There has to be one, and flags are none. -/
def repeat? (d : Draft) (min : Nat) (max? : Option Nat) (greedy : Bool) : Option Draft :=
  match d.items with
  | [] => none
  | .flags _ :: _ => none
  | item :: items => some { d with items := .repetition min max? greedy item :: items }

/-- A capture group opens. -/
def capture (d : Draft) : Draft :=
  { d.opened (.capture (d.groups + 1)) d.verbose with groups := d.groups + 1 }

/-- A capture group with a name opens; each name is given once. -/
def named? (d : Draft) (name : Text) : Option Draft :=
  if isGroupName name && !d.names.any (·.1 = name) then
    some { d.capture with names := (name, d.groups + 1) :: d.names }
  else none

/-! ## Groups -/

/-- Read a name and open its group, behind a `(?<`. -/
def openNamed? (d : Draft) (s : Text) : Option (Draft × Text) :=
  match s.takeWhile (· ≠ '>'), s.dropWhile (· ≠ '>') with
  | name, '>' :: rest => (d.named? name).map (·, rest)
  | _, _ => none

/-- Read flags and what they are for, behind a `(?`: a group, or the rest of this one. -/
def openFlags? (d : Draft) (s : Text) : Option (Draft × Text) := do
  let letters := s.takeWhile (!endsFlags ·)
  let change ← FlagChange.ofLetters? {} letters
  let verbose := change.verbose.getD d.verbose
  match s.dropWhile (!endsFlags ·) with
  | ':' :: rest => return (d.opened (.plain change) verbose, rest)
  | ')' :: rest =>
      if letters = [] then none
      else return ({ d.add (.flags change) with verbose := verbose }, rest)
  | _ => none

/-- Read the beginning of a group, behind its `(`. Nothing looks around. -/
def open? (d : Draft) (s : Text) : Option (Draft × Text) :=
  match skipLayout d.verbose s with
  | '?' :: '=' :: _ => none
  | '?' :: '!' :: _ => none
  | '?' :: '<' :: '=' :: _ => none
  | '?' :: '<' :: '!' :: _ => none
  | '?' :: 'P' :: '<' :: s => d.openNamed? s
  | '?' :: '<' :: s => d.openNamed? s
  | '?' :: s => d.openFlags? s
  | s => some (d.capture, s)

/-! ## Repetitions -/

/-- Read the sign that makes a repetition take as little as it can. -/
def lazySign : Text → Bool × Text
  | '?' :: s => (true, s)
  | s => (false, s)

/-- Read what follows the sign of a repetition. -/
def repeated? (d : Draft) (min : Nat) (max? : Option Nat) (s : Text) : Option (Draft × Text) :=
  let (isLazy, s) := lazySign s
  (d.repeat? min max? !isLazy).map (·, s)

/-- Read the greatest count, behind the comma: none is written if there is none. -/
def maxCount? (verbose : Bool) (s : Text) : Option (Option Nat × Text) :=
  match skipLayout verbose s with
  | '\x7d' :: s => some (none, '\x7d' :: s)
  | s => (count? verbose s).map fun (n, s) => (some n, s)

/-- Read the counts of a repetition up to the closing brace, behind the opening one. -/
def counts? (verbose : Bool) (s : Text) : Option ((Nat × Option Nat) × Text) := do
  let (min, s) ← count? verbose (skipLayout verbose s)
  let (max?, s) ← match s with
    | ',' :: s => maxCount? verbose s
    | s => some (some min, s)
  match s with
  | '\x7d' :: s =>
      if max?.all (min ≤ ·) then some ((min, max?), skipLayout verbose s) else none
  | _ => none

/-- Read a repetition with counts, behind its `{`. -/
def counted? (d : Draft) (s : Text) : Option (Draft × Text) := do
  let ((min, max?), s) ← counts? d.verbose s
  d.repeated? min max? s

/-! ## Reading -/

/-- One step of reading. -/
def step? (d : Draft) : Text → Option (Draft × Text)
  | '(' :: s => d.open? s
  | ')' :: s => d.close?.map (·, s)
  | '|' :: s => some (d.nextBranch, s)
  | '[' :: s =>
      (ClassSet.read? d.verbose s).map fun ((negated, set), s) =>
        (d.add (.bracket negated set), s)
  | '?' :: s => d.repeated? 0 (some 1) s
  | '*' :: s => d.repeated? 0 none s
  | '+' :: s => d.repeated? 1 none s
  | '\x7b' :: s => d.counted? s
  | s => (Primitive.read? d.verbose s).map fun (p, s) => (d.add p.node, s)

/-- Read on to the end. Each step reads a character at least, so `fuel` is no limit if it is
    greater than the number of characters. -/
def read? : Nat → Draft → Text → Option Draft
  | 0, _, _ => none
  | fuel + 1, d, s =>
      match skipLayout d.verbose s with
      | [] => some d
      | s => (d.step? s).bind fun (d, s) => read? fuel d s

/-- The pattern, if no group is open and it is not nested too deeply. -/
def finish? (d : Draft) : Option Node :=
  if d.outer.isEmpty && d.body.depth ≤ Node.maxDepth then some d.body else none

end Draft

/-- Read a pattern, and the names of its capture groups with their indices. -/
def read? (s : Text) : Option (Node × List (Text × Nat)) := do
  let d ← Draft.empty.read? (s.length + 1) s
  let node ← d.finish?
  return (node, d.names.reverse)

end Pattern

end RequireForm
