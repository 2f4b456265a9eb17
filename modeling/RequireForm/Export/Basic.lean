import RequireForm.Source.Reading
import RequireForm.Source.Piece

/-!
# Exports — what an export statement publishes, and how it is recognized

What follows the word `export` decides the shape; a shape that does not fit is not retried as
another one.

  1. `Export`: the shapes.
  2. `Export.read?`: the recognizer at a line start. For a default the statement ends where
     the value starts, for a declaration where the declaration starts.
  3. `Export.pieces`, `Export.find`: over a whole source.
-/

namespace RequireForm

/-- What an export statement publishes. -/
inductive Export where
  /-- A default; `value` is the first line of it. -/
  | default (value : Text)
  /-- A brace list, of another module if a path is written. -/
  | named (items : List Specifier) (path? : Option PathLiteral)
  /-- A function or a class. -/
  | declaration (name : Text)
  /-- Everything that another module exports; a name after `as` has no effect. -/
  | star (name? : Option Text) (path : PathLiteral)
  /-- A variable that is declared here. -/
  | binding (name : Text)
  /-- A name alone. -/
  | identifier (name : Text)
  deriving DecidableEq, Repr

namespace Export

/-- The statement publishes everything that another module exports. -/
def isStar : Export → Bool
  | .star _ _ => true
  | _ => false

/-- Read the value of a default: it starts behind the spaces and has to show on its line. -/
def default? (s : Text) : Option (Export × Text) :=
  let s := skipSpaces s
  match (Text.firstLine s).trimEnd with
  | [] => none
  | value => some (.default value, s)

/-- Read a brace list and, if `from` follows, the path that has to follow it. -/
def named? (s : Text) : Option (Export × Text) := do
  let (items, s) ← Specifier.list? s
  match word? "from".toList (skipSpaces s) with
  | none => return (.named items none, s)
  | some s =>
      let (path, s) ← PathLiteral.read? (skipSpaces s)
      return (.named items (some path), s)

/-- Read the name that may follow a star. -/
def starName? (s : Text) : Option (Option Text × Text) :=
  match word? "as".toList s with
  | none => some (none, s)
  | some s => (name? (skipSpaces s)).map fun (name, s) => (some name, skipSpaces s)

/-- Read what follows the star of `export *`. -/
def star? (s : Text) : Option (Export × Text) := do
  let (name, s) ← starName? (skipSpaces s)
  let s ← word? "from".toList s
  let (path, s) ← PathLiteral.read? (skipSpaces s)
  return (.star name path, s)

/-- Step over the star of a generator. -/
def skipStar : Text → Text
  | '*' :: s => s
  | s => s

/-- Read the name of a function, behind the word `function`. -/
def functionName? (s : Text) : Option Text :=
  (name? (skipSpaces (skipStar (skipSpaces s)))).map (·.1)

/-- Read the name of an asynchronous function, behind the word `async`. -/
def asyncName? (s : Text) : Option Text := do
  let s ← spaces? s
  let s ← word? "function".toList s
  functionName? s

/-- Read the name of a class, behind the word `class`. -/
def className? (s : Text) : Option Text := do
  let s ← spaces? s
  let (name, _) ← name? s
  return name

/-- Read the name of a variable, behind the word that declares it. -/
def binding? (s : Text) : Option (Export × Text) := do
  let s ← spaces? s
  let (name, s) ← name? s
  return (.binding name, s)

/-- The words that declare variables. -/
def declaresVariable (w : Text) : Bool :=
  w = "const".toList || w = "let".toList || w = "var".toList

/-- Read a statement that goes on with a name or a keyword. `s` starts with it. -/
def worded? (s : Text) : Option (Export × Text) := do
  let (first, rest) ← name? s
  if first = "function".toList then return (.declaration (← functionName? rest), s)
  if first = "async".toList then return (.declaration (← asyncName? rest), s)
  if first = "class".toList then return (.declaration (← className? rest), s)
  if declaresVariable first then binding? rest
  else if statementEnds rest then return (.identifier first, rest)
  else none

/-- Read what follows the word `export` and its spaces; `spaced` tells that there was one. -/
def publication? (spaced : Bool) (s : Text) : Option (Export × Text) :=
  match word? "default".toList s with
  | some s => default? s
  | none =>
      match s with
      | '\x7b' :: _ => named? s
      | '*' :: s => star? s
      | _ => if spaced then worded? s else none

/-- Read an export statement. -/
def read? (s : Text) : Option (Export × Text) := do
  let s ← word? "export".toList s
  publication? (spaces? s).isSome (skipSpaces s)

/-- A source cut at its exports. -/
def pieces (source : Text) : List (Piece Export) := Piece.ofSource read? source

/-- The exports of a source, top to bottom. -/
def find (source : Text) : List (Located Export) := Piece.locate (pieces source)

end Export

end RequireForm
