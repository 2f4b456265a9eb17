import RequireForm.Source.Reading
import RequireForm.Source.Piece

/-!
# Imports — what an import statement binds, and how it is recognized

Six shapes of statement are imports; anything else that starts with the word is left alone.

  1. `ImportBinding`, `Import`: the shapes.
  2. `Import.read?`: the recognizer at a line start.
  3. `Import.pieces`, `Import.find`: over a whole source.
-/

namespace RequireForm

/-- What an import statement binds. -/
inductive ImportBinding where
  /-- Only the module's effects: a path alone. -/
  | effects
  /-- One name for the default. -/
  | default (name : Text)
  /-- `*`, with a name if `as` is written. -/
  | star (name? : Option Text)
  /-- A brace list. -/
  | named (items : List Specifier)
  /-- A name for the default, then a brace list. -/
  | defaultAndNamed (default : Text) (items : List Specifier)
  /-- A name for the default, then `*`. -/
  | defaultAndStar (default : Text) (name? : Option Text)
  deriving DecidableEq, Repr

/-- An import statement. -/
structure Import where
  binding : ImportBinding
  path : PathLiteral
  deriving DecidableEq, Repr

namespace Import

/-- Read `*` or `* as name`, behind the star. -/
def starName? (s : Text) : Option (Option Text × Text) :=
  let s := skipSpaces s
  match word? "as".toList s with
  | none => some (none, s)
  | some s => (name? (skipSpaces s)).map fun (name, s) => (some name, s)

/-- Read the list or the star behind the comma of a statement that has bound `default`. -/
def secondBinding? (default : Text) : Text → Option (ImportBinding × Text)
  | '*' :: s => (starName? s).map fun (name, s) => (.defaultAndStar default name, s)
  | s => (Specifier.list? s).map fun (items, s) => (.defaultAndNamed default items, s)

/-- Read what stands between the word `import` and the word `from`. -/
def binding? : Text → Option (ImportBinding × Text)
  | '*' :: s => (starName? s).map fun (name, s) => (.star name, s)
  | '\x7b' :: s =>
      (Specifier.list? ('\x7b' :: s)).map fun (items, s) => (.named items, s)
  | s => do
      let (default, s) ← name? s
      match skipSpaces s with
      | ',' :: s => secondBinding? default (skipSpaces s)
      | _ => some (.default default, s)

/-- A path comes next. -/
def pathAhead : Text → Bool
  | [] => false
  | c :: _ => PathLiteral.isQuote c

/-- Read an import statement. A `;` behind the path is not part of it. -/
def read? (s : Text) : Option (Import × Text) := do
  let s ← word? "import".toList s
  let s ← spaces? s
  if pathAhead s then
    let (path, s) ← PathLiteral.read? s
    return (⟨.effects, path⟩, s)
  let (binding, s) ← binding? s
  let s ← word? "from".toList (skipSpaces s)
  let (path, s) ← PathLiteral.read? (skipSpaces s)
  return (⟨binding, path⟩, s)

/-- A source cut at its imports. -/
def pieces (source : Text) : List (Piece Import) := Piece.ofSource read? source

/-- The imports of a source, top to bottom. -/
def find (source : Text) : List (Located Import) := Piece.locate (pieces source)

end Import

end RequireForm
