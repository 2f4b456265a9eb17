import RequireForm.Export.Assignment
import RequireForm.Import.Require
import RequireForm.Rule.Basic

/-!
# Transform — a source in require form

Imports are put into require form first, and exports over the result. Both load modules by
paths that a rule may change.

  1. `Report`: how many statements were put into require form.
  2. `importPass`, `exportPass`: the text of the pieces of a source.
  3. `transform`.
-/

namespace RequireForm

/-! ## Reports -/

/-- How many statements were put into require form; `stars` are among the exports. -/
structure Report where
  imports : Nat := 0
  exports : Nat := 0
  stars : Nat := 0
  deriving DecidableEq, Repr

namespace Report

/-- There was nothing to put into require form. -/
def isUnchanged (r : Report) : Bool := r.imports = 0 && r.exports = 0

/-- Both reports together. -/
def merge (r s : Report) : Report :=
  ⟨r.imports + s.imports, r.exports + s.exports, r.stars + s.stars⟩

end Report

/-! ## Passes -/

/-- The call that loads the module of a path, as the rule changes it. -/
def PathRule.call (r : PathRule) (path : PathLiteral) : Text :=
  requireCall (path.quoting (r.apply path.value))

/-- An import in require form. -/
def Import.require (r : PathRule) (i : Import) : Text := i.binding.require (r.call i.path)

/-- An export in require form, with the `n`-th pair of temporaries. -/
def Export.require (r : PathRule) (n : Nat) (e : Export) : Text :=
  e.assign n ((e.path?.map r.call).getD [])

/-- The text of a source whose imports are put into require form. -/
def importPass (r : PathRule) : List (Piece Import) → Text
  | [] => []
  | .kept c :: pieces => c :: importPass r pieces
  | .statement _ i :: pieces => i.require r ++ importPass r pieces

/-- The text of a source whose exports are put into require form. Each star takes a pair of
    temporaries; `n` is the number of the next one. -/
def exportPass (r : PathRule) (n : Nat) : List (Piece Export) → Text
  | [] => []
  | .kept c :: pieces => c :: exportPass r n pieces
  | .statement _ e :: pieces =>
      e.require r n ++ exportPass r (if e.isStar then n + 1 else n) pieces

/-! ## Both passes -/

/-- A source between the passes. -/
def afterImports (r : PathRule) (source : Text) : Text := importPass r (Import.pieces source)

/-- What becomes of a source. -/
structure Transformed where
  output : Text
  report : Report
  deriving DecidableEq, Repr

/-- Count the statements in the pieces of a source and of what the first pass makes of it. -/
def Report.ofPieces (imports : List (Piece Import)) (exports : List (Piece Export)) : Report where
  imports := (Piece.statements imports).length
  exports := (Piece.statements exports).length
  stars := (Piece.statements exports).countP Export.isStar

/-- Put a source into require form, with a rule for its paths. -/
def transformBy (r : PathRule) (source : Text) : Transformed :=
  let imports := Import.pieces source
  let exports := Export.pieces (importPass r imports)
  ⟨exportPass r 0 exports, .ofPieces imports exports⟩

/-- Put a source into require form. -/
def transform (o : Options) (source : Text) : Transformed := transformBy (.ofOptions o) source

end RequireForm
