import RequireForm.Text

/-!
# Pieces — a source cut into statements and the text between them

A recognizer is tried at every line start that no earlier statement covers. What it accepts
becomes a statement piece that holds the accepted text; every other character is kept.

  1. `pieces read s`: the cut; putting the pieces' texts together gives back `s`.
  2. `locate`: the statements with their byte spans and line numbers.
-/

namespace RequireForm

/-- A piece of a source: a kept character, or a statement with the text it was read from. -/
inductive Piece (α : Type) where
  | kept (c : Char)
  | statement (written : Text) (what : α)

namespace Piece

/-- The source text of a piece. -/
def text {α : Type} : Piece α → Text
  | .kept c => [c]
  | .statement written _ => written

/-- Cut a source. `atStart` tells that a line starts here; `covered` counts the characters
    ahead that the last statement has already taken. -/
def cut {α : Type} (read : Text → Option (α × Text)) (atStart : Bool) (covered : Nat) :
    Text → List (Piece α)
  | [] => []
  | c :: rest =>
      match covered with
      | n + 1 => cut read (c = '\n') n rest
      | 0 =>
          match if atStart then read (c :: rest) else none with
          | some (what, after) =>
              let length := (c :: rest).length - after.length
              .statement ((c :: rest).take length) what :: cut read (c = '\n') (length - 1) rest
          | none => .kept c :: cut read (c = '\n') 0 rest

/-- The pieces of a whole source. -/
def ofSource {α : Type} (read : Text → Option (α × Text)) (s : Text) : List (Piece α) :=
  cut read true 0 s

/-- What the statements among the pieces are, in order. -/
def statements {α : Type} (ps : List (Piece α)) : List α :=
  ps.filterMap fun
    | .kept _ => none
    | .statement _ what => some what

end Piece

/-- A range of bytes: `start` is in it, `stop` is not. -/
structure Span where
  start : Nat
  stop : Nat
  deriving DecidableEq, Repr

/-- Something found in a source: where, on which line (counted from 1), and what. -/
structure Located (α : Type) where
  span : Span
  line : Nat
  what : α
  deriving DecidableEq, Repr

/-- Locate the statements among pieces that start at a byte offset and on a line. -/
def Piece.locateFrom {α : Type} (offset line : Nat) : List (Piece α) → List (Located α)
  | [] => []
  | .kept c :: ps =>
      locateFrom (offset + c.utf8Size) (line + if c = '\n' then 1 else 0) ps
  | .statement written what :: ps =>
      let stop := offset + written.byteLength
      ⟨⟨offset, stop⟩, line, what⟩ :: locateFrom stop (line + written.lineBreaks) ps

/-- Locate the statements of a source. -/
def Piece.locate {α : Type} (ps : List (Piece α)) : List (Located α) := locateFrom 0 1 ps

end RequireForm
