import RequireForm.Text

/-!
# File paths — texts with slashes

A path is the text that a caller gives. Its components are what is left of its parts when
those that change nothing are dropped: empty ones, and a `.` that is not the first part of a
path without a leading slash.

    path         ./src//a/./b.js
    pieces       .   src   (empty)   a   .   b.js       what stands between slashes
    parts        .   src   a   .   b.js
    components   .   src   a   b.js
    ancestors    ./src//a/./b.js   ./src//a   ./src   .

What is above a path is a beginning of its text, as it is written.

  1. Pieces, parts and components.
  2. Ancestors and parents; names and extensions; joining.
-/

namespace RequireForm

/-- A path, as it is written. -/
structure FilePath where
  text : Text
  deriving DecidableEq, Repr

namespace FilePath

/-! ## Pieces and parts -/

/-- The path starts at the root, and not at the working directory. -/
def isAbsolute (p : FilePath) : Bool := p.text.head? = some '/'

/-- The path can only be that of a directory. -/
def endsWithSlash (p : FilePath) : Bool := p.text.getLast? = some '/'

/-- What stands between slashes, behind the one that a path may start with. -/
def pieces (p : FilePath) : List Text :=
  Text.cutAt (· = '/') (if p.isAbsolute then p.text.tail else p.text)

/-- What stands between slashes, empty parts left out. -/
def parts (p : FilePath) : List Text := (Text.cutAt (· = '/') p.text).filter (· ≠ [])

/-- The part that stands for the directory it is in. -/
def here : Text := ['.']

/-- The part that stands for the directory above. -/
def above : Text := ['.', '.']

/-- The parts of a path that change where it leads. -/
def components (p : FilePath) : List Text :=
  match p.isAbsolute, p.parts with
  | false, first :: rest => first :: rest.filter (· ≠ here)
  | _, parts => parts.filter (· ≠ here)

/-- The path with some texts between its slashes. -/
def ofPieces (absolute : Bool) (pieces : List Text) : FilePath :=
  ⟨(if absolute then ['/'] else []) ++ Text.join ['/'] pieces⟩

/-! ## Ancestors and parents -/

/-- A piece changes where a path leads, with the pieces before it. -/
def counts (absolute : Bool) (before : List Text) (piece : Text) : Bool :=
  piece ≠ [] && (piece ≠ here || (!absolute && before.isEmpty))

/-- The paths that end with a piece that counts, the longest one first. The last piece is given
    first. -/
def ancestorsOf (absolute : Bool) : List Text → List FilePath
  | [] => []
  | piece :: before =>
      if counts absolute before piece then
        ofPieces absolute (piece :: before).reverse :: ancestorsOf absolute before
      else ancestorsOf absolute before

/-- A path and those above it, each without slashes at its end. The root and the working
    directory are not among them. -/
def ancestors (p : FilePath) : List FilePath := ancestorsOf p.isAbsolute p.pieces.reverse

/-- The path above. Above the last ancestor that is the root, or else the empty path. -/
def parent? (p : FilePath) : Option FilePath :=
  match p.ancestors with
  | [] => none
  | _ :: above => some (above.headD (ofPieces p.isAbsolute []))

/-! ## Names and extensions -/

/-- The last component, if it names something. -/
def fileName? (p : FilePath) : Option Text :=
  p.components.getLast?.filter fun name => name ≠ here && name ≠ above

/-- What a name has behind its last dot. A dot in front begins no extension. -/
def extensionOf? (name : Text) : Option Text :=
  let reversed := name.reverse
  match reversed.dropWhile (· ≠ '.') with
  | [] => none
  | [_] => none
  | _ => some (reversed.takeWhile (· ≠ '.')).reverse

/-- The extension of the name at the end of a path. -/
def extension? (p : FilePath) : Option Text := p.fileName?.bind extensionOf?

/-- The extensions of sources. -/
def sourceExtensions : List String := ["js", "mjs", "cjs", "jsx", "ts", "mts", "cts", "tsx"]

/-- The path is that of a source, as far as its extension tells; ASCII case does not count. -/
def isSupported (p : FilePath) : Bool :=
  p.extension?.any fun e => sourceExtensions.any fun s => s.toList = e.map Char.toLower

/-! ## Joining -/

/-- A path below another one. -/
def join (p q : FilePath) : FilePath :=
  if q.isAbsolute || p.text = [] then q
  else if p.endsWithSlash then ⟨p.text ++ q.text⟩
  else ⟨p.text ++ ['/'] ++ q.text⟩

/-- The path of names below each other. -/
def ofNames (names : List Text) : FilePath := ofPieces false names

end FilePath

end RequireForm
