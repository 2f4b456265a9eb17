import RequireForm.Files.Access
import RequireForm.Transform.Basic

/-!
# Transforming files

  1. `FileError`: why a file cannot be transformed.
  2. `transformFile`: the text of one file in require form.
  3. `transformTree`: the sources below one path, written below another one. A source that
     cannot be read or written does not keep the others from being transformed.
-/

namespace RequireForm

/-- Why files cannot be transformed. -/
inductive FileError where
  | io (e : IoError)
  | walk (root : FilePath) (e : IoError)
  | unsupported (p : FilePath)
  deriving DecidableEq, Repr

namespace FileError

/-- What went wrong at the beginning of a walk. -/
def walkMessage (root : FilePath) (e : IoError) : Text :=
  "IO error for operation on ".toList ++ root.text ++ ": ".toList ++ e.message

/-- An error as a text. -/
def message : FileError → Text
  | io e => "Failed to read or write file: ".toList ++ e.message
  | walk root e => "Failed to walk directory: ".toList ++ walkMessage root e
  | unsupported p => "Unsupported file type: ".toList ++ p.text

/-- The texts of what an error comes from, the nearest first. -/
def causes : FileError → List Text
  | io e => [e.message]
  | walk root e => [walkMessage root e, e.message]
  | unsupported _ => []

end FileError

/-- The text of a file in require form. -/
def transformFile (o : Options) (t : FileTree) (p : FilePath) : Except FileError Text :=
  if !p.isSupported then .error (.unsupported p)
  else
    match t.read p with
    | .error e => .error (.io e)
    | .ok source => .ok (transform o source).output

/-! ## Trees -/

/-- What became of a tree: the sources that were transformed and those that were not, by their
    paths below the root, and the reports of the former taken together. -/
structure TreeReport where
  transformed : List FilePath := []
  failed : List (FilePath × FileError) := []
  totals : Report := {}
  deriving DecidableEq, Repr

/-- The directories that are passed over wherever they are. -/
def ignoredDirectories : List String :=
  ["node_modules", ".git", "dist", "build", ".next", "coverage", ".turbo"]

/-- A directory of that name is passed over. -/
def isIgnored (name : Text) : Bool := ignoredDirectories.any fun d => d.toList = name

namespace FileTree

/-- The names that lead from one place to another one below it. What starts by leaving the
    place is not below it. -/
def namesBelow? : FilePlace → FilePlace → Option (List Text)
  | [], q => if q.head? = some FilePath.above || q.head? = some ['/'] then none else some q
  | _ :: _, [] => none
  | a :: p, b :: q => if a = b then namesBelow? p q else none

/-- A source is there, and no directory on the way to it is passed over. -/
def isCandidate (names : List Text) (e : Entry) : Bool :=
  e ≠ .directory && names.dropLast.all (!isIgnored ·) && (FilePath.ofNames names).isSupported

/-- The sources below a directory, by their paths from there. -/
def sourcesBelow (t : FileTree) (root : FilePlace) : List FilePath :=
  let found := t.entries.filterMap fun (place, e) =>
    match namesBelow? root place with
    | some names => if isCandidate names e then some (FilePath.ofNames names) else none
    | none => none
  found.mergeSort fun p q => p.text.le q.text

/-- The sources that a walk from a path comes to. A walk from a file comes to that file. -/
def sources (t : FileTree) (root : FilePath) : Except FileError (List FilePath) :=
  match t.place? root with
  | .error e => .error (.walk root e)
  | .ok place =>
      if t.isDirectory place then .ok (t.sourcesBelow place)
      else .ok (if root.isSupported then [⟨[]⟩] else [])

/-- The path of something below another path; the other path itself if nothing is left. -/
def below (root relative : FilePath) : FilePath :=
  if relative.text = [] then root else root.join relative

end FileTree

/-- Transform one source of a tree. -/
def transformOne (o : Options) (t : FileTree) (source target : FilePath) :
    FileTree × Except FileError Report :=
  match t.read source with
  | .error e => (t, .error (.io e))
  | .ok text =>
      let result := transform o text
      match t.writeBelow target result.output with
      | (t, .error e) => (t, .error (.io e))
      | (t, .ok ()) => (t, .ok result.report)

namespace TreeReport

/-- Another source has been dealt with. -/
def add (r : TreeReport) (p : FilePath) : Except FileError Report → TreeReport
  | .ok counts =>
      { r with transformed := r.transformed ++ [p], totals := r.totals.merge counts }
  | .error e => { r with failed := r.failed ++ [(p, e)] }

end TreeReport

/-- Transform some sources below a path to the same paths below another one. -/
def transformSources (o : Options) (source target : FilePath) (t : FileTree) (r : TreeReport) :
    List FilePath → FileTree × TreeReport
  | [] => (t, r)
  | p :: rest =>
      let (t, result) := transformOne o t (FileTree.below source p) (target.join p)
      transformSources o source target t (r.add p result) rest

/-- Transform the sources below a path to the same paths below another one. -/
def transformTree (o : Options) (t : FileTree) (source target : FilePath) :
    FileTree × Except FileError TreeReport :=
  match t.sources source with
  | .error e => (t, .error e)
  | .ok paths =>
      let (t, r) := transformSources o source target t {} paths
      (t, .ok r)

end RequireForm
