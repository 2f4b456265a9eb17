import RequireForm.Files.Tree

/-!
# Access — reading and writing files by their paths

A path is followed from directory to directory, part by part; what it leads through has to be
there even where a `..` leaves it again.

  1. `IoError`, and `FileTree.place?`: where a path leads.
  2. `read`, `write`, `makeDirectory`, `makeDirectories`.
-/

namespace RequireForm

/-- Why a file cannot be read or written. -/
inductive IoError where
  | notFound
  | exists
  | notADirectory
  | isADirectory
  | nameTooLong
  | notText
  | nulInName
  deriving DecidableEq, Repr

/-- An error as a text. -/
def IoError.message : IoError → Text
  | notFound => "No such file or directory (os error 2)".toList
  | «exists» => "File exists (os error 17)".toList
  | notADirectory => "Not a directory (os error 20)".toList
  | isADirectory => "Is a directory (os error 21)".toList
  | nameTooLong => "File name too long (os error 36)".toList
  | notText => "stream did not contain valid UTF-8".toList
  | nulInName => "file name contained an unexpected NUL byte".toList

namespace FileTree

/-! ## Following paths -/

/-- The longest name, in bytes. -/
def maxName : Nat := 255

/-- The longest path, in bytes. -/
def maxPath : Nat := 4095

/-- A path that cannot be followed at all. -/
def pathFault? (p : FilePath) : Option IoError :=
  if p.text.contains '\x00' then some .nulInName
  else if p.text = [] then some .notFound
  else if maxPath < p.text.byteLength then some .nameTooLong
  else none

/-- Where a path starts. -/
def start (p : FilePath) : FilePlace := if p.isAbsolute then FilePlace.root else []

/-- Follow one part of a path, out of a directory. -/
def follow (t : FileTree) (place : FilePlace) (part : Text) : Except IoError FilePlace :=
  if !t.isDirectory place then .error .notADirectory
  else if part = FilePath.here then .ok place
  else if part = FilePath.above then .ok place.parent
  else if maxName < part.byteLength then .error .nameTooLong
  else if (t.get? (place ++ [part])).isNone then .error .notFound
  else .ok (place ++ [part])

/-- Follow parts of a path. -/
def followAll (t : FileTree) (place : FilePlace) : List Text → Except IoError FilePlace
  | [] => .ok place
  | part :: parts =>
      match t.follow place part with
      | .error e => .error e
      | .ok next => followAll t next parts

/-- What a path leads to, of which it may ask that it is a directory. -/
def place? (t : FileTree) (p : FilePath) : Except IoError FilePlace :=
  match pathFault? p with
  | some e => .error e
  | none =>
      match t.followAll (start p) p.parts with
      | .error e => .error e
      | .ok place =>
          if p.endsWithSlash && !t.isDirectory place then .error .notADirectory else .ok place

/-- A path leads to a directory. -/
def leadsToDirectory (t : FileTree) (p : FilePath) : Bool :=
  match t.place? p with
  | .ok place => t.isDirectory place
  | .error _ => false

/-! ## Reading -/

/-- Read the text of a file. -/
def read (t : FileTree) (p : FilePath) : Except IoError Text :=
  match t.place? p with
  | .error e => .error e
  | .ok place =>
      match t.get? place with
      | some (.file (.text text)) => .ok text
      | some (.file (.bytes _)) => .error .notText
      | some .directory => .error .isADirectory
      | none => .error .notFound

/-! ## Writing -/

/-- The directory that the last part of a path is looked up in, and that part. `named` tells
    what is wrong with a path that has no parts. -/
def holder (t : FileTree) (p : FilePath) (named : IoError) : Except IoError (FilePlace × Text) :=
  match pathFault? p, p.parts.getLast? with
  | some e, _ => .error e
  | none, none => .error named
  | none, some name =>
      match t.followAll (start p) p.parts.dropLast with
      | .error e => .error e
      | .ok place => if t.isDirectory place then .ok (place, name) else .error .notADirectory

/-- The place that a last part names in a directory. `named` tells what is wrong with one that
    names nothing of its own. -/
def newPlace (place : FilePlace) (name : Text) (named : IoError) : Except IoError FilePlace :=
  if name = FilePath.here || name = FilePath.above then .error named
  else if maxName < name.byteLength then .error .nameTooLong
  else .ok (place ++ [name])

/-- Where a path leads that a file may be written to: it may not ask for a directory. -/
def filePlace (t : FileTree) (p : FilePath) : Except IoError FilePlace :=
  match t.holder p .isADirectory with
  | .error e => .error e
  | .ok (place, name) =>
      if p.endsWithSlash then .error .isADirectory else newPlace place name .isADirectory

/-- Where a path leads that a directory may be created at. -/
def directoryPlace (t : FileTree) (p : FilePath) : Except IoError FilePlace :=
  match t.holder p .exists with
  | .error e => .error e
  | .ok (place, name) => newPlace place name .exists

/-- Write a text to a file, which is created if it is not there. -/
def write (t : FileTree) (p : FilePath) (text : Text) : FileTree × Except IoError Unit :=
  match t.filePlace p with
  | .error e => (t, .error e)
  | .ok place =>
      if t.isDirectory place then (t, .error .isADirectory)
      else (t.put place (.file (.text text)), .ok ())

/-- Create a directory, where nothing may be yet. -/
def makeDirectory (t : FileTree) (p : FilePath) : FileTree × Except IoError Unit :=
  match t.directoryPlace p with
  | .error e => (t, .error e)
  | .ok place =>
      if (t.get? place).isSome then (t, .error .exists)
      else (t.put place .directory, .ok ())

/-- A directory need not be created where there is one. -/
def unlessThere (p : FilePath) : FileTree × Except IoError Unit → FileTree × Except IoError Unit
  | (t, .ok ()) => (t, .ok ())
  | (t, .error e) => (t, if t.leadsToDirectory p then .ok () else .error e)

/-- Create the first of some directories, each below the next one. The nearest one that can be
    created is created first. -/
def makeAll (t : FileTree) : List FilePath → FileTree × Except IoError Unit
  | [] => (t, .ok ())
  | p :: above =>
      match t.makeDirectory p with
      | (t, .error .notFound) =>
          match makeAll t above with
          | (t, .error e) => (t, .error e)
          | (t, .ok ()) => unlessThere p (t.makeDirectory p)
      | made => unlessThere p made

/-- Create a directory and those above it, as far as they are not there. -/
def makeDirectories (t : FileTree) (p : FilePath) : FileTree × Except IoError Unit :=
  t.makeAll p.ancestors

/-- Write a text to a file, after the directories above it have been created. -/
def writeBelow (t : FileTree) (p : FilePath) (text : Text) : FileTree × Except IoError Unit :=
  match p.parent? with
  | none => t.write p text
  | some parent =>
      match t.makeDirectories parent with
      | (t, .error e) => (t, .error e)
      | (t, .ok ()) => t.write p text

end FileTree

end RequireForm
