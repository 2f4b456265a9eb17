import RequireForm.Command.Run

/-!
# The command on a real file system

The files that the arguments name are read into a tree, the command is run on it, and what it
has changed is written back. Nothing is decided here.
-/

namespace RequireForm

namespace Main

open Command (Request TransformArgs Stop)

/-! ## Reading files -/

/-- The path of a place, from the working directory. -/
def diskPath (place : FilePlace) : String :=
  match place with
  | ['/'] :: rest => String.ofList ('/' :: Text.join ['/'] rest)
  | [] => "."
  | names => String.ofList (Text.join ['/'] names)

/-- The content of a file. -/
def content (place : FilePlace) : IO Content := do
  let bytes ← IO.FS.readBinFile (diskPath place)
  return .ofBytes bytes.toList

/-- What is at a place on the disk, if anything is. -/
def onDisk? (place : FilePlace) : IO (Option Entry) := do
  match ← (IO.FS.realPath (diskPath place)).toBaseIO with
  | .error _ => return none
  | .ok path =>
      if ← path.isDir then return some .directory
      else if ← path.pathExists then return some (.file (← content place))
      else return none

/-- Read what is below a directory. Directories that are passed over anyway are not read. -/
partial def readBelow (t : FileTree) (place : FilePlace) : IO FileTree := do
  let mut t := t
  for entry in ← (← IO.FS.realPath (diskPath place)).readDir do
    let name := entry.fileName.toList
    if !isIgnored name then
      let below := place ++ [name]
      match ← onDisk? below with
      | none => pure ()
      | some .directory => t ← readBelow (t.put below .directory) below
      | some file => t := t.put below file
  return t

/-- Read what a path leads through, and what is below its end. -/
partial def readAlong (t : FileTree) (place : FilePlace) (parts : List Text) : IO FileTree := do
  match parts with
  | [] => if t.isDirectory place then readBelow t place else return t
  | part :: rest =>
      if part = FilePath.here then readAlong t place rest
      else if part = FilePath.above then readAlong t place.parent rest
      else
        let next := place ++ [part]
        match ← onDisk? next with
        | none => return t
        | some e => readAlong (t.put next e) next rest

/-- The paths that the arguments name. -/
def named (args : TransformArgs) : List FilePath :=
  args.config?.toList ++ [args.input] ++ args.output?.toList

/-- Read the files that a request is about. -/
def readTree : Request → IO FileTree
  | .transform args =>
      (named args).foldlM (fun t p => readAlong t (FileTree.start p) p.parts) FileTree.empty
  | _ => return .empty

/-- Read standard input to its end. -/
partial def readInput (input : IO.FS.Stream) (bytes : ByteArray) : IO ByteArray := do
  let more ← input.read 65536
  if more.isEmpty then return bytes else readInput input (bytes ++ more)

/-- The input of a request: only a transform of `-` has one. -/
def requestInput : Request → IO Content
  | .transform args => do
      if args.input.text = ['-'] then
        return .ofBytes (← readInput (← IO.getStdin) ByteArray.empty).toList
      else return .text []
  | _ => return .text []

/-! ## Writing files -/

/-- Write what a place holds. -/
def writeEntry (place : FilePlace) : Entry → IO Unit
  | .directory => IO.FS.createDirAll (diskPath place)
  | .file (.text t) => IO.FS.writeFile (diskPath place) (String.ofList t)
  | .file (.bytes b) => IO.FS.writeBinFile (diskPath place) ⟨b.toArray⟩

/-- Write what has changed from one tree to another. -/
def writeChanges (before after : FileTree) : IO Unit :=
  after.entries.forM fun (place, e) => do
    if before.get? place ≠ some e then writeEntry place e

/-! ## Running -/

/-- What is printed for those who ask for help. -/
def help : String := "\n".intercalate [
  "Usage: esm2cjs [-v] transform <INPUT> [-o <OUTPUT>] [--match <PATTERN>]",
  "                 [--replace-by <TEMPLATE>] [--flags <FLAGS>] [--escape-regexp]",
  "                 [-c <FILE>]",
  "       esm2cjs [-v] version",
  ""]

/-- Do what the command is asked for. -/
def perform (request : Request) : IO UInt32 := do
  let before ← readTree request
  let outcome := (request.run (← requestInput request) before).outcome
  writeChanges before outcome.tree
  IO.print (String.ofList outcome.printed)
  if let some error := outcome.error? then IO.eprintln (String.ofList error)
  return UInt32.ofNat outcome.exit

/-- End without a request. -/
def refuse (stop : Stop) : IO UInt32 := do
  let outcome := stop.outcome .empty
  IO.print (if stop = .help then help else String.ofList outcome.printed)
  if stop = .wrong then IO.eprint help
  return UInt32.ofNat outcome.exit

end Main

end RequireForm

/-- The command. -/
def main (args : List String) : IO UInt32 :=
  match RequireForm.Command.Request.read (args.map String.toList) with
  | .ok request => RequireForm.Main.perform request
  | .error stop => RequireForm.Main.refuse stop
