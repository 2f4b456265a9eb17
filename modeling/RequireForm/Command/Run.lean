import RequireForm.Command.Arguments
import RequireForm.Files.Transform
import RequireForm.OptionsFile.Load

/-!
# Running the command

  1. `Failure`: an error with what it comes from, and its text.
  2. `TransformArgs.options`: the options of a run; arguments come before the options file.
  3. `run`: what the command prints, how it ends, and what becomes of the files.
-/

namespace RequireForm

namespace Command

/-! ## Failures -/

/-- Why a run fails: an error, and the errors it comes from, the nearest first. -/
structure Failure where
  message : Text
  causes : List Text := []
  deriving DecidableEq, Repr

namespace Failure

/-- A text with its lines after the first set in. -/
def indented (margin : Text) (t : Text) : Text :=
  Text.join ('\n' :: margin) (Text.cutAt (· = '\n') t)

/-- A number at the end of five columns. -/
def column (n : Nat) : Text :=
  let digits := Text.ofNat n
  List.replicate (5 - digits.length) ' ' ++ digits

/-- A cause with its number. -/
def numbered (n : Nat) (cause : Text) : Text :=
  column n ++ ": ".toList ++ indented (List.replicate 7 ' ') cause

/-- Causes from a number on, each on lines of its own. -/
def numberedFrom (n : Nat) : List Text → Text
  | [] => []
  | cause :: rest => '\n' :: numbered n cause ++ numberedFrom (n + 1) rest

/-- Causes; only where there are several do they have numbers. -/
def renderCauses : List Text → Text
  | [cause] => '\n' :: List.replicate 4 ' ' ++ indented (List.replicate 4 ' ') cause
  | causes => numberedFrom 0 causes

/-- A failure as it is printed. -/
def render (f : Failure) : Text :=
  "Error: ".toList ++ f.message ++
    if f.causes = [] then [] else "\n\nCaused by:".toList ++ renderCauses f.causes

/-- A failure of something, told with what was tried. -/
def within (action message : Text) (causes : List Text) : Failure := ⟨action, message :: causes⟩

/-- A path that something was tried with. -/
def action (what : String) (p : FilePath) : Text := what.toList ++ p.text

end Failure

/-! ## Options -/

namespace TransformArgs

/-- An options file with the arguments put over what it says. -/
def overlay (args : TransformArgs) (file : OptionsFile) : OptionsFile where
  pattern? := args.pattern?.or file.pattern?
  flags? := args.flags?.or file.flags?
  replaceBy? := args.replaceBy?.or file.replaceBy?
  escape := file.escape || args.escape

/-- The options file that the arguments name, or an empty one. -/
def file (args : TransformArgs) (t : FileTree) : Except Failure OptionsFile :=
  match args.config? with
  | none => .ok {}
  | some p =>
      match OptionsFile.load t p with
      | .ok file => .ok file
      | .error e => .error (.within (Failure.action "failed to load " p) e.message e.causes)

/-- The options of a run. They are checked after they have been put together. -/
def options (args : TransformArgs) (t : FileTree) : Except Failure Options :=
  match args.file t with
  | .error failure => .error failure
  | .ok file =>
      match (args.overlay file).ruleOptions with
      | .ok o => .ok o
      | .error e => .error ⟨e.message, e.causes⟩

end TransformArgs

/-! ## Runs -/

/-- What comes of a run: the files, what has been printed, and why it failed, if it did. -/
structure Ended where
  tree : FileTree
  printed : Text := []
  failure? : Option Failure := none
  deriving DecidableEq, Repr

/-- Create the directories above an output. A path in the working directory needs none. -/
def makeParent (t : FileTree) (p : FilePath) : FileTree × Except IoError Unit :=
  match p.parent? with
  | none => (t, .ok ())
  | some parent => t.makeDirectories parent

/-- Put out a text: to a file, or to be printed. -/
def emit (t : FileTree) (text : Text) : Option FilePath → Ended
  | none => { tree := t, printed := text }
  | some p =>
      match makeParent t p with
      | (t, .error e) => { tree := t, failure? := some ⟨e.message, []⟩ }
      | (t, .ok ()) =>
          match t.write p text with
          | (t, .ok ()) => { tree := t }
          | (t, .error e) =>
              { tree := t
                failure? := some (.within (Failure.action "failed to write " p) e.message []) }

/-- The line that tells what became of a tree. -/
def treeLine (r : TreeReport) (target : FilePath) : Text :=
  "Transformed ".toList ++ Text.ofNat r.transformed.length ++ " file(s) into ".toList ++
    target.text ++ " (".toList ++ Text.ofNat r.totals.imports ++ " imports, ".toList ++
    Text.ofNat r.totals.exports ++ " exports)\n".toList

/-- The line that tells why a file was not transformed. -/
def failedLine (failed : FilePath × FileError) : Text :=
  "  failed: ".toList ++ failed.1.text ++ ": ".toList ++ failed.2.message ++ ['\n']

/-- The failure of a tree of which some files were not transformed. -/
def treeFailure? (r : TreeReport) : Option Failure :=
  if r.failed = [] then none
  else some ⟨Text.ofNat r.failed.length ++ " file(s) failed".toList, []⟩

/-- Transform a tree. -/
def runTree (o : Options) (t : FileTree) (source : FilePath) : Option FilePath → Ended
  | none =>
      { tree := t
        failure? := some ⟨"transforming a directory requires --output <DIR>".toList, []⟩ }
  | some target =>
      match transformTree o t source target with
      | (t, .error e) =>
          { tree := t
            failure? :=
              some (.within (Failure.action "failed to transform " source) e.message e.causes) }
      | (t, .ok r) =>
          { tree := t
            printed := treeLine r target ++ r.failed.flatMap failedLine
            failure? := treeFailure? r }

/-- Transform what is read from standard input. -/
def runInput (o : Options) (t : FileTree) (input : Content) (output? : Option FilePath) : Ended :=
  match input with
  | .text source => emit t (transform o source).output output?
  | .bytes _ =>
      { tree := t
        failure? := some (.within "failed to read stdin".toList IoError.notText.message []) }

/-- Transform a file. -/
def runFile (o : Options) (t : FileTree) (source : FilePath) (output? : Option FilePath) : Ended :=
  match transformFile o t source with
  | .ok text => emit t text output?
  | .error e =>
      { tree := t
        failure? :=
          some (.within (Failure.action "failed to transform " source) e.message e.causes) }

/-- Transform what the arguments name: standard input, a tree or a file. -/
def runTransform (args : TransformArgs) (input : Content) (t : FileTree) : Ended :=
  match args.options t with
  | .error failure => { tree := t, failure? := some failure }
  | .ok o =>
      if args.input.text = ['-'] then runInput o t input args.output?
      else if t.leadsToDirectory args.input then runTree o t args.input args.output?
      else runFile o t args.input args.output?

/-! ## The command -/

/-- The name and the version of the command. -/
def release : Text := "esm2cjs 0.1.0\n".toList

/-- What the command prints if it is asked for its version only. -/
def versionLine : Text := "esm2cjs v0.1.0\n".toList

/-- What the command is for. -/
def summary : Text :=
  ("esm2cjs - ES module to CommonJS rewriter\n" ++
    "Run 'esm2cjs transform <FILE>' to rewrite a file\n" ++
    "Run 'esm2cjs --help' for more information\n").toList

/-- Do what the command is asked for. -/
def Request.run (input : Content) (t : FileTree) : Request → Ended
  | summary => { tree := t, printed := Command.summary }
  | version => { tree := t, printed := versionLine }
  | transform args => runTransform args input t

/-- How the command ends: what it prints, its error, its exit code, and the files. -/
structure Outcome where
  exit : Nat
  printed : Text
  error? : Option Text
  tree : FileTree
  deriving DecidableEq, Repr

/-- The outcome of a run. -/
def Ended.outcome (e : Ended) : Outcome where
  exit := if e.failure?.isSome then 1 else 0
  printed := e.printed
  error? := e.failure?.map Failure.render
  tree := e.tree

/-- The outcome of arguments that make no request. -/
def Stop.outcome (t : FileTree) : Stop → Outcome
  | help => ⟨0, [], none, t⟩
  | .release => ⟨0, Command.release, none, t⟩
  | wrong => ⟨2, [], none, t⟩

/-- Run the command. -/
def run (args : List Text) (input : Content) (t : FileTree) : Outcome :=
  match Request.read args with
  | .ok request => (request.run input t).outcome
  | .error stop => stop.outcome t

end Command

end RequireForm
