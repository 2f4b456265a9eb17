import RequireForm.Files.Path

/-!
# Arguments — what the command is asked for

Arguments are read from left to right. A long name may have its value behind a `=`, and short
names may be run together, the last of them with its value. Nothing may be given twice, and
behind a `--` nothing is a name.

  1. `Request`, and `Stop` for arguments that make none.
  2. `TransformDraft`: what has been read of the arguments of a transform.
  3. `Request.read`.
-/

namespace RequireForm

namespace Command

/-- The arguments of a transform. -/
structure TransformArgs where
  input : FilePath
  output? : Option FilePath := none
  pattern? : Option Text := none
  flags? : Option Text := none
  replaceBy? : Option Text := none
  escape : Bool := false
  config? : Option FilePath := none
  deriving DecidableEq, Repr

/-- What the command is asked for. -/
inductive Request where
  /-- Tell what the command is for. -/
  | summary
  | version
  | transform (args : TransformArgs)
  deriving DecidableEq, Repr

/-- Why arguments make no request. -/
inductive Stop where
  /-- They ask for help. -/
  | help
  /-- They ask for the name and the version of the command. -/
  | release
  | wrong
  deriving DecidableEq, Repr

/-! ## Names -/

/-- The name of an argument that starts with two dashes, and its value behind a `=`. -/
def long? (arg : Text) : Option (Text × Option Text) :=
  match arg with
  | '-' :: '-' :: c :: rest =>
      match (c :: rest).dropWhile (· ≠ '=') with
      | [] => some (c :: rest, none)
      | _ :: value => some ((c :: rest).takeWhile (· ≠ '='), some value)
  | _ => none

/-- The short names of an argument that starts with one dash. -/
def short? (arg : Text) : Option Text :=
  match arg with
  | '-' :: c :: rest => if c = '-' then none else some (c :: rest)
  | _ => none

/-- The argument behind which nothing is a name. -/
def separator : Text := ['-', '-']

/-- An argument that may be the value of the name before it. -/
def isValue (arg : Text) : Bool := arg.head? ≠ some '-' || arg = ['-']

/-! ## Names that every request has -/

/-- Switch on what may be switched on once. -/
def once (on : Bool) : Except Stop Bool := if on then .error .wrong else .ok true

/-- Read short names; `release` tells that the version may be asked for. -/
def readShort (release verbose : Bool) : Text → Except Stop Bool
  | [] => .ok verbose
  | 'v' :: rest => (once verbose).bind fun verbose => readShort release verbose rest
  | 'h' :: _ => .error .help
  | 'V' :: _ => .error (if release then .release else .wrong)
  | _ => .error .wrong

/-- Read a long name. -/
def readLong (release verbose : Bool) (name : Text) (value? : Option Text) : Except Stop Bool :=
  if value?.isSome then .error .wrong
  else if name = "verbose".toList then once verbose
  else if name = "help".toList then .error .help
  else if name = "version".toList && release then .error .release
  else .error .wrong

/-- Read a name, if the argument is one. -/
def readName? (release verbose : Bool) (arg : Text) : Option (Except Stop Bool) :=
  match long? arg, short? arg with
  | some (name, value?), _ => some (readLong release verbose name value?)
  | none, some names => some (readShort release verbose names)
  | none, none => none

/-- Read arguments that are nothing but names. -/
def readNames (verbose : Bool) : List Text → Except Stop Unit
  | [] => .ok ()
  | arg :: rest =>
      if arg = separator then if rest = [] then .ok () else .error .wrong
      else
        match readName? false verbose arg with
        | some (.ok verbose) => readNames verbose rest
        | some (.error stop) => .error stop
        | none => .error .wrong

/-! ## Arguments of a transform -/

/-- The names that have a value. -/
inductive Setting where
  | output | pattern | replaceBy | flags | config
  deriving DecidableEq, Repr

/-- The setting of a long name. -/
def Setting.ofLong? (name : Text) : Option Setting :=
  if name = "output".toList then some output
  else if name = "match".toList then some pattern
  else if name = "replace-by".toList then some replaceBy
  else if name = "flags".toList then some flags
  else if name = "config".toList then some config
  else none

/-- The setting of a short name. -/
def Setting.ofShort? : Char → Option Setting
  | 'o' => some output
  | 'c' => some config
  | _ => none

/-- What has been read of the arguments of a transform. -/
structure TransformDraft where
  verbose : Bool := false
  input? : Option FilePath := none
  output? : Option FilePath := none
  pattern? : Option Text := none
  flags? : Option Text := none
  replaceBy? : Option Text := none
  escape : Bool := false
  config? : Option FilePath := none

namespace TransformDraft

/-- Give a value where there is none yet. -/
def give {α : Type} (old : Option α) (value : α) : Except Stop (Option α) :=
  if old.isSome then .error .wrong else .ok (some value)

/-- Give a path where there is none yet; it may not be empty. -/
def givePath (old : Option FilePath) (value : Text) : Except Stop (Option FilePath) :=
  if value = [] then .error .wrong else give old ⟨value⟩

/-- Set a setting. -/
def set (d : TransformDraft) (value : Text) : Setting → Except Stop TransformDraft
  | .output => (givePath d.output? value).map fun v => { d with output? := v }
  | .pattern => (give d.pattern? value).map fun v => { d with pattern? := v }
  | .replaceBy => (give d.replaceBy? value).map fun v => { d with replaceBy? := v }
  | .flags => (give d.flags? value).map fun v => { d with flags? := v }
  | .config => (givePath d.config? value).map fun v => { d with config? := v }

/-- Read the argument that is no name. -/
def addInput (d : TransformDraft) (arg : Text) : Except Stop TransformDraft :=
  (givePath d.input? arg).map fun v => { d with input? := v }

/-- Read short names. A setting takes what follows it as its value, or else waits for the next
    argument. -/
def readShort (d : TransformDraft) : Text → Except Stop (TransformDraft × Option Setting)
  | [] => .ok (d, none)
  | c :: rest =>
      match Setting.ofShort? c, rest with
      | some setting, [] => .ok (d, some setting)
      | some setting, '=' :: value => (d.set value setting).map (·, none)
      | some setting, value => (d.set value setting).map (·, none)
      | none, _ =>
          if c = 'v' then
            match once d.verbose with
            | .ok verbose => readShort { d with verbose := verbose } rest
            | .error stop => .error stop
          else if c = 'h' then .error .help
          else .error .wrong

/-- Read a long name. A setting without a value waits for the next argument. -/
def readLong (d : TransformDraft) (name : Text) (value? : Option Text) :
    Except Stop (TransformDraft × Option Setting) :=
  match Setting.ofLong? name, value? with
  | some setting, none => .ok (d, some setting)
  | some setting, some value => (d.set value setting).map (·, none)
  | none, _ =>
      if name = "escape-regexp".toList && value?.isNone then
        (once d.escape).map fun v => ({ d with escape := v }, none)
      else
        (Command.readLong false d.verbose name value?).map fun v =>
          ({ d with verbose := v }, none)

/-- Read an argument that is no value of a name. -/
def readArg (d : TransformDraft) (arg : Text) : Except Stop (TransformDraft × Option Setting) :=
  match long? arg, short? arg with
  | some (name, value?), _ => d.readLong name value?
  | none, some names => d.readShort names
  | none, none => (d.addInput arg).map (·, none)

/-- Read arguments; one may be waited for as the value of a setting. -/
def readArgs (d : TransformDraft) (waiting : Option Setting) :
    List Text → Except Stop TransformDraft
  | [] => if waiting.isSome then .error .wrong else .ok d
  | arg :: rest =>
      match waiting with
      | some setting =>
          if isValue arg then (d.set arg setting).bind fun d => readArgs d none rest
          else .error .wrong
      | none =>
          if arg = separator then rest.foldlM addInput d
          else (d.readArg arg).bind fun (d, waiting) => readArgs d waiting rest

/-- The arguments, if there is an input. -/
def finish (d : TransformDraft) : Except Stop Request :=
  match d.input? with
  | none => .error .wrong
  | some input =>
      .ok (.transform
        ⟨input, d.output?, d.pattern?, d.flags?, d.replaceBy?, d.escape, d.config?⟩)

end TransformDraft

/-! ## Requests -/

/-- Ask for help about one request, or about all. -/
def readHelp : List Text → Stop
  | [] => .help
  | [name] =>
      if ["transform", "version", "help"].any fun known => known.toList = name then .help
      else .wrong
  | _ => .wrong

/-- Read the name of a request and its arguments. -/
def readRequest (name : Text) (args : List Text) : Except Stop Request :=
  if name = "transform".toList then
    (TransformDraft.readArgs {} none args).bind TransformDraft.finish
  else if name = "version".toList then (readNames false args).map fun _ => .version
  else if name = "help".toList then .error (readHelp args)
  else .error .wrong

/-- Read arguments, of which some may have been read. -/
def readFrom (verbose : Bool) : List Text → Except Stop Request
  | [] => .ok .summary
  | arg :: rest =>
      if arg = separator then if rest = [] then .ok .summary else .error .wrong
      else
        match readName? true verbose arg with
        | some (.ok verbose) => readFrom verbose rest
        | some (.error stop) => .error stop
        | none => readRequest arg rest

/-- Read the arguments of the command. -/
def Request.read (args : List Text) : Except Stop Request := readFrom false args

end Command

end RequireForm
