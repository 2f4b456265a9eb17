import RequireForm.Files.Access
import RequireForm.OptionsFile.Reader

/-!
# Loading options files

  1. `ConfigError`: why a file gives no options.
  2. `OptionsFile.load`: the file at a path. `OptionsFile.loadOptions`: its options, if they
     make a rule.
-/

namespace RequireForm

/-- Why an options file gives no options. -/
inductive ConfigError where
  | io (e : IoError)
  | json (fault : Json.Fault)
  | pattern (e : PatternError)

namespace ConfigError

/-- An error as a text. -/
def message : ConfigError → Text
  | io e => "Failed to read file: ".toList ++ e.message
  | json fault => "Failed to parse JSON: ".toList ++ fault.message
  | pattern e => e.message

/-- The texts of what an error comes from, the nearest first. An invalid pattern comes from what
    is wrong with it, which has no text here (`PatternError.message`): that cause is left out. -/
def causes : ConfigError → List Text
  | io e => [e.message]
  | json fault => [fault.message]
  | pattern _ => []

end ConfigError

namespace OptionsFile

/-- The options file that a text is. -/
def ofText (t : Text) : Except ConfigError OptionsFile :=
  match read t with
  | .error fault => .error (.json fault)
  | .ok file => .ok file

/-- The options of a file, which have to make a rule. -/
def ruleOptions (f : OptionsFile) : Except ConfigError Options :=
  match f.checkedOptions with
  | .error e => .error (.pattern e)
  | .ok o => .ok o

/-- The options file at a path. -/
def load (t : FileTree) (p : FilePath) : Except ConfigError OptionsFile :=
  match t.read p with
  | .error e => .error (.io e)
  | .ok text => ofText text

/-- The options of the file at a path. -/
def loadOptions (t : FileTree) (p : FilePath) : Except ConfigError Options :=
  match load t p with
  | .error e => .error e
  | .ok file => file.ruleOptions

end OptionsFile

end RequireForm
