import RequireForm.Json.Quoted
import RequireForm.Rule.Basic

/-!
# Options files — options that are kept in a file

  1. `OptionsFile`, and the options that it stands for.
  2. `OptionsFile.render`: the file as JSON on one line.
-/

namespace RequireForm

/-- What an options file says. A template is the only kind of replacement it can hold. -/
structure OptionsFile where
  pattern? : Option Text := none
  flags? : Option Text := none
  replaceBy? : Option Text := none
  escape : Bool := false
  deriving DecidableEq, Repr

namespace OptionsFile

/-- The options that a file stands for. -/
def options (f : OptionsFile) : Options where
  pattern? := f.pattern?.map .source
  flags? := f.flags?
  escape := f.escape
  replaceBy? := f.replaceBy?.map .template

/-- The options that a file stands for, if they make a rule. -/
def checkedOptions (f : OptionsFile) : Except PatternError Options :=
  (PathRule.ofOptions? f.options).map fun _ => f.options

/-! ## Writing -/

/-- The keys of a file. -/
inductive Key where
  | pattern | flags | replaceBy | escape
  deriving DecidableEq, Repr

/-- The name of a key. -/
def Key.name : Key → String
  | pattern => "match"
  | flags => "flags"
  | replaceBy => "replaceBy"
  | escape => "escapeRegExp"

/-- A key with its value. -/
def renderField (key : Key) (value : Text) : Text :=
  Json.quoted key.name.toList ++ [':'] ++ value

/-- A key with a text, followed by a comma; an absent one is not written. -/
def renderText (key : Key) : Option Text → Text
  | none => []
  | some t => renderField key (Json.quoted t) ++ [',']

/-- A truth value. -/
def renderBoolean (b : Bool) : Text := if b then "true".toList else "false".toList

/-- The file as JSON on one line. -/
def render (f : OptionsFile) : Text :=
  ['\x7b'] ++ renderText .pattern f.pattern? ++ renderText .flags f.flags? ++
    renderText .replaceBy f.replaceBy? ++ renderField .escape (renderBoolean f.escape) ++ ['\x7d']

end OptionsFile

end RequireForm
