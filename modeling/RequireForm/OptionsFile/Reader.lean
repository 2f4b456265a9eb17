import RequireForm.Json.Value
import RequireForm.OptionsFile.Basic

/-!
# Reading options files

A file is an object, in which keys of other names do not count and no key of its own comes
twice, or a list of up to four values in the order of the keys. Only the truth value may not
be a null.

  1. `Fields`: what has been read of an object.
  2. `readObject`, `readList`, and `OptionsFile.read` for a whole file.
-/

namespace RequireForm

namespace OptionsFile

open Json

/-- What has been read of an object: of each key whether it has come, and its value. -/
structure Fields where
  pattern? : Option (Option Text) := none
  flags? : Option (Option Text) := none
  replaceBy? : Option (Option Text) := none
  escape? : Option Bool := none

namespace Fields

/-- The file with the fields that have come. -/
def file (f : Fields) : OptionsFile :=
  ⟨f.pattern?.getD none, f.flags?.getD none, f.replaceBy?.getD none, f.escape?.getD false⟩

/-- A key has come. -/
def has (f : Fields) : Key → Bool
  | .pattern => f.pattern?.isSome
  | .flags => f.flags?.isSome
  | .replaceBy => f.replaceBy?.isSome
  | .escape => f.escape?.isSome

/-- Read the value of a key that has not come before. -/
def readValue (f : Fields) (key : Key) (s : Text) : Except Fault (Fields × Text) :=
  match key with
  | .pattern => (readText? s).map fun (t, s) => ({ f with pattern? := some t }, s)
  | .flags => (readText? s).map fun (t, s) => ({ f with flags? := some t }, s)
  | .replaceBy => (readText? s).map fun (t, s) => ({ f with replaceBy? := some t }, s)
  | .escape => (readBoolean s).map fun (b, s) => ({ f with escape? := some b }, s)

end Fields

/-- The key with a name. -/
def Key.ofName? (name : Text) : Option Key :=
  [pattern, flags, replaceBy, escape].find? fun key => key.name.toList = name

/-- Read the colon and the value behind the name of a key. A key that has come before is a
    fault even if nothing follows it. -/
def readField (f : Fields) (name : Text) (s : Text) : Except Fault (Fields × Text) :=
  match Key.ofName? name with
  | none => ((colon s).bind skipValue).map fun s => (f, s)
  | some key =>
      if f.has key then .error (.duplicateField key.name)
      else (colon s).bind (f.readValue key)

/-- Read a field that starts here. -/
def readKeyed (f : Fields) (s : Text) : Except Fault (Fields × Text) := do
  let (name, s) ← Quoted.read s
  readField f name s

/-- Step to the name of the next field, behind its first quote, or behind the closing brace.
    `fresh` tells that none has come yet. -/
def nextField (fresh : Bool) (s : Text) : Except Fault (Bool × Text) :=
  match skipGap s with
  | [] => .error .endInObject
  | '\x7d' :: s => .ok (false, s)
  | c :: s =>
      if fresh then if c = '\x22' then .ok (true, s) else .error .keyNotString
      else if c = ',' then
        match skipGap s with
        | [] => .error .endInValue
        | '\x22' :: s => .ok (true, s)
        | '\x7d' :: _ => .error .trailingComma
        | _ => .error .keyNotString
      else .error .expectedObjectEnd

/-- Read the fields of an object up to its closing brace. Each field is a character at least,
    so `fuel` is no limit if it is greater than the number of characters. -/
def readFields : Nat → Bool → Fields → Text → Except Fault (OptionsFile × Text)
  | 0, _, _, _ => .error .endInObject
  | fuel + 1, fresh, f, s =>
      match nextField fresh s with
      | .error fault => .error fault
      | .ok (false, s) => .ok (f.file, s)
      | .ok (true, s) =>
          match readKeyed f s with
          | .error fault => .error fault
          | .ok (f, s) => readFields fuel false f s

/-- Read an object behind its opening brace. -/
def readObject (s : Text) : Except Fault (OptionsFile × Text) :=
  readFields (s.length + 1) true {} s

/-- Read the next value of a list, if there is one; `fresh` tells that none has come yet. -/
def readItem {α : Type} (fresh : Bool) (default : α) (read : Text → Except Fault (α × Text))
    (s : Text) : Except Fault (α × Text) :=
  match skipGap s with
  | [] => .error .endInList
  | ']' :: s => .ok (default, ']' :: s)
  | c :: s =>
      if fresh then read (c :: s)
      else if c = ',' then
        match skipGap s with
        | [] => .error .endInValue
        | ']' :: _ => .error .trailingComma
        | s => read s
      else .error .expectedListEnd

/-- Step over the end of a list. -/
def endList (s : Text) : Except Fault Text :=
  match skipGap s with
  | [] => .error .endInList
  | ']' :: s => .ok s
  | ',' :: s =>
      match skipGap s with
      | ']' :: _ => .error .trailingComma
      | _ => .error .trailingCharacters
  | _ => .error .trailingCharacters

/-- Read a list behind its opening bracket. -/
def readList (s : Text) : Except Fault (OptionsFile × Text) := do
  let (pattern?, s) ← readItem true none readText? s
  let (flags?, s) ← readItem false none readText? s
  let (replaceBy?, s) ← readItem false none readText? s
  let (escape, s) ← readItem false false readBoolean s
  let s ← endList s
  return (⟨pattern?, flags?, replaceBy?, escape⟩, s)

/-- Nothing but gaps may follow a file. -/
def finish (file : OptionsFile) (s : Text) : Except Fault OptionsFile :=
  if skipGap s = [] then .ok file else .error .trailingCharacters

/-- Read a file. -/
def read (s : Text) : Except Fault OptionsFile := do
  let (file, s) ← match skipGap s with
    | '[' :: s => readList s
    | '\x7b' :: s => readObject s
    | s => throw (wrongKind "struct OptionsFile" s)
  finish file s

end OptionsFile

end RequireForm
