import RequireForm.Export.Basic
import RequireForm.Import.Require

/-!
# Exports as assignments

The text that takes an export's place. For a default, a declaration and a variable the
source goes on behind it with the value, the declaration or the initializer.

  1. Lists: local names, and names of another module.
  2. `Export.copyAll`: the loop that publishes a whole module.
  3. `Export.assign`.
-/

namespace RequireForm

namespace Export

/-- The name `default`. -/
def defaultName : Text := "default".toList

/-- The place under which a name is published. -/
def published (name : Text) : Text := member "exports".toList name

/-- The assignment that publishes a value. -/
def publish (name value : Text) : Text := published name ++ " = ".toList ++ value

/-- A list of local names. No local name is `default`, so such an item is left out. -/
def assignLocal (items : List Specifier) : Text :=
  Text.join statementSeparator
    ((items.filter (·.name ≠ defaultName)).map fun item => publish item.bound item.name)

/-- What an item of another module stands for: without an alias, and for its default, the
    module itself. -/
def itemValue (call : Text) (item : Specifier) : Text :=
  if item.isAliased && item.name ≠ defaultName then member call item.name else call

/-- A list of names of another module. -/
def assignFrom (items : List Specifier) (call : Text) : Text :=
  Text.join statementSeparator (items.map fun item => publish item.bound (itemValue call item))

/-- Publish everything but the default of a module, through the `n`-th pair of temporaries. -/
def copyAll (n : Nat) (call : Text) : Text :=
  let value := "$val".toList ++ Text.ofNat n
  let key := "$key".toList ++ Text.ofNat n
  constant value call ++ statementSeparator ++
    "for (const ".toList ++ key ++ " of Object.keys(".toList ++ value ++ ")) if (".toList ++
    key ++ " !== 'default') exports[".toList ++ key ++ "] = ".toList ++ value ++
    "[".toList ++ key ++ "]".toList

/-- The path whose module the export loads. -/
def path? : Export → Option PathLiteral
  | .named _ path? => path?
  | .star _ path => some path
  | _ => none

/-- An export as assignments: `call` loads the module of its path, and `n` numbers the
    temporaries. -/
def assign (n : Nat) (call : Text) : Export → Text
  | .default _ => "module.exports = ".toList
  | .named items none => assignLocal items
  | .named items (some _) => assignFrom items call
  | .declaration name => publish name []
  | .star _ _ => copyAll n call
  | .binding name => published name
  | .identifier name => publish name name

end Export

end RequireForm
