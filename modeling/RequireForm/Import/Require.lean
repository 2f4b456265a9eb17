import RequireForm.Import.Basic

/-!
# Imports in require form

The text that takes an import's place, given the text of its `require(...)` call.

  1. `requireCall`: the call for a path literal.
  2. `ImportBinding.require`: one statement per thing bound, joined by `statementSeparator`;
     a binding that binds nothing leaves the call alone.
-/

namespace RequireForm

/-- What stands between the statements that take one statement's place. -/
def statementSeparator : Text := ";\n".toList

/-- The call that loads a module: `quoted` is its path literal. -/
def requireCall (quoted : Text) : Text := "require(".toList ++ quoted ++ ")".toList

/-- The statement that gives a value a name. -/
def constant (name value : Text) : Text :=
  "const ".toList ++ name ++ " = ".toList ++ value

/-- A member of a value. -/
def member (value name : Text) : Text := value ++ ".".toList ++ name

namespace ImportBinding

/-- A module without a default stands in for its own default. -/
def defaultOrModule (name call : Text) : Text :=
  constant name (member call "default".toList ++ " || ".toList ++ call)

/-- The names that a list takes over as they are. -/
def plainNames (items : List Specifier) : List Text :=
  (items.filter (!·.isAliased)).map (·.name)

/-- The items of a list that bind another name. -/
def aliased (items : List Specifier) : List Specifier := items.filter (·.isAliased)

/-- One statement that takes the plain names of a list apart, if it has any. -/
def plainStatements (items : List Specifier) (call : Text) : List Text :=
  match plainNames items with
  | [] => []
  | names => [constant ("\x7b ".toList ++ Text.join ", ".toList names ++ " \x7d".toList) call]

/-- One statement for each item that binds another name. -/
def aliasStatements (items : List Specifier) (call : Text) : List Text :=
  (aliased items).map fun item => constant item.bound (member call item.name)

/-- A list in require form; an empty one only loads the module. -/
def requireList (items : List Specifier) (call : Text) : Text :=
  match plainStatements items call ++ aliasStatements items call with
  | [] => call
  | statements => Text.join statementSeparator statements

/-- A star in require form. -/
def requireStar (name? : Option Text) (call : Text) : Text :=
  match name? with
  | none => call
  | some name => constant name call

/-- A binding in require form. -/
def require (call : Text) : ImportBinding → Text
  | .effects => call
  | .default name => constant name call
  | .star name? => requireStar name? call
  | .named items => requireList items call
  | .defaultAndNamed name items =>
      defaultOrModule name call ++ statementSeparator ++ requireList items call
  | .defaultAndStar name name? =>
      defaultOrModule name call ++ statementSeparator ++ requireStar name? call

end ImportBinding

end RequireForm
