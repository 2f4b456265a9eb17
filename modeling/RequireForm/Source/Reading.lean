import RequireForm.Text

/-!
# Leaf readers — words, names, paths and lists at the front of a source

A reader looks at the front of a text and gives what it found together with the rest, or
nothing. None of them looks behind its own result except to see that a word has ended.

  1. Spaces, names and whole words.
  2. `PathLiteral`: a quoted module path, its reader and its printer.
  3. `Specifier`: an item of a brace list, and the list itself.
-/

namespace RequireForm

/-! ## Spaces, names, words -/

/-- A character of a name: an ASCII letter or digit, `_` or `$`. -/
def isNameChar (c : Char) : Bool := c.isAlphanum || c = '_' || c = '$'

/-- A space between the parts of a statement; line breaks count. -/
def isSpace (c : Char) : Bool := c = ' ' || c = '\t' || c = '\r' || c = '\n'

/-- A space that does not end the line. -/
def isInlineSpace (c : Char) : Bool := c = ' ' || c = '\t'

/-- Step over spaces. -/
def skipSpaces (s : Text) : Text := s.dropWhile isSpace

/-- Step over spaces, of which there has to be one. -/
def spaces? : Text → Option Text
  | [] => none
  | c :: rest => if isSpace c then some (skipSpaces rest) else none

/-- A name has ended: no further name character follows. -/
def nameEnds : Text → Bool
  | [] => true
  | c :: _ => !isNameChar c

/-- Step over a whole word: the word itself, with no name character behind it. -/
def word? (w : Text) (s : Text) : Option Text :=
  match Text.after? w s with
  | some rest => if nameEnds rest then some rest else none
  | none => none

/-- Read a name: the longest run of name characters, not empty. -/
def name? (s : Text) : Option (Text × Text) :=
  match s.takeWhile isNameChar with
  | [] => none
  | name => some (name, s.dropWhile isNameChar)

/-- A statement may end here: only spaces and tabs lie before the end of the text, of the
    line or of the statement, or before a line comment. -/
def statementEnds (s : Text) : Bool :=
  match s.dropWhile isInlineSpace with
  | [] => true
  | ';' :: _ => true
  | '\n' :: _ => true
  | '\r' :: _ => true
  | '/' :: '/' :: _ => true
  | _ => false

/-! ## Path literals -/

/-- A quoted module path: the quote, and the text between the quotes. -/
structure PathLiteral where
  quote : Char
  value : Text
  deriving DecidableEq, Repr

namespace PathLiteral

/-- The three quotes that enclose a path: `'`, `"` and the backtick. -/
def isQuote (c : Char) : Bool := c = '\x27' || c = '\x22' || c = '\x60'

/-- The literal with other text between its quotes. -/
def quoting (p : PathLiteral) (value : Text) : Text := p.quote :: (value ++ [p.quote])

/-- The literal as it is written. -/
def written (p : PathLiteral) : Text := p.quoting p.value

/-- A character between the quotes `q`: neither that quote nor a line feed. -/
def inside (q c : Char) : Bool := c ≠ q && c ≠ '\n'

/-- Read a path literal: closed by its opening quote on the same line, and not empty. -/
def read? : Text → Option (PathLiteral × Text)
  | [] => none
  | q :: s =>
      if isQuote q then
        match s.takeWhile (inside q), s.dropWhile (inside q) with
        | v :: value, c :: rest => if c = q then some (⟨q, v :: value⟩, rest) else none
        | _, _ => none
      else none

end PathLiteral

/-! ## Specifiers and brace lists -/

/-- An item of a brace list: `name`, or `name as alias`. -/
structure Specifier where
  name : Text
  alias? : Option Text
  deriving DecidableEq, Repr

namespace Specifier

/-- The name that the item binds: the alias if there is one. -/
def bound (s : Specifier) : Text := s.alias?.getD s.name

/-- The item is written with `as`. -/
def isAliased (s : Specifier) : Bool := s.alias?.isSome

/-- A word that is a name from end to end. -/
def isName (w : Text) : Bool := w ≠ [] && w.all isNameChar

/-- Read one item of a list from its words. -/
def ofWords? : List Text → Option Specifier
  | [name] => if isName name then some ⟨name, none⟩ else none
  | [name, joint, alias_] =>
      if isName name && joint = "as".toList && isName alias_ then some ⟨name, some alias_⟩
      else none
  | _ => none

/-- Read the text between the braces: items between commas, empty ones dropped; one item
    that is not a specifier spoils the list. -/
def listOfBody? (body : Text) : Option (List Specifier) :=
  (((Text.cutAt (· = ',') body).map Text.trim).filter (· ≠ [])).mapM (ofWords? ∘ Text.words)

/-- A character that ends the body of a brace list, one way or the other. -/
def endsBody (c : Char) : Bool := c = '\x7d' || c = '\x7b' || c = ';'

/-- Read a brace list. It may run over lines, and no brace or `;` may stand in it. -/
def list? : Text → Option (List Specifier × Text)
  | '\x7b' :: s =>
      match s.dropWhile (!endsBody ·) with
      | '\x7d' :: rest => (listOfBody? (s.takeWhile (!endsBody ·))).map (·, rest)
      | _ => none
  | _ => none

end Specifier

end RequireForm
