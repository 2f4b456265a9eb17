import RequireForm.Decimal.Shortest
import RequireForm.Unicode.Property

/-!
# Faults of JSON texts

A fault is found while a text is read: the text ends too early, it is not JSON, or it holds
a value of the wrong kind.

  1. `Found`: a value where another kind of value was expected, and how it is shown.
  2. `Fault`, its category and its message.
-/

namespace RequireForm

namespace Json

/-! ## Values that are shown -/

/-- A value of the wrong kind. -/
inductive Found where
  | null
  | boolean (value : Bool)
  | natural (n : Nat)
  | negative (n : Nat)
  | float (f : Float)
  | string (t : Text)
  | sequence
  | map

/-- The characters that are not shown as themselves. -/
def hidden : CharSet :=
  ((Category.setOf ["cc", "cf", "co", "cn", "zl", "zp", "zs"]).diff (CharSet.single ' ')).union
    Property.graphemeExtend

/-- A character within a text that is shown between quotes. -/
def showChar (c : Char) : Text :=
  if c = '\x00' then "\\0".toList
  else if c = '\t' then "\\t".toList
  else if c = '\r' then "\\r".toList
  else if c = '\n' then "\\n".toList
  else if c = '\\' || c = '\x22' then ['\\', c]
  else if hidden.contains c then
    "\\u\x7b".toList ++ Nat.toDigits 16 c.toNat ++ "\x7d".toList
  else [c]

/-- A text between quotes. -/
def showText (t : Text) : Text := ['\x22'] ++ t.flatMap showChar ++ ['\x22']

namespace Found

/-- A value as it is shown. -/
def text : Found → Text
  | null => "null".toList
  | boolean value => "boolean `".toList ++ (if value then "true`" else "false`").toList
  | natural n => "integer `".toList ++ Text.ofNat n ++ "`".toList
  | negative n => "integer `-".toList ++ Text.ofNat n ++ "`".toList
  | float f => "floating point `".toList ++ Decimal.ofFloat f ++ "`".toList
  | string t => "string ".toList ++ showText t
  | sequence => "sequence".toList
  | map => "map".toList

end Found

/-! ## Faults -/

/-- What is wrong with a text. -/
inductive Fault where
  | endInList
  | endInObject
  | endInString
  | endInValue
  | expectedColon
  | expectedListEnd
  | expectedObjectEnd
  | expectedIdent
  | expectedValue
  | invalidEscape
  | invalidNumber
  | numberOutOfRange
  | controlCharacter
  | keyNotString
  | loneSurrogate
  | trailingComma
  | trailingCharacters
  | endOfHexEscape
  | wrongKind (found : Found) (expected : String)
  | duplicateField (name : String)

/-- The kinds of faults. -/
inductive FaultCategory where
  /-- The text is not JSON. -/
  | notJson
  /-- A value does not fit. -/
  | data
  /-- The text ends too early. -/
  | tooShort
  deriving DecidableEq, Repr

namespace Fault

def category : Fault → FaultCategory
  | endInList => .tooShort
  | endInObject => .tooShort
  | endInString => .tooShort
  | endInValue => .tooShort
  | wrongKind _ _ => .data
  | duplicateField _ => .data
  | _ => .notJson

/-- A fault as a text. The line and the column where it was found are left out. -/
def message : Fault → Text
  | endInList => "EOF while parsing a list".toList
  | endInObject => "EOF while parsing an object".toList
  | endInString => "EOF while parsing a string".toList
  | endInValue => "EOF while parsing a value".toList
  | expectedColon => "expected `:`".toList
  | expectedListEnd => "expected `,` or `]`".toList
  | expectedObjectEnd => "expected `,` or `\x7d`".toList
  | expectedIdent => "expected ident".toList
  | expectedValue => "expected value".toList
  | invalidEscape => "invalid escape".toList
  | invalidNumber => "invalid number".toList
  | numberOutOfRange => "number out of range".toList
  | controlCharacter =>
      "control character (\\u0000-\\u001F) found while parsing a string".toList
  | keyNotString => "key must be a string".toList
  | loneSurrogate => "lone leading surrogate in hex escape".toList
  | trailingComma => "trailing comma".toList
  | trailingCharacters => "trailing characters".toList
  | endOfHexEscape => "unexpected end of hex escape".toList
  | wrongKind found expected =>
      "invalid type: ".toList ++ found.text ++ ", expected ".toList ++ expected.toList
  | duplicateField name => "duplicate field `".toList ++ name.toList ++ "`".toList

end Fault

end Json

end RequireForm
