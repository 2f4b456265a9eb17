import RequireForm.Pattern.Layout
import RequireForm.Pattern.Node

/-!
# Primitives — the parts of a pattern that have no parts

A primitive is a character that stands for itself, a sign, or an escape: `\` and what it
announces. Digits are not announced by `\`, since groups cannot be referred to.

  1. `Primitive`, as a pattern and as an item between brackets.
  2. `Primitive.escape?`: behind a `\`. `Primitive.read?`: outside brackets.
-/

namespace RequireForm

namespace Pattern

/-- A part of a pattern that has no parts. -/
inductive Primitive where
  | literal (l : Literal)
  | dot
  | assertion (a : Assertion)
  | property (negated : Bool) (name : PropertyName)
  | shorthand (negated : Bool) (class_ : Shorthand)

/-- A character that is special somewhere in a pattern. -/
def isMeta (c : Char) : Bool := "\\.+*?()|[]\x7b\x7d^$#&-~".toList.contains c

/-- A pattern that matches just a text: what is special in it is escaped. -/
def escape (t : Text) : Text := t.flatMap fun c => if isMeta c then ['\\', c] else [c]

/-- A literal that is written as itself. -/
def Literal.verbatim (c : Char) : Literal := ⟨c, false⟩

namespace Primitive

/-- A primitive as a pattern. -/
def node : Primitive → Node
  | literal l => .literal l
  | dot => .dot
  | assertion a => .assertion a
  | property negated name => .property negated name
  | shorthand negated class_ => .shorthand negated class_

/-- A primitive between brackets: it has to stand for characters. -/
def item? : Primitive → Option ClassSet
  | literal l => some (.literal l)
  | property negated name => some (.property negated name)
  | shorthand negated class_ => some (.shorthand negated class_)
  | _ => none

/-- A primitive at the end of a range. -/
def literal? : Primitive → Option Literal
  | literal l => some l
  | _ => none

/-! ## Escapes -/

/-- An ASCII character that `\` may announce to stand for itself. -/
def isEscapable (c : Char) : Bool :=
  c.toNat < 0x80 && !c.isAlphanum && c ≠ '<' && c ≠ '>'

/-- The characters that are written as `\` and a letter. -/
def control? : Char → Option Char
  | 'a' => some '\x07'
  | 'f' => some '\x0c'
  | 't' => some '\t'
  | 'n' => some '\n'
  | 'r' => some '\r'
  | 'v' => some '\x0b'
  | _ => none

/-- The conditions that are written as `\` and a character. -/
def assertion? : Char → Option Assertion
  | 'A' => some .textStart
  | 'z' => some .textEnd
  | 'b' => some .wordBoundary
  | 'B' => some .noWordBoundary
  | '<' => some .wordStart
  | '>' => some .wordEnd
  | _ => none

/-- The classes that are written as `\` and a letter, and whether they are negated. -/
def shorthand? : Char → Option (Bool × Shorthand)
  | 'd' => some (false, .digit)
  | 's' => some (false, .space)
  | 'w' => some (false, .word)
  | 'D' => some (true, .digit)
  | 'S' => some (true, .space)
  | 'W' => some (true, .word)
  | _ => none

/-- The number of digits behind the letter that announces a code point. -/
def codeDigits? : Char → Option Nat
  | 'x' => some 2
  | 'u' => some 4
  | 'U' => some 8
  | _ => none

/-- The character with a code point. -/
def charOf? (n : Nat) : Option Char :=
  if n.isValidChar then some (Char.ofNat n) else none

/-- The character whose code point some hexadecimal digits write. -/
def charOfHex? (digits : Text) : Option Char :=
  if digits ≠ [] && digits.all fun c => (CharSet.hexDigit? c).isSome then
    charOf? (CharSet.hexValue digits)
  else none

/-- Read `n` hexadecimal digits. -/
def hexDigits? (verbose : Bool) : Nat → Text → Option (Text × Text)
  | 0, s => some ([], s)
  | _ + 1, [] => none
  | n + 1, c :: s => (hexDigits? verbose n (skipLayout verbose s)).map fun (t, s) => (c :: t, s)

/-- Read a code point behind its letter: in braces, or with a fixed number of digits. -/
def code? (verbose : Bool) (digits : Nat) (s : Text) : Option (Primitive × Text) :=
  match skipLayout verbose s with
  | '\x7b' :: s => do
      let (hex, s) ← braced? verbose s
      return (.literal ⟨← charOfHex? hex, false⟩, skipLayout verbose s)
  | s => do
      let (hex, s) ← hexDigits? verbose digits s
      return (.literal ⟨← charOfHex? hex, digits = 2⟩, s)

/-- The parts of a name before and after the first place of a separator in it. -/
def splitAt? (separator : Text) : Text → Option (Text × Text)
  | [] => none
  | c :: t =>
      match Text.after? separator (c :: t) with
      | some rest => some ([], rest)
      | none => (splitAt? separator t).map fun (l, r) => (c :: l, r)

/-- Read the name of a property from what stands between the braces. -/
def propertyName (inner : Text) : PropertyName :=
  let split := (splitAt? "!=".toList inner).or
    ((splitAt? ":".toList inner).or (splitAt? "=".toList inner))
  match split with
  | some (name, value) => .valued name value
  | none => .plain inner

/-- Read a property behind its letter. -/
def property? (verbose negated : Bool) (s : Text) : Option (Primitive × Text) :=
  match skipLayout verbose s with
  | [] => none
  | '\\' :: _ => none
  | '\x7b' :: s => do
      let (inner, s) ← braced? verbose s
      return (.property negated (propertyName inner), s)
  | c :: s => some (.property negated (.plain [c]), skipLayout verbose s)

/-- A character of the name of a kind of word boundary. -/
def isBoundaryChar (c : Char) : Bool := c.isAlpha || c = '-'

/-- The kinds of word boundaries. -/
def boundary? (name : Text) : Option Assertion :=
  if name = "start".toList then some .wordStart
  else if name = "end".toList then some .wordEnd
  else if name = "start-half".toList then some .wordStartHalf
  else if name = "end-half".toList then some .wordEndHalf
  else none

/-- Read what may follow a word boundary: its kind in braces. Braces that do not start with a
    name are left alone, since they count repetitions. -/
def boundaryKind? (verbose : Bool) : Text → Option (Primitive × Text)
  | '\x7b' :: s =>
      match skipLayout verbose s with
      | [] => none
      | c :: rest =>
          if isBoundaryChar c then
            match spaced verbose isBoundaryChar (c :: rest) with
            | (name, '\x7d' :: after) => (boundary? name).map (.assertion ·, after)
            | _ => none
          else some (.assertion .wordBoundary, '\x7b' :: s)
  | s => some (.assertion .wordBoundary, s)

/-- Read an escape whose letter announces more than itself. -/
def announced? (verbose : Bool) (c : Char) (s : Text) : Option (Primitive × Text) :=
  match codeDigits? c, shorthand? c, control? c with
  | some digits, _, _ => code? verbose digits s
  | none, some (negated, class_), _ => some (.shorthand negated class_, s)
  | none, none, some control => some (.literal (.verbatim control), s)
  | none, none, none =>
      if c = 'p' || c = 'P' then property? verbose (c = 'P') s
      else if c = 'b' then boundaryKind? verbose s
      else (assertion? c).map (.assertion ·, s)

/-- Read an escape, behind its `\`. -/
def escape? (verbose : Bool) : Text → Option (Primitive × Text)
  | [] => none
  | c :: s => if isEscapable c then some (.literal (.verbatim c), s) else announced? verbose c s

/-- Read a primitive outside brackets. -/
def read? (verbose : Bool) : Text → Option (Primitive × Text)
  | [] => none
  | '\\' :: s => escape? verbose s
  | '.' :: s => some (.dot, s)
  | '^' :: s => some (.assertion .lineStart, s)
  | '$' :: s => some (.assertion .lineEnd, s)
  | c :: s => some (.literal (.verbatim c), s)

end Primitive

end Pattern

end RequireForm
