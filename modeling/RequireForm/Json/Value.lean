import RequireForm.Json.Number
import RequireForm.Json.Quoted

/-!
# Values of JSON texts — those of a wanted kind, and all others

  1. `ident`, `wrongKind`: words, and the fault of a value of the wrong kind.
  2. `readText?`, `readBoolean`: values of a wanted kind.
  3. `skipValue`: behind a value of any kind.
-/

namespace RequireForm

namespace Json

/-- A character between the parts of a text. -/
def isGap (c : Char) : Bool := c = ' ' || c = '\n' || c = '\t' || c = '\r'

/-- Step over what stands between parts. -/
def skipGap (s : Text) : Text := s.dropWhile isGap

/-- Read the rest of a word that its first letter has announced. -/
def ident : Text → Text → Except Fault Text
  | [], s => .ok s
  | _ :: _, [] => .error .endInValue
  | c :: word, d :: s => if c = d then ident word s else .error .expectedIdent

/-- What is found at the front of a text. -/
def found (s : Text) : Except Fault Found :=
  match s with
  | 'n' :: s => (ident "ull".toList s).map fun _ => .null
  | 't' :: s => (ident "rue".toList s).map fun _ => .boolean true
  | 'f' :: s => (ident "alse".toList s).map fun _ => .boolean false
  | '-' :: s => Number.found false s
  | '\x22' :: s => (Quoted.read s).map fun (t, _) => .string t
  | '[' :: _ => .ok .sequence
  | '\x7b' :: _ => .ok .map
  | c :: _ => if Number.isDigit c then Number.found true s else .error .expectedValue
  | [] => .error .endInValue

/-- The fault of a value that is not of the expected kind. -/
def wrongKind (expected : String) (s : Text) : Fault :=
  match found s with
  | .ok value => .wrongKind value expected
  | .error fault => fault

/-- Read a text, or a null. -/
def readText? (s : Text) : Except Fault (Option Text × Text) :=
  match skipGap s with
  | 'n' :: s => (ident "ull".toList s).map fun s => (none, s)
  | '\x22' :: s => (Quoted.read s).map fun (t, s) => (some t, s)
  | s => .error (wrongKind "a string" s)

/-- Read a truth value. -/
def readBoolean (s : Text) : Except Fault (Bool × Text) :=
  match skipGap s with
  | 't' :: s => (ident "rue".toList s).map fun s => (true, s)
  | 'f' :: s => (ident "alse".toList s).map fun s => (false, s)
  | s => .error (wrongKind "a boolean" s)

/-! ## Skipping -/

/-- A value that holds others. -/
inductive Container where
  | list | object
  deriving DecidableEq, Repr

namespace Container

def closing : Container → Char
  | list => ']'
  | object => '\x7d'

/-- The text ends within it. -/
def endFault : Container → Fault
  | list => .endInList
  | object => .endInObject

/-- Neither a comma nor its end comes next. -/
def goesOnFault : Container → Fault
  | list => .expectedListEnd
  | object => .expectedObjectEnd

end Container

/-- Step over the colon behind a key. -/
def colon (s : Text) : Except Fault Text :=
  match skipGap s with
  | [] => .error .endInObject
  | ':' :: s => .ok s
  | _ => .error .expectedColon

/-- Step over what stands before a value in a container: in an object, its key. -/
def skipKey (container : Container) (s : Text) : Except Fault Text :=
  match container with
  | .list => .ok s
  | .object =>
      match skipGap s with
      | [] => .error .endInObject
      | '\x22' :: s => (Quoted.skip s).bind colon
      | _ => .error .keyNotString

/-- What comes behind a value: another one in some containers, or nothing. -/
inductive Next where
  | value (containers : List Container) (rest : Text)
  | done (rest : Text)

/-- Step over the ends of containers up to the next value. `fresh` tells that the innermost one
    has just been opened. -/
def closings (fresh : Bool) : List Container → Text → Except Fault Next
  | [], s => .ok (.done s)
  | container :: outer, s =>
      match skipGap s with
      | [] => .error container.endFault
      | c :: rest =>
          if c = ',' && !fresh then
            (skipKey container rest).map (.value (container :: outer))
          else if c = container.closing then closings false outer rest
          else if fresh then (skipKey container (c :: rest)).map (.value (container :: outer))
          else .error container.goesOnFault

/-- Step over a value that holds no others. -/
def skipLeaf (s : Text) : Except Fault Text :=
  match s with
  | 'n' :: s => ident "ull".toList s
  | 't' :: s => ident "rue".toList s
  | 'f' :: s => ident "alse".toList s
  | '-' :: s => Number.skip s
  | '\x22' :: s => Quoted.skip s
  | c :: _ => if Number.isDigit c then Number.skip s else .error .expectedValue
  | [] => .error .endInValue

/-- Step over the beginning of a value in some containers, up to the next value. -/
def skipStep (containers : List Container) (s : Text) : Except Fault Next :=
  match skipGap s with
  | '[' :: s => closings true (.list :: containers) s
  | '\x7b' :: s => closings true (.object :: containers) s
  | s => (skipLeaf s).bind (closings false containers)

/-- Step over a value in some containers, and over these. Each step is a character at least,
    so `fuel` is no limit if it is greater than the number of characters. -/
def skipIn : Nat → List Container → Text → Except Fault Text
  | 0, _, _ => .error .endInValue
  | fuel + 1, containers, s =>
      match skipStep containers s with
      | .error fault => .error fault
      | .ok (.done rest) => .ok rest
      | .ok (.value containers rest) => skipIn fuel containers rest

/-- Step over a value. -/
def skipValue (s : Text) : Except Fault Text := skipIn (s.length + 1) [] s

end Json

end RequireForm
