import RequireForm.Pattern.Expr
import RequireForm.Pattern.Flags
import RequireForm.Unicode.CaseOrbit
import RequireForm.Unicode.Property
import RequireForm.Unicode.Script

/-!
# Classes — which characters a class stands for

Where a pattern is not in Unicode mode, a class may hold ASCII characters only, and so no
class can be negated there.

  1. `PropertyName.set?`: properties by loosely written names.
  2. `ClassSet.set?`: what stands between brackets.
-/

namespace RequireForm

namespace Pattern

/-! ## Properties -/

namespace PropertyName

/-- A character that does not count in a name. -/
def isIgnored (c : Char) : Bool := c = ' ' || c = '_' || c = '-' || 0x7f < c.toNat

/-- The characters of a name that count, in lower case. -/
def significant (t : Text) : Text := (t.filter (!isIgnored ·)).map Char.toLower

/-- A name as the tables have it: what does not count is left out, and so is a leading `is`;
    the name `isc` alone is one of its own. -/
def loose (t : Text) : String :=
  match t with
  | i :: s :: rest =>
      if i.toLower = 'i' ∧ s.toLower = 's' then
        if significant rest = ['c'] then "isc" else String.ofList (significant rest)
      else String.ofList (significant t)
  | _ => String.ofList (significant t)

/-- Every character with a category. -/
def assigned : CharSet := (Category.setOf ["cn"]).complement

/-- The set of a category, or of all characters, all in ASCII or all that are assigned. -/
def category? (name : String) : Option CharSet :=
  if name = "any" then some CharSet.all
  else if name = "assigned" then some assigned
  else if name = "ascii" then some (CharSet.range 0 0x7f)
  else Category.set? name

/-- The short names of properties that are categories if they stand alone. -/
def isCategoryFirst (name : String) : Bool := name = "cf" || name = "sc" || name = "lc"

/-- The set that a name stands for. -/
def setOfName? (name : String) : Option CharSet :=
  let property? := if isCategoryFirst name then none else Property.set? name
  property?.or ((category? name).or (Script.set? name))

/-- The set of the characters that have a value for a property. -/
def setOfValue? (property value : String) : Option CharSet :=
  if property = "gc" || property = "generalcategory" then category? value
  else if property = "sc" || property = "script" then Script.set? value
  else if property = "scx" || property = "scriptextensions" then Script.extended? value
  else none

/-- The set of a property. -/
def set? : PropertyName → Option CharSet
  | plain name => setOfName? (loose name)
  | valued name value => setOfValue? (loose name) (loose value)

end PropertyName

/-! ## Sets under flags -/

/-- The blanks of ASCII. -/
def asciiSpaces : CharSet := CharSet.ofRangeText "9-d 20"

/-- The set of a class that is written as a letter. -/
def Shorthand.set (unicode : Bool) : Shorthand → CharSet
  | digit => if unicode then Property.digits else CharSet.range 0x30 0x39
  | space => if unicode then Property.whiteSpace else asciiSpaces
  | word => wordCharsOf unicode

/-- A set as it may stand in a pattern: within ASCII unless in Unicode mode. -/
def Flags.permitted? (f : Flags) (s : CharSet) : Option CharSet :=
  if f.unicode || s.isAscii then some s else none

/-- The set with all cases of its characters, if case does not count. -/
def Flags.fold (f : Flags) (s : CharSet) : CharSet :=
  if f.caseless then (if f.unicode then s.foldCase else s.foldAsciiCase) else s

/-- The set, or what is not in it. -/
def negatedIf (negated : Bool) (s : CharSet) : CharSet := if negated then s.complement else s

/-- A set in which case has been dealt with before what is not in it is taken. -/
def Flags.folded? (f : Flags) (negated : Bool) (s : CharSet) : Option CharSet :=
  f.permitted? (negatedIf negated (f.fold s))

/-- The set of a property; there are none but in Unicode mode. -/
def Flags.property? (f : Flags) (negated : Bool) (name : PropertyName) : Option CharSet :=
  if f.unicode then name.set?.bind (f.folded? negated) else none

/-- The set of a class that is written as a letter, for which case never counts. -/
def Flags.shorthand? (f : Flags) (negated : Bool) (class_ : Shorthand) : Option CharSet :=
  f.permitted? (negatedIf negated (class_.set f.unicode))

/-- The set that an operation makes of two. -/
def ClassOp.apply (s t : CharSet) : ClassOp → CharSet
  | both => s.inter t
  | minus => s.diff t
  | exclusive => s.exclusive t

namespace ClassSet

/-- A range from one literal to another. -/
def rangeSet (low high : Literal) : CharSet := CharSet.range low.char.toNat high.char.toNat

mutual
/-- The set that stands between brackets. -/
def set? (f : Flags) : ClassSet → Option CharSet
  | literal l => f.permitted? (rangeSet l l)
  | range low high => f.permitted? (rangeSet low high)
  | ascii negated set => f.folded? negated set
  | property negated name => f.property? negated name
  | shorthand negated class_ => f.shorthand? negated class_
  | bracket negated inner => (set? f inner).bind (f.folded? negated)
  | union items => unionSet? f items
  | operation op left right => do
      let left ← set? f left
      let right ← set? f right
      return op.apply (f.fold left) (f.fold right)

/-- The set of everything that some items hold. -/
def unionSet? (f : Flags) : List ClassSet → Option CharSet
  | [] => some CharSet.empty
  | item :: items => do
      let s ← set? f item
      let t ← unionSet? f items
      return s.union t
end

end ClassSet

end Pattern

end RequireForm
