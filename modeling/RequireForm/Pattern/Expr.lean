import RequireForm.Unicode.Property

/-!
# Expressions — what a pattern means

An expression has no flags and no names left in it: characters are sets, and conditions say
themselves which characters count as words and where lines end.

  1. `Look`: a condition on the characters on both sides of a place.
  2. `Expr`, and `Expr.times`, which keeps repetitions of nothing from being repeated.
-/

namespace RequireForm

namespace Pattern

/-! ## Conditions -/

/-- A condition on a place between two characters. With `crlf`, lines end with a carriage
    return, a line feed, or both in this order; else with a line feed. With `unicode`, words
    are made of characters of any script; else of ASCII characters. -/
inductive Look where
  | textStart
  | textEnd
  | lineStart (crlf : Bool)
  | lineEnd (crlf : Bool)
  | wordBoundary (unicode : Bool)
  | noWordBoundary (unicode : Bool)
  | wordStart (unicode : Bool)
  | wordEnd (unicode : Bool)
  | wordStartHalf (unicode : Bool)
  | wordEndHalf (unicode : Bool)
  deriving DecidableEq, Repr

/-- The ASCII characters of words. -/
def asciiWordChars : CharSet := CharSet.ofRangeText "30-39 41-5a 5f 61-7a"

/-- The characters of words. -/
def wordCharsOf (unicode : Bool) : CharSet :=
  if unicode then Property.wordChars else asciiWordChars

namespace Look

/-- There is a word's character at this side. -/
def isWord (unicode : Bool) (side : Option Char) : Bool :=
  side.any (wordCharsOf unicode).contains

/-- A line starts here. -/
def startsLine (crlf : Bool) (before after : Option Char) : Bool :=
  before = none || before = some '\n' || (crlf && before = some '\r' && after ≠ some '\n')

/-- A line ends here. -/
def endsLine (crlf : Bool) (before after : Option Char) : Bool :=
  if crlf then
    after = none || after = some '\r' || (after = some '\n' && before ≠ some '\r')
  else after = none || after = some '\n'

/-- The condition holds between two characters, of which the ends of the text have none. -/
def holds (before after : Option Char) : Look → Bool
  | textStart => before = none
  | textEnd => after = none
  | lineStart crlf => startsLine crlf before after
  | lineEnd crlf => endsLine crlf before after
  | wordBoundary u => isWord u before ≠ isWord u after
  | noWordBoundary u => isWord u before = isWord u after
  | wordStart u => !isWord u before && isWord u after
  | wordEnd u => isWord u before && !isWord u after
  | wordStartHalf u => !isWord u before
  | wordEndHalf u => !isWord u after

end Look

/-! ## Expressions -/

/-- What a pattern matches. Of two ways to match, the one that is written first is
    preferred: the left branch, and one more round of a greedy repetition. -/
inductive Expr where
  | empty
  | chars (set : CharSet)
  | look (l : Look)
  | repeated (min : Nat) (max? : Option Nat) (greedy : Bool) (body : Expr)
  | group (index : Nat) (body : Expr)
  | seq (left right : Expr)
  | alt (left right : Expr)

namespace Expr

/-- The expression matches nothing but the empty text. -/
def matchesOnlyEmpty : Expr → Bool
  | empty => true
  | chars _ => false
  | look _ => true
  | repeated _ max? _ body => max?.isSome && body.matchesOnlyEmpty
  | group _ body => body.matchesOnlyEmpty
  | seq left right => left.matchesOnlyEmpty && right.matchesOnlyEmpty
  | alt left right => left.matchesOnlyEmpty && right.matchesOnlyEmpty

/-- The expression can match the empty text. -/
def canBeEmpty : Expr → Bool
  | empty => true
  | chars _ => false
  | look _ => true
  | repeated min _ _ body => min = 0 || body.canBeEmpty
  | group _ body => body.canBeEmpty
  | seq left right => left.canBeEmpty && right.canBeEmpty
  | alt left right => left.canBeEmpty || right.canBeEmpty

/-- The greatest index of a group. -/
def lastGroup : Expr → Nat
  | group index body => max index body.lastGroup
  | repeated _ _ _ body => body.lastGroup
  | seq left right => max left.lastGroup right.lastGroup
  | alt left right => max left.lastGroup right.lastGroup
  | _ => 0

/-- A repetition: none for no round, and the body itself for just one. -/
def ofCounts (min : Nat) (max? : Option Nat) (greedy : Bool) (body : Expr) : Expr :=
  if max? = some 0 then empty
  else if min = 1 ∧ max? = some 1 then body
  else repeated min max? greedy body

/-- A repetition in which what matches nothing but the empty text is matched once at most. -/
def times (min : Nat) (max? : Option Nat) (greedy : Bool) (body : Expr) : Expr :=
  if body.matchesOnlyEmpty then
    ofCounts (Nat.min min 1) (some (Nat.min (max?.getD 1) 1)) greedy body
  else ofCounts min max? greedy body

end Expr

end Pattern

end RequireForm
