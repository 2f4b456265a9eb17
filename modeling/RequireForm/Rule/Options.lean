import RequireForm.Pattern.Compiled
import RequireForm.Rule.Template

/-!
# Options — how the caller wants paths to be changed

Options are what a caller gives. Nothing in them has been checked yet; whether they make a
rule is for `PathRule` to say.

  1. `PathPattern`, `Replacement`: which part of a path, and what takes its place.
  2. `Options`.
  3. `FlagLetters`: the letters that say how a pattern is to be taken.
-/

namespace RequireForm

open Pattern (Captures)

/-- The part of a path that is to be replaced: by the text of a pattern, or by a pattern that
    has been compiled by the caller. -/
inductive PathPattern where
  | source (text : Text)
  | compiled (pattern : Pattern)

/-- What takes the place of a match: a template, or the result of a function. -/
inductive Replacement where
  | template (text : Text)
  | function (f : Captures → Text)

/-- The text that takes the place of a match. -/
def Replacement.of (m : Captures) : Replacement → Text
  | template text => Template.expand m text
  | function f => f m

/-- What a caller wants. Without a pattern, or without a replacement, paths stay as they
    are. -/
structure Options where
  pattern? : Option PathPattern := none
  /-- Letters of flags; they do not apply to a compiled pattern. -/
  flags? : Option Text := none
  /-- The text of the pattern is to be matched as it is. -/
  escape : Bool := false
  replaceBy? : Option Replacement := none

/-- Why options make no rule. -/
inductive PatternError where
  | invalid
  | unknownFlag (letter : Char)
  deriving DecidableEq, Repr

/-- An error as a text. Where patterns are compiled, what is wrong with an invalid one, and
    where, is told behind the colon. It is left out: a pattern is refused without a reason here. -/
def PatternError.message : PatternError → Text
  | invalid => "Invalid pattern:".toList
  | unknownFlag letter => "Unsupported pattern flag: '".toList ++ [letter] ++ "'".toList

/-- What letters of flags say: how the pattern is to be taken, and whether all of its matches
    are replaced or the first one only. -/
structure FlagLetters where
  flags : Pattern.Flags := {}
  all : Bool := false
  deriving DecidableEq, Repr

namespace FlagLetters

/-- Add a letter. Patterns are always in Unicode mode, and a search that sticks to its start
    is no different for the first match. -/
def add (f : FlagLetters) : Char → Except PatternError FlagLetters
  | 'g' => .ok { f with all := true }
  | 'i' => .ok { f with flags := { f.flags with caseless := true } }
  | 'm' => .ok { f with flags := { f.flags with multiline := true } }
  | 's' => .ok { f with flags := { f.flags with dotAll := true } }
  | 'u' => .ok f
  | 'y' => .ok f
  | letter => .error (.unknownFlag letter)

/-- Read letters of flags. -/
def read (letters : Text) : Except PatternError FlagLetters := letters.foldlM add {}

end FlagLetters

end RequireForm
