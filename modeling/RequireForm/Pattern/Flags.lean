import RequireForm.Pattern.Node

/-!
# Flags — how a pattern is to be taken

`Flags`, and how a change that is written in a pattern acts on them.
-/

namespace RequireForm

namespace Pattern

/-- How a pattern is to be taken. -/
structure Flags where
  /-- Case does not count. -/
  caseless : Bool := false
  /-- `^` and `$` stand for the ends of lines, else for those of the text. -/
  multiline : Bool := false
  /-- `.` matches the end of a line too. -/
  dotAll : Bool := false
  /-- Repetitions are greedy where a `?` follows them, and only there. -/
  swapGreed : Bool := false
  /-- Classes are those of Unicode, else those of ASCII. -/
  unicode : Bool := true
  /-- Lines end with a carriage return as well. -/
  crlf : Bool := false
  deriving DecidableEq, Repr

/-- The flags after a change. -/
def Flags.changed (f : Flags) (change : FlagChange) : Flags where
  caseless := change.caseless.getD f.caseless
  multiline := change.multiline.getD f.multiline
  dotAll := change.dotAll.getD f.dotAll
  swapGreed := change.swapGreed.getD f.swapGreed
  unicode := change.unicode.getD f.unicode
  crlf := change.crlf.getD f.crlf

end Pattern

end RequireForm
