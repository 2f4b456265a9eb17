import RequireForm.Pattern.Draft
import RequireForm.Pattern.Meaning
import RequireForm.Pattern.Search
import RequireForm.Pattern.Size

/-!
# Compiled patterns

  1. `Pattern.compile?`: from the text of a pattern to a program.
  2. `Pattern.fragments`: a text cut at its matches.
-/

namespace RequireForm

/-- A pattern that is ready to be searched for: its text, its program, and its groups. -/
structure Pattern where
  source : Text
  program : Pattern.Program
  groups : Pattern.Groups

namespace Pattern

/-- Compile a pattern. It has to be well written, to mean something under its flags, and not
    to be too large. -/
def compile? (flags : Flags) (source : Text) : Option Pattern := do
  let (node, names) ← read? source
  let (e, _) ← node.expr? flags
  if e.fits then some ⟨source, .ofExpr e, ⟨e.lastGroup, names⟩⟩ else none

/-- A text cut at the matches of a pattern. -/
def fragments (p : Pattern) (t : Text) : List Fragment := p.program.fragments p.groups t

end Pattern

end RequireForm
