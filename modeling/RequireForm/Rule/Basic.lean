import RequireForm.Rule.Options

/-!
# Path rules — options that have been checked

  1. `PathRule.ofOptions?`: the rule that options make, or why they make none.
     `PathRule.ofOptions`: a rule in any case, which changes no path if there is none.
  2. `PathRule.replaced?`: a path in which matches have been replaced.
-/

namespace RequireForm

/-- How paths are changed. Without a pattern, or without a replacement, they are not. -/
structure PathRule where
  pattern? : Option Pattern
  all : Bool
  replacement? : Option Replacement

namespace PathRule

/-- The text of the pattern that is to be compiled. -/
def sourceOf (o : Options) (text : Text) : Text :=
  if o.escape then Pattern.escape text else text

/-- Compile the text of a pattern. The flags are looked at first. -/
def compile (o : Options) (text : Text) : Except PatternError (Pattern × Bool) := do
  let letters ← FlagLetters.read (o.flags?.getD [])
  match Pattern.compile? letters.flags (sourceOf o text) with
  | some pattern => return (pattern, letters.all)
  | none => throw .invalid

/-- The rule that options make. -/
def ofOptions? (o : Options) : Except PatternError PathRule :=
  match o.pattern? with
  | none => .ok ⟨none, false, o.replaceBy?⟩
  | some (.compiled pattern) => .ok ⟨some pattern, false, o.replaceBy?⟩
  | some (.source text) =>
      (compile o text).map fun (pattern, all) => ⟨some pattern, all, o.replaceBy?⟩

/-- The rule that options make; options that make none leave paths alone. -/
def ofOptions (o : Options) : PathRule :=
  match ofOptions? o with
  | .ok rule => rule
  | .error _ => ⟨none, false, o.replaceBy?⟩

/-- The rule changes no path. -/
def isNoop (r : PathRule) : Bool := r.pattern?.isNone || r.replacement?.isNone

/-! ## Replacing -/

/-- Put replacements for matches: for all of them, or for the first one only. -/
def replace (all : Bool) (replacement : Replacement) : List Pattern.Fragment → Text
  | [] => []
  | .kept c :: fragments => c :: replace all replacement fragments
  | .found m :: fragments =>
      replacement.of m ++
        if all then replace all replacement fragments else fragments.flatMap (·.text)

/-- Some fragment is a match. -/
def matchesAny (fragments : List Pattern.Fragment) : Bool :=
  fragments.any fun
    | .kept _ => false
    | .found _ => true

/-- The path with matches replaced, if there are any. -/
def replaced? (r : PathRule) (path : Text) : Option Text :=
  match r.pattern?, r.replacement? with
  | some pattern, some replacement =>
      let fragments := pattern.fragments path
      if matchesAny fragments then some (replace r.all replacement fragments) else none
  | _, _ => none

/-- The path as the rule leaves it. -/
def apply (r : PathRule) (path : Text) : Text := (r.replaced? path).getD path

end PathRule

end RequireForm
