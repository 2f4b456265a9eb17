import Std.Data.HashSet
import RequireForm.Pattern.Program

/-!
# Search — the matches of a program in a text

Threads run through a program over a text. The first that a step can be followed by is tried
before the others, so the match that is found is the preferred one. A step is not tried twice
at one place: what failed there once fails there again.

  1. `Thread`, and the threads that one goes on as.
  2. `Program.attempt`: the preferred match that starts at a place.
  3. `Program.fragments`: a whole text cut at its matches.
-/

namespace RequireForm

namespace Pattern

/-! ## Threads -/

/-- A place in a text: how many characters lie before it, the last of them, and the rest. -/
structure Place where
  position : Nat
  before? : Option Char
  rest : Text

/-- A program on its way: the step it takes next, where it stands, and the places it has
    marked, last first. -/
structure Thread where
  step : Nat
  place : Place
  marks : List (Nat × Nat)

namespace Thread

/-- The thread at another step. -/
def goto (t : Thread) (step : Nat) : Thread := { t with step := step }

/-- The threads that one goes on as when it takes a step, the preferred one first. -/
def take (t : Thread) : Step → List Thread
  | .read set next =>
      match t.place.rest with
      | [] => []
      | c :: rest =>
          if set.contains c then [⟨next, ⟨t.place.position + 1, some c, rest⟩, t.marks⟩] else []
  | .check look next =>
      if look.holds t.place.before? t.place.rest.head? then [t.goto next] else []
  | .fork first second => [t.goto first, t.goto second]
  | .mark slot next => [⟨next, t.place, (slot, t.place.position) :: t.marks⟩]
  | .accept => []

/-- The place that was marked last under a number. -/
def marked? (t : Thread) (slot : Nat) : Option Nat := t.marks.lookup slot

end Thread

/-! ## Attempts -/

/-- What has been tried: a number for each step and place. -/
abbrev Tried := Std.HashSet Nat

namespace Program

/-- The number of a step at a place. -/
def key (p : Program) (t : Thread) : Nat := t.step + p.steps.size * t.place.position

/-- Run threads, the first one first, until one accepts. No step is taken twice at one place,
    so `fuel` is no limit if it is twice the number of steps at all places. -/
def run (p : Program) : Nat → Tried → List Thread → Option Thread × Tried
  | 0, tried, _ => (none, tried)
  | _ + 1, tried, [] => (none, tried)
  | fuel + 1, tried, t :: threads =>
      if tried.contains (p.key t) then run p fuel tried threads
      else
        match p.steps[t.step]? with
        | none => run p fuel tried threads
        | some .accept => (some t, tried)
        | some step => run p fuel (tried.insert (p.key t)) (t.take step ++ threads)

/-- The preferred match that starts at a place, if there is one. -/
def attempt (p : Program) (tried : Tried) (place : Place) : Option Thread × Tried :=
  let places := place.position + place.rest.length + 1
  p.run (2 * (p.steps.size * places + 1)) tried [⟨p.first, place, []⟩]

end Program

/-! ## Captures and fragments -/

/-- The capture groups of a pattern: the greatest index, and the indices of those with a
    name. -/
structure Groups where
  last : Nat
  names : List (Text × Nat)
  deriving DecidableEq, Repr

/-- A match: what stands before and after it in the whole text, what it matches, what its
    groups match, of which some may have taken no part, and how they are named. -/
structure Captures where
  before : Text
  whole : Text
  after : Text
  groups : List (Option Text)
  names : List (Text × Nat)
  deriving DecidableEq, Repr

namespace Captures

/-- What the group of an index matches; the group 0 is the whole match. -/
def group? (m : Captures) : Nat → Option Text
  | 0 => some m.whole
  | n + 1 => (m.groups[n]?).join

/-- What the group with a name matches. -/
def named? (m : Captures) (name : Text) : Option Text := (m.names.lookup name).bind m.group?

end Captures

/-- A part of a text: a character that no match covers, or a match. -/
inductive Fragment where
  | kept (c : Char)
  | found (captures : Captures)

namespace Fragment

/-- The text of a fragment. -/
def text : Fragment → Text
  | kept c => [c]
  | found captures => captures.whole

end Fragment

/-- The text between two marks of a match that starts at a place. -/
def Thread.group? (t : Thread) (start : Place) (index : Nat) : Option Text := do
  let low ← t.marked? (2 * index)
  let high ← t.marked? (2 * index + 1)
  return (start.rest.drop (low - start.position)).take (high - low)

/-- The number of characters that a match covers. -/
def Thread.covered (t : Thread) (start : Place) : Nat := t.place.position - start.position

/-- The captures of a match that starts at a place, given what has been passed before. -/
def Thread.captures (t : Thread) (groups : Groups) (passed : Text) (start : Place) :
    Captures where
  before := passed.reverse
  whole := start.rest.take (t.covered start)
  after := start.rest.drop (t.covered start)
  groups := (List.range groups.last).map fun n => t.group? start (n + 1)
  names := groups.names

namespace Program

/-- What is known of a text while it is cut: what lies before, last first and counted, what has
    been tried, and whether a match ends just here. -/
structure Cut where
  passed : Text
  position : Nat
  tried : Tried
  afterMatch : Bool

namespace Cut

/-- The place in front of the rest. -/
def place (cut : Cut) (rest : Text) : Place := ⟨cut.position, cut.passed.head?, rest⟩

/-- Pass over a character. -/
def pass (cut : Cut) (c : Char) (tried : Tried) (afterMatch : Bool) : Cut :=
  ⟨c :: cut.passed, cut.position + 1, tried, afterMatch⟩

/-- The match that starts here, and what has been tried. A match of nothing that starts where
    another ends is none, and what it tried is forgotten. -/
def match? (cut : Cut) (p : Program) (rest : Text) : Option Thread × Tried :=
  match p.attempt cut.tried (cut.place rest) with
  | (none, tried) => (none, tried)
  | (some t, _) =>
      if cut.afterMatch && t.covered (cut.place rest) = 0 then (none, ∅) else (some t, ∅)

end Cut

/-- Cut a text at its matches. `covered` counts the characters ahead that the last match
    covers. -/
def cut (p : Program) (groups : Groups) (state : Cut) (covered : Nat) : Text → List Fragment
  | [] =>
      match state.match? p [] with
      | (some t, _) => [.found (t.captures groups state.passed (state.place []))]
      | (none, _) => []
  | c :: rest =>
      match covered with
      | n + 1 => cut p groups (state.pass c ∅ (n = 0)) n rest
      | 0 =>
          match state.match? p (c :: rest) with
          | (none, tried) => .kept c :: cut p groups (state.pass c tried false) 0 rest
          | (some t, _) =>
              let found := t.captures groups state.passed (state.place (c :: rest))
              match t.covered (state.place (c :: rest)) with
              | 0 => .found found :: .kept c :: cut p groups (state.pass c ∅ false) 0 rest
              | n + 1 => .found found :: cut p groups (state.pass c ∅ (n = 0)) n rest

/-- A text cut at the matches of a program, from left to right. -/
def fragments (p : Program) (groups : Groups) (t : Text) : List Fragment :=
  p.cut groups ⟨[], 0, ∅, false⟩ 0 t

end Program

end Pattern

end RequireForm
