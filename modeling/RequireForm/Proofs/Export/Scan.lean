import RequireForm.Export.Basic
import RequireForm.Proofs.Source.Cursor

/-!
# Scanning exports — the recognizer by byte offsets

    export default 'é'       export async function f() {}
    ^      ^       ^         ^      ^
    0      7       15        0      7

The recognizer of exports as a cursor goes through a source. A default ends where its value
starts, and the value is looked at through a slice; behind a list the cursor looks ahead for
`from`; behind the word of a declaration it reads on for the name, and goes back in front of the
word. Whatever the source is, the scan slips nowhere and finds what the recognizer reads.

  1. The scans, and `Export.scan`.
  2. Lists, stars and values.
  3. `declared?`, `worded?_eq`: what follows a word.
  4. `agrees_scan`.
-/

namespace RequireForm

namespace Export

open Scan (Agrees fail require demand position moveTo peek spaces eat word name list)

/-! ## Scans -/

/-- Scan the value of a default. -/
def scanDefault : Scan Export := do
  let _ ← spaces
  let value := (Text.firstLine (← Scan.sliceFrom (← position))).trimEnd
  require (value ≠ [])
  return .default value

/-- Scan a brace list and, if `from` follows, the path behind it. -/
def scanNamed : Scan Export := do
  let items ← list
  let behind ← position
  let _ ← spaces
  if ← word "from".toList then
    let _ ← spaces
    return .named items (some (← Scan.path))
  else
    moveTo behind
    return .named items none

/-- Scan the name that may follow a star. -/
def scanStarName : Scan (Option Text) := do
  if ← word "as".toList then
    let _ ← spaces
    let found ← name
    let _ ← spaces
    return some found
  else return none

/-- Scan `*` and what follows it. -/
def scanStar : Scan Export := do
  require (← eat '*')
  let _ ← spaces
  let found ← scanStarName
  require (← word "from".toList)
  let _ ← spaces
  return .star found (← Scan.path)

/-- Scan the name of a function, behind the word `function`. -/
def scanFunction : Scan Text := do
  let _ ← spaces
  let _ ← eat '*'
  let _ ← spaces
  name

/-- Scan the name that is declared behind the first word of a declaration. -/
def scanDeclared (first : Text) : Scan Text := do
  if first = "class".toList then
    require (← spaces)
    name
  else if first = "async".toList then
    require (← spaces)
    require (← word "function".toList)
    scanFunction
  else scanFunction

/-- The words that start the declaration of a function or a class. -/
def declares (w : Text) : Bool :=
  w = "function".toList || w = "async".toList || w = "class".toList

/-- Scan a statement that goes on with a name or a keyword. A declaration is left where it is,
    at the offset `here`. -/
def scanWorded (here : Nat) : Scan Export := do
  let first ← name
  if declares first then
    let found ← scanDeclared first
    moveTo here
    return .declaration found
  else if declaresVariable first then
    require (← spaces)
    return .binding (← name)
  else
    require (← Scan.ends)
    return .identifier first

/-- Scan an export statement. -/
def scan : Scan Export := do
  require (← word "export".toList)
  let spaced ← spaces
  let here ← position
  if ← word "default".toList then scanDefault
  else
    let first ← demand (← peek)
    if Text.seen (· = '\x7b') first then scanNamed
    else if Text.seen (· = '*') first then scanStar
    else
      require spaced
      scanWorded here

open Text

variable {before s t : Text} {first : Text}

/-! ## Lists, stars, values -/

theorem agrees_scanDefault : Agrees scanDefault before s (default? s) := by
  rw [scanDefault, default?]
  refine Agrees.spaces.next fun _ _ => ?_
  refine Agrees.position.here ?_
  refine (Agrees.sliceFrom rfl rfl).here ?_
  dsimp only
  split
  · next hnil =>
      rw [hnil]
      exact (Agrees.require_not rfl).stop
  · next value hne =>
      have hvalue : decide ((firstLine (skipSpaces s)).trimEnd ≠ []) = true := decide_eq_true hne
      rw [hvalue]
      exact (Agrees.require rfl).here (Agrees.pure _)

theorem agrees_scanNamed : Agrees scanNamed before s (named? s) := by
  refine Agrees.list.bind fun items rest u _ => ?_
  refine Agrees.position.here ?_
  refine Agrees.spaces.next fun v hv => ?_
  dsimp only
  cases hword : word? "from".toList (skipSpaces rest) with
  | none =>
      refine (Agrees.not_word hword).here ?_
      exact (Agrees.moveTo hv.symm rfl).next fun _ _ => Agrees.pure _
  | some rest' =>
      refine (Agrees.word hword).next fun _ _ => ?_
      refine Agrees.spaces.next fun _ _ => ?_
      exact Agrees.path.bind fun _ _ _ _ => Agrees.pure _

theorem agrees_scanStarName : Agrees scanStarName before s (starName? s) := by
  rw [scanStarName, starName?]
  cases hword : word? "as".toList s with
  | none => exact (Agrees.not_word hword).here (Agrees.pure none)
  | some rest =>
      refine (Agrees.word hword).next fun _ _ => ?_
      refine Agrees.spaces.next fun _ _ => ?_
      dsimp only
      rw [Option.map_eq_bind]
      refine Agrees.name.bind fun _ _ _ _ => ?_
      exact Agrees.spaces.next fun _ _ => Agrees.pure _

theorem agrees_scanStar : Agrees scanStar before ('*' :: s) (star? s) := by
  refine (Agrees.eat (by decide)).next fun _ _ => ?_
  refine (Agrees.require rfl).here ?_
  refine Agrees.spaces.next fun _ _ => ?_
  refine agrees_scanStarName.bind fun _ _ _ _ => ?_
  refine Agrees.keyword fun _ _ => ?_
  refine Agrees.spaces.next fun _ _ => ?_
  exact Agrees.path.bind fun _ _ _ _ => Agrees.pure _

/-! ## Words -/

/-- Read the name of a function, and what follows it. -/
def function? (s : Text) : Option (Text × Text) := name? (skipSpaces (skipStar (skipSpaces s)))

/-- Read the name that is declared behind the first word of a declaration. -/
def declared? (first s : Text) : Option (Text × Text) :=
  if first = "class".toList then (spaces? s).bind name?
  else if first = "async".toList then
    (spaces? s).bind fun s => (word? "function".toList s).bind function?
  else function? s

theorem agrees_eatStar (before s : Text) :
    ∃ any, Agrees (eat '*') before s (some (any, skipStar s)) := by
  by_cases hstar : ∃ t, s = '*' :: t
  · obtain ⟨t, rfl⟩ := hstar
    exact ⟨true, Agrees.eat (by decide)⟩
  · have hskip : skipStar s = s := by
      rw [skipStar]
      exact fun t h => hstar ⟨t, h⟩
    have hstops : Stops (· = '*') s := by
      cases s with
      | nil => trivial
      | cons c t => exact decide_eq_false fun hc => hstar ⟨t, by rw [hc]⟩
    rw [hskip]
    exact ⟨false, Agrees.eat_other (by decide) hstops⟩

theorem agrees_scanFunction : Agrees scanFunction before s (function? s) := by
  refine Agrees.spaces.next fun u _ => ?_
  obtain ⟨any, hstar⟩ := agrees_eatStar u (skipSpaces s)
  refine hstar.next fun _ _ => ?_
  exact Agrees.spaces.next fun _ _ => Agrees.name

theorem agrees_scanDeclared : Agrees (scanDeclared first) before s (declared? first s) := by
  rw [scanDeclared, declared?]
  split
  · exact Agrees.gap fun _ _ => Agrees.name
  · split
    · refine Agrees.gap fun _ _ => ?_
      exact Agrees.keyword fun _ _ => agrees_scanFunction
    · exact agrees_scanFunction

theorem declared?_function (s : Text) :
    (declared? "function".toList s).map (·.1) = functionName? s := rfl

theorem declared?_async (s : Text) :
    (declared? "async".toList s).map (·.1) = asyncName? s := by
  have hasync : declared? "async".toList s
      = (spaces? s).bind fun s => (word? "function".toList s).bind function? := rfl
  rw [hasync, Option.map_bind]
  refine Option.bind_congr fun s _ => ?_
  exact Option.map_bind

theorem declared?_class (s : Text) :
    (declared? "class".toList s).map (·.1) = className? s := by
  have hclass : declared? "class".toList s = (spaces? s).bind name? := rfl
  rw [hclass, Option.map_bind]
  refine Option.bind_congr fun s _ => ?_
  exact Option.map_eq_bind

theorem worded?_eq (s : Text) :
    worded? s = (name? s).bind fun (first, rest) =>
      if declares first then (declared? first rest).map fun found => (.declaration found.1, s)
      else if declaresVariable first then binding? rest
      else if statementEnds rest then some (.identifier first, rest)
      else none := by
  refine Option.bind_congr fun found _ => ?_
  obtain ⟨first, rest⟩ := found
  have hdeclaration (name? : Option (Text × Text)) :
      name?.map (fun found => (Export.declaration found.1, s))
        = (name?.map (·.1)).bind fun name => some (.declaration name, s) := by
    cases name? <;> rfl
  dsimp only
  rw [hdeclaration]
  by_cases hfunction : first = "function".toList
  · subst hfunction
    rw [declared?_function]
    rfl
  · by_cases hasync : first = "async".toList
    · subst hasync
      rw [declared?_async]
      rfl
    · by_cases hclass : first = "class".toList
      · subst hclass
        rw [declared?_class]
        rfl
      · have hother : declares first = false := by
          rw [declares, decide_eq_false hfunction, decide_eq_false hasync, decide_eq_false hclass]
          rfl
        rw [if_neg hfunction, if_neg hasync, if_neg hclass, hother, if_neg Bool.false_ne_true]
        rfl

theorem agrees_scanWorded :
    Agrees (scanWorded before.byteLength) before s (worded? s) := by
  rw [worded?_eq]
  refine Agrees.name.bind fun first rest u hu => ?_
  dsimp only
  split
  · rw [Option.map_eq_bind]
    refine agrees_scanDeclared.bind fun found rest' v hv => ?_
    -- the cursor goes back in front of the word
    exact (Agrees.moveTo (hv.trans hu).symm rfl).next fun _ _ => Agrees.pure _
  · split
    · refine Agrees.gap fun _ _ => ?_
      exact Agrees.name.bind fun _ _ _ _ => Agrees.pure _
    · refine Agrees.ends.here ?_
      cases statementEnds rest with
      | false => exact (Agrees.require_not rfl).stop
      | true => exact (Agrees.require rfl).here (Agrees.pure _)

theorem publication?_of_word {spaced : Bool} {rest : Text}
    (hword : word? "default".toList t = some rest) : publication? spaced t = default? rest := by
  rw [publication?.eq_def, hword]

theorem publication?_of_no_mark {spaced : Bool} {c : Char}
    (hword : word? "default".toList (c :: t) = none) (hlist : c ≠ '\x7b') (hstar : c ≠ '*') :
    publication? spaced (c :: t) = if spaced then worded? (c :: t) else none := by
  rw [publication?.eq_def, hword]
  dsimp only
  split
  · next heq => exact absurd (List.cons.inj heq).1 hlist
  · next heq => exact absurd (List.cons.inj heq).1 hstar
  · rfl

/-- The scan of a statement finds what the recognizer reads. -/
theorem agrees_scan : Agrees scan before s (read? s) := by
  refine Agrees.keyword fun s _ => ?_
  refine Agrees.spaces.next fun v _ => ?_
  refine Agrees.position.here ?_
  generalize skipSpaces s = t
  cases hword : word? "default".toList t with
  | some rest =>
      rw [publication?_of_word hword]
      exact (Agrees.word hword).next fun _ _ => agrees_scanDefault
  | none =>
      refine (Agrees.not_word hword).here ?_
      refine Agrees.look (fun ht => ?_) fun c rest ht => ?_
      · subst ht
        cases (spaces? s).isSome <;> rfl
      · subst ht
        rw [seen_lead (ascii_eq (by decide)), seen_lead (ascii_eq (by decide))]
        by_cases hlist : c = '\x7b'
        · subst hlist
          rw [publication?.eq_def, hword]
          exact agrees_scanNamed
        · by_cases hstar : c = '*'
          · subst hstar
            rw [publication?.eq_def, hword]
            exact agrees_scanStar
          · rw [publication?_of_no_mark hword hlist hstar, decide_eq_false hlist,
              decide_eq_false hstar]
            cases (spaces? s).isSome with
            | false => exact (Agrees.require_not rfl).stop
            | true => exact (Agrees.require rfl).here agrees_scanWorded

end Export

end RequireForm
