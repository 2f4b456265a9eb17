import RequireForm.Import.Basic
import RequireForm.Proofs.Source.Cursor

/-!
# Scanning imports — the recognizer by byte offsets

    text      a     f  r  o  m     '  é  '
    offset    7  8  9              14 15 17 18

The recognizer of imports as a cursor goes through a source. Behind the name of a default, here
at 8, it looks ahead for a comma, and goes back if there is none. Whatever the source is, the
scan slips nowhere and finds what the recognizer reads.
-/

namespace RequireForm

namespace Import

open Scan (Agrees fail require demand position moveTo peek spaces eat word name list)

/-- Scan `*` or `* as name`. -/
def scanStar : Scan (Option Text) := do
  require (← eat '*')
  let _ ← spaces
  if ← word "as".toList then
    let _ ← spaces
    return some (← name)
  else return none

/-- Scan the list or the star behind the comma of a statement that has bound `default`. -/
def scanSecond (default : Text) : Scan ImportBinding := do
  let first ← demand (← peek)
  if Text.seen (· = '\x7b') first then return .defaultAndNamed default (← list)
  else if Text.seen (· = '*') first then return .defaultAndStar default (← scanStar)
  else fail

/-- Scan what stands between the word `import` and the word `from`. -/
def scanBinding : Scan ImportBinding := do
  let first ← demand (← peek)
  if Text.seen (· = '\x7b') first then return .named (← list)
  else if Text.seen (· = '*') first then return .star (← scanStar)
  else
    let default ← name
    let behind ← position
    let _ ← spaces
    if ← eat ',' then
      let _ ← spaces
      scanSecond default
    else
      moveTo behind
      return .default default

/-- Scan what stands before the path. -/
def scanBound : Scan ImportBinding := do
  let first ← demand (← peek)
  if Text.seen PathLiteral.isQuote first then return .effects
  else
    let binding ← scanBinding
    let _ ← spaces
    require (← word "from".toList)
    let _ ← spaces
    return binding

/-- Scan an import statement. -/
def scan : Scan Import := do
  require (← word "import".toList)
  require (← spaces)
  let binding ← scanBound
  return ⟨binding, ← Scan.path⟩

/-! ## Agreement -/

open Text

variable {before s t : Text} {c : Char}

theorem agrees_scanStar : Agrees scanStar before ('*' :: s) (starName? s) := by
  rw [scanStar, starName?]
  refine (Agrees.eat (by decide)).next fun _ _ => ?_
  refine (Agrees.require rfl).here ?_
  refine Agrees.spaces.next fun _ _ => ?_
  cases hword : word? "as".toList (skipSpaces s) with
  | none => exact (Agrees.not_word hword).here (Agrees.pure none)
  | some rest =>
      refine (Agrees.word hword).next fun _ _ => ?_
      refine Agrees.spaces.next fun _ _ => ?_
      exact Agrees.name.map

theorem agrees_scanSecond (default : Text) :
    Agrees (scanSecond default) before s (secondBinding? default s) := by
  refine Agrees.look (fun hs => hs ▸ rfl) fun c t hs => ?_
  subst hs
  rw [seen_lead (ascii_eq (by decide)), seen_lead (ascii_eq (by decide))]
  by_cases hstar : c = '*'
  · subst hstar
    exact agrees_scanStar.map
  · have hsecond : secondBinding? default (c :: t)
        = (Specifier.list? (c :: t)).map fun found =>
            (.defaultAndNamed default found.1, found.2) := by
      rw [secondBinding?]
      rintro s ⟨⟩
      exact hstar rfl
    rw [hsecond]
    by_cases hlist : c = '\x7b'
    · rw [decide_eq_true hlist, if_pos rfl]
      exact Agrees.list.map
    · rw [decide_eq_false hlist, decide_eq_false hstar, Agrees.list?_cons_of_ne hlist]
      exact Agrees.fail

theorem agrees_scanBinding : Agrees scanBinding before s (binding? s) := by
  refine Agrees.look (fun hs => hs ▸ rfl) fun c t hs => ?_
  subst hs
  rw [seen_lead (ascii_eq (by decide)), seen_lead (ascii_eq (by decide))]
  by_cases hstar : c = '*'
  · subst hstar
    exact agrees_scanStar.map
  · by_cases hlist : c = '\x7b'
    · subst hlist
      exact Agrees.list.map
    · rw [decide_eq_false hlist, decide_eq_false hstar, binding?]
      · refine Agrees.name.bind fun default rest u _ => ?_
        refine Agrees.position.here ?_
        refine Agrees.spaces.next fun v hv => ?_
        dsimp only
        split
        · next s hs =>
            rw [hs]
            refine (Agrees.eat (by decide)).next fun _ _ => ?_
            refine Agrees.spaces.next fun _ _ => ?_
            exact agrees_scanSecond default
        · next hother =>
            -- no comma follows: the cursor goes back to the end of the name
            have hstops : Stops (· = ',') (skipSpaces rest) := by
              cases hr : skipSpaces rest with
              | nil => trivial
              | cons d s =>
                  refine decide_eq_false fun hd => hother s ?_
                  rw [hr, hd]
            refine (Agrees.eat_other (by decide) hstops).here ?_
            exact (Agrees.moveTo hv.symm rfl).next fun _ _ => Agrees.pure _
      · exact fun s heq => hstar (List.cons.inj heq).1
      · exact fun s heq => hlist (List.cons.inj heq).1

/-- Read what stands before the path of a statement. -/
def bound? (s : Text) : Option (ImportBinding × Text) :=
  if pathAhead s then some (.effects, s)
  else
    (binding? s).bind fun (binding, s) =>
      (word? "from".toList (skipSpaces s)).map fun s => (binding, skipSpaces s)

theorem read?_eq (s : Text) :
    read? s = (word? "import".toList s).bind fun s => (spaces? s).bind fun s =>
      (bound? s).bind fun (binding, s) =>
        (PathLiteral.read? s).map fun (path, s) => (⟨binding, path⟩, s) := by
  refine Option.bind_congr fun s₁ _ => Option.bind_congr fun s₂ _ => ?_
  rw [bound?]
  split
  · rw [Option.bind_some]
    exact Option.map_eq_bind.symm
  · rw [Option.bind_assoc]
    refine Option.bind_congr fun found _ => ?_
    dsimp only
    cases word? "from".toList (skipSpaces found.2) with
    | none => rfl
    | some s₃ =>
        rw [Option.map_some, Option.bind_some]
        exact Option.map_eq_bind.symm

theorem agrees_scanBound : Agrees scanBound before s (bound? s) := by
  refine Agrees.look (fun hs => by rw [hs]; rfl) fun c t hs => ?_
  subst hs
  have hahead : pathAhead (c :: t) = PathLiteral.isQuote c := rfl
  rw [seen_lead ascii_isQuote, bound?, hahead]
  cases PathLiteral.isQuote c with
  | true => exact Agrees.pure _
  | false =>
      rw [if_neg Bool.false_ne_true, if_neg Bool.false_ne_true]
      refine agrees_scanBinding.bind fun binding rest u _ => ?_
      refine Agrees.spaces.next fun v _ => ?_
      dsimp only
      rw [Option.map_eq_bind]
      refine Agrees.keyword fun _ _ => ?_
      exact Agrees.spaces.next fun _ _ => Agrees.pure binding

/-- The scan of a statement finds what the recognizer reads. -/
theorem agrees_scan : Agrees scan before s (read? s) := by
  rw [read?_eq]
  refine Agrees.keyword fun _ _ => ?_
  refine Agrees.gap fun _ _ => ?_
  exact agrees_scanBound.bind fun _ _ _ _ => Agrees.path.map

end Import

end RequireForm
