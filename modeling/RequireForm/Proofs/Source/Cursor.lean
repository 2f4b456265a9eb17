import RequireForm.Proofs.Source.Bytes

/-!
# Cursors — reading by byte offsets, with every offset looked at

    text      f  r  o  m     '  ü  '
    offset    0  1  2  3  4  5  6  8  9

The path ü is the slice from 6 to 8, and the cursor stands at 9 behind it; at 7 none may stand.

The leaf readers once more, but by bytes: a cursor stands at an offset of the whole source, steps
over bytes, looks bytes up and takes slices. An offset that is not between two characters of the
source, that is the offset of no byte, or that ends no slice is a `Slip`, and nothing goes on
behind one. That a scan slips nowhere and comes to what a reader of texts finds is one relation,
`Agrees`, and it is closed under doing one thing after another.

  1. `Slip`, and the three uses of an offset that may slip.
  2. `Scan`, and what a cursor can do.
  3. `Scan.Agrees`, and its rules.
  4. The leaf scans agree with the leaf readers.
-/

namespace RequireForm

open Text

/-! ## Slips -/

/-- What can be wrong with an offset. -/
inductive Slip where
  /-- A cursor would not stand between two characters of the text. -/
  | position
  /-- There is no byte at the offset. -/
  | index
  /-- Two offsets are not in order, or one of them is not between two characters. -/
  | slice
  deriving DecidableEq, Repr

namespace Text

variable {t u v w : Text} {c : Char}

/-- A cursor stands at an offset. -/
def standIn (t : Text) (n : Nat) : Except Slip Unit :=
  if (t.cutBytes? n).isSome then .ok () else .error .position

/-- The byte at an offset. -/
def byteIn (t : Text) (n : Nat) : Except Slip UInt8 :=
  match t.byteAt? n with
  | some b => .ok b
  | none => .error .index

/-- The slice between two offsets. -/
def sliceIn (t : Text) (start stop : Nat) : Except Slip Text :=
  match t.slice? start stop with
  | some u => .ok u
  | none => .error .slice

/-- The slice from an offset on. -/
def sliceFrom (t : Text) (start : Nat) : Except Slip Text := t.sliceIn start t.byteLength

/-- A cursor stands between two characters, or at an end of the text. -/
theorem standIn_eq_ok_iff {n : Nat} :
    t.standIn n = .ok () ↔ ∃ u v, t = u ++ v ∧ u.byteLength = n := by
  rw [standIn]
  constructor
  · intro h
    split at h
    · next hcut =>
        obtain ⟨⟨u, v⟩, hcut⟩ := Option.isSome_iff_exists.mp hcut
        exact ⟨u, v, cutBytes?_eq_some_iff.mp hcut⟩
    · cases h
  · rintro ⟨u, v, hcut⟩
    rw [cutBytes?_eq_some_iff.mpr hcut]
    rfl

/-- A slice lies between two places of a text, and does not stop before it starts. -/
theorem sliceIn_eq_ok_iff {start stop : Nat} : t.sliceIn start stop = .ok u ↔
    ∃ v w, t = v ++ (u ++ w) ∧ v.byteLength = start ∧ (v ++ u).byteLength = stop := by
  constructor
  · intro h
    rw [sliceIn, slice?] at h
    split at h
    · next found hslice =>
        obtain rfl : found = u := Except.ok.inj h
        split at hslice
        · next hle =>
            obtain ⟨⟨v, rest⟩, hv, hrest⟩ := Option.bind_eq_some_iff.mp hslice
            obtain ⟨⟨u, w⟩, hu, heq⟩ := Option.map_eq_some_iff.mp hrest
            obtain rfl : u = found := heq
            obtain ⟨rfl, rfl⟩ := cutBytes?_eq_some_iff.mp hv
            obtain ⟨rfl, hlength⟩ := cutBytes?_eq_some_iff.mp hu
            exact ⟨v, w, rfl, rfl, by rw [byteLength_append]; omega⟩
        · cases hslice
    · cases h
  · rintro ⟨v, w, rfl, rfl, rfl⟩
    rw [sliceIn, slice?_append]

-- the second byte of `ü` is no place
example : standIn ['a', 'ü'] 2 = .error .position ∧ sliceIn ['a', 'ü'] 1 2 = .error .slice := by
  decide

theorem standIn_append (u v : Text) : standIn (u ++ v) u.byteLength = .ok () :=
  standIn_eq_ok_iff.mpr ⟨u, v, rfl, rfl⟩

theorem byteIn_append (u : Text) (c : Char) (v : Text) :
    byteIn (u ++ c :: v) u.byteLength = .ok (lead c) := by
  rw [byteIn, byteAt?_behind]

theorem sliceIn_append (u v w : Text) :
    sliceIn (u ++ (v ++ w)) u.byteLength (u ++ v).byteLength = .ok v :=
  sliceIn_eq_ok_iff.mpr ⟨u, w, rfl, rfl, rfl⟩

theorem sliceFrom_append (u v : Text) : sliceFrom (u ++ v) u.byteLength = .ok v := by
  have h := sliceIn_append u v []
  rwa [List.append_nil] at h

end Text

theorem eq_skipSpaces_of_spaces? {s rest : Text} (h : spaces? s = some rest) :
    rest = skipSpaces s := by
  cases s with
  | nil => cases h
  | cons c s =>
      rw [spaces?] at h
      split at h
      · next hc =>
          rw [← Option.some.inj h]
          exact (List.dropWhile_cons_of_pos hc).symm
      · cases h

/-! ## Scans -/

/-- Reading by a cursor: from an offset of a source, something is found and the cursor moves to
    another offset, or nothing is found, or there is a slip. -/
def Scan (α : Type) : Type := Text → Nat → Except Slip (Option (α × Nat))

namespace Scan

variable {α β : Type} {p : Char → Bool} {c : Char} {before s t u v w rest : Text}

instance : Monad Scan where
  pure x := fun _ n => .ok (some (x, n))
  bind scan next := fun source n =>
    match scan source n with
    | .error slip => .error slip
    | .ok none => .ok none
    | .ok (some (x, m)) => next x source m

theorem bind_apply (scan : Scan α) (go : α → Scan β) (source : Text) (n : Nat) :
    (scan >>= go) source n
      = match scan source n with
        | .error slip => .error slip
        | .ok none => .ok none
        | .ok (some (x, m)) => go x source m := rfl

/-- Nothing is found. -/
def fail : Scan α := fun _ _ => .ok none

/-- Nothing is found unless something holds. -/
def require (holds : Bool) : Scan Unit := if holds then pure () else fail

/-- Nothing is found where there is nothing. -/
def demand : Option α → Scan α
  | some x => pure x
  | none => fail

/-- Where the cursor stands. -/
def position : Scan Nat := fun _ n => .ok (some (n, n))

/-- Move the cursor. -/
def moveTo (m : Nat) : Scan Unit := fun source _ => (source.standIn m).map fun _ => some ((), m)

/-- The byte at an offset, if there is one. -/
def byteAt? (m : Nat) : Scan (Option UInt8) := fun source n => .ok (some (source.byteAt? m, n))

/-- The byte at an offset. -/
def byteAt (m : Nat) : Scan UInt8 := fun source n => (source.byteIn m).map fun b => some (b, n)

/-- The slice between two offsets. -/
def slice (start stop : Nat) : Scan Text :=
  fun source n => (source.sliceIn start stop).map fun t => some (t, n)

/-- The slice from an offset on. -/
def sliceFrom (start : Nat) : Scan Text :=
  fun source n => (source.sliceFrom start).map fun t => some (t, n)

/-- The byte that the cursor stands at, if there is one. -/
def peek : Scan (Option UInt8) := do byteAt? (← position)

/-- The source goes on with a text. -/
def startsWith (w : Text) : Scan Bool := do
  return (Text.after? w (← sliceFrom (← position))).isSome

/-- Step over the bytes of one kind of ASCII characters, one after another. -/
def stepOver (p : Char → Bool) (source : Text) (n : Nat) : Except Slip Nat :=
  match _h : source.byteAt? n with
  | none => .ok n
  | some b =>
      if seen p b then
        match source.standIn (n + 1) with
        | .error slip => .error slip
        | .ok () => stepOver p source (n + 1)
      else .ok n
termination_by source.byteLength - n
decreasing_by
  have := lt_of_byteAt? _h
  omega

/-- Step over characters of one kind, and tell whether there were any. -/
def skip (p : Char → Bool) : Scan Bool :=
  fun source n => (stepOver p source n).map fun m => some (decide (n < m), m)

/-- Step over spaces. -/
def spaces : Scan Bool := skip isSpace

/-- Step over an ASCII character, if it comes next. -/
def eat (c : Char) : Scan Bool := do
  if (← peek).any (seen (· = c)) then
    moveTo ((← position) + 1)
    return true
  else return false

/-- Step over a whole word, if it comes next. -/
def word (w : Text) : Scan Bool := do
  if ← startsWith w then
    let stop := (← position) + w.byteLength
    if (← byteAt? stop).any (seen isNameChar) then return false
    else
      moveTo stop
      return true
  else return false

/-- Read a name. -/
def name : Scan Text := do
  let start ← position
  require (← skip isNameChar)
  slice start (← position)

/-- Read a path literal. -/
def path : Scan PathLiteral := do
  let quote ← demand (← peek)
  require (seen PathLiteral.isQuote quote)
  let start := (← position) + 1
  let length ← demand ((← sliceFrom start).find? fun c => c = Char.ofNat quote.toNat || c = '\n')
  let stop := start + length
  require (length ≠ 0)
  require ((← byteAt stop) = quote)
  moveTo (stop + 1)
  return ⟨Char.ofNat quote.toNat, ← slice start stop⟩

/-- Read a brace list. -/
def list : Scan (List Specifier) := do
  require ((← peek).any (seen (· = '\x7b')))
  let start := (← position) + 1
  let length ← demand ((← sliceFrom start).find? Specifier.endsBody)
  let stop := start + length
  require (seen (· = '\x7d') (← byteAt stop))
  moveTo (stop + 1)
  demand (Specifier.listOfBody? (← slice start stop))

/-- A character that ends a statement. -/
def endsStatement (c : Char) : Bool := c = ';' || c = '\n' || c = '\r'

/-- A statement may end here. The cursor looks ahead and goes back. -/
def ends : Scan Bool := do
  let here ← position
  let _ ← skip isInlineSpace
  let ends ← match ← peek with
    | none => pure true
    | some b =>
        if seen endsStatement b then pure true
        else if seen (· = '/') b then startsWith "//".toList
        else pure false
  moveTo here
  return ends

/-! ## Agreement -/

/-- At the front of `s`, with `before` before it, a scan comes to what a reader finds: it slips
    nowhere, it finds nothing if there is nothing, and else the same, with the cursor where the
    reader's rest starts. -/
def Agrees (scan : Scan α) (before s : Text) : Option (α × Text) → Prop
  | none => scan (before ++ s) before.byteLength = .ok none
  | some (x, rest) => ∃ u, u ++ rest = before ++ s ∧
      scan (before ++ s) before.byteLength = .ok (some (x, u.byteLength))

namespace Agrees

variable {scan : Scan α} {go : α → Scan β} {x : α} {read : Option (α × Text)}
  {found : Option (β × Text)}

theorem pure (x : α) : Agrees (Pure.pure x) before s (some (x, s)) := ⟨before, rfl, rfl⟩

theorem fail : Agrees (Scan.fail : Scan α) before s none := rfl

/-- One thing is done after another. -/
theorem next (h : Agrees scan before s (some (x, rest)))
    (hgo : ∀ u, u ++ rest = before ++ s → Agrees (go x) u rest found) :
    Agrees (scan >>= go) before s found := by
  obtain ⟨u, hu, hscan⟩ := h
  have hrest := hgo u hu
  have hbind : (scan >>= go) (before ++ s) before.byteLength = go x (u ++ rest) u.byteLength := by
    rw [bind_apply, hscan, hu]
  cases found with
  | none => exact hbind.trans hrest
  | some found =>
      obtain ⟨y, rest'⟩ := found
      obtain ⟨u', hu', hrest⟩ := hrest
      exact ⟨u', hu'.trans hu, hbind.trans hrest⟩

/-- Something is looked at, and the cursor stays. -/
theorem here (h : Agrees scan before s (some (x, s))) (hgo : Agrees (go x) before s found) :
    Agrees (scan >>= go) before s found :=
  h.next fun u hu => by
    obtain rfl : u = before := List.append_cancel_right hu
    exact hgo

/-- Nothing is done after nothing has been found. -/
theorem stop (h : Agrees scan before s none) : Agrees (scan >>= go) before s none := by
  have hscan : scan (before ++ s) before.byteLength = .ok none := h
  show (scan >>= go) (before ++ s) before.byteLength = .ok none
  rw [bind_apply, hscan]

/-- A scan goes on where a reader does. -/
theorem bind {go' : α × Text → Option (β × Text)} (h : Agrees scan before s read)
    (hgo : ∀ x rest u, u ++ rest = before ++ s → Agrees (go x) u rest (go' (x, rest))) :
    Agrees (scan >>= go) before s (read.bind go') := by
  cases read with
  | none => exact h.stop
  | some found => exact h.next (hgo found.1 found.2)

theorem map {f : α → β} (h : Agrees scan before s read) :
    Agrees (scan >>= fun x => Pure.pure (f x)) before s
      (read.map fun (x, rest) => (f x, rest)) := by
  cases read with
  | none => exact h.stop
  | some found => exact h.next fun _ _ => pure (f found.1)

theorem require {holds : Bool} (h : holds = true) :
    Agrees (Scan.require holds) before s (some ((), s)) := by
  rw [Scan.require, if_pos h]
  exact pure ()

theorem require_not {holds : Bool} (h : holds = false) :
    Agrees (Scan.require holds) before s none := by
  rw [Scan.require, if_neg (ne_true_of_eq_false h)]
  exact fail

theorem demand (found : Option α) : Agrees (Scan.demand found) before s (found.map (·, s)) := by
  cases found with
  | none => exact fail
  | some x => exact pure x

theorem position : Agrees position before s (some (before.byteLength, s)) := ⟨before, rfl, rfl⟩

/-- The cursor may be moved to any place of the source, also back. -/
theorem moveTo {n : Nat} (hrest : u ++ rest = before ++ s) (hn : n = u.byteLength) :
    Agrees (moveTo n) before s (some ((), rest)) := by
  refine ⟨u, hrest, ?_⟩
  subst hn
  rw [Scan.moveTo, ← hrest, standIn_append]
  rfl

theorem byteAt?_append (hrest : u ++ rest = before ++ s) :
    Agrees (byteAt? u.byteLength) before s (some (rest.byteAt? 0, s)) := by
  refine ⟨before, rfl, ?_⟩
  rw [Scan.byteAt?, ← hrest, Text.byteAt?_append]

theorem byteAt {n : Nat} (hrest : u ++ c :: rest = before ++ s) (hn : n = u.byteLength) :
    Agrees (byteAt n) before s (some (lead c, s)) := by
  refine ⟨before, rfl, ?_⟩
  subst hn
  rw [Scan.byteAt, ← hrest, byteIn_append]
  rfl

theorem slice {m n : Nat} (hrest : u ++ (v ++ rest) = before ++ s) (hm : m = u.byteLength)
    (hn : n = (u ++ v).byteLength) : Agrees (slice m n) before s (some (v, s)) := by
  refine ⟨before, rfl, ?_⟩
  subst hm hn
  rw [Scan.slice, ← hrest, sliceIn_append]
  rfl

theorem sliceFrom {n : Nat} (hrest : u ++ rest = before ++ s) (hn : n = u.byteLength) :
    Agrees (sliceFrom n) before s (some (rest, s)) := by
  refine ⟨before, rfl, ?_⟩
  subst hn
  rw [Scan.sliceFrom, ← hrest, sliceFrom_append]
  rfl

theorem peek : Agrees peek before s (some (s.byteAt? 0, s)) := position.here (byteAt?_append rfl)

/-- The next byte is looked at, and there has to be one. -/
theorem look {go : UInt8 → Scan α} (hnil : s = [] → read = none)
    (hcons : ∀ c t, s = c :: t → Agrees (go (lead c)) before s read) :
    Agrees (Scan.peek >>= fun b => Scan.demand b >>= go) before s read := by
  refine peek.here ?_
  cases s with
  | nil =>
      rw [hnil rfl]
      exact fail.stop
  | cons c t =>
      rw [byteAt?_cons]
      exact (pure (lead c)).here (hcons c t rfl)

theorem startsWith : Agrees (startsWith w) before s (some ((Text.after? w s).isSome, s)) :=
  position.here ((sliceFrom rfl rfl).here (pure _))

/-! ## Leaf scans -/

/-- A step over one byte is a step over one character. The induction is on the text ahead. -/
theorem stepOver_append (hp : Ascii p) (before s : Text) :
    stepOver p (before ++ s) before.byteLength = .ok (before ++ s.takeWhile p).byteLength := by
  induction s generalizing before with
  | nil =>
      rw [stepOver]
      split
      · rw [List.takeWhile_nil, List.append_nil]
      · next b hb =>
          rw [Text.byteAt?_append] at hb
          cases hb
  | cons c s ih =>
      rw [stepOver]
      split
      · next hnone =>
          rw [byteAt?_behind] at hnone
          cases hnone
      · next b hb =>
          rw [byteAt?_behind] at hb
          obtain rfl := Option.some.inj hb
          rw [seen_lead hp]
          cases hc : p c with
          | false => rw [List.takeWhile_cons_of_neg (ne_true_of_eq_false hc), List.append_nil]; rfl
          | true =>
              have hsource : before ++ c :: s = (before ++ [c]) ++ s := by
                rw [List.append_assoc]
                rfl
              rw [if_pos rfl, ← byteLength_concat (hp c hc), hsource, standIn_append,
                List.takeWhile_cons_of_pos hc]
              dsimp only
              rw [ih, List.append_assoc]
              rfl

theorem skip (hp : Ascii p) :
    Agrees (skip p) before s (some (decide (s.takeWhile p ≠ []), s.dropWhile p)) := by
  refine ⟨before ++ s.takeWhile p, ?_, ?_⟩
  · rw [List.append_assoc, List.takeWhile_append_dropWhile]
  · have hany : decide (before.byteLength < (before ++ s.takeWhile p).byteLength)
        = decide (s.takeWhile p ≠ []) := by
      rw [decide_eq_decide, byteLength_append]
      cases s.takeWhile p with
      | nil => simp
      | cons c t =>
          have := c.utf8Size_pos
          simp only [byteLength_cons, ne_eq, List.cons_ne_nil, not_false_eq_true, iff_true]
          omega
    rw [Scan.skip, stepOver_append hp]
    show Except.ok (some (decide _, _)) = _
    rw [hany]

theorem spaces : Agrees spaces before s (some ((spaces? s).isSome, skipSpaces s)) := by
  have hany : (spaces? s).isSome = decide (s.takeWhile isSpace ≠ []) := by
    cases s with
    | nil => rfl
    | cons c s => cases hc : isSpace c <;> simp [spaces?, hc]
  rw [hany]
  exact skip ascii_isSpace

theorem eat (hc : c.toNat < 128) : Agrees (eat c) before (c :: t) (some (true, t)) := by
  rw [Scan.eat]
  refine peek.here ?_
  rw [byteAt?_cons, Option.any_some, seen_lead (ascii_eq hc), decide_eq_true rfl, if_pos rfl]
  refine position.here ?_
  have hsource : before ++ [c] ++ t = before ++ c :: t := List.append_assoc _ _ _
  exact (moveTo hsource (byteLength_concat hc before).symm).next fun _ _ => pure true

theorem eat_other (hc : c.toNat < 128) (h : Stops (· = c) s) :
    Agrees (Scan.eat c) before s (some (false, s)) := by
  rw [Scan.eat]
  refine peek.here ?_
  have hno : (s.byteAt? 0).any (seen (· = c)) = false := by
    cases s with
    | nil => rfl
    | cons d s => rwa [byteAt?_cons, Option.any_some, seen_lead (ascii_eq hc)]
  rw [hno]
  exact pure false

/-- A whole word is stepped over as a slice of the source shows it, and the byte behind it. -/
theorem word (h : word? w s = some rest) : Agrees (word w) before s (some (true, rest)) := by
  obtain ⟨rfl, hends⟩ := word?_eq_some_iff.mp h
  have hno : (rest.byteAt? 0).any (seen isNameChar) = false := by
    cases rest with
    | nil => rfl
    | cons c rest =>
        rw [byteAt?_cons, Option.any_some, seen_lead ascii_isNameChar]
        exact nameEnds_iff.mp hends
  have hstop : before.byteLength + w.byteLength = (before ++ w).byteLength :=
    (byteLength_append before w).symm
  rw [Scan.word]
  refine startsWith.here ?_
  rw [after?_append, Option.isSome_some, if_pos rfl]
  refine position.here ?_
  rw [hstop]
  refine (byteAt?_append (List.append_assoc _ _ _)).here ?_
  rw [hno]
  exact (moveTo (List.append_assoc _ _ _) rfl).next fun _ _ => pure true

theorem not_word (h : word? w s = none) : Agrees (Scan.word w) before s (some (false, s)) := by
  rw [Scan.word]
  refine startsWith.here ?_
  cases hafter : Text.after? w s with
  | none => exact pure false
  | some rest =>
      obtain rfl := after?_eq_some_iff.mp hafter
      rw [word?, hafter] at h
      have hname : (rest.byteAt? 0).any (seen isNameChar) = true := by
        cases rest with
        | nil => cases h
        | cons c rest =>
            rw [byteAt?_cons, Option.any_some, seen_lead ascii_isNameChar]
            simpa [nameEnds] using h
      rw [Option.isSome_some, if_pos rfl]
      refine position.here ?_
      rw [← byteLength_append]
      refine (byteAt?_append (List.append_assoc _ _ _)).here ?_
      rw [hname]
      exact pure false

/-- A word has to be there. -/
theorem keyword {go : Scan α} {go' : Text → Option (α × Text)}
    (hgo : ∀ rest u, Agrees go u rest (go' rest)) :
    Agrees (do Scan.require (← Scan.word w); go) before s ((word? w s).bind go') := by
  cases hword : word? w s with
  | none => exact (not_word hword).here (require_not rfl).stop
  | some rest => exact (word hword).next fun u _ => (require rfl).here (hgo rest u)

/-- Spaces have to be there. -/
theorem gap {go : Scan α} {go' : Text → Option (α × Text)}
    (hgo : ∀ rest u, Agrees go u rest (go' rest)) :
    Agrees (do Scan.require (← Scan.spaces); go) before s ((spaces? s).bind go') := by
  refine spaces.next fun u _ => ?_
  cases hspaces : spaces? s with
  | none => exact (require_not rfl).stop
  | some rest =>
      obtain rfl : rest = skipSpaces s := eq_skipSpaces_of_spaces? hspaces
      exact (require rfl).here (hgo _ u)

theorem name : Agrees name before s (name? s) := by
  rw [Scan.name, name?]
  refine position.here ((skip ascii_isNameChar).next fun u hu => ?_)
  split
  · next hnil =>
      rw [hnil]
      exact (require_not rfl).stop
  · next hne =>
      have hname : s.takeWhile isNameChar ++ s.dropWhile isNameChar = s :=
        List.takeWhile_append_dropWhile
      have hu' : u = before ++ s.takeWhile isNameChar := by
        have hcut : u ++ s.dropWhile isNameChar
            = before ++ s.takeWhile isNameChar ++ s.dropWhile isNameChar := by
          rw [hu, List.append_assoc, hname]
        exact List.append_cancel_right hcut
      have hany : decide (s.takeWhile isNameChar ≠ []) = true := decide_eq_true hne
      rw [hany]
      refine (require rfl).here ?_
      have hsource : before ++ (s.takeWhile isNameChar ++ s.dropWhile isNameChar)
          = u ++ s.dropWhile isNameChar := by rw [hu, hname]
      exact position.here (slice hsource rfl (by rw [hu']))

/-! ## Paths and lists -/

/-- The first byte of a character that is an ASCII one tells it from all others. -/
theorem lead_eq_iff {d : Char} (hc : c.toNat < 128) : lead d = lead c ↔ d = c := by
  constructor
  · intro h
    have hseen : seen (· = c) (lead d) = true := by
      rw [h, seen_lead (ascii_eq hc)]
      exact decide_eq_true rfl
    rw [seen_lead (ascii_eq hc)] at hseen
    exact of_decide_eq_true hseen
  · rintro rfl
    rfl

theorem ofNat_lead (hc : c.toNat < 128) : Char.ofNat (lead c).toNat = c := by
  rw [toNat_lead hc, Char.ofNat_toNat]

theorem byteLength_enclosed {q : Char} (hq : q.toNat < 128) (before v : Text) :
    before.byteLength + 1 + v.byteLength = (before ++ [q] ++ v).byteLength := by
  rw [byteLength_append (before ++ [q]), byteLength_concat hq]

/-- Behind an ASCII character and a text, the next byte is looked at. -/
theorem closing {q d : Char} (hq : q.toNat < 128) :
    Agrees (Scan.byteAt (before.byteLength + 1 + v.byteLength)) before (q :: (v ++ d :: rest))
      (some (lead d, q :: (v ++ d :: rest))) := by
  have hsource : before ++ [q] ++ v ++ d :: rest = before ++ q :: (v ++ d :: rest) := by
    simp only [List.append_assoc, List.cons_append, List.nil_append]
  exact byteAt hsource (byteLength_enclosed hq before v)

/-- What stands between two ASCII characters is a slice, and the cursor moves behind both. -/
theorem enclosed {q d : Char} (hq : q.toNat < 128) (hd : d.toNat < 128) {go : Text → Scan β}
    (hgo : ∀ u, u ++ rest = before ++ q :: (v ++ d :: rest) → Agrees (go v) u rest found) :
    Agrees (do
        Scan.moveTo (before.byteLength + 1 + v.byteLength + 1)
        go (← Scan.slice (before.byteLength + 1) (before.byteLength + 1 + v.byteLength)))
      before (q :: (v ++ d :: rest)) found := by
  have hsource : before ++ [q] ++ v ++ [d] ++ rest = before ++ q :: (v ++ d :: rest) := by
    simp only [List.append_assoc, List.cons_append, List.nil_append]
  rw [byteLength_enclosed hq before v]
  refine (moveTo hsource (byteLength_concat hd _).symm).next fun u hu => ?_
  have hslice : before ++ [q] ++ (v ++ d :: rest) = u ++ rest := by
    rw [hu, List.append_assoc]
    rfl
  exact (slice hslice (byteLength_concat hq before).symm rfl).here (hgo u hu)

open PathLiteral in
theorem path : Agrees path before s (read? s) := by
  rw [Scan.path]
  refine peek.here ?_
  cases s with
  | nil => exact fail.stop
  | cons q t =>
      rw [byteAt?_cons, read?]
      refine (pure (lead q)).here ?_
      cases hq : isQuote q with
      | false =>
          refine (require_not ?_).stop
          rw [seen_lead ascii_isQuote, hq]
      | true =>
          have hascii := ascii_isQuote q hq
          have hsource : before ++ [q] ++ t = before ++ q :: t := List.append_assoc _ _ _
          have hinside : (fun c => !(decide (c = q) || decide (c = '\n'))) = inside q := by
            funext c
            simp [inside]
          have ht : t.takeWhile (inside q) ++ t.dropWhile (inside q) = t :=
            List.takeWhile_append_dropWhile
          rw [if_pos rfl, ofNat_lead hascii]
          refine (require (by rw [seen_lead ascii_isQuote, hq])).here (position.here ?_)
          refine (sliceFrom hsource (byteLength_concat hascii before).symm).here ?_
          rw [find?_eq, hinside]
          generalize t.takeWhile (inside q) = v at ht
          generalize t.dropWhile (inside q) = r at ht
          subst ht
          cases r with
          | nil => cases v <;> exact fail.stop
          | cons d rest =>
              refine (pure (byteLength v)).here ?_
              cases v with
              | nil => exact (require_not rfl).stop
              | cons c value =>
                  have hne : decide (byteLength (c :: value) ≠ 0) = true := by
                    have := c.utf8Size_pos
                    rw [byteLength_cons, decide_eq_true_eq]
                    omega
                  refine (require hne).here ((closing hascii).here ?_)
                  dsimp only
                  by_cases hd : d = q
                  · subst hd
                    rw [if_pos rfl, decide_eq_true rfl]
                    exact (require rfl).here (enclosed hascii hascii fun _ _ => pure _)
                  · rw [if_neg hd, decide_eq_false (mt (lead_eq_iff hascii).mp hd)]
                    exact (require_not rfl).stop

open Specifier in
theorem list?_cons_of_ne (hc : c ≠ '\x7b') : list? (c :: t) = none := by
  rw [list?]
  rintro s ⟨⟩
  exact hc rfl

open Specifier in
theorem list : Agrees list before s (list? s) := by
  have hopen : '\x7b'.toNat < 128 := by decide
  rw [Scan.list]
  refine peek.here ?_
  cases s with
  | nil => exact (require_not rfl).stop
  | cons c t =>
      rw [byteAt?_cons, Option.any_some, seen_lead (ascii_eq hopen)]
      by_cases hc : c = '\x7b'
      · subst hc
        have ht : t.takeWhile (!endsBody ·) ++ t.dropWhile (!endsBody ·) = t :=
          List.takeWhile_append_dropWhile
        have hsource : before ++ ['\x7b'] ++ t = before ++ '\x7b' :: t := List.append_assoc _ _ _
        refine (require (decide_eq_true rfl)).here (position.here ?_)
        refine (sliceFrom hsource (byteLength_concat hopen before).symm).here ?_
        rw [find?_eq, list?]
        generalize t.takeWhile (!endsBody ·) = v at ht
        generalize t.dropWhile (!endsBody ·) = r at ht
        subst ht
        cases r with
        | nil => exact fail.stop
        | cons d rest =>
            refine (pure (byteLength v)).here ((closing hopen).here ?_)
            rw [seen_lead (ascii_eq (by decide))]
            by_cases hd : d = '\x7d'
            · subst hd
              exact (require (decide_eq_true rfl)).here
                (enclosed hopen (by decide) fun _ _ => demand _)
            · rw [decide_eq_false hd]
              split
              · next heq => exact absurd (List.cons.inj heq).1 hd
              · exact (require_not rfl).stop
      · rw [list?_cons_of_ne hc, decide_eq_false hc]
        exact (require_not rfl).stop

theorem ascii_endsStatement : Ascii endsStatement :=
  ((ascii_eq (by decide)).or (ascii_eq (by decide))).or (ascii_eq (by decide))

theorem statementEnds_eq (s : Text) :
    statementEnds s = match s.dropWhile isInlineSpace with
      | [] => true
      | c :: rest =>
          if endsStatement c then true
          else if c = '/' then (Text.after? "//".toList (c :: rest)).isSome
          else false := by
  rw [statementEnds]
  generalize s.dropWhile isInlineSpace = r
  split
  · rfl
  · rfl
  · rfl
  · rfl
  · rfl
  · next hnil hsemicolon hfeed hreturn hslashes =>
      cases r with
      | nil => exact absurd rfl hnil
      | cons c rest =>
          have hends : endsStatement c = false := by
            simp only [endsStatement, Bool.or_eq_false_iff, decide_eq_false_iff_not]
            exact ⟨⟨fun h => hsemicolon rest (h ▸ rfl), fun h => hfeed rest (h ▸ rfl)⟩,
              fun h => hreturn rest (h ▸ rfl)⟩
          dsimp only
          rw [hends, if_neg Bool.false_ne_true]
          split
          · next hc =>
              subst hc
              cases hafter : Text.after? "//".toList ('/' :: rest) with
              | none => rfl
              | some rest' => exact absurd (after?_eq_some_iff.mp hafter) (hslashes rest')
          · rfl

theorem ends : Agrees ends before s (some (statementEnds s, s)) := by
  rw [Scan.ends, statementEnds_eq]
  refine position.here ((skip ascii_isInlineSpace).next fun u hu => peek.here ?_)
  generalize s.dropWhile isInlineSpace = r at hu
  have hback (found : Bool) : Agrees (do Scan.moveTo before.byteLength; return found) u r
      (some (found, s)) := (moveTo hu.symm rfl).next fun _ _ => pure found
  cases r with
  | nil => exact (pure true).here (hback true)
  | cons c r =>
      rw [byteAt?_cons]
      dsimp only
      rw [seen_lead ascii_endsStatement, seen_lead (ascii_eq (by decide))]
      cases endsStatement c with
      | true => exact (pure true).here (hback true)
      | false =>
          by_cases hc : c = '/'
          · rw [if_neg Bool.false_ne_true, if_neg Bool.false_ne_true, decide_eq_true hc, if_pos rfl,
              if_pos hc]
            exact startsWith.here (hback _)
          · rw [if_neg Bool.false_ne_true, if_neg Bool.false_ne_true, decide_eq_false hc,
              if_neg Bool.false_ne_true, if_neg hc]
            exact (pure false).here (hback false)

end Agrees

end Scan

end RequireForm
