import RequireForm.Proofs.Rule.Expansion
import RequireForm.Proofs.Source.Cursor

/-!
# Expanding by slices — a template turn by turn, with every offset looked at

    rest     é$<ü>$1            a turn at the sign at 2
    put      é, what ü takes    the name and its brackets are 4 bytes
    left     $1

A template is expanded in turns. Each looks for the first `$` of what is left, puts out the slice
before it, tells from single bytes which placeholder stands behind it, and goes on behind as many
bytes as belong to that. The text around a match is sliced by the bytes where the match starts
and ends. For a match in its text no turn slips, and the turns put out what the template is
expanded to. Every turn leaves less than there was; that follows from its slices alone.

  1. `placeholderIn`, `turn`, `expandSliced`.
  2. `byteLength_lt_of_turn`: turns come to an end.
  3. `placeholderIn_takes`: single bytes tell placeholders apart.
  4. `turn_eq`, `expandSliced_eq`.
-/

namespace RequireForm

open Text

namespace Template

open Pattern (Captures)

/-! ## Turns -/

/-- The value of the decimal digit that a byte is. -/
def digitIn? (b : UInt8) : Option Nat :=
  if 48 ≤ b.toNat ∧ b.toNat ≤ 57 then some (b.toNat - 48) else none

/-- What a group stands for whose number starts with a digit, and the number of bytes of its
    number: two digits are taken if there is such a group, else one. -/
def numberIn? (m : Captures) (first : Nat) (after : Text) : Option (Text × Nat) :=
  match ((after.byteAt? 1).bind digitIn?).filter fun units => hasGroup m (first * 10 + units) with
  | some units => some (groupText m (first * 10 + units), 2)
  | none => if hasGroup m first then some (groupText m first, 1) else none

/-- What the group stands for whose name follows a `<`, up to the first `>`, and the number of
    bytes that both enclose. -/
def namedIn (m : Captures) (after : Text) : Except Slip (Text × Nat) :=
  match after.find? (· = '>') with
  | none => return (['$'], 0)
  | some close => return ((m.named? (← after.sliceIn 1 close)).getD [], close + 1)

/-- What a `$` stands for in front of a text, and the number of bytes of the text that belong to
    it; a `$` that is no placeholder stands for itself. -/
def placeholderIn (m : Captures) (haystack after : Text) : Except Slip (Text × Nat) := do
  let start := m.before.byteLength
  let stop := start + m.whole.byteLength
  match after.byteAt? 0 with
  | none => return (['$'], 0)
  | some b =>
      if seen (· = '$') b then return (['$'], 1)
      else if seen (· = '&') b then return (← haystack.sliceIn start stop, 1)
      else if seen (· = '\x60') b then return (← haystack.sliceIn 0 start, 1)
      else if seen (· = '\x27') b then return (← haystack.sliceFrom stop, 1)
      else if seen (· = '<') b then namedIn m after
      else return ((digitIn? b).bind (numberIn? m · after)).getD (['$'], 0)

/-- One turn, at a `$` of what is left of a template: what is put out, and what is left then. -/
def turn (m : Captures) (haystack rest : Text) (sign : Nat) : Except Slip (Text × Text) := do
  let kept ← rest.sliceIn 0 sign
  let after ← rest.sliceFrom (sign + 1)
  let (value, consumed) ← placeholderIn m haystack after
  return (kept ++ value, ← after.sliceFrom consumed)

/-! ## The turns come to an end -/

variable {m : Captures} {t u haystack rest put left after value : Text} {n sign : Nat} {c : Char}

theorem byteLength_of_sliceFrom (h : t.sliceFrom n = .ok u) :
    n + u.byteLength = t.byteLength := by
  obtain ⟨before, behind, rfl, rfl, hstop⟩ := sliceIn_eq_ok_iff.mp h
  simp only [byteLength_append] at hstop ⊢
  omega

/-- Every turn leaves less than there was: at least the `$` is gone. -/
theorem byteLength_lt_of_turn (h : turn m haystack rest sign = .ok (put, left)) :
    left.byteLength < rest.byteLength := by
  simp only [turn, bind, Except.bind] at h
  split at h
  · cases h
  · split at h
    · cases h
    · next after hafter =>
        split at h
        · cases h
        · split at h
          · cases h
          · next left' hleft =>
              cases h
              have := byteLength_of_sliceFrom hafter
              have := byteLength_of_sliceFrom hleft
              omega

/-- Expand what is left of a template, turn by turn. -/
def expandSliced (m : Captures) (haystack rest : Text) : Except Slip Text :=
  match rest.find? (· = '$') with
  | none => .ok rest
  | some sign =>
      match _h : turn m haystack rest sign with
      | .error slip => .error slip
      | .ok (put, left) => (expandSliced m haystack left).map (put ++ ·)
termination_by rest.byteLength
decreasing_by exact byteLength_lt_of_turn _h

/-! ## Placeholders -/

/-- What a `$` stands for in front of a text, and what is left behind it. -/
def behindSign (m : Captures) (after : Text) : Text × Text :=
  (placeholder? m after).getD (['$'], after)

/-- Something that is found with a number of bytes is what is read, with a rest behind so many
    bytes. -/
def Takes (found : Text × Nat) (s : Text) (read : Text × Text) : Prop :=
  ∃ u : Text, u ++ read.2 = s ∧ found = (read.1, u.byteLength)

theorem Takes.nothing (value s : Text) : Takes (value, 0) s (value, s) := ⟨[], rfl, rfl⟩

theorem Takes.one (hc : c.toNat < 128) (value s : Text) : Takes (value, 1) (c :: s) (value, s) :=
  ⟨[c], rfl, by rw [byteLength_cons, utf8Size_of_ascii hc]; rfl⟩

theorem lt_of_digit? (h : digit? c = some n) : c.toNat < 128 := by
  obtain ⟨hn, rfl⟩ := eq_digitChar_of_digit? h
  rw [Nat.toNat_digitChar_of_lt_ten hn]
  omega

theorem digitIn?_lead (c : Char) : digitIn? (lead c) = digit? c := by
  by_cases hc : c.toNat < 128
  · rw [digitIn?, digit?, toNat_lead hc]
    rfl
  · have hle := le_toNat_lead (Nat.not_lt.mp hc)
    have hnone : digit? c = none := by
      cases hdigit : digit? c with
      | none => rfl
      | some n => exact absurd (lt_of_digit? hdigit) hc
    rw [hnone, digitIn?, if_neg (by omega)]

/-- A number is told by its first byte and, if it has two digits, by its second. -/
theorem numberIn?_takes {first : Nat} (hc : c.toNat < 128) (s : Text) :
    Takes ((numberIn? m first (c :: s)).getD (['$'], 0)) (c :: s)
      ((number? m first s).getD (['$'], c :: s)) := by
  have hone : Takes
      ((if hasGroup m first then some (groupText m first, 1) else none).getD (['$'], 0)) (c :: s)
      ((if hasGroup m first then some (groupText m first, s) else none).getD (['$'], c :: s)) := by
    split
    · exact .one hc _ s
    · exact .nothing _ _
  have hsecond : byteAt? (c :: s) 1 = byteAt? s 0 := by
    have h := byteAt?_append [c] s
    rwa [byteLength_cons, utf8Size_of_ascii hc] at h
  rw [numberIn?, number?, hsecond]
  cases s with
  | nil => exact hone
  | cons d s =>
      rw [byteAt?_cons, Option.bind_some, digitIn?_lead, twoDigits?]
      cases hd : digit? d with
      | none => exact hone
      | some units =>
          dsimp only [Option.bind_eq_bind, Option.bind_some, Option.filter_some]
          cases hgroup : hasGroup m (first * 10 + units) with
          | false => exact hone
          | true =>
              refine ⟨[c, d], rfl, ?_⟩
              rw [byteLength_cons, byteLength_cons, utf8Size_of_ascii hc,
                utf8Size_of_ascii (lt_of_digit? hd)]
              rfl

/-- A name is the slice up to the first `>`. -/
theorem namedIn_takes (s : Text) : ∃ found, namedIn m ('<' :: s) = .ok found ∧
    Takes found ('<' :: s) (behindSign m ('<' :: s)) := by
  obtain ⟨name, rest, rfl, hname, hrest⟩ := exists_run (· ≠ '>') s
  have hno : ∀ c ∈ '<' :: name, decide (c = '>') = false :=
    List.forall_mem_cons.mpr ⟨rfl, fun c hc => decide_eq_false (of_decide_eq_true (hname c hc))⟩
  rw [namedIn, behindSign, placeholder?, takeWhile_append_of_run hname hrest,
    dropWhile_append_of_run hname hrest]
  cases rest with
  | nil =>
      rw [List.append_nil, find?_of_forall hno]
      exact ⟨_, rfl, .nothing _ _⟩
  | cons c rest =>
      obtain rfl : c = '>' := Decidable.not_not.mp (of_decide_eq_false hrest)
      have hfind : find? (· = '>') ('<' :: (name ++ '>' :: rest))
          = some (byteLength ('<' :: name)) := find?_append hno rfl rest
      have hslice :
          sliceIn ('<' :: (name ++ '>' :: rest)) 1 (byteLength ('<' :: name)) = .ok name :=
        sliceIn_append ['<'] name ('>' :: rest)
      rw [hfind]
      dsimp only
      rw [hslice]
      refine ⟨_, rfl, '<' :: name ++ ['>'], ?_, ?_⟩
      · rw [List.append_assoc]
        rfl
      · rw [byteLength_concat (by decide)]
        rfl

theorem placeholderIn_takes (hm : m.IsIn haystack) (after : Text) :
    ∃ found, placeholderIn m haystack after = .ok found ∧
      Takes found after (behindSign m after) := by
  have hstop : m.before.byteLength + m.whole.byteLength = (m.before ++ m.whole).byteLength :=
    (byteLength_append _ _).symm
  cases after with
  | nil => exact ⟨_, rfl, .nothing _ _⟩
  | cons c s =>
      rw [placeholderIn, byteAt?_cons, hstop, ← hm]
      dsimp only
      rw [seen_lead (ascii_eq (by decide)), seen_lead (ascii_eq (by decide)),
        seen_lead (ascii_eq (by decide)), seen_lead (ascii_eq (by decide)),
        seen_lead (ascii_eq (by decide)), sliceFrom_append, List.append_assoc, sliceIn_append]
      have hbefore :
          sliceIn (m.before ++ (m.whole ++ m.after)) 0 m.before.byteLength = .ok m.before :=
        sliceIn_append [] m.before _
      rw [hbefore, digitIn?_lead]
      by_cases hsign : c = '$'
      · subst hsign
        exact ⟨_, rfl, .one (by decide) _ s⟩
      by_cases hwhole : c = '&'
      · subst hwhole
        exact ⟨_, rfl, .one (by decide) _ s⟩
      by_cases hb : c = '\x60'
      · subst hb
        exact ⟨_, rfl, .one (by decide) _ s⟩
      by_cases ha : c = '\x27'
      · subst ha
        exact ⟨_, rfl, .one (by decide) _ s⟩
      by_cases hopen : c = '<'
      · subst hopen
        exact namedIn_takes s
      have hother : placeholder? m (c :: s) = (digit? c).bind (number? m · s) := by
        rw [placeholder?] <;> assumption
      rw [decide_eq_false hsign, decide_eq_false hwhole, decide_eq_false hb, decide_eq_false ha,
        decide_eq_false hopen, behindSign, hother]
      refine ⟨_, rfl, ?_⟩
      cases hdigit : digit? c with
      | none => exact .nothing _ _
      | some first => exact numberIn?_takes (lt_of_digit? hdigit) s

/-! ## Whole templates -/

theorem expand_sign (s : Text) :
    expand m ('$' :: s) = (behindSign m s).1 ++ expand m (behindSign m s).2 := by
  rw [behindSign]
  cases h : placeholder? m s with
  | some found => exact expand_placeholder h
  | none =>
      rw [expand, if_pos rfl]
      split
      · next heq =>
          rw [h] at heq
          cases heq
      · rfl

theorem expand_run {t : Text} (ht : Run (· ≠ '$') t) (s : Text) :
    expand m (t ++ s) = t ++ expand m s := by
  induction t with
  | nil => rfl
  | cons c t ih =>
      obtain ⟨hc, ht⟩ := run_cons.mp ht
      rw [List.cons_append, expand_cons (of_decide_eq_true hc), ih ht]
      rfl

/-- A turn puts out what stands before a `$` and what that stands for. -/
theorem turn_eq (hm : m.IsIn haystack) (kept after : Text) :
    turn m haystack (kept ++ '$' :: after) kept.byteLength
      = .ok (kept ++ (behindSign m after).1, (behindSign m after).2) := by
  obtain ⟨found, hfound, u, hu, rfl⟩ := placeholderIn_takes hm after
  have hkept : sliceIn (kept ++ '$' :: after) 0 kept.byteLength = .ok kept :=
    sliceIn_append [] kept _
  have hafter : sliceFrom (kept ++ '$' :: after) (kept.byteLength + 1) = .ok after := by
    have hslice := sliceFrom_append (kept ++ ['$']) after
    rwa [byteLength_concat (by decide), List.append_assoc] at hslice
  have hleft : after.sliceFrom u.byteLength = .ok (behindSign m after).2 := by
    have hslice := sliceFrom_append u (behindSign m after).2
    rwa [hu] at hslice
  simp only [turn, hkept, hafter, hfound, hleft, bind, Except.bind, pure, Except.pure]

/-- Turn by turn, a template is expanded. -/
theorem expandSliced_eq (hm : m.IsIn haystack) (template : Text) :
    expandSliced m haystack template = .ok (expand m template) := by
  -- the induction is on the number of bytes that are left
  induction hn : byteLength template using Nat.strong_induction_on generalizing template with
  | _ n ih =>
      obtain ⟨kept, rest, rfl, hkept, hrest⟩ := exists_run (· ≠ '$') template
      have hno : ∀ c ∈ kept, decide (c = '$') = false := fun c hc =>
        decide_eq_false (of_decide_eq_true (hkept c hc))
      rw [expandSliced, expand_run hkept]
      cases rest with
      | nil => rw [List.append_nil, find?_of_forall hno, expand_nil, List.append_nil]
      | cons c after =>
          obtain rfl : c = '$' := Decidable.not_not.mp (of_decide_eq_false hrest)
          have hturn := turn_eq hm kept after
          have hleft := ih _ (hn ▸ byteLength_lt_of_turn hturn) _ rfl
          rw [find?_append hno rfl, expand_sign]
          dsimp only
          split
          · next heq =>
              rw [hturn] at heq
              cases heq
          · next put left heq =>
              rw [hturn] at heq
              obtain ⟨rfl, rfl⟩ := Prod.mk.inj (Except.ok.inj heq)
              rw [hleft, ← List.append_assoc]
              rfl

end Template

end RequireForm
