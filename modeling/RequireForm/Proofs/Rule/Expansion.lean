import Mathlib.Tactic.IntervalCases
import RequireForm.Rule.Template
import RequireForm.Proofs.Pattern.Fragments
import RequireForm.Proofs.Source.Run

/-!
# Expansion — a template says what it is written to say

    segments   text "a$"   whole   group 1   text "0"   group 12   named "x"
    written    a$$         $&      $1        0          $12        $<x>

A template is written segment by segment, and its expansion is what the segments stand for, one
after another. A segment is read back from its first character alone, with two exceptions: the
name of a group goes on to the first `>`, and a number of one digit must not be taken for the
first digit of another group's number.

  1. `Segment`: how it is written, and what it stands for in a match.
  2. `Segment.ReadsBack`: what a segment asks of itself and of what is written behind it.
  3. `expand_written`: one segment in front of any rest. `expand_render`: all of them.
-/

namespace RequireForm

open Pattern (Captures)

/-! ## Segments -/

namespace Pattern.Captures

/-- The number of groups, the whole match among them. -/
def groupCount (m : Captures) : Nat := m.groups.length + 1

/-- Where the match starts in its text. -/
def start (m : Captures) : Nat := m.before.length

/-- Where the match ends in its text. -/
def stop (m : Captures) : Nat := m.start + m.whole.length

theorem IsIn.take_start {m : Captures} {t : Text} (h : m.IsIn t) : t.take m.start = m.before := by
  rw [← h, List.append_assoc]
  exact List.take_left

theorem IsIn.drop_stop {m : Captures} {t : Text} (h : m.IsIn t) : t.drop m.stop = m.after := by
  have hlength : m.stop = (m.before ++ m.whole).length := List.length_append.symm
  rw [← h, hlength]
  exact List.drop_left

end Pattern.Captures

namespace Template

/-- A part of a template. -/
inductive Segment where
  /-- Text that stands for itself. -/
  | text (t : Text)
  /-- The whole match. -/
  | whole
  /-- What stands before the match. -/
  | before
  /-- What stands behind the match. -/
  | after
  /-- The group of a name. -/
  | named (name : Text)
  /-- The group of a number that is written with two digits. -/
  | twoDigits (n : Nat)
  /-- The group of a number that is written with one digit. -/
  | oneDigit (n : Nat)
  deriving DecidableEq, Repr

/-- A text in which every `$` is written twice. -/
def doubled : Text → Text
  | [] => []
  | c :: t => if c = '$' then '$' :: '$' :: doubled t else c :: doubled t

namespace Segment

/-- A segment as it is written. -/
def written : Segment → Text
  | text t => doubled t
  | whole => ['$', '&']
  | before => ['$', '\x60']
  | after => ['$', '\x27']
  | named name => '$' :: '<' :: (name ++ ['>'])
  | twoDigits n => ['$', Nat.digitChar (n / 10), Nat.digitChar (n % 10)]
  | oneDigit n => ['$', Nat.digitChar n]

/-- What a segment stands for in a match in a text. A group that takes no part in the match
    stands for nothing, and so does a name that no group has. -/
def value (t : Text) (m : Captures) : Segment → Text
  | text literal => literal
  | whole => m.whole
  | before => t.take m.start
  | after => t.drop m.stop
  | named name => (m.named? name).getD []
  | twoDigits n => (m.group? n).getD []
  | oneDigit n => (m.group? n).getD []

/-- A segment in front of a rest is read back as what it is: a name ends with its `>`, a number
    is that of a group, and one digit is no part of the number of a group of two. -/
def ReadsBack (m : Captures) (rest : Text) : Segment → Prop
  | named name => '>' ∉ name
  | twoDigits n => 1 ≤ n ∧ n ≤ 99 ∧ n < m.groupCount
  | oneDigit n => 1 ≤ n ∧ n ≤ 9 ∧ n < m.groupCount ∧
      ∀ e < 10, rest.head? = some (Nat.digitChar e) → m.groupCount ≤ 10 * n + e
  | _ => True

instance (m : Captures) (rest : Text) (s : Segment) : Decidable (s.ReadsBack m rest) :=
  match s with
  | named name => inferInstanceAs (Decidable ('>' ∉ name))
  | twoDigits n => inferInstanceAs (Decidable (1 ≤ n ∧ n ≤ 99 ∧ n < m.groupCount))
  | oneDigit n => inferInstanceAs (Decidable (1 ≤ n ∧ n ≤ 9 ∧ n < m.groupCount ∧
      ∀ e < 10, rest.head? = some (Nat.digitChar e) → m.groupCount ≤ 10 * n + e))
  | text _ | whole | before | after => inferInstanceAs (Decidable True)

end Segment

/-- A template as it is written. -/
def render (segments : List Segment) : Text := segments.flatMap (·.written)

/-- Every segment is read back in front of those behind it. -/
def ReadsBack (m : Captures) : List Segment → Prop
  | [] => True
  | s :: segments => s.ReadsBack m (render segments) ∧ ReadsBack m segments

instance decidableReadsBack (m : Captures) : (segments : List Segment) →
    Decidable (ReadsBack m segments)
  | [] => inferInstanceAs (Decidable True)
  | s :: segments =>
      have := decidableReadsBack m segments
      inferInstanceAs (Decidable (s.ReadsBack m (render segments) ∧ ReadsBack m segments))

/-! ## Digits -/

theorem digit?_digitChar {n : Nat} (h : n < 10) : digit? (Nat.digitChar n) = some n := by
  interval_cases n <;> rfl

theorem eq_digitChar_of_digit? {c : Char} {n : Nat} (h : digit? c = some n) :
    n < 10 ∧ c = Nat.digitChar n := by
  unfold digit? at h
  split at h
  · next hc =>
    have hlow : 48 ≤ c.toNat := hc.1
    have hhigh : c.toNat ≤ 57 := hc.2
    have hn : c.toNat = 48 + n := by
      have := Option.some.inj h
      omega
    have hlt : n < 10 := by omega
    refine ⟨hlt, Char.toNat_inj.mp ?_⟩
    rw [Nat.toNat_digitChar_of_lt_ten hlt, hn]
  · cases h

variable {t rest : Text} {m : Captures}

/-- A number is read behind the `$` where a digit stands. -/
theorem placeholder?_digitChar {n : Nat} (h : n < 10) (s : Text) :
    placeholder? m (Nat.digitChar n :: s) = number? m n s := by
  interval_cases n <;> rfl

theorem hasGroup_iff {n : Nat} : hasGroup m n = true ↔ 1 ≤ n ∧ n < m.groupCount := by
  unfold hasGroup Captures.groupCount
  rw [Bool.and_eq_true, decide_eq_true_eq, decide_eq_true_eq]
  omega

theorem number?_two {n : Nat} (h : 1 ≤ n ∧ n < m.groupCount) (rest : Text) :
    number? m (n / 10) (Nat.digitChar (n % 10) :: rest) = some (groupText m n, rest) := by
  have hn : n / 10 * 10 + n % 10 = n := Nat.div_add_mod' n 10
  have htwo : twoDigits? m (n / 10) (Nat.digitChar (n % 10) :: rest)
      = some (groupText m n, rest) := by
    rw [twoDigits?, digit?_digitChar (Nat.mod_lt n (by decide))]
    show (if hasGroup m (n / 10 * 10 + n % 10) = true then _ else _) = _
    rw [hn, if_pos (hasGroup_iff.mpr h)]
  rw [number?, htwo]

/-- One digit is a number of its own where the next character makes no number of a group. -/
theorem number?_one {n : Nat} (h : 1 ≤ n ∧ n < m.groupCount)
    (hrest : ∀ e < 10, rest.head? = some (Nat.digitChar e) → m.groupCount ≤ 10 * n + e) :
    number? m n rest = some (groupText m n, rest) := by
  -- a digit comes next, but two digits are the number of no group
  have hnone : twoDigits? m n rest = none := by
    cases rest with
    | nil => rfl
    | cons c rest =>
        rw [twoDigits?]
        cases hc : digit? c with
        | none => rfl
        | some e =>
            obtain ⟨he, rfl⟩ := eq_digitChar_of_digit? hc
            have hgroup : ¬ hasGroup m (n * 10 + e) = true := by
              have := hrest e he rfl
              rw [hasGroup_iff]
              omega
            show (if hasGroup m (n * 10 + e) = true then _ else _) = _
            rw [if_neg hgroup]
  rw [number?, hnone, if_pos (hasGroup_iff.mpr h)]

/-! ## Expanding -/

theorem expand_nil : expand m [] = [] := by rw [expand]

theorem expand_cons {c : Char} (hc : c ≠ '$') (s : Text) :
    expand m (c :: s) = c :: expand m s := by
  rw [expand, if_neg hc]

theorem expand_placeholder {s value : Text} (h : placeholder? m s = some (value, rest)) :
    expand m ('$' :: s) = value ++ expand m rest := by
  rw [expand, if_pos rfl]
  split
  · next heq =>
    rw [h] at heq
    cases heq
    rfl
  · next heq =>
    rw [h] at heq
    cases heq

/-- What is doubled stands for itself. -/
theorem expand_doubled (literal rest : Text) :
    expand m (doubled literal ++ rest) = literal ++ expand m rest := by
  induction literal with
  | nil => rfl
  | cons c literal ih =>
      rw [doubled]
      by_cases hc : c = '$'
      · subst hc
        rw [if_pos rfl, List.cons_append, List.cons_append]
        rw [expand_placeholder (m := m) rfl, ih]
        rfl
      · rw [if_neg hc, List.cons_append, expand_cons hc, ih]
        rfl

theorem placeholder?_named {name : Text} (h : '>' ∉ name) (rest : Text) :
    placeholder? m ('<' :: (name ++ '>' :: rest)) = some ((m.named? name).getD [], rest) := by
  have hname : Text.Run (· ≠ '>') name := by
    intro c hc
    exact decide_eq_true fun heq => h (heq ▸ hc)
  have hclose : Text.Stops (· ≠ '>') ('>' :: rest) := Text.stops_cons.mpr (by decide)
  rw [placeholder?, Text.takeWhile_append_of_run hname hclose,
    Text.dropWhile_append_of_run hname hclose]

/-- A segment that is read back is expanded to what it stands for, and what is written behind it
    is expanded as if it stood alone. -/
theorem expand_written (hm : m.IsIn t) {s : Segment} (hs : s.ReadsBack m rest) :
    expand m (s.written ++ rest) = s.value t m ++ expand m rest := by
  cases s with
  | text literal => exact expand_doubled literal rest
  | whole => exact expand_placeholder rfl
  | before =>
      show _ = t.take m.start ++ _
      rw [hm.take_start]
      exact expand_placeholder rfl
  | after =>
      show _ = t.drop m.stop ++ _
      rw [hm.drop_stop]
      exact expand_placeholder rfl
  | named name =>
      have hwritten :
          (Segment.named name).written ++ rest = '$' :: '<' :: (name ++ '>' :: rest) := by
        simp [Segment.written]
      rw [hwritten]
      exact expand_placeholder (placeholder?_named hs rest)
  | twoDigits n =>
      obtain ⟨hpos, hlarge, hgroup⟩ := hs
      have htens : n / 10 < 10 := by omega
      exact expand_placeholder ((placeholder?_digitChar htens _).trans
        (number?_two ⟨hpos, hgroup⟩ rest))
  | oneDigit n =>
      obtain ⟨hpos, hlarge, hgroup, hrest⟩ := hs
      have hn : n < 10 := by omega
      exact expand_placeholder ((placeholder?_digitChar hn _).trans
        (number?_one ⟨hpos, hgroup⟩ hrest))

/-- A template is expanded to what its segments stand for, in their order: none of them is read
    into its neighbours. -/
theorem expand_render (hm : m.IsIn t) {segments : List Segment} (h : ReadsBack m segments) :
    expand m (render segments) = segments.flatMap (·.value t m) := by
  -- the segments behind the first one are the rest in front of which it is read back
  induction segments with
  | nil => exact expand_nil
  | cons s segments ih =>
      obtain ⟨hs, hrest⟩ := h
      show expand m (s.written ++ render segments) = s.value t m ++ _
      rw [expand_written hm hs, ih hrest]
      rfl

/-- Neighbours that could be read into one another, in a match with eleven groups of which the
    second takes no part: digits behind the numbers 1 and 11, placeholders within a name, and a
    `$` in front of another segment. -/
theorem expand_render_neighbours :
    let m : Captures :=
      { before := ['('], whole := "abcdefghijk".toList, after := [')'],
        groups := some ['a'] :: none :: "cdefghijk".toList.map (some [·]),
        names := [("last".toList, 11)] }
    let segments : List Segment :=
      [.text "a$1".toList, .before, .oneDigit 1, .text "2".toList, .twoDigits 1, .text "1".toList,
        .twoDigits 11, .text "0".toList, .twoDigits 2, .named "$&$1".toList, .named "last".toList,
        .oneDigit 9, .whole, .text "$".toList, .after]
    let template : Text :=
      "a$$1$`$12$011$110$02$<$&$1>$<last>$9$&$$$'".toList
    m.IsIn "(abcdefghijk)".toList ∧ ReadsBack m segments ∧ render segments = template ∧
      expand m template = "a$1(a2a1k0kiabcdefghijk$)".toList := by
  intro m segments template
  have hm : m.IsIn "(abcdefghijk)".toList := by decide
  have hreads : ReadsBack m segments := by decide
  have hrender : render segments = template := by decide
  refine ⟨hm, hreads, hrender, ?_⟩
  rw [← hrender]
  exact (expand_render hm hreads).trans (by decide)

end Template

end RequireForm
