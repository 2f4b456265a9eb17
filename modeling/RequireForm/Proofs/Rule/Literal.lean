import RequireForm.Proofs.Pattern.Literal
import RequireForm.Proofs.Rule.Checked

/-!
# Literal rules — a text is replaced where it stands

    path      lib/a.b/x.b.b
    first     lib/a~~/x.b.b          the text  .b  and what takes its place  ~~
    all       lib/a~~/x~~~~

The rule of an escaped text looks for the text itself, whatever its characters are in a pattern
and whatever the flags say of lines and dots.

  1. `Text.FirstIn`, `Text.ReplacedAll`: replacing, without a word of patterns.
  2. `CutAt`: a path cut where a text occurs, and `cutAt_fragments`: as its program cuts it.
  3. `apply_literal`: what the rule makes of a path.
-/

namespace RequireForm

/-! ## Occurrences -/

namespace Text

/-- The first place of a text in another one. -/
structure FirstIn (m t before after : Text) : Prop where
  eq : t = before ++ m ++ after
  first : ∀ b a, t = b ++ m ++ a → before.length ≤ b.length

/-- A text in which another one is replaced wherever it stands, from left to right and without
    overlap. What takes its place is told all that stands before it and behind it; `passed` is
    what lies before the text. -/
inductive ReplacedAll (m : Text) (new : Text → Text → Text) : Text → Text → Text → Prop where
  | rest {passed t : Text} : ¬ m <:+: t → ReplacedAll m new passed t t
  | next {passed t before after u : Text} : FirstIn m t before after →
      ReplacedAll m new (passed ++ before ++ m) after u →
      ReplacedAll m new passed t (before ++ new (passed ++ before) after ++ u)

variable {m t u before after passed : Text}

namespace FirstIn

theorem isInfix (h : FirstIn m t before after) : m <:+: t := ⟨before, after, h.eq.symm⟩

theorem unique {before' after' : Text} (h : FirstIn m t before after)
    (h' : FirstIn m t before' after') : before = before' ∧ after = after' := by
  have hlength := Nat.le_antisymm (h.first _ _ h'.eq) (h'.first _ _ h.eq)
  have heq := h.eq.symm.trans h'.eq
  rw [List.append_assoc, List.append_assoc] at heq
  obtain ⟨hbefore, hafter⟩ := List.append_inj heq hlength
  exact ⟨hbefore, List.append_cancel_left hafter⟩

theorem at_start (m after : Text) : FirstIn m (m ++ after) [] after :=
  ⟨rfl, fun _ _ _ => Nat.zero_le _⟩

theorem cons {c : Char} (hc : ¬ m <+: c :: t) (h : FirstIn m t before after) :
    FirstIn m (c :: t) (c :: before) after := by
  refine ⟨congrArg (c :: ·) h.eq, fun b a heq => ?_⟩
  cases b with
  | nil => exact absurd ⟨a, heq.symm⟩ hc
  | cons d b => exact Nat.succ_le_succ (h.first b a (List.cons.inj heq).2)

theorem of_cons {c : Char} (h : FirstIn m (c :: t) (c :: before) after) :
    ¬ m <+: c :: t ∧ FirstIn m t before after := by
  constructor
  · rintro ⟨a, heq⟩
    exact absurd (h.first [] a heq.symm) (Nat.not_succ_le_zero _)
  · refine ⟨(List.cons.inj h.eq).2, fun b a heq => ?_⟩
    exact Nat.le_of_succ_le_succ (h.first (c :: b) a (congrArg (c :: ·) heq))

end FirstIn

theorem exists_firstIn (h : m <:+: t) : ∃ before after, FirstIn m t before after := by
  induction t with
  | nil =>
      obtain rfl := List.infix_nil.mp h
      exact ⟨[], [], .at_start [] []⟩
  | cons c t ih =>
      by_cases hc : m <+: c :: t
      · obtain ⟨after, hafter⟩ := hc
        exact ⟨[], after, hafter ▸ .at_start m after⟩
      · rcases List.infix_cons_iff.mp h with hstart | hin
        · exact absurd hstart hc
        · obtain ⟨before, after, hfirst⟩ := ih hin
          exact ⟨c :: before, after, hfirst.cons hc⟩

theorem ReplacedAll.unique {new : Text → Text → Text} {v : Text}
    (h : ReplacedAll m new passed t u) (h' : ReplacedAll m new passed t v) : u = v := by
  induction h generalizing v with
  | rest hnone =>
      cases h' with
      | rest _ => rfl
      | next hfirst _ => exact absurd hfirst.isInfix hnone
  | next hfirst _ ih =>
      cases h' with
      | rest hnone => exact absurd hfirst.isInfix hnone
      | next hfirst' hrest' =>
          obtain ⟨rfl, rfl⟩ := hfirst.unique hfirst'
          rw [ih hrest']

end Text

open Text

/-! ## Fragments -/

namespace Pattern

/-- A text cut where another one stands, from left to right and without overlap. -/
inductive CutAt (m : Text) : Text → Text → List Fragment → Prop where
  | rest {passed t : Text} : ¬ m <:+: t → CutAt m passed t (t.map .kept)
  | next {passed t before after : Text} {fragments : List Fragment} : FirstIn m t before after →
      CutAt m (passed ++ before ++ m) after fragments →
      CutAt m passed t
        (before.map .kept ++ .found ⟨passed ++ before, m, after, [], []⟩ :: fragments)

variable {m t u before after passed : Text}

namespace Program

variable {state : Cut}

/-- Nothing has been tried that an attempt from here on would try. -/
def Ready (m : Text) (state : Cut) : Prop :=
  Behind m.length state.tried (m.length + state.position) m.length

theorem length_lt_fuel (m : Text) (place : Place) :
    m.length < 2 * ((ofText m).steps.size * (place.position + place.rest.length + 1) + 1) := by
  have hsize : (ofText m).steps.size = m.length + 1 := size_stepsOf m
  have hle : (ofText m).steps.size
      ≤ (ofText m).steps.size * (place.position + place.rest.length + 1) :=
    Nat.le_mul_of_pos_right _ (Nat.succ_pos _)
  omega

theorem match?_here (hm : m ≠ []) (hready : Ready m state) (h : m <+: t) :
    ∃ thread, state.match? (ofText m) t = (some thread, ∅) ∧
      thread.covered (state.place t) = m.length := by
  obtain ⟨thread, hrun, hposition⟩ := run_accepts (state.place t) []
    (List.suffix_refl m) (length_lt_fuel m _) hready h
  have hcovered : thread.covered (state.place t) = m.length := by
    rw [Thread.covered, hposition, Nat.add_sub_cancel_left]
  have hpos : m.length ≠ 0 := fun h => hm (List.length_eq_zero_iff.mp h)
  refine ⟨thread, ?_, hcovered⟩
  rw [Cut.match?]
  split
  · next heq =>
      have hnone : ((ofText m).attempt state.tried (state.place t)).1 = some thread := hrun
      rw [heq] at hnone
      cases hnone
  · next heq =>
      have hsome : ((ofText m).attempt state.tried (state.place t)).1 = some thread := hrun
      rw [heq] at hsome
      cases hsome
      rw [hcovered, decide_eq_false hpos, Bool.and_false]
      rfl

theorem match?_not_here (hready : Ready m state) (h : ¬ m <+: t) (c : Char) :
    ∃ tried, state.match? (ofText m) t = (none, tried) ∧ Ready m (state.pass c tried false) := by
  obtain ⟨tried, hrun, hbehind⟩ := run_dies (state.place t) []
    (List.suffix_refl m) (length_lt_fuel m _) hready h
  have hattempt : (ofText m).attempt state.tried (state.place t) = (none, tried) := hrun
  refine ⟨tried, ?_, hbehind⟩
  rw [Cut.match?, hattempt]

/-- What a match covers is passed over, and then all is forgotten. -/
theorem cut_covered (state : Cut) (hready : Ready m state) (w rest : Text) :
    ∃ state', Ready m state' ∧ state'.passed = w.reverse ++ state.passed ∧
      (ofText m).cut ⟨0, []⟩ state w.length (w ++ rest) = (ofText m).cut ⟨0, []⟩ state' 0 rest := by
  induction w generalizing state with
  | nil => exact ⟨state, hready, rfl, rfl⟩
  | cons c w ih =>
      obtain ⟨state', hready', hpassed, hcut⟩ := ih (state.pass c ∅ (w.length = 0)) .empty
      refine ⟨state', hready', ?_, hcut⟩
      rw [hpassed, List.reverse_cons, List.append_assoc]
      rfl

/-- A match is found where the text stands. -/
theorem cut_here (hm : m ≠ []) (hready : Ready m state) (after : Text) :
    ∃ state', Ready m state' ∧ state'.passed = m.reverse ++ state.passed ∧
      (ofText m).cut ⟨0, []⟩ state 0 (m ++ after)
        = .found ⟨state.passed.reverse, m, after, [], []⟩ ::
            (ofText m).cut ⟨0, []⟩ state' 0 after := by
  obtain ⟨thread, hmatch, hcovered⟩ := match?_here hm hready (List.prefix_append m after)
  have hcaptures : thread.captures ⟨0, []⟩ state.passed (state.place (m ++ after))
      = ⟨state.passed.reverse, m, after, [], []⟩ := by
    rw [Thread.captures, hcovered]
    simp [Cut.place]
  obtain ⟨c, w, rfl⟩ := List.exists_cons_of_ne_nil hm
  obtain ⟨state', hready', hpassed, hcut⟩ :=
    cut_covered (m := c :: w) (state.pass c ∅ (w.length = 0)) .empty w after
  refine ⟨state', hready', ?_, ?_⟩
  · rw [hpassed, List.reverse_cons, List.append_assoc]
    rfl
  · rw [List.cons_append] at hmatch hcovered hcaptures ⊢
    simp only [cut, hmatch, hcovered, hcaptures, List.length_cons, hcut]

theorem cut_not_here {c : Char} (hready : Ready m state) (h : ¬ m <+: c :: t) :
    ∃ state', Ready m state' ∧ state'.passed = c :: state.passed ∧
      (ofText m).cut ⟨0, []⟩ state 0 (c :: t)
        = .kept c :: (ofText m).cut ⟨0, []⟩ state' 0 t := by
  obtain ⟨tried, hmatch, hready'⟩ := match?_not_here hready h c
  refine ⟨_, hready', rfl, ?_⟩
  rw [cut, hmatch]

theorem cut_absent (hready : Ready m state) (h : ¬ m <:+: t) :
    (ofText m).cut ⟨0, []⟩ state 0 t = t.map .kept := by
  induction t generalizing state with
  | nil =>
      obtain ⟨tried, hmatch, -⟩ := match?_not_here hready (fun hp => h hp.isInfix) ' '
      rw [cut, hmatch]
      rfl
  | cons c t ih =>
      rw [List.infix_cons_iff, not_or] at h
      obtain ⟨state', hready', -, hcut⟩ := cut_not_here hready h.1
      rw [hcut, ih hready' h.2, List.map_cons]

theorem cut_of_firstIn (hm : m ≠ []) (hready : Ready m state) (h : FirstIn m t before after) :
    ∃ state', Ready m state' ∧ state'.passed.reverse = state.passed.reverse ++ before ++ m ∧
      (ofText m).cut ⟨0, []⟩ state 0 t
        = before.map .kept ++ .found ⟨state.passed.reverse ++ before, m, after, [], []⟩ ::
            (ofText m).cut ⟨0, []⟩ state' 0 after := by
  induction before generalizing t state with
  | nil =>
      obtain ⟨state', hready', hpassed, hcut⟩ := cut_here hm hready after
      refine ⟨state', hready', by simp [hpassed], ?_⟩
      rw [h.eq, List.nil_append, hcut]
      simp
  | cons c before ih =>
      obtain rfl : t = c :: (before ++ m ++ after) := h.eq
      obtain ⟨hc, hfirst⟩ := h.of_cons
      obtain ⟨mid, hmid, hpassed, hcut⟩ := cut_not_here hready hc
      obtain ⟨state', hready', hpassed', hcut'⟩ := ih hmid hfirst
      have hreverse : mid.passed.reverse ++ before = state.passed.reverse ++ c :: before := by
        simp [hpassed]
      refine ⟨state', hready', ?_, ?_⟩
      · rw [hpassed', hreverse]
      · rw [hcut, hcut', hreverse]
        rfl

/-- The program of a text cuts where the text stands. -/
theorem cutAt_cut (hm : m ≠ []) (state : Cut) (hready : Ready m state) (t : Text) :
    CutAt m state.passed.reverse t ((ofText m).cut ⟨0, []⟩ state 0 t) := by
  induction hn : t.length using Nat.strongRecOn generalizing t state with
  | ind n ih =>
      by_cases h : m <:+: t
      · obtain ⟨before, after, hfirst⟩ := exists_firstIn h
        obtain ⟨state', hready', hpassed, hcut⟩ := cut_of_firstIn hm hready hfirst
        have hshort : after.length < n := by
          have := List.length_pos_iff.mpr hm
          rw [← hn, hfirst.eq, List.length_append, List.length_append]
          omega
        rw [hcut]
        exact .next hfirst (hpassed ▸ ih _ hshort state' hready' after rfl)
      · rw [cut_absent hready h]
        exact .rest h

theorem cutAt_fragments (hm : m ≠ []) (t : Text) :
    CutAt m [] t ((ofText m).fragments ⟨0, []⟩ t) :=
  cutAt_cut hm ⟨[], 0, ∅, false⟩ .empty t

end Program

end Pattern

/-! ## Replacing -/

namespace PathRule

open Pattern

variable {m t u before after passed : Text} {all : Bool} {r : Replacement}
  {fragments : List Fragment}

theorem replace_kept (before : Text) (fragments : List Fragment) :
    replace all r (before.map .kept ++ fragments) = before ++ replace all r fragments := by
  induction before with
  | nil => rfl
  | cons c before ih => exact congrArg (c :: ·) ih

theorem matchesAny_kept (before : Text) (fragments : List Fragment) :
    matchesAny (before.map .kept ++ fragments) = matchesAny fragments := by
  induction before with
  | nil => rfl
  | cons c before ih => exact ih

theorem text_kept (before : Text) : (before.map Fragment.kept).flatMap (·.text) = before := by
  induction before with
  | nil => rfl
  | cons c before ih => exact congrArg (c :: ·) ih

theorem text_of_cutAt (h : CutAt m passed t fragments) : fragments.flatMap (·.text) = t := by
  induction h with
  | rest _ => exact text_kept _
  | next hfirst _ ih =>
      rw [List.flatMap_append, text_kept, List.flatMap_cons, ih, hfirst.eq, List.append_assoc]
      rfl

theorem matchesAny_of_cutAt (h : CutAt m passed t fragments) :
    matchesAny fragments = true ↔ m <:+: t := by
  cases h with
  | rest hnone =>
      have hkept := matchesAny_kept t []
      rw [List.append_nil] at hkept
      rw [hkept]
      exact ⟨fun h => absurd h (by decide), fun h => absurd h hnone⟩
  | next hfirst _ =>
      rw [matchesAny_kept]
      exact ⟨fun _ => hfirst.isInfix, fun _ => rfl⟩

theorem replaceFirst_of_cutAt (h : CutAt m passed t fragments) (hfirst : FirstIn m t before after) :
    replace false r fragments
      = before ++ r.of ⟨passed ++ before, m, after, [], []⟩ ++ after := by
  cases h with
  | rest hnone => exact absurd hfirst.isInfix hnone
  | next hfirst' hrest =>
      obtain ⟨rfl, rfl⟩ := hfirst.unique hfirst'
      rw [replace_kept, replace, if_neg Bool.false_ne_true, text_of_cutAt hrest, List.append_assoc]

theorem replacedAll_of_cutAt (h : CutAt m passed t fragments) :
    ReplacedAll m (fun before after => r.of ⟨before, m, after, [], []⟩) passed t
      (replace true r fragments) := by
  induction h with
  | @rest passed t hnone =>
      have hkept : replace true r (t.map .kept ++ []) = t ++ [] := replace_kept t []
      rw [List.append_nil, List.append_nil] at hkept
      rw [hkept]
      exact .rest hnone
  | next hfirst _ ih =>
      rw [replace_kept, replace, if_pos rfl, ← List.append_assoc]
      exact .next hfirst ih

end PathRule

/-! ## Options -/

namespace PathRule

variable {m flags template : Text} {rule : PathRule}

/-- The options of a text that is to be matched as it is. -/
def literalOptions (m flags template : Text) : Options :=
  ⟨some (.source m), some flags, true, some (.template template)⟩

/-- The rule of a text that is matched as it is. -/
theorem eq_of_ofOptions?_literal (hflags : ∀ c ∈ flags, c ∈ ['g', 'm', 's', 'u', 'y'])
    (hrule : ofOptions? (literalOptions m flags template) = .ok rule) :
    ∃ all, rule = ⟨some ⟨Pattern.escape m, .ofText m, ⟨0, []⟩⟩, all, some (.template template)⟩ ∧
      (all = true ↔ 'g' ∈ flags) := by
  cases ofOptions?_eq_ok_iff.mp hrule with
  | @source text pattern hpattern hknown hcompile =>
      obtain rfl : m = text := PathPattern.source.inj (Option.some.inj hpattern)
      have hi : 'i' ∉ flags := fun hi => absurd (hflags 'i' hi) (by decide)
      have hcase : (FlagLetters.said flags).flags.caseless = false := decide_eq_false hi
      have hfits : (if (Pattern.Expr.ofText m).fits = true
          then some ⟨Pattern.escape m, .ofText m, ⟨0, []⟩⟩ else none) = some pattern :=
        (Pattern.compile?_escape hcase m).symm.trans hcompile
      refine ⟨_, ?_, decide_eq_true_iff⟩
      split at hfits
      · rw [← Option.some.inj hfits]
        rfl
      · cases hfits
  | compiled hpattern => cases hpattern
  | absent hpattern => cases hpattern

end PathRule

/-- A rule for a text as it is changes the paths that hold the text: at its first place, or
    wherever it stands if all matches are asked for. -/
theorem apply_literal {m flags template : Text} {rule : PathRule} (hm : m ≠ [])
    (hflags : ∀ c ∈ flags, c ∈ ['g', 'm', 's', 'u', 'y'])
    (hrule : PathRule.ofOptions? (PathRule.literalOptions m flags template) = .ok rule)
    (path : Text) :
    let new := fun before after => Template.expand ⟨before, m, after, [], []⟩ template
    (¬ m <:+: path → rule.apply path = path) ∧
      (m <:+: path → 'g' ∉ flags → ∃ before after, FirstIn m path before after ∧
        rule.apply path = before ++ new before after ++ after) ∧
      (m <:+: path → 'g' ∈ flags →
        ∀ u, rule.apply path = u ↔ ReplacedAll m new [] path u) := by
  intro new
  obtain ⟨all, rfl, hall⟩ := PathRule.eq_of_ofOptions?_literal hflags hrule
  have hcut : Pattern.CutAt m [] path
      (Pattern.fragments ⟨Pattern.escape m, .ofText m, ⟨0, []⟩⟩ path) :=
    Pattern.Program.cutAt_fragments hm path
  have hmatches := PathRule.matchesAny_of_cutAt hcut
  refine ⟨fun hnone => ?_, fun hin hg => ?_, fun hin hg => ?_⟩
  · rw [PathRule.apply_eq, if_neg fun h => hnone (hmatches.mp h)]
  · obtain ⟨before, after, hfirst⟩ := exists_firstIn hin
    have hfalse : all = false := Bool.eq_false_iff.mpr fun h => hg (hall.mp h)
    refine ⟨before, after, hfirst, ?_⟩
    rw [PathRule.apply_eq, if_pos (hmatches.mpr hin), hfalse,
      PathRule.replaceFirst_of_cutAt hcut hfirst]
    rfl
  · have hreplaced := PathRule.replacedAll_of_cutAt (r := .template template) hcut
    rw [PathRule.apply_eq, if_pos (hmatches.mpr hin), hall.mpr hg]
    intro u
    exact ⟨fun h => h ▸ hreplaced, fun h => hreplaced.unique h⟩

/-- The text overlaps itself, and none of its characters is plain in a pattern. -/
theorem apply_literal_overlapping :
    let o := PathRule.literalOptions "*.*".toList "gs".toList "<$&$'>".toList
    (∃ rule, PathRule.ofOptions? o = .ok rule) ∧
      (PathRule.ofOptions o).apply "a*.*.*b".toList = "a<*.*.*b>.*b".toList := by
  intro o
  have hok : PathRule.ofOptions? o = .ok (PathRule.ofOptions o) :=
    PathRule.ofOptions?_of_isOk (by decide +kernel)
  refine ⟨⟨_, hok⟩, ?_⟩
  have hin : "*.*".toList <:+: "a*.*.*b".toList := by decide
  have hflags : ∀ c ∈ ['g', 's'], c ∈ ['g', 'm', 's', 'u', 'y'] :=
    List.forall_mem_cons.mpr ⟨by decide, List.forall_mem_singleton.mpr (by decide)⟩
  refine ((apply_literal (by decide) hflags hok "a*.*.*b".toList).2.2 hin (by decide) _).mpr ?_
  have hfirst : FirstIn "*.*".toList "a*.*.*b".toList "a".toList ".*b".toList :=
    .cons (by decide) (.at_start "*.*".toList ".*b".toList)
  have hexpand : Template.expand ⟨"a".toList, "*.*".toList, ".*b".toList, [], []⟩ "<$&$'>".toList
      = "<*.*.*b>".toList := by decide +kernel
  have hrest : ¬ "*.*".toList <:+: ".*b".toList := by decide
  have hnext : ReplacedAll "*.*".toList
      (fun before after => Template.expand ⟨before, "*.*".toList, after, [], []⟩ "<$&$'>".toList)
      [] "a*.*.*b".toList _ := .next hfirst (.rest hrest)
  rw [List.nil_append, hexpand] at hnext
  exact hnext

end RequireForm
