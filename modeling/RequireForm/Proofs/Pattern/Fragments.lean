import RequireForm.Pattern.Compiled

/-!
# Fragments — a text cut at its matches

    text        a . b . b
    fragments   a  [.b]  [.b]
    before      a        a.b
    after          .b

Whatever a program finds in a text, its fragments put the text together again, and each match
stands where it is said to stand: between the text before it and the text behind it. Nothing is
asked of the program for that, so it holds of every pattern, also of one that matches nothing at
all or matches the empty text at every place.

  1. `Cuts`: a text cut from left to right, and what follows from that alone.
  2. `Program.cuts_cut`: the search cuts so. The induction is on the text that is left.
  3. `flatMap_text_fragments`, `isIn_of_mem_fragments`: what it says of a whole text.
-/

namespace RequireForm

namespace Pattern

/-- A match stands in a text, between what comes before it and behind it. -/
def Captures.IsIn (m : Captures) (t : Text) : Prop := m.before ++ m.whole ++ m.after = t

instance (m : Captures) (t : Text) : Decidable (m.IsIn t) :=
  inferInstanceAs (Decidable (_ = _))

/-- The rest of a text, cut from left to right behind what has been passed. -/
inductive Cuts : Text → Text → List Fragment → Prop where
  | done {passed : Text} : Cuts passed [] []
  | kept {passed rest : Text} {c : Char} {fragments : List Fragment} :
      Cuts (passed ++ [c]) rest fragments → Cuts passed (c :: rest) (.kept c :: fragments)
  | found {m : Captures} {fragments : List Fragment} :
      Cuts (m.before ++ m.whole) m.after fragments →
      Cuts m.before (m.whole ++ m.after) (.found m :: fragments)

namespace Cuts

variable {passed rest : Text} {fragments : List Fragment} {m : Captures}

/-- The fragments are the rest of the text. -/
theorem flatMap_text (h : Cuts passed rest fragments) : fragments.flatMap (·.text) = rest := by
  induction h with
  | done => rfl
  | kept _ ih => exact congrArg (_ :: ·) ih
  | @found m fragments _ ih =>
      show m.whole ++ fragments.flatMap (·.text) = _
      rw [ih]

/-- A match among the fragments stands in the whole text. -/
theorem isIn (h : Cuts passed rest fragments) (hm : Fragment.found m ∈ fragments) :
    m.IsIn (passed ++ rest) := by
  induction h with
  | done => cases hm
  | @kept passed rest c fragments _ ih =>
      rcases List.mem_cons.mp hm with heq | hm
      · cases heq
      · have hin := ih hm
        rwa [List.append_assoc] at hin
  | @found m' fragments _ ih =>
      rcases List.mem_cons.mp hm with heq | hm
      · cases heq
        exact List.append_assoc _ _ _
      · have hin := ih hm
        rwa [List.append_assoc] at hin

end Cuts

/-! ## The search -/

namespace Program

variable {state : Cut} {groups : Groups}

@[simp] theorem Cut.passed_pass (state : Cut) (c : Char) (tried : Tried) (afterMatch : Bool) :
    (state.pass c tried afterMatch).passed = c :: state.passed := rfl

/-- Behind a match, the search has passed what the match covers. -/
theorem cuts_found (thread : Thread) (groups : Groups) (passed : Text) (start : Place)
    {fragments : List Fragment}
    (h : Cuts (passed.reverse ++ start.rest.take (thread.covered start))
      (start.rest.drop (thread.covered start)) fragments) :
    Cuts passed.reverse start.rest (.found (thread.captures groups passed start) :: fragments) := by
  have hfound := Cuts.found (m := thread.captures groups passed start) h
  have hrest : (thread.captures groups passed start).whole
      ++ (thread.captures groups passed start).after = start.rest := List.take_append_drop _ _
  rwa [hrest] at hfound

/-- The search cuts what is left of a text behind the characters that its last match covers. -/
theorem cuts_cut (p : Program) (groups : Groups) (state : Cut) (covered : Nat) (t : Text) :
    Cuts (state.passed.reverse ++ t.take covered) (t.drop covered)
      (p.cut groups state covered t) := by
  induction t generalizing state covered with
  | nil =>
      rw [List.take_nil, List.drop_nil, List.append_nil, cut]
      split
      · next thread _ _ =>
          refine cuts_found thread groups state.passed (state.place []) ?_
          show Cuts _ (List.drop _ []) []
          rw [List.drop_nil]
          exact .done
      · exact .done
  | cons c t ih =>
      -- passing over the character takes it to the text before
      have hpass (tried : Tried) (after : Bool) (n : Nat) :
          Cuts (state.passed.reverse ++ c :: t.take n) (t.drop n)
            (p.cut groups (state.pass c tried after) n t) := by
        have h := ih (state.pass c tried after) n
        rwa [Cut.passed_pass, List.reverse_cons, List.append_assoc] at h
      have hkept (tried : Tried) (after : Bool) :
          Cuts state.passed.reverse (c :: t)
            (.kept c :: p.cut groups (state.pass c tried after) 0 t) :=
        .kept (hpass tried after 0)
      cases covered with
      | succ n => exact hpass ∅ (n = 0) n
      | zero =>
          rw [List.take_zero, List.drop_zero, List.append_nil, cut]
          split
          · exact hkept _ false
          · next thread _ _ =>
              dsimp only
              split
              · next hnone =>
                  apply cuts_found thread groups state.passed (state.place (c :: t))
                  rw [hnone, List.take_zero, List.drop_zero, List.append_nil]
                  exact hkept ∅ false
              · next n hsome =>
                  apply cuts_found thread groups state.passed (state.place (c :: t))
                  rw [hsome]
                  exact hpass ∅ (n = 0) n

end Program

/-! ## Whole texts -/

/-- A pattern cuts a text into fragments that are the text. -/
theorem flatMap_text_fragments (p : Pattern) (t : Text) :
    (p.fragments t).flatMap (·.text) = t :=
  (p.program.cuts_cut p.groups ⟨[], 0, ∅, false⟩ 0 t).flatMap_text

/-- What a pattern finds in a text stands in it. -/
theorem isIn_of_mem_fragments {p : Pattern} {t : Text} {m : Captures}
    (h : Fragment.found m ∈ p.fragments t) : m.IsIn t :=
  (p.program.cuts_cut p.groups ⟨[], 0, ∅, false⟩ 0 t).isIn h

end Pattern

end RequireForm
