import RequireForm.Proofs.Export.Grammar
import RequireForm.Proofs.Import.Fence

/-!
# Exports in front of a fence

    TEXT FENCE REST

An export that starts in TEXT ends in TEXT, if no path reaches the fence: REST has no say in
whether there is an export, where it ends and what it publishes. Only the line that is shown of a
default may go on into REST, and it does not if REST starts on a line of its own.

  1. `Export.Clause.fence`, clause by clause: what holds the fence off.
  2. `Export.Derives.fence`: a derivation stays one when REST changes.
  3. `Export.read?_feed`: behind a fence and a line feed, the same export is read.
-/

namespace RequireForm

open Text

variable {c : Char} {u v w x rest name : Text} {p : PathLiteral}

theorem blanks_firstLine_fence (hc : Fence c) (h : Blanks (firstLine (v ++ c :: x))) (x' : Text) :
    Blanks (firstLine (v ++ c :: x')) := by
  induction v with
  | nil =>
      -- the fence would be a blank on the line
      have hfeed : c ≠ '\n' := by
        rintro rfl
        exact absurd hc (by decide)
      rw [List.nil_append, firstLine_cons hfeed] at h
      exact absurd (run_cons.mp h).1 (by simp [hc.not_blank])
  | cons d v ih =>
      by_cases hd : d = '\n'
      · subst hd
        exact run_nil
      · rw [List.cons_append, firstLine_cons hd] at h ⊢
        obtain ⟨hb, h⟩ := run_cons.mp h
        exact run_cons.mpr ⟨hb, ih h⟩

theorem Fence.not_mem_functionGap (hc : Fence c) {gap : Text} (h : Export.FunctionGap gap) :
    c ∉ gap := by
  cases h with
  | plain hw => exact hc.not_mem_spaces hw
  | star h₁ h₂ =>
      simp only [List.mem_append, List.mem_cons, not_or]
      exact ⟨hc.not_mem_spaces h₁, hc.ne_of_mem (by decide), hc.not_mem_spaces h₂⟩

namespace Export

variable {gap t : Text} {e : Export}

/-! ## Clauses in front of the fence -/

theorem NameThen.fence (h : NameThen name (v ++ c :: x)) (x' : Text) :
    NameThen name (v ++ c :: x') :=
  ⟨h.1, nameEnds_fence h.2 x'⟩

theorem Declares.fence (hc : Fence c) (h : Declares (v ++ c :: x) name) (x' : Text) :
    Declares (v ++ c :: x') name := by
  generalize ht : v ++ c :: x = t at h
  cases h with
  | @function gap _ after hgap hends hn =>
      have hword : c ∉ "function".toList ++ (gap ++ name) := by
        simp only [List.mem_append, not_or]
        exact ⟨hc.not_mem_name (by decide), hc.not_mem_functionGap hgap,
          hc.not_mem_name hn.1⟩
      have hsplit : v ++ c :: x = "function".toList ++ (gap ++ name) ++ after := by
        rw [ht]
        simp only [List.append_assoc]
      obtain ⟨v', rfl, rfl⟩ := split_fence hword hsplit
      rw [← List.append_assoc, ← List.append_assoc] at hends
      have hends' := nameEnds_fence hends x'
      simp only [List.append_assoc] at hends' ⊢
      exact .function hgap hends' (hn.fence x')
  | @asyncFunction gap₁ gap₂ _ after hne hgap₁ hgap₂ hends hn =>
      have hword : c ∉ "async".toList ++ (gap₁ ++ ("function".toList ++ (gap₂ ++ name))) := by
        simp only [List.mem_append, not_or]
        exact ⟨hc.not_mem_name (by decide), hc.not_mem_spaces hgap₁, hc.not_mem_name (by decide),
          hc.not_mem_functionGap hgap₂, hc.not_mem_name hn.1⟩
      have hsplit : v ++ c :: x =
          "async".toList ++ (gap₁ ++ ("function".toList ++ (gap₂ ++ name))) ++ after := by
        rw [ht]
        simp only [List.append_assoc]
      obtain ⟨v', rfl, rfl⟩ := split_fence hword hsplit
      rw [← List.append_assoc, ← List.append_assoc] at hends
      have hends' := nameEnds_fence hends x'
      simp only [List.append_assoc] at hends' ⊢
      exact .asyncFunction hne hgap₁ hgap₂ hends' (hn.fence x')
  | @classNamed gap _ after hne hgap hn =>
      have hword : c ∉ "class".toList ++ (gap ++ name) := by
        simp only [List.mem_append, not_or]
        exact ⟨hc.not_mem_name (by decide), hc.not_mem_spaces hgap, hc.not_mem_name hn.1⟩
      have hsplit : v ++ c :: x = "class".toList ++ (gap ++ name) ++ after := by
        rw [ht]
        simp only [List.append_assoc]
      obtain ⟨v', rfl, rfl⟩ := split_fence hword hsplit
      simp only [List.append_assoc]
      exact .classNamed hne hgap (hn.fence x')

/-- Where a statement ends is seen by what stands there, if that is not half of a comment. -/
theorem exists_end_append {a s : Text} (hne : a ≠ []) (hslash : a = ['/'] → ∀ r, s ≠ '/' :: r)
    (h : a ++ s = [] ∨ ∃ r, a ++ s = ';' :: r ∨ a ++ s = '\n' :: r ∨ a ++ s = '\r' :: r ∨
      a ++ s = '/' :: '/' :: r) (s' : Text) :
    ∃ r, a ++ s' = ';' :: r ∨ a ++ s' = '\n' :: r ∨ a ++ s' = '\r' :: r ∨
      a ++ s' = '/' :: '/' :: r := by
  obtain ⟨d, a, rfl⟩ := List.exists_cons_of_ne_nil hne
  have hcons {b : Char} {r : Text} (hr : d :: (a ++ s) = b :: r) :
      d :: (a ++ s') = b :: (a ++ s') :=
    congrArg (· :: _) (List.cons.inj hr).1
  rcases h with h | ⟨r, h | h | h | h⟩
  · exact nomatch h
  · exact ⟨_, Or.inl (hcons h)⟩
  · exact ⟨_, Or.inr (Or.inl (hcons h))⟩
  · exact ⟨_, Or.inr (Or.inr (Or.inl (hcons h)))⟩
  · obtain ⟨rfl, hr⟩ := List.cons.inj h
    cases a with
    | nil => exact absurd hr (hslash rfl _)
    | cons b a =>
        obtain ⟨rfl, -⟩ := List.cons.inj hr
        exact ⟨_, Or.inr (Or.inr (Or.inr rfl))⟩

theorem StatementEnd.fence (hc : Fence c) (h : StatementEnd (v ++ c :: x)) (x' : Text) :
    StatementEnd (v ++ c :: x') := by
  obtain ⟨w, r, he, hw, hr⟩ := h
  have hinline : isInlineSpace c = false := by
    cases hi : isInlineSpace c with
    | false => rfl
    | true =>
        simp only [isInlineSpace, Bool.or_eq_true, decide_eq_true_eq] at hi
        rcases hi with rfl | rfl <;> exact absurd hc (by decide)
  obtain ⟨v', rfl, rfl⟩ := split_fence (not_mem_of_run hinline hw) he
  refine ⟨w, v' ++ c :: x', List.append_assoc _ _ _, hw, Or.inr ?_⟩
  -- what ends the statement stands in front of the fence, or it is the fence
  have hslash : c ≠ '/' := hc.ne_of_mem (by decide)
  have hassoc (x : Text) : v' ++ c :: x = (v' ++ [c]) ++ x := by
    rw [List.append_assoc]
    rfl
  rw [hassoc] at hr ⊢
  refine exists_end_append (List.append_ne_nil_of_right_ne_nil _ (List.cons_ne_nil _ _)) ?_ hr x'
  intro ha
  cases v' with
  | nil => exact absurd (List.cons.inj ha).1 hslash
  | cons d v' => exact absurd (List.cons.inj ha).2 (List.append_ne_nil_of_right_ne_nil _
      (List.cons_ne_nil _ _))

/-- The clauses that start with a word end in front of the fence. -/
theorem WordClause.fence (hc : Fence c) (h : WordClause (v ++ c :: x) e rest) :
    ∃ w v', v = w ++ v' ∧ rest = v' ++ c :: x ∧
      ∀ x', WordClause (v ++ c :: x') e (v' ++ c :: x') := by
  generalize ht : v ++ c :: x = t at h
  cases h with
  | declaration hd =>
      rw [← ht] at hd
      exact ⟨[], v, rfl, ht.symm, fun x' => .declaration (hd.fence hc x')⟩
  | @binding word gap name rest hvariable hne hgap hn =>
      have hword : c ∉ word ++ (gap ++ name) := by
        simp only [List.mem_append, not_or]
        exact ⟨hc.not_mem_name (declaresVariable_iff hvariable).1, hc.not_mem_spaces hgap,
          hc.not_mem_name hn.1⟩
      have hsplit : v ++ c :: x = word ++ (gap ++ name) ++ rest := by
        rw [ht]
        simp only [List.append_assoc]
      obtain ⟨v', rfl, rfl⟩ := split_fence hword hsplit
      refine ⟨_, v', rfl, rfl, fun x' => ?_⟩
      simp only [List.append_assoc]
      exact .binding hvariable hne hgap (hn.fence x')
  | @identifier name rest hn hno hend =>
      obtain ⟨v', rfl, rfl⟩ := split_fence (hc.not_mem_name hn.1) ht
      refine ⟨_, v', rfl, rfl, fun x' => ?_⟩
      rw [List.append_assoc]
      exact .identifier (hn.fence x') hno (hend.fence hc x')

/-- An export without the line that is shown of a default. -/
def outline : Export → Export
  | .default _ => .default []
  | e => e

/-- Each clause ends in front of the fence. -/
theorem Clause.fence (hc : Fence c) (hv : PathsEnd v c x) (h : Clause gap (v ++ c :: x) e rest) :
    ∃ w v', v = w ++ v' ∧ rest = v' ++ c :: x ∧
      ∀ x', ∃ e', Clause gap (v ++ c :: x') e' (v' ++ c :: x') ∧ e'.outline = e.outline := by
  generalize ht : v ++ c :: x = t at h
  cases h with
  | @default gap₁ rest hgap₁ hstop hends hne =>
      have hword : c ∉ "default".toList ++ gap₁ := by
        simp only [List.mem_append, not_or]
        exact ⟨hc.not_mem_name (by decide), hc.not_mem_spaces hgap₁⟩
      have hsplit : v ++ c :: x = "default".toList ++ gap₁ ++ rest := by
        rw [ht]
        simp only [List.append_assoc]
      obtain ⟨v', rfl, rfl⟩ := split_fence hword hsplit
      refine ⟨_, v', rfl, rfl, fun x' => ⟨.default (firstLine (v' ++ c :: x')).trimEnd, ?_, rfl⟩⟩
      have hshown : (firstLine (v' ++ c :: x')).trimEnd ≠ [] := by
        intro hnil
        have hblanks := blanks_firstLine_fence hc (trimEnd_eq_nil_iff.mp hnil) x
        exact hne (trimEnd_eq_nil_iff.mpr hblanks)
      rw [← List.append_assoc] at hends
      have hends' := nameEnds_fence hends x'
      simp only [List.append_assoc] at hends' ⊢
      exact .default hgap₁ (stops_fence hstop x') hends' hshown
  | @list b rest hb hno =>
      obtain ⟨v', rfl, rfl⟩ := split_fence (hc.not_mem_list hb) ht
      refine ⟨_, v', rfl, rfl, fun x' => ⟨_, ?_, rfl⟩⟩
      rw [List.append_assoc]
      refine .list hb fun w r hw hr he => ?_
      have hfrom : c ∉ w ++ fromWord := by
        simp only [List.mem_append, not_or]
        exact ⟨hc.not_mem_spaces hw, hc.not_mem_name (by decide)⟩
      rw [← List.append_assoc] at he
      obtain ⟨r', rfl, rfl⟩ := split_fence hfrom he
      exact hno w (r' ++ c :: x) hw (nameEnds_fence hr x) (by simp only [List.append_assoc])
  | @listFrom b gap₁ gap₂ p rest hb h₁ h₂ hp =>
      obtain ⟨v', rfl, rfl⟩ := split_from hc (hc.not_mem_list hb) h₁ h₂ hp hv ht
      refine ⟨b.text ++ (gap₁ ++ (fromWord ++ (gap₂ ++ p.written))), v', ?_, rfl, fun x' =>
        ⟨_, ?_, rfl⟩⟩
      · simp only [List.append_assoc]
      · simp only [List.append_assoc]
        exact .listFrom hb h₁ h₂ hp
  | @star d gap₁ gap₂ p rest hd h₁ h₂ hp =>
      obtain ⟨v', rfl, rfl⟩ := split_from hc (hc.not_mem_star hd) h₁ h₂ hp hv ht
      refine ⟨d.text ++ (gap₁ ++ (fromWord ++ (gap₂ ++ p.written))), v', ?_, rfl, fun x' =>
        ⟨_, ?_, rfl⟩⟩
      · simp only [List.append_assoc]
      · simp only [List.append_assoc]
        exact .star hd h₁ h₂ hp
  | worded hgap hw =>
      rw [← ht] at hw
      obtain ⟨w, v', hv', hr, hclause⟩ := hw.fence hc
      exact ⟨w, v', hv', hr, fun x' => ⟨e, .worded hgap (hclause x'), rfl⟩⟩

/-! ## Exports in front of the fence -/

/-- An export that starts in front of the fence ends there, and is the same whatever follows the
    fence. -/
theorem Derives.fence (hc : Fence c) (hu : PathsEnd u c x) (h : Derives (u ++ c :: x) e rest) :
    ∃ w v, u = w ++ v ∧ rest = v ++ c :: x ∧
      ∀ x', ∃ e', Derives (u ++ c :: x') e' (v ++ c :: x') ∧ e'.outline = e.outline := by
  obtain ⟨gap, body, ht, hends, hgap, hbody, hclause⟩ := h
  have hword : c ∉ "export".toList ++ gap := by
    simp only [List.mem_append, not_or]
    exact ⟨hc.not_mem_name (by decide), hc.not_mem_spaces hgap⟩
  have hsplit : u ++ c :: x = "export".toList ++ gap ++ body := by
    rw [ht]
    simp only [List.append_assoc]
  obtain ⟨v, rfl, rfl⟩ := split_fence hword hsplit
  obtain ⟨w, v', rfl, hr, hrest⟩ := hclause.fence hc hu.suffix
  refine ⟨"export".toList ++ gap ++ w, v', ?_, hr, fun x' => ?_⟩
  · simp only [List.append_assoc]
  · obtain ⟨e', he', hout⟩ := hrest x'
    rw [← List.append_assoc] at hends
    have hends' := nameEnds_fence hends x'
    rw [List.append_assoc] at hends'
    refine ⟨e', ⟨gap, w ++ v' ++ c :: x', ?_, hends', hgap, stops_fence hbody x', he'⟩, hout⟩
    simp only [List.append_assoc]

/-! ## Exports in front of a line end -/

theorem eq_or_default_of_outline {e' : Export} (h : e'.outline = e.outline) :
    e' = e ∨ ∃ value value', e = .default value ∧ e' = .default value' := by
  unfold outline at h
  split at h
  · split at h
    · exact Or.inr ⟨_, _, rfl, rfl⟩
    · next hno => exact absurd h.symm (hno [])
  · next hno =>
      split at h
      · exact absurd h (hno [])
      · exact Or.inl h

/-- What is shown of a default is the first line of what stands behind the statement. -/
theorem Derives.shown {value : Text} (h : Derives t (.default value) rest) :
    value = (firstLine rest).trimEnd := by
  obtain ⟨gap, body, -, -, -, -, hclause⟩ := h
  cases hclause with
  | default _ _ _ _ => rfl
  | worded _ hw => exact nomatch hw

/-- If the line ends behind the fence, the export is the same whatever comes on later lines. -/
theorem read?_feed (hc : Fence c) (h : read? (u ++ c :: '\n' :: x) = some (e, rest)) :
    ∃ w v, w ≠ [] ∧ u = w ++ v ∧
      ∀ x', read? (u ++ c :: '\n' :: x') = some (e, v ++ c :: '\n' :: x') := by
  have hd := read?_eq_some_iff.mp h
  obtain ⟨w, v, rfl, rfl, hsame⟩ := hd.fence hc (pathsEnd_feed hc u x)
  obtain ⟨w', hne, hw'⟩ := consumes_read? h
  obtain rfl : w = w' := List.append_cancel_right ((List.append_assoc _ _ _).symm.trans hw')
  refine ⟨w, v, hne, rfl, fun x' => read?_eq_some_iff.mpr ?_⟩
  obtain ⟨e', hd', hout⟩ := hsame ('\n' :: x')
  have hline : firstLine (v ++ c :: '\n' :: x') = firstLine (v ++ c :: '\n' :: x) := by
    have hfeed (t : Text) : firstLine (v ++ c :: '\n' :: t) = firstLine (v ++ [c]) := by
      rw [← firstLine_append_feed (v ++ [c]) t, List.append_assoc]
      rfl
    rw [hfeed, hfeed]
  rcases eq_or_default_of_outline hout with rfl | ⟨value, value', rfl, rfl⟩
  · exact hd'
  · rwa [hd.shown, ← hline, ← hd'.shown]

end Export

end RequireForm
