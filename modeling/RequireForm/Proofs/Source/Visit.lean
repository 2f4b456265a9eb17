import RequireForm.Proofs.Source.Cut

/-!
# Visiting the line starts of a source

What is found in a source is said here without cutting it: the line starts are visited in
order, those before the end of the last statement are passed over, and of the others each is
the start of a statement exactly if one derives from the text there.

  1. `lineStarts`: the line starts of a source.
  2. `AtLineStarts`: what holds at each line start of a text.
  3. `Visits`: the statements found on a visit, for any relation `Derives text x rest`.
  4. `visits_locate`, `Visits.unique`: for a reader that accepts what derives, the visit finds
     the located statements of the cut, and nothing else.
-/

namespace RequireForm

open Text

variable {α : Type} {Derives : Text → α → Text → Prop} {read : Text → Option (α × Text)}
  {b : Bool} {before s t u rest : Text} {starts : List (Text × Text)}
  {found found' : List (Located α)} {resume : Nat} {ps : List (Piece α)}

/-- The line starts in a text that stands behind `before`, each as what stands before it and
    what stands behind it; `b` tells that a line starts at its front. -/
def lineStartsFrom (b : Bool) (before : Text) : Text → List (Text × Text)
  | [] => []
  | c :: t =>
      (if b then [(before, c :: t)] else []) ++ lineStartsFrom (c = '\n') (before ++ [c]) t

/-- The line starts of a source: its front, and the place behind each line feed that is not
    its end. -/
def lineStarts (s : Text) : List (Text × Text) :=
  if s = [] then [([], [])] else lineStartsFrom true [] s

theorem exists_lineStartsFrom_append (b : Bool) (before t u : Text) :
    ∃ starts, lineStartsFrom b before (t ++ u) =
      starts ++ lineStartsFrom (endsLine b t) (before ++ t) u := by
  induction t generalizing b before with
  | nil => exact ⟨[], by rw [List.append_nil]; rfl⟩
  | cons c t ih =>
      obtain ⟨starts, hstarts⟩ := ih (c = '\n') (before ++ [c])
      rw [List.append_assoc] at hstarts
      refine ⟨(if b then [(before, c :: (t ++ u))] else []) ++ starts, ?_⟩
      rw [List.cons_append, lineStartsFrom, hstarts, List.append_assoc]
      rfl

/-- In a line no other line starts. -/
theorem lineStartsFrom_false (ht : '\n' ∉ t) :
    lineStartsFrom false before (t ++ u) = lineStartsFrom false (before ++ t) u := by
  induction t generalizing before with
  | nil => rw [List.append_nil, List.nil_append]
  | cons c t ih =>
      obtain ⟨hc, ht⟩ := not_or.mp (mt List.mem_cons.mpr ht)
      have hc : decide (c = '\n') = false := decide_eq_false (Ne.symm hc)
      rw [List.cons_append, lineStartsFrom, hc, ih ht, List.append_assoc]
      rfl

theorem lineStartsFrom_line (ht : '\n' ∉ t) (hne : t ≠ []) :
    lineStartsFrom b before (t ++ u) =
      (if b then [(before, t ++ u)] else []) ++ lineStartsFrom false (before ++ t) u := by
  obtain ⟨c, t, rfl⟩ := List.exists_cons_of_ne_nil hne
  obtain ⟨hc, ht⟩ := not_or.mp (mt List.mem_cons.mpr ht)
  have hc : decide (c = '\n') = false := decide_eq_false (Ne.symm hc)
  rw [List.cons_append, lineStartsFrom, hc, lineStartsFrom_false ht, List.append_assoc]
  rfl

/-- At each line start of a text, `K` holds of what stands there. -/
def AtLineStarts (K : Text → Prop) (b : Bool) : Text → Prop
  | [] => True
  | c :: t => (b = true → K (c :: t)) ∧ AtLineStarts K (c = '\n') t

theorem atLineStarts_iff {K : Text → Prop} (before : Text) :
    AtLineStarts K b t ↔ ∀ start ∈ lineStartsFrom b before t, K start.2 := by
  induction t generalizing b before with
  | nil => exact ⟨fun _ _ h => (nomatch h), fun _ => trivial⟩
  | cons c t ih =>
      rw [AtLineStarts, lineStartsFrom, List.forall_mem_append, ← ih]
      refine and_congr_left fun _ => ?_
      cases b with
      | false => exact ⟨fun _ _ h => (nomatch h), fun _ h => (nomatch h)⟩
      | true => simp

/-- The visit of line starts, of which those before the byte `resume` are passed over. Where
    `Derives t x rest` holds of the text `t` there, the statement `x` is found, and it ends
    where `rest` starts. -/
inductive Visits (Derives : Text → α → Text → Prop) :
    Nat → List (Text × Text) → List (Located α) → Prop where
  | done {resume : Nat} : Visits Derives resume [] []
  | covered {resume : Nat} {before t : Text} {starts : List (Text × Text)}
      {found : List (Located α)} :
      before.byteLength < resume → Visits Derives resume starts found →
      Visits Derives resume ((before, t) :: starts) found
  | nothing {resume : Nat} {before t : Text} {starts : List (Text × Text)}
      {found : List (Located α)} :
      resume ≤ before.byteLength → (∀ x rest, ¬ Derives t x rest) →
      Visits Derives resume starts found →
      Visits Derives resume ((before, t) :: starts) found
  | statement {resume : Nat} {before written rest : Text} {x : α}
      {starts : List (Text × Text)} {found : List (Located α)} :
      resume ≤ before.byteLength → Derives (written ++ rest) x rest →
      Visits Derives (before ++ written).byteLength starts found →
      Visits Derives resume ((before, written ++ rest) :: starts)
        (⟨⟨before.byteLength, (before ++ written).byteLength⟩, 1 + before.lineBreaks, x⟩ ::
          found)

/-- If a text derives in one way only, so does what a visit finds. -/
theorem Visits.unique (hD : ∀ {t x x' rest rest'}, Derives t x rest → Derives t x' rest' →
      x = x' ∧ rest = rest') (h : Visits Derives resume starts found)
    (h' : Visits Derives resume starts found') : found = found' := by
  induction h generalizing found' with
  | done => cases h'; rfl
  | covered hlt _ ih =>
      cases h' with
      | covered _ h' => exact ih h'
      | nothing hle _ _ => exact absurd hlt (Nat.not_lt.mpr hle)
      | statement hle _ _ => exact absurd hlt (Nat.not_lt.mpr hle)
  | nothing hle hno _ ih =>
      cases h' with
      | covered hlt _ => exact absurd hlt (Nat.not_lt.mpr hle)
      | nothing _ _ h' => exact ih h'
      | statement _ hd _ => exact absurd hd (hno _ _)
  | @statement resume before written rest x starts found hle hd _ ih =>
      generalize ht : written ++ rest = t at h' hd
      cases h' with
      | covered hlt _ => exact absurd hlt (Nat.not_lt.mpr hle)
      | nothing _ hno _ => exact absurd hd (hno _ _)
      | statement _ hd' h' =>
          obtain ⟨rfl, rfl⟩ := hD hd hd'
          rw [List.append_cancel_right ht] at ih ⊢
          rw [ih h']

/-- The line starts that a statement covers are passed over. -/
theorem Visits.skip (before u : Text) (h : Visits Derives (before ++ u).byteLength
      (lineStartsFrom (endsLine b u) (before ++ u) t) found) :
    Visits Derives (before ++ u).byteLength (lineStartsFrom b before (u ++ t)) found := by
  induction u generalizing b before with
  | nil => simpa using h
  | cons c u ih =>
      have hrest := ih (b := c = '\n') (before ++ [c]) (by simpa using h)
      rw [List.append_assoc, List.singleton_append] at hrest
      rw [List.cons_append, lineStartsFrom]
      cases b with
      | false => exact hrest
      | true =>
          -- a character of the statement stands before its end
          refine .covered ?_ hrest
          have := c.utf8Size_pos
          simp only [byteLength_append, byteLength_cons]
          omega

/-- The statements of a cut are those that a visit finds. -/
theorem Piece.Cuts.visits (hD : ∀ {t x rest}, read t = some (x, rest) ↔ Derives t x rest)
    (h : Cuts read b t ps) (before : Text) (hle : resume ≤ before.byteLength) :
    Visits Derives resume (lineStartsFrom b before t)
      (locateFrom before.byteLength (1 + before.lineBreaks) ps) := by
  induction h generalizing before resume with
  | done => exact .done
  | @kept b c rest ps hno _ ih =>
      have hrest := ih (before ++ [c]) (Nat.le_trans hle (by rw [byteLength_append]; omega))
      rw [byteLength_append, lineBreaks_append] at hrest
      rw [lineStartsFrom, locateFrom]
      simp only [byteLength_cons, byteLength_nil, lineBreaks_cons, lineBreaks_nil,
        Nat.add_zero, ← Nat.add_assoc] at hrest
      cases b with
      | false => exact hrest
      | true =>
          refine .nothing hle ?_ hrest
          intro x rest' hd
          rw [← hD, hno rfl] at hd
          exact nomatch hd
  | @statement w rest x ps hne hread _ ih =>
      obtain ⟨c, w, rfl⟩ := List.exists_cons_of_ne_nil hne
      -- the line starts in the statement are visited and passed over
      have hrest := Visits.skip (b := false) before (c :: w)
        (ih (before ++ c :: w) (Nat.le_refl _))
      have hstart := Visits.statement hle (hD.mp hread) hrest
      rw [byteLength_append, lineBreaks_append, ← Nat.add_assoc] at hstart
      exact hstart

/-- What is found in a source is what a visit of its line starts finds. -/
theorem visits_locate (hD : ∀ {t x rest}, read t = some (x, rest) ↔ Derives t x rest)
    (hread : Piece.Consumes read) (s : Text) :
    Visits Derives 0 (lineStarts s) (Piece.locate (Piece.ofSource read s)) := by
  cases s with
  | nil =>
      -- an empty source has one line start, and nothing is read off nothing
      refine .nothing (Nat.le_refl _) ?_ .done
      intro x rest hd
      obtain ⟨w, hne, hs⟩ := hread (hD.mpr hd)
      exact hne (List.append_eq_nil_iff.mp hs.symm).1
  | cons c t =>
      exact (Piece.cuts_cut hread).visits hD [] (Nat.le_refl _)

/-- The visit finds that, and it finds nothing else. -/
theorem locate_eq_iff_visits (hD : ∀ {t x rest}, read t = some (x, rest) ↔ Derives t x rest)
    (hread : Piece.Consumes read) (s : Text) (found : List (Located α)) :
    Piece.locate (Piece.ofSource read s) = found ↔ Visits Derives 0 (lineStarts s) found := by
  have hvisit := visits_locate hD hread s
  constructor
  · rintro rfl
    exact hvisit
  · intro h
    refine Visits.unique ?_ hvisit h
    intro t x x' rest rest' hd hd'
    have he := (hD.mpr hd).symm.trans (hD.mpr hd')
    exact Prod.mk.inj (Option.some.inj he)

end RequireForm
