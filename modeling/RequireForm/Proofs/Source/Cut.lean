import RequireForm.Proofs.Source.Run
import RequireForm.Source.Piece

/-!
# How a source is cut

`Piece.cut` counts the characters that a statement has taken and goes on behind them. Here the
cut is described without the counter, by what happens at the front of a source: a character is
kept, or a statement is taken away as a whole.

  1. `endsLine`: whether a line starts behind a text.
  2. `Piece.Cuts`: the pieces of a source as a relation, and `cuts_cut`.
  3. `cut_statement`, `cut_kept`, `cut_line`: the cut of a source that is put together.
  4. `Piece.Lines`, `Piece.ofSource_join`: the cut of a source that is put together of lines.
-/

namespace RequireForm

open Text

variable {α : Type} {read : Text → Option (α × Text)} {b : Bool} {c : Char}
  {s t u w rest : Text} {x : α} {ps : List (Piece α)}

/-- A line starts behind a text: the text ends with a line feed, or it is empty and a line
    starts where it stands. -/
def endsLine (b : Bool) : Text → Bool
  | [] => b
  | c :: t => endsLine (c = '\n') t

@[simp] theorem endsLine_nil : endsLine b [] = b := rfl

@[simp] theorem endsLine_cons : endsLine b (c :: t) = endsLine (c = '\n') t := rfl

@[simp] theorem endsLine_append : endsLine b (t ++ u) = endsLine (endsLine b t) u := by
  induction t generalizing b with
  | nil => rfl
  | cons c t ih => exact ih

theorem endsLine_of_not_mem (h : '\n' ∉ t) (hne : t ≠ []) : endsLine b t = false := by
  induction t generalizing b with
  | nil => exact absurd rfl hne
  | cons c t ih =>
      obtain ⟨hc, ht⟩ := not_or.mp (mt List.mem_cons.mpr h)
      have hc : decide (c = '\n') = false := decide_eq_false (Ne.symm hc)
      cases t with
      | nil => exact hc
      | cons d t => exact ih (b := c = '\n') ht (List.cons_ne_nil _ _)

namespace Piece

/-- A reader takes something away from the front of a text, and nothing else. -/
def Consumes (read : Text → Option (α × Text)) : Prop :=
  ∀ {s x rest}, read s = some (x, rest) → ∃ w, w ≠ [] ∧ s = w ++ rest

/-- The pieces of a source, with a flag that tells whether a line starts at its front. -/
inductive Cuts (read : Text → Option (α × Text)) : Bool → Text → List (Piece α) → Prop where
  | done {b : Bool} : Cuts read b [] []
  | kept {b : Bool} {c : Char} {rest : Text} {ps : List (Piece α)} :
      (b = true → read (c :: rest) = none) → Cuts read (c = '\n') rest ps →
      Cuts read b (c :: rest) (.kept c :: ps)
  | statement {w rest : Text} {x : α} {ps : List (Piece α)} :
      w ≠ [] → read (w ++ rest) = some (x, rest) → Cuts read (endsLine true w) rest ps →
      Cuts read true (w ++ rest) (.statement w x :: ps)

/-- Behind a character all is kept up to the next line feed, and so the run of characters that
    starts there is the same in whatever text a pass makes of the pieces. -/
theorem Cuts.takeWhile_kept {pass : List (Piece α) → Text} {p : Char → Bool} {c : Char}
    (hp : p '\n' = false) (hnil : pass [] = [])
    (hkept : ∀ c ps, pass (.kept c :: ps) = c :: pass ps)
    (h : Cuts read (c = '\n') s ps) : (c :: pass ps).takeWhile p = (c :: s).takeWhile p := by
  induction s generalizing c ps with
  | nil =>
      by_cases hc : p c = true
      · have hfeed : decide (c = '\n') = false := decide_eq_false fun he => by simp [he, hp] at hc
        rw [hfeed] at h
        cases h with
        | done => rw [hnil]
      · rw [List.takeWhile_cons_of_neg hc, List.takeWhile_cons_of_neg hc]
  | cons d t ih =>
      by_cases hc : p c = true
      · have hfeed : decide (c = '\n') = false := decide_eq_false fun he => by simp [he, hp] at hc
        rw [hfeed] at h
        cases h with
        | kept _ h =>
            rw [hkept, List.takeWhile_cons_of_pos hc, List.takeWhile_cons_of_pos hc, ih h]
      · rw [List.takeWhile_cons_of_neg hc, List.takeWhile_cons_of_neg hc]

/-- The cut goes on behind what is covered. -/
theorem cut_covered : cut read b w.length (w ++ rest) = cut read (endsLine b w) 0 rest := by
  induction w generalizing b with
  | nil => rfl
  | cons c w ih =>
      rw [List.cons_append, List.length_cons, cut]
      exact ih

theorem cut_statement (hne : w ≠ []) (h : read (w ++ rest) = some (x, rest)) :
    cut read true 0 (w ++ rest) = .statement w x :: cut read (endsLine true w) 0 rest := by
  obtain ⟨c, w, rfl⟩ := List.exists_cons_of_ne_nil hne
  have hlen : (c :: (w ++ rest)).length - rest.length = w.length + 1 := by
    simp only [List.length_cons, List.length_append]
    omega
  have htake : (c :: (w ++ rest)).take (w.length + 1) = c :: w := by simp
  rw [List.cons_append] at h ⊢
  simp only [cut, h, if_true, hlen, htake, Nat.add_sub_cancel]
  rw [cut_covered]
  rfl

theorem cut_kept_char (h : b = true → read (c :: rest) = none) :
    cut read b 0 (c :: rest) = .kept c :: cut read (c = '\n') 0 rest := by
  cases b with
  | false => rfl
  | true => simp only [cut, if_true, h rfl]

theorem cuts_cut (hread : Consumes read) : Cuts read b s (cut read b 0 s) := by
  -- on the length, since a statement takes away several characters at once
  induction hn : s.length using Nat.strong_induction_on generalizing b s with
  | _ n ih =>
      cases s with
      | nil => exact .done
      | cons c t =>
          have hkept (h : b = true → read (c :: t) = none) :
              Cuts read b (c :: t) (cut read b 0 (c :: t)) := by
            rw [cut_kept_char h]
            exact .kept h (ih t.length (by simp [← hn]) rfl)
          cases b with
          | false => exact hkept (fun h => nomatch h)
          | true =>
              cases h : read (c :: t) with
              | none => exact hkept (fun _ => h)
              | some r =>
                  obtain ⟨x, rest⟩ := r
                  obtain ⟨w, hne, hs⟩ := hread h
                  rw [hs] at h hn ⊢
                  rw [cut_statement hne h]
                  have hpos := List.length_pos_iff.mpr hne
                  refine .statement hne h (ih rest.length ?_ rfl)
                  rw [← hn, List.length_append]
                  omega

/-- Put together, the pieces give the source back. -/
theorem Cuts.flatMap_text (h : Cuts read b s ps) : ps.flatMap text = s := by
  induction h with
  | done => rfl
  | kept _ _ ih => rw [List.flatMap_cons, ih]; rfl
  | statement _ _ _ ih => rw [List.flatMap_cons, ih]; rfl

/-- A text is kept if no statement is read at any of its line starts. -/
theorem cut_kept (h : ∀ u v, t = u ++ v → v ≠ [] → endsLine b u = true →
      read (v ++ rest) = none) :
    cut read b 0 (t ++ rest) = t.map .kept ++ cut read (endsLine b t) 0 rest := by
  induction t generalizing b with
  | nil => rfl
  | cons c t ih =>
      have hc : b = true → read (c :: (t ++ rest)) = none :=
        h [] (c :: t) rfl (List.cons_ne_nil _ _)
      rw [List.cons_append, cut_kept_char hc, ih]
      · rfl
      · intro u v ht hv hu
        exact h (c :: u) v (by rw [ht]; rfl) hv hu

/-- The rest of a line is kept. -/
theorem cut_line (h : '\n' ∉ t) :
    cut read false 0 (t ++ rest) = t.map .kept ++ cut read false 0 rest := by
  rw [cut_kept]
  · cases t with
    | nil => rfl
    | cons c t => rw [endsLine_of_not_mem h (List.cons_ne_nil _ _)]
  · intro u v ht hv hu
    have hu' : '\n' ∉ u := fun hm => h (by rw [ht]; exact List.mem_append_left _ hm)
    cases u with
    | nil => exact nomatch hu
    | cons c u =>
        rw [endsLine_of_not_mem hu' (List.cons_ne_nil _ _)] at hu
        exact nomatch hu

/-- The beginning of a line is kept if no statement is read there. -/
theorem cut_line_start (ht : '\n' ∉ t) (hne : t ≠ []) (h : read (t ++ rest) = none) :
    cut read true 0 (t ++ rest) = t.map .kept ++ cut read false 0 rest := by
  obtain ⟨c, t, rfl⟩ := List.exists_cons_of_ne_nil hne
  obtain ⟨hc, ht⟩ := not_or.mp (mt List.mem_cons.mpr ht)
  have hc : decide (c = '\n') = false := decide_eq_false (Ne.symm hc)
  rw [List.cons_append] at h ⊢
  rw [cut_kept_char fun _ => h, hc, cut_line ht]
  rfl

/-! ## Lines -/

/-- A line ends where the text stands. -/
def LineEnd (rest : Text) : Prop := rest = [] ∨ ∃ t, rest = '\n' :: t

/-- A text is cut into `ps` wherever it stands on lines of its own. -/
def Lines (read : Text → Option (α × Text)) (t : Text) (ps : List (Piece α)) : Prop :=
  ∀ rest, LineEnd rest → cut read true 0 (t ++ rest) = ps ++ cut read false 0 rest

/-- No statement starts in the middle of a line. -/
theorem cut_feed : cut read false 0 ('\n' :: t) = .kept '\n' :: cut read true 0 t := rfl

/-- A line is kept if no statement is read at its start. -/
theorem lines_line (ht : '\n' ∉ t) (h : ∀ rest, LineEnd rest → read (t ++ rest) = none) :
    Lines read t (t.map .kept) := by
  intro rest hrest
  by_cases hne : t = []
  · subst hne
    have hno : read rest = none := h rest hrest
    rcases hrest with rfl | ⟨u, rfl⟩
    · rfl
    · show cut read true 0 ('\n' :: u) = cut read false 0 ('\n' :: u)
      rw [cut_kept_char fun _ => hno, cut_feed]
      rfl
  · exact cut_line_start ht hne (h rest hrest)

/-- Behind a statement the rest of its line is kept. -/
theorem lines_statement (hne : w ≠ []) (hw : endsLine true w = false) (ht : '\n' ∉ t)
    (h : ∀ rest, LineEnd rest → read (w ++ (t ++ rest)) = some (x, t ++ rest)) :
    Lines read (w ++ t) (.statement w x :: t.map .kept) := by
  intro rest hrest
  rw [List.append_assoc, cut_statement hne (h rest hrest), hw, cut_line ht]
  rfl

theorem lines_append (ht : Lines read t ps) {qs : List (Piece α)} (hu : Lines read u qs) :
    Lines read (t ++ '\n' :: u) (ps ++ .kept '\n' :: qs) := by
  intro rest hrest
  rw [List.append_assoc, List.cons_append, ht _ (Or.inr ⟨_, rfl⟩), cut_feed, hu rest hrest,
    List.append_assoc, List.cons_append]

/-- Pieces under each other, with a line feed between each two. -/
def joinLines : List (List (Piece α)) → List (Piece α)
  | [] => []
  | [ps] => ps
  | ps :: rest => ps ++ .kept '\n' :: joinLines rest

theorem ofSource_join {ι : Type} {items : List ι} {written : ι → Text}
    {pieces : ι → List (Piece α)} (h : ∀ i ∈ items, Lines read (written i) (pieces i)) :
    ofSource read (join ['\n'] (items.map written)) = joinLines (items.map pieces) := by
  cases items with
  | nil => rfl
  | cons i items =>
      suffices hlines : Lines read (join ['\n'] ((i :: items).map written))
          (joinLines ((i :: items).map pieces)) by
        have hcut := hlines [] (Or.inl rfl)
        rw [List.append_nil] at hcut
        exact hcut.trans (List.append_nil _)
      induction items generalizing i with
      | nil => exact h i List.mem_cons_self
      | cons j items ih =>
          have hrest := ih j fun k hk => h k (List.mem_cons_of_mem _ hk)
          have hcons := lines_append (h i List.mem_cons_self) hrest
          simp only [List.map_cons, join, joinLines, List.append_assoc, List.singleton_append]
            at hcons ⊢
          exact hcons

end Piece

end RequireForm
