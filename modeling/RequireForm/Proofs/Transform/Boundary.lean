import RequireForm.Proofs.Export.Fence
import RequireForm.Proofs.Source.Splice
import RequireForm.Proofs.Transform.Passes

/-!
# Boundaries — sources put together behind `;` and a line end

    FRONT ;
    BACK

No statement reaches over a `;` that ends its line, and what is read in FRONT does not depend on
BACK. So both passes work on FRONT and on BACK alone; all that FRONT hands over is how many bytes
and lines it has, and how many pairs of temporaries it has taken.

  1. `Piece.Bounded`: a reader of which no statement reaches over a boundary.
  2. `ofSource_boundary`: the pieces of a source that is put together.
  3. `transformFrom`, `transform_append`: what is found in it, and what becomes of it.
-/

namespace RequireForm

open Text

variable {α : Type} {read : Text → Option (α × Text)} {b : Bool} {u t : Text} {r : PathRule}

/-! ## The pieces of a source put together -/

/-- Where a statement ends its line. -/
def boundary : Text := ";\n".toList

namespace Piece

/-- A statement that starts in front of a boundary ends there, whatever follows. -/
def Bounded (read : Text → Option (α × Text)) : Prop :=
  ∀ {u t x rest}, read (u ++ (boundary ++ t)) = some (x, rest) →
    ∃ w v, w ≠ [] ∧ u = w ++ v ∧
      ∀ t', read (u ++ (boundary ++ t')) = some (x, v ++ (boundary ++ t'))

/-- What is cut in front of a boundary does not depend on what follows it. -/
theorem exists_cut_boundary (hread : Bounded read) (b : Bool) (u : Text) :
    ∃ ps, ∀ t, cut read b 0 (u ++ (boundary ++ t)) =
      ps ++ (boundary.map .kept ++ cut read true 0 t) := by
  -- on the length, since a statement takes away several characters at once
  induction hn : u.length using Nat.strong_induction_on generalizing b u with
  | _ n ih =>
      cases u with
      | nil =>
          refine ⟨[], fun t => ?_⟩
          have hno : b = true → read (boundary ++ t) = none := by
            intro _
            cases h : read (boundary ++ t) with
            | none => rfl
            | some r =>
                obtain ⟨w, v, hne, hw, -⟩ := hread (u := []) h
                exact absurd (List.append_eq_nil_iff.mp hw.symm).1 hne
          exact cut_kept_char hno
      | cons c u =>
          have hkept (hno : b = true → ∀ t, read (c :: (u ++ (boundary ++ t))) = none) :
              ∃ ps, ∀ t, cut read b 0 (c :: u ++ (boundary ++ t)) =
                ps ++ (boundary.map .kept ++ cut read true 0 t) := by
            obtain ⟨ps, hps⟩ := ih u.length (by simp [← hn]) (c = '\n') u rfl
            refine ⟨.kept c :: ps, fun t => ?_⟩
            rw [List.cons_append, cut_kept_char fun hb => hno hb t, hps]
            rfl
          cases b with
          | false => exact hkept fun h => nomatch h
          | true =>
              -- one continuation with a statement here is enough to know them all
              by_cases hex : ∃ t r, read (c :: u ++ (boundary ++ t)) = some r
              · obtain ⟨t, ⟨x, rest⟩, h⟩ := hex
                obtain ⟨w, v, hne, hw, hsame⟩ := hread h
                rw [hw] at hn hsame ⊢
                have hpos := List.length_pos_iff.mpr hne
                have hlt : v.length < n := by
                  rw [← hn, List.length_append]
                  omega
                obtain ⟨ps, hps⟩ := ih v.length hlt (endsLine true w) v rfl
                refine ⟨.statement w x :: ps, fun t => ?_⟩
                have ht := hsame t
                rw [List.append_assoc] at ht ⊢
                rw [cut_statement hne ht, hps]
                rfl
              · refine hkept fun _ t => ?_
                rw [Option.eq_none_iff_forall_ne_some]
                exact fun r hr => hex ⟨t, r, hr⟩

/-- The boundary itself is kept, and what follows it is cut like a source of its own. -/
theorem exists_ofSource_boundary (hread : Bounded read) (u : Text) :
    ∃ ps, ofSource read (u ++ boundary) = ps ++ boundary.map .kept ∧
      ∀ t, ofSource read (u ++ boundary ++ t) = ps ++ boundary.map .kept ++ ofSource read t := by
  obtain ⟨ps, hps⟩ := exists_cut_boundary hread true u
  refine ⟨ps, ?_, fun t => ?_⟩
  · have hfront := hps []
    rw [List.append_nil, cut, List.append_nil] at hfront
    exact hfront
  · rw [ofSource, List.append_assoc, hps, List.append_assoc]
    rfl

theorem ofSource_boundary (hread : Bounded read) (u t : Text) :
    ofSource read (u ++ boundary ++ t) = ofSource read (u ++ boundary) ++ ofSource read t := by
  obtain ⟨ps, hfront, hboth⟩ := exists_ofSource_boundary hread u
  rw [hboth, hfront]

/-- What is found behind a boundary is found further on by what stands in front. -/
theorem locate_boundary (hread : Bounded read) (hconsumes : Consumes read) (u t : Text) :
    locate (ofSource read (u ++ boundary ++ t)) =
      locate (ofSource read (u ++ boundary)) ++
        (locate (ofSource read t)).map
          (Located.shift (u ++ boundary).byteLength (u ++ boundary).lineBreaks) := by
  have htext : textOf (ofSource read (u ++ boundary)) = u ++ boundary :=
    (cuts_cut hconsumes).flatMap_text
  rw [ofSource_boundary hread, locate, locateFrom_append, htext, Nat.add_comm, Nat.add_comm 1,
    locateFrom_add]
  rfl

end Piece

theorem Import.bounded_read? : Piece.Bounded read? := by
  intro u t i rest h
  have hends : PathsEnd u ';' ('\n' :: t) := pathsEnd_feed (by decide) u t
  obtain ⟨w, v, rfl, -, -, hsame⟩ := read?_fence (by decide) hends h
  refine ⟨w ++ i.path.written, v, ?_, rfl, fun t' => ?_⟩
  · exact List.append_ne_nil_of_right_ne_nil _ (List.cons_ne_nil _ _)
  · rw [List.append_assoc (w ++ i.path.written)]
    exact hsame _

theorem Export.bounded_read? : Piece.Bounded read? := fun h => read?_feed (by decide) h

/-! ## Both passes over a source put together -/

/-- Put a source into require form, where `n` is the number of the first pair of temporaries. -/
def transformFrom (r : PathRule) (n : Nat) (source : Text) : Transformed :=
  let imports := Import.pieces source
  let exports := Export.pieces (importPass r imports)
  ⟨exportPass r n exports, .ofPieces imports exports⟩

/-- A transform is one that starts with the first pair of temporaries. -/
theorem transform_eq_transformFrom (o : Options) (source : Text) :
    transform o source = transformFrom (.ofOptions o) 0 source := rfl

theorem Report.ofPieces_append (ps ps' : List (Piece Import)) (qs qs' : List (Piece Export)) :
    ofPieces (ps ++ ps') (qs ++ qs') = (ofPieces ps qs).merge (ofPieces ps' qs') := by
  simp only [ofPieces, merge, Piece.statements_append, List.length_append, List.countP_append]

theorem afterImports_boundary (r : PathRule) (u t : Text) :
    afterImports r (u ++ boundary ++ t) = afterImports r (u ++ boundary) ++ afterImports r t := by
  rw [afterImports, Import.pieces, Piece.ofSource_boundary Import.bounded_read?, importPass_append]
  rfl

/-- The first pass leaves a boundary behind. -/
theorem exists_afterImports_boundary (r : PathRule) (u : Text) :
    ∃ v, afterImports r (u ++ boundary) = v ++ boundary := by
  obtain ⟨ps, hps, -⟩ := Piece.exists_ofSource_boundary Import.bounded_read? u
  refine ⟨importPass r ps, ?_⟩
  rw [afterImports, Import.pieces, hps, importPass_append, importPass_kept]

theorem transformFrom_boundary (r : PathRule) (n : Nat) (u t : Text) :
    let front := transformFrom r n (u ++ boundary)
    let back := transformFrom r (n + front.report.stars) t
    transformFrom r n (u ++ boundary ++ t) =
      ⟨front.output ++ back.output, front.report.merge back.report⟩ := by
  intro front back
  obtain ⟨v, hv⟩ := exists_afterImports_boundary r u
  have himports : Import.pieces (u ++ boundary ++ t)
      = Import.pieces (u ++ boundary) ++ Import.pieces t :=
    Piece.ofSource_boundary Import.bounded_read? u t
  have hexports : Export.pieces (afterImports r (u ++ boundary ++ t))
      = Export.pieces (afterImports r (u ++ boundary)) ++ Export.pieces (afterImports r t) := by
    rw [afterImports_boundary, hv]
    exact Piece.ofSource_boundary Export.bounded_read? v _
  show Transformed.mk (exportPass r n (Export.pieces (afterImports r (u ++ boundary ++ t))))
    (.ofPieces (Import.pieces (u ++ boundary ++ t))
      (Export.pieces (afterImports r (u ++ boundary ++ t)))) = _
  rw [himports, hexports, exportPass_append, Report.ofPieces_append]
  rfl

/-- Behind `;` and a line end a source starts anew: what is found there is found as in a source
    of its own, and both passes put it into require form as they do alone, with the temporaries
    numbered on. -/
theorem transform_append (o : Options) (a b : Text) :
    let front := a ++ ";\n".toList
    let back := transformFrom (.ofOptions o) (transform o front).report.stars b
    (Import.find (front ++ b) = Import.find front ++
        (Import.find b).map (Located.shift front.byteLength front.lineBreaks)) ∧
      (Export.find (front ++ b) = Export.find front ++
        (Export.find b).map (Located.shift front.byteLength front.lineBreaks)) ∧
      transform o (front ++ b) = ⟨(transform o front).output ++ back.output,
        (transform o front).report.merge back.report⟩ := by
  intro front back
  have hpasses := transformFrom_boundary (.ofOptions o) 0 a b
  simp only [Nat.zero_add, ← transform_eq_transformFrom] at hpasses
  exact ⟨Piece.locate_boundary Import.bounded_read? Import.consumes_read? a b,
    Piece.locate_boundary Export.bounded_read? Export.consumes_read? a b, hpasses⟩

end RequireForm
