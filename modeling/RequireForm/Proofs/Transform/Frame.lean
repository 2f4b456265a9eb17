import RequireForm.Proofs.Export.Grammar
import RequireForm.Proofs.Source.Splice
import RequireForm.Proofs.Transform.Passes

/-!
# Frame — a pass changes its statements and nothing else

Both passes walk over pieces. Seen from outside they splice: texts are put for the spans of the
statements that were found, one text for each, and all bytes between the spans stay.

  1. `importChanges`, `exportChanges`: the pieces of a source, each statement with its new text.
  2. `importEdits`, `exportEdits`: the spans of what was found, each with its new text.
  3. `transform_eq_splice`: where statements are found, and both passes as splices.
-/

namespace RequireForm

open Text

variable {r : PathRule} {n : Nat}

/-! ## Changes -/

/-- The pieces of a source with the texts that take the places of its imports. -/
def importChanges (r : PathRule) : List (Piece Import) → List (Piece Text)
  | [] => []
  | .kept c :: ps => .kept c :: importChanges r ps
  | .statement w i :: ps => .statement w (i.require r) :: importChanges r ps

/-- The pieces of a source with the texts that take the places of its exports. Each star takes a
    pair of temporaries; `n` is the number of the next one. -/
def exportChanges (r : PathRule) (n : Nat) : List (Piece Export) → List (Piece Text)
  | [] => []
  | .kept c :: ps => .kept c :: exportChanges r n ps
  | .statement w e :: ps =>
      .statement w (e.require r n) :: exportChanges r (if e.isStar then n + 1 else n) ps

/-- The spans of imports with the texts that take their places. -/
def importEdits (r : PathRule) (found : List (Located Import)) : List (Span × Text) :=
  found.map fun i => (i.span, i.what.require r)

/-- The spans of exports with the texts that take their places. -/
def exportEdits (r : PathRule) (n : Nat) : List (Located Export) → List (Span × Text)
  | [] => []
  | e :: es => (e.span, e.what.require r n) :: exportEdits r (if e.what.isStar then n + 1 else n) es

theorem result_importChanges (ps : List (Piece Import)) :
    Piece.result (importChanges r ps) = importPass r ps := by
  induction ps with
  | nil => rfl
  | cons piece ps ih =>
      cases piece with
      | kept c => exact congrArg (c :: ·) ih
      | statement w i => exact congrArg (i.require r ++ ·) ih

theorem result_exportChanges (ps : List (Piece Export)) :
    Piece.result (exportChanges r n ps) = exportPass r n ps := by
  induction ps generalizing n with
  | nil => rfl
  | cons piece ps ih =>
      cases piece with
      | kept c => exact congrArg (c :: ·) ih
      | statement w e => exact congrArg (e.require r n ++ ·) ih

theorem textOf_importChanges (ps : List (Piece Import)) :
    Piece.textOf (importChanges r ps) = Piece.textOf ps := by
  induction ps with
  | nil => rfl
  | cons piece ps ih =>
      cases piece with
      | kept c => exact congrArg (c :: ·) ih
      | statement w i => exact congrArg (w ++ ·) ih

theorem textOf_exportChanges (ps : List (Piece Export)) :
    Piece.textOf (exportChanges r n ps) = Piece.textOf ps := by
  induction ps generalizing n with
  | nil => rfl
  | cons piece ps ih =>
      cases piece with
      | kept c => exact congrArg (c :: ·) ih
      | statement w e => exact congrArg (w ++ ·) ih

theorem edits_importChanges (ps : List (Piece Import)) :
    Piece.edits (Piece.locateFrom offset line (importChanges r ps))
      = importEdits r (Piece.locateFrom offset line ps) := by
  induction ps generalizing offset line with
  | nil => rfl
  | cons piece ps ih =>
      cases piece with
      | kept c => exact ih
      | statement w i => exact congrArg (_ :: ·) ih

theorem edits_exportChanges (ps : List (Piece Export)) :
    Piece.edits (Piece.locateFrom offset line (exportChanges r n ps))
      = exportEdits r n (Piece.locateFrom offset line ps) := by
  induction ps generalizing n offset line with
  | nil => rfl
  | cons piece ps ih =>
      cases piece with
      | kept c => exact ih
      | statement w e => exact congrArg (_ :: ·) ih

/-! ## Where statements start -/

theorem Import.startsWith_read? : StartsWith ImportSyntax.keyword read? := by
  intro s i rest h
  obtain ⟨t, ht, -⟩ := Option.bind_eq_some_iff.mp h
  obtain ⟨d, -, rfl, -⟩ := read?_eq_some_iff.mp h
  obtain ⟨hs, hends⟩ := word?_eq_some_iff.mp ht
  obtain ⟨tail, htail⟩ : ∃ tail, d.text = ImportSyntax.keyword ++ tail := by
    cases d with
    | effects gap p => exact ⟨_, rfl⟩
    | binding gap d gap₁ gap₂ p => exact ⟨_, rfl⟩
  rw [htail, List.append_assoc] at hs ⊢
  rw [← List.append_cancel_left hs] at hends
  exact ⟨tail, rfl, hends⟩

theorem Export.startsWith_read? : StartsWith "export".toList read? := by
  intro s e rest h
  obtain ⟨t, ht, -⟩ := Option.bind_eq_some_iff.mp h
  obtain ⟨rfl, hends⟩ := word?_eq_some_iff.mp ht
  obtain ⟨gap, body, hbody, -, -, -, hclause⟩ := read?_eq_some_iff.mp h
  obtain rfl := List.append_cancel_left hbody
  obtain ⟨w, rfl⟩ := hclause.exists_append
  rw [← List.append_assoc] at hends
  exact ⟨gap ++ w, by rw [List.append_assoc], hends⟩

/-! ## What is found -/

theorem Piece.map_what_locateFrom {α : Type} (ps : List (Piece α)) (offset line : Nat) :
    (locateFrom offset line ps).map (·.what) = statements ps := by
  induction ps generalizing offset line with
  | nil => rfl
  | cons piece ps ih =>
      cases piece with
      | kept c => exact ih _ _
      | statement w x => exact congrArg (x :: ·) (ih _ _)

theorem Import.length_find (source : Text) :
    (find source).length = (Piece.statements (pieces source)).length := by
  rw [← Piece.map_what_locateFrom _ 0 1, List.length_map]
  rfl

theorem Export.length_find (source : Text) :
    (find source).length = (Piece.statements (pieces source)).length := by
  rw [← Piece.map_what_locateFrom _ 0 1, List.length_map]
  rfl

theorem Export.countP_find (source : Text) :
    (find source).countP (·.what.isStar) = (Piece.statements (pieces source)).countP isStar := by
  rw [← Piece.map_what_locateFrom _ 0 1, List.countP_map]
  rfl

/-- The first pass, seen from outside. -/
theorem splice_imports (r : PathRule) (source : Text) :
    splice source (importEdits r (Import.find source)) = some (afterImports r source) := by
  have htext : Piece.textOf (importChanges r (Import.pieces source)) = source := by
    rw [textOf_importChanges]
    exact (Piece.cuts_cut Import.consumes_read?).flatMap_text
  have hsplice := Piece.splice_edits htext
  rw [Piece.locate, edits_importChanges, result_importChanges] at hsplice
  exact hsplice

/-- The second pass, seen from outside. -/
theorem splice_exports (r : PathRule) (n : Nat) (source : Text) :
    splice source (exportEdits r n (Export.find source))
      = some (exportPass r n (Export.pieces source)) := by
  have htext : Piece.textOf (exportChanges r n (Export.pieces source)) = source := by
    rw [textOf_exportChanges]
    exact (Piece.cuts_cut Export.consumes_read?).flatMap_text
  have hsplice := Piece.splice_edits htext
  rw [Piece.locate, edits_exportChanges, result_exportChanges] at hsplice
  exact hsplice

/-- Statements lie in order and apart, each at a line start with its word. So both passes are
    splices of what they find, and the report counts what they find. -/
theorem transform_eq_splice (o : Options) (source : Text) :
    let r := PathRule.ofOptions o
    let between := afterImports r source
    (Laid "import".toList source (Import.find source) ∧
        Laid "export".toList source (Export.find source) ∧
        Laid "export".toList between (Export.find between)) ∧
      (splice source (importEdits r (Import.find source)) = some between ∧
        splice between (exportEdits r 0 (Export.find between))
          = some (transform o source).output) ∧
      (transform o source).report
        = ⟨(Import.find source).length, (Export.find between).length,
            (Export.find between).countP (·.what.isStar)⟩ := by
  intro r between
  have hexports (s : Text) : Laid "export".toList s (Export.find s) :=
    (Piece.cuts_cut Export.consumes_read?).laid Export.startsWith_read?
  refine ⟨⟨?_, hexports source, hexports between⟩, ⟨?_, ?_⟩, ?_⟩
  · exact (Piece.cuts_cut Import.consumes_read?).laid Import.startsWith_read?
  · exact splice_imports r source
  · exact splice_exports r 0 between
  · rw [Import.length_find, Export.length_find, Export.countP_find]
    rfl

end RequireForm
