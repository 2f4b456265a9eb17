import RequireForm.Proofs.Transform.LeadingWords
import RequireForm.Proofs.Transform.Rejected

/-!
# Fixed points — a source in require form stays as it is

    source  --imports-->  between  --exports-->  output  --both-->  output

After the first pass there is no import, and after the second one no export either. What was
rejected at a line start is rejected again, whatever new text has come to stand behind it.

  1. `AtLineStarts.find_eq_nil`: nothing is found where nothing is read.
  2. `Changed.atLineStarts`: what is read at the line starts behind a pass.
  3. `imports_settled`, `exports_settled`: neither statement is read any more.
  4. `transform_settles`: both passes.
-/

namespace RequireForm

open Text

variable {α : Type} {read : Text → Option (α × Text)} {K K' : Text → Prop}
  {N : Text → Text → Prop} {q : Char → Bool} {b b' : Bool} {s t u v new rest : Text}
  {es : List (Piece Text)} {r : PathRule}

/-! ## Sources without statements -/

theorem AtLineStarts.cut_eq (h : AtLineStarts (read · = none) b t) :
    Piece.cut read b 0 t = t.map .kept := by
  induction t generalizing b with
  | nil => rfl
  | cons c t ih =>
      rw [Piece.cut_kept_char h.1, ih h.2]
      rfl

theorem AtLineStarts.suffix (h : AtLineStarts K b (u ++ v)) : AtLineStarts K (endsLine b u) v := by
  induction u generalizing b with
  | nil => exact h
  | cons c u ih => exact ih h.2

theorem locateFrom_kept (offset line : Nat) (t : Text) :
    Piece.locateFrom offset line (t.map (@Piece.kept α)) = [] := by
  induction t generalizing offset line with
  | nil => rfl
  | cons c t ih => exact ih _ _

/-- Where no statement is read at a line start, none is found. -/
theorem AtLineStarts.locate_eq_nil (h : AtLineStarts (read · = none) true t) :
    Piece.locate (Piece.ofSource read t) = [] := by
  rw [Piece.ofSource, h.cut_eq]
  exact locateFrom_kept 0 1 t

/-- A text without statements is left as it is. -/
theorem transform_of_atLineStarts (o : Options)
    (himports : AtLineStarts (Import.read? · = none) true t)
    (hexports : AtLineStarts (Export.read? · = none) true t) :
    transform o t = ⟨t, ⟨0, 0, 0⟩⟩ := by
  have hi : Import.pieces t = t.map .kept := himports.cut_eq
  have he : Export.pieces t = t.map .kept := hexports.cut_eq
  show Transformed.mk (exportPass _ 0 (Export.pieces (importPass _ (Import.pieces t))))
    (.ofPieces (Import.pieces t) (Export.pieces (importPass _ (Import.pieces t)))) = _
  rw [hi, importPass_kept, he, exportPass_kept, Report.ofPieces, Piece.statements_kept,
    Piece.statements_kept]
  rfl

/-! ## Behind a pass -/

/-- From a place of a source on, all is kept, or a statement that starts a line gives way to a new
    text. -/
theorem Changed.ahead (h : Changed K N b s es) :
    Piece.result es = s ∨ ∃ v t new u, s = v ++ t ∧ Piece.result es = v ++ (new ++ u) ∧
      endsLine b v = true ∧ N t new := by
  induction h with
  | done => exact Or.inl rfl
  | @kept b c rest es _ _ ih =>
      rcases ih with hkept | ⟨v, t, new, u, rfl, hresult, hv, hnew⟩
      · exact Or.inl (congrArg (c :: ·) hkept)
      · exact Or.inr ⟨c :: v, t, new, u, rfl, congrArg (c :: ·) hresult, hv, hnew⟩
  | @statement w rest new es hnew _ _ => exact Or.inr ⟨[], _, new, _, rfl, rfl, rfl, hnew⟩

theorem Changed.and (h : Changed K N b s es) (hK : AtLineStarts K' b s) :
    Changed (fun t => K t ∧ K' t) N b s es := by
  induction h with
  | done => exact .done
  | kept hno _ ih => exact .kept (fun hb => ⟨hno hb, hK.1 hb⟩) (ih hK.2)
  | statement hnew _ ih => exact .statement hnew (ih hK.suffix)

/-- What holds at the line starts behind a pass: it holds of new texts, of what is kept, and of what
    is kept up to a new text. -/
theorem Changed.atLineStarts (h : Changed K N b s es) (b' : Bool) (hb : b' = true → b = true)
    (hN : ∀ t new, N t new → NewText q new) (hfenced : ∀ t, Fenced q t → K' t)
    (hkept : ∀ t, K t → K' t)
    (hstep : ∀ v t new u, EndsFeed v → N t new → K (v ++ t) → K' (v ++ (new ++ u))) :
    AtLineStarts K' b' (Piece.result es) := by
  induction h generalizing b' with
  | done => trivial
  | @kept b c rest es hK hrest ih =>
      refine ⟨fun hb' => ?_, ih _ id⟩
      rcases hrest.ahead with hall | ⟨v, t, new, u, rfl, hresult, hv, hnew⟩
      · rw [hall]
        exact hkept _ (hK (hb hb'))
      · rw [hresult]
        have hfeed : EndsFeed (c :: v) := by
          rcases endsLine_true_iff.mp (show endsLine true (c :: v) = true from hv) with hnil | hfeed
          · exact absurd hnil (List.cons_ne_nil c v)
          · exact hfeed
        exact hstep (c :: v) t new u hfeed hnew (hK (hb hb'))
  | @statement w rest new es hnew _ ih =>
      obtain ⟨starts, hstarts, hall⟩ := (hN _ _ hnew).exists_lineStarts b' [] (Piece.result es)
      refine (atLineStarts_iff []).mpr ?_
      rw [Piece.result, hstarts]
      refine List.forall_mem_append.mpr ⟨fun start hstart => hfenced _ (hall start hstart), ?_⟩
      exact (atLineStarts_iff _).mp (ih false fun h => absurd h Bool.false_ne_true)

/-! ## Imports -/

/-- A fenced text without quotes in front of the fence. -/
theorem Fenced.unquoted (h : Fenced isListChar t) : Fenced (!PathLiteral.isQuote ·) t := by
  obtain ⟨m, k, c, x, rfl, hm, hk, hrest⟩ := h
  exact ⟨m, k, c, x, rfl, hm, unquoted_of_isListChar hk, hrest⟩

theorem Import.read?_eq_none_of_fenced (h : Fenced q t) : read? t = none :=
  read?_eq_none_of_word? (h.word?_eq_none (by decide) (by decide))

theorem Export.read?_eq_none_of_fenced (h : Fenced q t) : read? t = none :=
  read?_eq_none_of_word? (h.word?_eq_none (by decide) (by decide))

/-- An import that is rejected in front of a statement is rejected in front of a new text. -/
theorem Import.read?_eq_none_of_rejected (hv : EndsFeed v)
    (hnew : Fenced (!PathLiteral.isQuote ·) new) (h : read? (v ++ t) = none) :
    read? (v ++ new) = none := by
  cases hread : read? (v ++ new) with
  | none => rfl
  | some found =>
      obtain ⟨a, ha⟩ := read?_of_fenced hv hnew hread
      rw [ha t] at h
      exact nomatch h

/-- Behind the first pass no import is read. -/
theorem imports_settled (hlines : ∀ i ∈ Import.find s, '\n' ∉ r.apply i.what.path.value) :
    AtLineStarts (Import.read? · = none) true (afterImports r s) := by
  have hchanged := changed_imports (Piece.cuts_cut Import.consumes_read?) hlines
  have hsettled : AtLineStarts (Import.read? · = none) true _ :=
    hchanged.atLineStarts true id (fun _ _ h => h)
      (fun _ => Import.read?_eq_none_of_fenced) (fun _ h => h)
      fun v t new u hv hnew h => Import.read?_eq_none_of_rejected hv (hnew.fenced.append u) h
  rw [result_importChanges] at hsettled
  exact hsettled

/-! ## Lines of the word `export` alone -/

/-- The word `export` with nothing but spaces, tabs and carriage returns behind it. -/
def isBareExport (line : Text) : Bool :=
  match after? "export".toList line with
  | some rest => rest.all fun c => c = ' ' || c = '\t' || c = '\r'
  | none => false

theorem isBareExport_iff {line : Text} :
    isBareExport line = true ↔
      ∃ w, line = "export".toList ++ w ∧ ∀ c ∈ w, c = ' ' ∨ c = '\t' ∨ c = '\r' := by
  unfold isBareExport
  constructor
  · intro h
    split at h
    · next w hw =>
        refine ⟨w, after?_eq_some_iff.mp hw, fun c hc => ?_⟩
        simpa [or_assoc] using List.all_eq_true.mp h c hc
    · exact nomatch h
  · rintro ⟨w, rfl, hw⟩
    rw [after?_append]
    refine List.all_eq_true.mpr fun c hc => ?_
    simpa [or_assoc] using hw c hc

/-- Such a line is one with a leading word. -/
theorem leads_of_isBareExport {line : Text} (h : isBareExport line = true) : leads line = true := by
  obtain ⟨w, rfl, hw⟩ := isBareExport_iff.mp h
  have hends : nameEnds w = true := by
    cases w with
    | nil => rfl
    | cons c w => rcases hw c List.mem_cons_self with rfl | rfl | rfl <;> rfl
  rw [leads, word?_append (w := "export".toList) hends]
  exact Bool.or_true _

theorem isBareExport_of_spaces {gap : Text} (hgap : Spaces gap) (hfeed : EndsFeed gap) (t : Text) :
    isBareExport (firstLine ("export".toList ++ gap ++ t)) = true := by
  obtain ⟨u, rfl⟩ := hfeed
  have hline : firstLine ("export".toList ++ (u ++ ['\n']) ++ t)
      = "export".toList ++ firstLine u := by
    rw [← List.append_assoc, List.append_assoc, List.singleton_append, firstLine_append_feed]
    exact List.takeWhile_append_of_pos (List.all_eq_true.mp rfl)
  refine isBareExport_iff.mpr ⟨firstLine u, hline, fun c hc => ?_⟩
  have hspace := (run_append.mp hgap).1 c (List.takeWhile_subset _ hc)
  have hne : c ≠ '\n' := by simpa using List.mem_takeWhile_imp hc
  simp only [isSpace, Bool.or_eq_true, decide_eq_true_eq] at hspace
  rcases hspace with ((h | h) | h) | h
  · exact Or.inl h
  · exact Or.inr (Or.inl h)
  · exact Or.inr (Or.inr h)
  · exact absurd h hne

/-- The first pass makes no such line. -/
theorem bareExport_afterImports
    (hlines : ∀ i ∈ Import.find s, '\n' ∉ r.apply i.what.path.value)
    (hbare : ∀ line ∈ cutAt (· = '\n') s, isBareExport line = false) :
    AtLineStarts (fun t => isBareExport (firstLine t) = false) true (afterImports r s) := by
  refine (atLineStarts_iff []).mpr fun start hstart => ?_
  cases h : isBareExport (firstLine start.2) with
  | false => rfl
  | true =>
      have hleads : leads start.2 = true := (leads_firstLine _).symm.trans (leads_of_isBareExport h)
      have hmem : start ∈ leadingStarts (afterImports r s) := by
        rw [leadingStarts_eq]
        exact List.mem_filter.mpr ⟨hstart, hleads⟩
      obtain ⟨old, hold, hline, -⟩ :=
        exists_of_mem_sublistForall₂ (leadingStarts_afterImports hlines) hmem
      have hmem' : firstLine old.2 ∈ leadingLines s := by
        rw [leadingLines_eq]
        exact List.mem_map_of_mem hold
      rw [hline, hbare _ (List.mem_filter.mp hmem').1] at h
      exact nomatch h

/-! ## Exports -/

/-- An export that is rejected in front of another one is rejected in front of its new text. -/
theorem Export.read?_eq_none_of_rejected (hv : EndsFeed v) (hnew : Fenced isListChar new)
    (hword : (word? "export".toList t).isSome) (hbare : isBareExport (firstLine (v ++ t)) = false)
    (h : read? (v ++ t) = none) : read? (v ++ new) = none := by
  cases hread : read? (v ++ new) with
  | none => rfl
  | some found =>
      obtain ⟨e, rest⟩ := found
      obtain ⟨u, hu⟩ := Option.isSome_iff_exists.mp hword
      obtain ⟨rfl, hends⟩ := word?_eq_some_iff.mp hu
      rcases (read?_eq_some_iff.mp hread).renamed hv hnew hends with
        ⟨gap, hfeed, hgap, rfl⟩ | ⟨e', rest', hd⟩
      · rw [isBareExport_of_spaces hgap hfeed] at hbare
        exact nomatch hbare
      · rw [read?_eq_some_iff.mpr hd] at h
        exact nomatch h

section

variable (hlines : ∀ e ∈ Export.find s, ∀ p ∈ e.what.path?, '\n' ∉ r.apply p.value)
  (htexts : ∀ edit ∈ exportEdits r 0 (Export.find s), edit.2 ≠ [])

include hlines htexts

/-- The second pass brings no import back. -/
theorem imports_settled_exports (himports : AtLineStarts (Import.read? · = none) true s) :
    AtLineStarts (Import.read? · = none) true (exportPass r 0 (Export.pieces s)) := by
  have hchanged :=
    (changed_exports (Piece.cuts_cut Export.consumes_read?) hlines htexts).and himports
  have hsettled : AtLineStarts (Import.read? · = none) true _ :=
    hchanged.atLineStarts true id (fun _ _ h => h.2)
      (fun _ => Import.read?_eq_none_of_fenced) (fun _ h => h.2)
      fun v t new u hv hnew h =>
        Import.read?_eq_none_of_rejected hv (hnew.2.fenced.append u).unquoted h.2
  rw [result_exportChanges] at hsettled
  exact hsettled

/-- Behind the second pass no export is read. -/
theorem exports_settled
    (hbare : AtLineStarts (fun t => isBareExport (firstLine t) = false) true s) :
    AtLineStarts (Export.read? · = none) true (exportPass r 0 (Export.pieces s)) := by
  have hchanged := (changed_exports (Piece.cuts_cut Export.consumes_read?) hlines htexts).and hbare
  have hsettled : AtLineStarts (Export.read? · = none) true _ :=
    hchanged.atLineStarts true id (fun _ _ h => h.2)
      (fun _ => Export.read?_eq_none_of_fenced) (fun _ h => h.1)
      fun v t new u hv hnew h =>
        Export.read?_eq_none_of_rejected hv (hnew.2.fenced.append u) hnew.1 h.2 h.1
  rw [result_exportChanges] at hsettled
  exact hsettled

end

/-! ## Both passes -/

/-- If no path is changed to several lines, no import is left behind the first pass. If each export
    leaves something too, and no line of the source is the word `export` alone, no statement is left
    at all, and a second transform changes nothing, whatever its options. -/
theorem transform_settles (o : Options) (source : Text)
    (hlines : KeepsLines (.ofOptions o) source) :
    let r := PathRule.ofOptions o
    let between := afterImports r source
    let output := (transform o source).output
    Import.find between = [] ∧
      ((∀ edit ∈ exportEdits r 0 (Export.find between), edit.2 ≠ []) →
        (∀ line ∈ cutAt (· = '\n') source, isBareExport line = false) →
          Import.find output = [] ∧ Export.find output = [] ∧
            ∀ o', transform o' output = ⟨output, ⟨0, 0, 0⟩⟩) := by
  intro r between output
  have hbetween : AtLineStarts (Import.read? · = none) true between :=
    imports_settled hlines.imports
  refine ⟨hbetween.locate_eq_nil, fun htexts hbare => ?_⟩
  have himports : AtLineStarts (Import.read? · = none) true output :=
    imports_settled_exports hlines.exports htexts hbetween
  have hexports : AtLineStarts (Export.read? · = none) true output :=
    exports_settled hlines.exports htexts (bareExport_afterImports hlines.imports hbare)
  exact ⟨himports.locate_eq_nil, hexports.locate_eq_nil,
    fun o' => transform_of_atLineStarts o' himports hexports⟩

/-- What is rejected in front of an import and in front of a star stays, and is rejected again. -/
theorem transform_settles_mixed :
    let source :=
      "import\nimport a from 'a'\nexport async\nexport * from 'c'\nexport \x7b a \x7d".toList
    let output := (transform {} source).output
    (KeepsLines (.ofOptions {}) source ∧
        (∀ edit ∈ exportEdits (.ofOptions {}) 0 (Export.find (afterImports (.ofOptions {}) source)),
          edit.2 ≠ []) ∧
        ∀ line ∈ cutAt (· = '\n') source, isBareExport line = false) ∧
      (Import.find (afterImports (.ofOptions {}) source) = [] ∧
        ∀ o', transform o' output = ⟨output, ⟨0, 0, 0⟩⟩) ∧
      (transform {} source).report = ⟨1, 2, 1⟩ := by
  intro source output
  have hlines : KeepsLines (.ofOptions {}) source := by decide +kernel
  have htexts : ∀ edit ∈ exportEdits (.ofOptions {}) 0
      (Export.find (afterImports (.ofOptions {}) source)), edit.2 ≠ [] := by decide +kernel
  have hbare : ∀ line ∈ cutAt (· = '\n') source, isBareExport line = false := by decide +kernel
  have hsettles := transform_settles {} source hlines
  exact ⟨⟨hlines, htexts, hbare⟩, ⟨hsettles.1, (hsettles.2 htexts hbare).2.2⟩, by decide +kernel⟩

end RequireForm
