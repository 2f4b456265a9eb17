import Mathlib.Data.List.Forall2
import RequireForm.Proofs.Transform.NewText

/-!
# Leading words — no pass puts a word of a statement at a line start

    source    import a ..  |  import b ..  |  export c ..  |  export d ..
    output                    import b ..                     export d ..

A new text starts its lines with other words, and what follows a statement on its last line is
not moved to a line start. So a line of the output that starts with `import` or `export` is a
line of the source, and it starts where no statement was found.

  1. `leads`, `leadingStarts`, `leadingLines`: the line starts and lines with one of the words.
  2. `carry?`: where a splice puts a byte of the source.
  3. `Changed.leadingStarts`: one pass, character by character.
  4. `leading_words_stay`: both passes.
-/

namespace RequireForm

open Text

variable {α : Type} {K : Text → Prop} {N : Text → Text → Prop} {q : Char → Bool} {b b' : Bool}
  {s t w rest : Text} {es : List (Piece Text)} {r : PathRule}

/-! ## Lines that start with a word -/

/-- A text starts with the whole word `import` or `export`. -/
def leads (t : Text) : Bool :=
  (word? "import".toList t).isSome || (word? "export".toList t).isSome

/-- The line starts of a text where one of the words stands. -/
def leadingStarts (t : Text) : List (Text × Text) := (lineStarts t).filter (leads ·.2)

/-- The lines of a text that start with one of the words. -/
def leadingLines (t : Text) : List Text := (cutAt (· = '\n') t).filter leads

theorem exists_firstLine (t : Text) : ∃ rest, t = firstLine t ++ rest ∧ Piece.LineEnd rest := by
  refine ⟨t.dropWhile (· ≠ '\n'), List.takeWhile_append_dropWhile.symm, ?_⟩
  have hstop := stops_dropWhile (· ≠ '\n') t
  cases hrest : t.dropWhile (· ≠ '\n') with
  | nil => exact Or.inl rfl
  | cons c rest =>
      rw [hrest] at hstop
      obtain rfl : c = '\n' := by simpa using stops_cons.mp hstop
      exact Or.inr ⟨rest, rfl⟩

theorem isSome_word?_line (hw : '\n' ∉ w) (hrest : Piece.LineEnd rest) :
    (word? w (t ++ rest)).isSome = (word? w t).isSome := by
  cases h : word? w t with
  | none => rw [word?_line hw h hrest]
  | some u =>
      obtain ⟨rfl, hends⟩ := word?_eq_some_iff.mp h
      have hends' : nameEnds (u ++ rest) = true := by
        cases u with
        | nil =>
            rcases hrest with rfl | ⟨v, rfl⟩
            · rfl
            · rfl
        | cons c u => exact hends
      rw [List.append_assoc, word?_append hends']
      rfl

/-- Whether a word starts a line is seen on the line. -/
theorem leads_firstLine (t : Text) : leads (firstLine t) = leads t := by
  obtain ⟨rest, ht, hrest⟩ := exists_firstLine t
  have hword {w : Text} (hw : '\n' ∉ w) : (word? w t).isSome = (word? w (firstLine t)).isSome := by
    conv => lhs; rw [ht]
    exact isSome_word?_line hw hrest
  rw [leads, leads, hword (by decide), hword (by decide)]

theorem leads_eq_of_firstLine {u : Text} (h : firstLine t = firstLine u) : leads t = leads u := by
  rw [← leads_firstLine t, h, leads_firstLine]

theorem leads_of_fenced (h : Fenced q t) : leads t = false := by
  rw [leads, h.word?_eq_none (by decide) (by decide), h.word?_eq_none (by decide) (by decide)]
  rfl

theorem leadingStarts_eq (t : Text) :
    leadingStarts t = (lineStartsFrom true [] t).filter (leads ·.2) := by
  cases t with
  | nil => rfl
  | cons c t => rfl

/-- The lines of a text are the first lines at its line starts, but for an empty one at its end. -/
theorem exists_cutAt_lineStarts (t : Text) :
    ∃ ls, cutAt (· = '\n') t = firstLine t :: ls ∧ ∀ (b : Bool) (before : Text),
      ((lineStartsFrom b before t).map (firstLine ·.2)).filter leads
        = ((if b then [firstLine t] else []) ++ ls).filter leads := by
  induction t with
  | nil => exact ⟨[], rfl, fun b _ => by cases b <;> rfl⟩
  | cons c t ih =>
      obtain ⟨ls, hcut, hls⟩ := ih
      have hfront (b : Bool) (before : Text) :
          ((if b then [(before, c :: t)] else []).map (firstLine ·.2)).filter leads
            = (if b then [firstLine (c :: t)] else []).filter leads := by
        cases b <;> rfl
      by_cases hc : c = '\n'
      · refine ⟨firstLine t :: ls, ?_, fun b before => ?_⟩
        · rw [cutAt, if_pos (decide_eq_true hc), hcut, hc]
          rfl
        · rw [lineStartsFrom, List.map_append, List.filter_append, List.filter_append, hfront, hls,
            decide_eq_true hc]
          rfl
      · refine ⟨ls, ?_, fun b before => ?_⟩
        · rw [cutAt_cons_of_not (decide_eq_false hc) hcut, firstLine_cons hc]
        · rw [lineStartsFrom, List.map_append, List.filter_append, List.filter_append, hfront, hls,
            decide_eq_false hc]
          rfl

theorem leadingLines_eq (t : Text) : leadingLines t = (leadingStarts t).map (firstLine ·.2) := by
  obtain ⟨ls, hcut, hls⟩ := exists_cutAt_lineStarts t
  have hleads : (fun start : Text × Text => leads start.2)
      = leads ∘ fun start => firstLine start.2 :=
    funext fun start => (leads_firstLine start.2).symm
  rw [leadingLines, hcut, leadingStarts_eq, hleads, ← List.filter_map]
  exact (hls true []).symm

/-! ## Where bytes come to lie -/

/-- Where a splice puts a byte of the source that stands behind the byte `last`, up to which `done`
    bytes have come out. -/
def carryFrom (last done : Nat) : List (Span × Text) → Nat → Option Nat
  | [], n => some (done + (n - last))
  | (span, new) :: edits, n =>
      if n < span.start then some (done + (n - last))
      else if n < span.stop then none
      else carryFrom span.stop (done + (span.start - last) + new.byteLength) edits n

/-- Where a splice puts a byte of the source; nowhere if one of the spans covers it. -/
def carry? (edits : List (Span × Text)) (n : Nat) : Option Nat := carryFrom 0 0 edits n

/-- A kept character comes to lie behind what the pieces in front of it give. -/
theorem carryFrom_locateFrom (es₁ es₂ : List (Piece Text)) (c : Char) {last offset : Nat}
    (done line : Nat) (h : last ≤ offset) :
    carryFrom last done (Piece.edits (Piece.locateFrom offset line (es₁ ++ .kept c :: es₂)))
        (offset + (Piece.textOf es₁).byteLength)
      = some (done + (offset - last) + (Piece.result es₁).byteLength) := by
  induction es₁ generalizing last done offset line with
  | nil =>
      -- what is found behind the character starts behind it
      have hpos := c.utf8Size_pos
      simp only [List.nil_append, Piece.locateFrom, Piece.textOf_nil, byteLength_nil, Nat.add_zero,
        Piece.result]
      cases hfound :
          Piece.locateFrom (offset + c.utf8Size) (line + if c = '\n' then 1 else 0) es₂ with
      | nil => rfl
      | cons f found =>
          have hstart : offset + c.utf8Size ≤ f.span.start :=
            Piece.le_of_mem_locateFrom (hfound ▸ List.mem_cons_self)
          rw [Piece.edits, List.map_cons, carryFrom, if_pos (by omega)]
  | cons piece es₁ ih =>
      cases piece with
      | kept d =>
          have hrest := ih done (line + if d = '\n' then 1 else 0)
            (Nat.le_trans h (Nat.le_add_right offset d.utf8Size))
          simp only [List.cons_append, Piece.locateFrom, Piece.textOf_kept, byteLength_cons,
            Piece.result] at hrest ⊢
          rw [← Nat.add_assoc, hrest]
          congr 1
          omega
      | statement w new =>
          have hrest := ih (done + (offset - last) + new.byteLength)
            (line + w.lineBreaks) (Nat.le_refl (offset + w.byteLength))
          simp only [List.cons_append, Piece.locateFrom, Piece.textOf_statement, byteLength_append,
            Piece.result, Piece.edits, List.map_cons, carryFrom] at hrest ⊢
          rw [if_neg (by omega), if_neg (by omega), ← Nat.add_assoc, hrest]
          congr 1
          omega

/-- A line start of a source and one of what comes out of its pieces: both stand in front of the
    same character, which is kept, and the lines are the same. -/
def Stays (es : List (Piece Text)) (new old : Text × Text) : Prop :=
  firstLine new.2 = firstLine old.2 ∧ ∃ es₁ c es₂, es = es₁ ++ .kept c :: es₂ ∧
    new.1 = Piece.result es₁ ∧ old.1 = Piece.textOf es₁

theorem Stays.carry {new old : Text × Text} (h : Stays es new old) :
    ¬ Located.Covers (Piece.locate es) old.1.byteLength ∧
      carry? (Piece.edits (Piece.locate es)) old.1.byteLength = some new.1.byteLength := by
  obtain ⟨-, es₁, c, es₂, rfl, hnew, hold⟩ := h
  rw [hnew, hold]
  refine ⟨Piece.not_covers_kept, ?_⟩
  have hcarry := carryFrom_locateFrom es₁ es₂ c 0 1 (Nat.le_refl 0)
  simp only [Nat.zero_add, Nat.sub_zero] at hcarry
  exact hcarry

/-! ## One pass -/

theorem sublistForall₂_append {β : Type} {R : α → β → Prop} {l₁ : List α} {l₂ : List β}
    (h : List.SublistForall₂ R l₁ l₂) (l : List β) : List.SublistForall₂ R l₁ (l ++ l₂) := by
  obtain ⟨k, hk, hsub⟩ := List.sublistForall₂_iff.mp h
  exact List.sublistForall₂_iff.mpr ⟨k, hk, hsub.trans (List.sublist_append_right l l₂)⟩

theorem sublistForall₂_trans {β γ : Type} {R : α → β → Prop} {S : β → γ → Prop}
    {T : α → γ → Prop} {l₁ : List α} {l₂ : List β} {l₃ : List γ}
    (hT : ∀ x y z, R x y → S y z → T x z) (h : List.SublistForall₂ R l₁ l₂)
    (h' : List.SublistForall₂ S l₂ l₃) : List.SublistForall₂ T l₁ l₃ := by
  induction h' generalizing l₁ with
  | nil =>
      cases h with
      | nil => exact .nil
  | cons hS _ ih =>
      cases h with
      | nil => exact .nil
      | cons hR h => exact .cons (hT _ _ _ hR hS) (ih h)
      | cons_right h => exact .cons_right (ih h)
  | cons_right _ ih => exact .cons_right (ih h)

theorem exists_of_mem_sublistForall₂ {β : Type} {R : α → β → Prop} {l₁ : List α} {l₂ : List β}
    {x : α} (h : List.SublistForall₂ R l₁ l₂) (hx : x ∈ l₁) : ∃ y ∈ l₂, R x y := by
  induction h with
  | nil => exact nomatch hx
  | cons hR _ ih =>
      rcases List.mem_cons.mp hx with rfl | hx
      · exact ⟨_, List.mem_cons_self, hR⟩
      · obtain ⟨y, hy, hRy⟩ := ih hx
        exact ⟨y, List.mem_cons_of_mem _ hy, hRy⟩
  | cons_right _ ih =>
      obtain ⟨y, hy, hRy⟩ := ih hx
      exact ⟨y, List.mem_cons_of_mem _ hy, hRy⟩

theorem sublist_map_of_sublistForall₂ {β γ : Type} {R : α → β → Prop} {f : α → γ} {g : β → γ}
    {l₁ : List α} {l₂ : List β} (hfg : ∀ x y, R x y → f x = g y)
    (h : List.SublistForall₂ R l₁ l₂) : (l₁.map f).Sublist (l₂.map g) := by
  obtain ⟨k, hk, hsub⟩ := List.sublistForall₂_iff.mp h
  have hmap : List.Forall₂ (· = ·) (l₁.map f) (k.map g) :=
    List.forall₂_map_left_iff.mpr (List.forall₂_map_right_iff.mpr (hk.imp hfg))
  rw [List.forall₂_eq_eq_eq] at hmap
  rw [hmap]
  exact hsub.map g

/-- In the middle of a line, the rest of the line is kept. -/
theorem Changed.firstLine_result (h : Changed K N false s es) :
    firstLine (Piece.result es) = firstLine s := by
  generalize hb : false = b at h
  induction h with
  | done => rfl
  | @kept b c rest es _ _ ih =>
      by_cases hc : c = '\n'
      · subst hc
        rfl
      · rw [Piece.result, firstLine_cons hc, firstLine_cons hc, ih (decide_eq_false hc).symm]
  | statement _ _ _ => exact absurd hb Bool.false_ne_true

/-- The leading words that come out of a pass have stayed where they were. -/
theorem Changed.leadingStarts {es₀ es : List (Piece Text)} (h : Changed K N b s es)
    (hN : ∀ t new, N t new → NewText q new) (b' : Bool) (hb : b' = true → b = true)
    (done : List (Piece Text)) (hes : es₀ = done ++ es) :
    List.SublistForall₂ (Stays es₀)
      ((lineStartsFrom b' (Piece.result done) (Piece.result es)).filter (leads ·.2))
      ((lineStartsFrom b (Piece.textOf done) s).filter (leads ·.2)) := by
  induction h generalizing b' done with
  | done => exact .nil
  | @kept b c rest es _ hrest ih =>
      have htail := ih (c = '\n') id (done ++ [.kept c])
        (by rw [hes, List.append_assoc]; rfl)
      rw [Piece.result_append, Piece.textOf_append] at htail
      have hline : firstLine (c :: Piece.result es) = firstLine (c :: rest) := by
        by_cases hc : c = '\n'
        · subst hc
          rfl
        · rw [firstLine_cons hc, firstLine_cons hc]
          rw [decide_eq_false hc] at hrest
          rw [hrest.firstLine_result]
      rw [Piece.result, lineStartsFrom, lineStartsFrom, List.filter_append, List.filter_append]
      cases b' with
      | false => exact sublistForall₂_append htail _
      | true =>
          rw [hb rfl]
          have hleads := leads_eq_of_firstLine hline
          cases hword : leads (c :: rest) with
          | false =>
              rw [hword] at hleads
              simp only [if_true, List.filter_singleton, hleads, hword]
              exact htail
          | true =>
              rw [hword] at hleads
              simp only [if_true, List.filter_singleton, hleads, hword]
              exact .cons ⟨hline, done, c, es, hes, rfl, rfl⟩ htail
  | @statement w rest new es hnew _ ih =>
      have htail := ih false (fun h => absurd h Bool.false_ne_true)
        (done ++ [.statement w new]) (by rw [hes, List.append_assoc]; rfl)
      rw [Piece.result_append, Piece.textOf_append] at htail
      obtain ⟨starts, hstarts, hfenced⟩ :=
        (hN _ _ hnew).exists_lineStarts b' (Piece.result done) (Piece.result es)
      obtain ⟨covered, hcovered⟩ := exists_lineStartsFrom_append true (Piece.textOf done) w rest
      have hnone : starts.filter (leads ·.2) = [] := by
        rw [List.filter_eq_nil_iff]
        intro start hstart
        rw [leads_of_fenced (hfenced start hstart)]
        exact Bool.false_ne_true
      have hresult : Piece.result [.statement w new] = new := List.append_nil new
      have htext : Piece.textOf [.statement w new] = w := List.append_nil w
      rw [hresult, htext] at htail
      rw [Piece.result, hstarts, hcovered, List.filter_append, List.filter_append, hnone,
        List.nil_append]
      -- behind a statement a line may start that its new text has moved to the end of another
      exact sublistForall₂_append htail _

/-- The leading words of what comes out of a pass, and of its source. -/
theorem Changed.sublist_leadingStarts (h : Changed K N true s es)
    (hN : ∀ t new, N t new → NewText q new) :
    List.SublistForall₂ (Stays es) (RequireForm.leadingStarts (Piece.result es))
      (RequireForm.leadingStarts s) := by
  rw [leadingStarts_eq, leadingStarts_eq]
  exact h.leadingStarts hN true id [] rfl

/-! ## Both passes -/

theorem covers_congr {β : Type} {found : List (Located α)} {found' : List (Located β)}
    (h : found.map (·.span) = found'.map (·.span)) (n : Nat) :
    Located.Covers found n ↔ Located.Covers found' n := by
  have hspans {γ : Type} (found : List (Located γ)) :
      Located.Covers found n ↔ ∃ span ∈ found.map (·.span), span.start ≤ n ∧ n < span.stop := by
    simp [Located.Covers]
  rw [hspans, hspans, h]

theorem fst_exportEdits (n : Nat) (found : List (Located Export)) :
    (exportEdits r n found).map (·.1) = found.map (·.span) := by
  induction found generalizing n with
  | nil => rfl
  | cons e found ih => exact congrArg (e.span :: ·) (ih _)

theorem fst_edits (found : List (Located Text)) :
    (Piece.edits found).map (·.1) = found.map (·.span) := by
  rw [Piece.edits, List.map_map]
  rfl

/-- A line start of a source that both passes keep, and where it comes to lie in the output. In the
    source, no import that is found covers it; between the passes, no export that is found covers
    the place where it lies then. The line that starts there stays the same. -/
def StaysThrough (r : PathRule) (source : Text) (new old : Text × Text) : Prop :=
  firstLine new.2 = firstLine old.2 ∧
    ∃ m, (¬ Located.Covers (Import.find source) old.1.byteLength ∧
        carry? (importEdits r (Import.find source)) old.1.byteLength = some m) ∧
      ¬ Located.Covers (Export.find (afterImports r source)) m ∧
        carry? (exportEdits r 0 (Export.find (afterImports r source))) m
          = some new.1.byteLength

/-- The first pass keeps the leading words that are left. -/
theorem leadingStarts_afterImports
    (hlines : ∀ i ∈ Import.find s, '\n' ∉ r.apply i.what.path.value) :
    List.SublistForall₂ (Stays (importChanges r (Import.pieces s)))
      (leadingStarts (afterImports r s)) (leadingStarts s) := by
  have hchanged := changed_imports (Piece.cuts_cut Import.consumes_read?) hlines
  have hstays := hchanged.sublist_leadingStarts fun _ _ hnew => hnew
  rw [result_importChanges] at hstays
  exact hstays

/-- So does the second one. -/
theorem leadingStarts_exports
    (hlines : ∀ e ∈ Export.find s, ∀ p ∈ e.what.path?, '\n' ∉ r.apply p.value)
    (htexts : ∀ edit ∈ exportEdits r 0 (Export.find s), edit.2 ≠ []) :
    List.SublistForall₂ (Stays (exportChanges r 0 (Export.pieces s)))
      (leadingStarts (exportPass r 0 (Export.pieces s))) (leadingStarts s) := by
  have hchanged := changed_exports (Piece.cuts_cut Export.consumes_read?) hlines htexts
  have hstays := hchanged.sublist_leadingStarts fun _ _ hnew => hnew.2
  rw [result_exportChanges] at hstays
  exact hstays

theorem Stays.trans {new between old : Text × Text}
    (hnew : Stays (exportChanges r 0 (Export.pieces (afterImports r s))) new between)
    (hold : Stays (importChanges r (Import.pieces s)) between old) :
    StaysThrough r s new old := by
  obtain ⟨hcover, hcarry⟩ := hold.carry
  obtain ⟨hcover', hcarry'⟩ := hnew.carry
  have hedits : Piece.edits (Piece.locate (importChanges r (Import.pieces s)))
      = importEdits r (Import.find s) := edits_importChanges _
  have hedits' : Piece.edits (Piece.locate (exportChanges r 0 (Export.pieces (afterImports r s))))
      = exportEdits r 0 (Export.find (afterImports r s)) := edits_exportChanges _
  have hspans := fst_edits (Piece.locate (importChanges r (Import.pieces s)))
  have hspans' := fst_edits (Piece.locate (exportChanges r 0 (Export.pieces (afterImports r s))))
  rw [hedits, importEdits, List.map_map] at hspans
  rw [hedits', fst_exportEdits] at hspans'
  rw [hedits] at hcarry
  rw [hedits'] at hcarry'
  exact ⟨hnew.1.trans hold.1, between.1.byteLength,
    ⟨mt (covers_congr hspans _).mp hcover, hcarry⟩, mt (covers_congr hspans' _).mp hcover', hcarry'⟩

/-- If no path is changed to several lines and each export leaves something, the lines of the
    output that start with `import` or `export` are lines of the source, in order, and start where
    no statement is found. If statements are found at all such line starts, no line of the output
    starts with either word. -/
theorem leading_words_stay (o : Options) (source : Text)
    (hlines : KeepsLines (.ofOptions o) source)
    (htexts : ∀ edit ∈ exportEdits (.ofOptions o) 0
      (Export.find (afterImports (.ofOptions o) source)), edit.2 ≠ []) :
    let r := PathRule.ofOptions o
    let output := (transform o source).output
    List.SublistForall₂ (StaysThrough r source) (leadingStarts output) (leadingStarts source) ∧
      (leadingLines output).Sublist (leadingLines source) ∧
      ((∀ start ∈ leadingStarts source,
          Located.Covers (Import.find source) start.1.byteLength ∨
            ∃ m, carry? (importEdits r (Import.find source)) start.1.byteLength = some m ∧
              Located.Covers (Export.find (afterImports r source)) m) →
        leadingLines output = []) := by
  intro r output
  have hstays : List.SublistForall₂ (StaysThrough r source) (leadingStarts output)
      (leadingStarts source) := by
    refine sublistForall₂_trans ?_ (leadingStarts_exports hlines.exports htexts)
      (leadingStarts_afterImports hlines.imports)
    exact fun _ _ _ => Stays.trans
  refine ⟨hstays, ?_, fun hcovered => ?_⟩
  · rw [leadingLines_eq, leadingLines_eq]
    exact sublist_map_of_sublistForall₂ (fun _ _ h => h.1) hstays
  · rw [leadingLines_eq, List.map_eq_nil_iff, List.eq_nil_iff_forall_not_mem]
    intro new hnew
    obtain ⟨old, hold, -, m, ⟨himport, hcarry⟩, hexport, -⟩ :=
      exists_of_mem_sublistForall₂ hstays hnew
    rcases hcovered old hold with hcover | ⟨m', hcarry', hcover⟩
    · exact himport hcover
    · obtain rfl : m = m' := Option.some.inj (hcarry.symm.trans hcarry')
      exact hexport hcover

/-- An import and a star go; what only starts like a statement stays. -/
theorem leading_words_stay_mixed :
    let source := "import a from 'a'\nimport b\nexport * from 'c'\nexport const [d] = b".toList
    (KeepsLines (.ofOptions {}) source ∧
        ∀ edit ∈ exportEdits (.ofOptions {}) 0 (Export.find (afterImports (.ofOptions {}) source)),
          edit.2 ≠ []) ∧
      (leadingLines (transform {} source).output).Sublist (leadingLines source) ∧
      leadingLines (transform {} source).output
        = ["import b".toList, "export const [d] = b".toList] := by
  intro source
  have hlines : KeepsLines (.ofOptions {}) source := by decide +kernel
  have htexts : ∀ edit ∈ exportEdits (.ofOptions {}) 0
      (Export.find (afterImports (.ofOptions {}) source)), edit.2 ≠ [] := by decide +kernel
  exact ⟨⟨hlines, htexts⟩, (leading_words_stay {} source hlines htexts).2.1, by decide +kernel⟩

end RequireForm
