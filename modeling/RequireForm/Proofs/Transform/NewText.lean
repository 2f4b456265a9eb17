import RequireForm.Proofs.Export.Fence
import RequireForm.Proofs.Transform.Frame
import RequireForm.Proofs.Transform.Lines

/-!
# New texts — what comes to stand where a statement stood

    WORD TEXT FENCE REST
    WORD TEXT FENCE REST
    ...

A new text is one line or several. Each starts with a word that starts no statement, and before
any quote a fence comes behind the word. So no statement starts in a new text, and none that
starts in front of it reaches into it.

  1. `Fenced`, `NewText`: such lines, and such lines under each other.
  2. `Import.newText_require`, `Export.newText_require`: both passes put such texts.
  3. `Changed`: a source with its new texts; `changed_imports`, `changed_exports`.
-/

namespace RequireForm

open Text

variable {q : Char → Bool} {b : Bool} {l s t u w x before : Text} {r : PathRule} {n : Nat}

/-! ## New texts -/

/-- The words that new lines start with. -/
def newWords : List Text := ["require", "const", "module", "exports", "for"].map (·.toList)

theorem isName_of_mem_newWords {m : Text} (hm : m ∈ newWords) : Specifier.isName m = true := by
  have hall : ∀ m ∈ newWords, Specifier.isName m = true := by decide
  exact hall m hm

/-- A text starts with such a word, and characters that satisfy `q` lead from there to a fence. -/
def Fenced (q : Char → Bool) (t : Text) : Prop :=
  ∃ m k c x, t = m ++ (k ++ c :: x) ∧ m ∈ newWords ∧ Run q k ∧ Fence c ∧
    nameEnds (k ++ [c]) = true

/-- Lines under each other, each of them fenced. -/
inductive NewText (q : Char → Bool) : Text → Prop where
  | line {l : Text} : Fenced q l → '\n' ∉ l → NewText q l
  | under {l t : Text} : Fenced q l → '\n' ∉ l → NewText q t →
      NewText q (l ++ (statementSeparator ++ t))

theorem Fenced.append (h : Fenced q t) (u : Text) : Fenced q (t ++ u) := by
  obtain ⟨m, k, c, x, rfl, hm, hk, hc, hends⟩ := h
  exact ⟨m, k, c, x ++ u, by simp only [List.append_assoc, List.cons_append], hm, hk, hc, hends⟩

theorem Fenced.ne_nil (h : Fenced q t) : t ≠ [] := by
  obtain ⟨m, k, c, x, rfl, -⟩ := h
  exact List.append_ne_nil_of_right_ne_nil _
    (List.append_ne_nil_of_right_ne_nil _ (List.cons_ne_nil _ _))

/-- A fenced text starts with none but its own word. -/
theorem Fenced.word?_eq_none (h : Fenced q t) {word : Text}
    (hword : Specifier.isName word = true) (hno : word ∉ newWords) : word? word t = none := by
  obtain ⟨m, k, c, x, rfl, hm, -, -, hends⟩ := h
  have hends' : nameEnds (k ++ c :: x) = true := nameEnds_fence hends x
  cases hr : word? word (m ++ (k ++ c :: x)) with
  | none => rfl
  | some rest =>
      obtain ⟨he, hrest⟩ := word?_eq_some_iff.mp hr
      obtain ⟨rfl, -⟩ := name_append_unique (isName_of_mem_newWords hm) hends' hword hrest he
      exact absurd hm hno

namespace NewText

theorem fenced (h : NewText q t) : Fenced q t := by
  cases h with
  | line hl _ => exact hl
  | under hl _ _ => exact hl.append _

theorem join {ls : List Text} (hne : ls ≠ []) (h : ∀ l ∈ ls, Fenced q l ∧ '\n' ∉ l) :
    NewText q (Text.join statementSeparator ls) := by
  induction ls with
  | nil => exact absurd rfl hne
  | cons l ls ih =>
      obtain ⟨⟨hl, hfeed⟩, hls⟩ := List.forall_mem_cons.mp h
      cases ls with
      | nil => exact .line hl hfeed
      | cons l' ls =>
          show NewText q (l ++ statementSeparator ++ Text.join statementSeparator (l' :: ls))
          rw [List.append_assoc]
          exact .under hl hfeed (ih (List.cons_ne_nil _ _) hls)

/-- Fenced texts stand at the line starts of a new text, whatever comes behind it. -/
theorem exists_lineStarts (h : NewText q t) (b : Bool) (before u : Text) :
    ∃ starts, lineStartsFrom b before (t ++ u) = starts ++ lineStartsFrom false (before ++ t) u ∧
      ∀ start ∈ starts, Fenced q start.2 := by
  have hfront {b : Bool} {before l u : Text} (hl : Fenced q l) :
      ∀ start ∈ if b then [(before, l ++ u)] else [], Fenced q start.2 := by
    intro start hstart
    cases b with
    | false => exact nomatch hstart
    | true =>
        obtain rfl := List.mem_singleton.mp hstart
        exact hl.append u
  induction h generalizing b before with
  | line hl hfeed => exact ⟨_, lineStartsFrom_line hfeed hl.ne_nil, hfront hl⟩
  | @under l t hl hfeed _ ih =>
      obtain ⟨starts, hstarts, hall⟩ := ih true (before ++ l ++ statementSeparator)
      have hline : lineStartsFrom b before (l ++ (statementSeparator ++ (t ++ u))) =
          (if b then [(before, l ++ (statementSeparator ++ (t ++ u)))] else []) ++
            lineStartsFrom false (before ++ l) (statementSeparator ++ (t ++ u)) :=
        lineStartsFrom_line hfeed hl.ne_nil
      -- the separator ends the line
      have hnext : lineStartsFrom false (before ++ l) (statementSeparator ++ (t ++ u)) =
          lineStartsFrom true (before ++ l ++ statementSeparator) (t ++ u) := by
        have hassoc : before ++ l ++ statementSeparator = before ++ l ++ [';'] ++ ['\n'] := by
          rw [List.append_assoc (before ++ l)]
          rfl
        rw [hassoc]
        rfl
      refine ⟨(if b then [(before, l ++ (statementSeparator ++ (t ++ u)))] else []) ++ starts, ?_,
        List.forall_mem_append.mpr ⟨hfront hl, hall⟩⟩
      simp only [List.append_assoc] at hline hnext hstarts ⊢
      rw [hline, hnext, hstarts]

end NewText

/-! ## The texts of the first pass -/

theorem fenced_require (quoted u : Text) :
    Fenced (!PathLiteral.isQuote ·) (requireCall quoted ++ u) := by
  have hcall : "require(".toList = "require".toList ++ ['('] := by decide
  refine ⟨"require".toList, [], '(', quoted ++ (")".toList ++ u), ?_, by decide, run_nil,
    by decide, by decide⟩
  show "require(".toList ++ quoted ++ ")".toList ++ u = _
  rw [hcall]
  simp only [List.append_assoc, List.cons_append, List.nil_append]

theorem fenced_const {name : Text} (hname : Run q name) (hspace : q ' ' = true) (u : Text) :
    Fenced q (constText name ++ u) := by
  have hconst : "const ".toList = "const".toList ++ [' '] := by decide
  have hequals : " = ".toList = ' ' :: '=' :: [' '] := by decide
  refine ⟨"const".toList, ' ' :: (name ++ [' ']), '=', ' ' :: u, ?_, by decide, ?_, by decide,
    rfl⟩
  · show "const ".toList ++ name ++ " = ".toList ++ u = _
    rw [hconst, hequals]
    simp only [List.append_assoc, List.cons_append, List.nil_append]
  · exact run_cons.mpr ⟨hspace, run_append.mpr ⟨hname, run_cons.mpr ⟨hspace, run_nil⟩⟩⟩

/-- A line of an import starts with the call, or with `const` and an assignment. -/
theorem Line.fenced_fill {line : Line} {quoted : Text} (hplain : line.Plain)
    (hopens : line.Opens) : Fenced (!PathLiteral.isQuote ·) (line.fill (requireCall quoted)) := by
  obtain ⟨parts, hparts⟩ := hopens
  rcases hparts with rfl | ⟨name, rfl⟩
  · exact fenced_require quoted _
  · have hname := unquoted_of_isLineChar (plain_text.mp hplain).1
    exact fenced_const (run_append.mp (run_append.mp hname).1).2 (by decide) _

/-- What takes the place of an import, if the rule keeps its path on one line. -/
theorem Import.newText_require {d : ImportSyntax} (hd : d.Fits)
    (hline : '\n' ∉ r.apply d.meaning.path.value) :
    NewText (!PathLiteral.isQuote ·) (d.meaning.require r) := by
  have hcall : '\n' ∉ r.call d.meaning.path :=
    PathRule.not_mem_call (by decide) (ImportSyntax.path_of_fits hd) hline
  rw [Import.require, ImportBinding.require_eq_fill]
  refine .join (by simpa using ImportBinding.lines_ne_nil _) fun l hl => ?_
  obtain ⟨line, hline, rfl⟩ := List.mem_map.mp hl
  obtain ⟨hplain, hopens⟩ := ImportBinding.plain_of_mem_lines (ImportSyntax.named_of_fits hd) hline
  exact ⟨Line.fenced_fill hplain hopens, Line.not_mem_fill hplain (by decide) hcall⟩

/-! ## The texts of the second pass -/

namespace Export

variable {e : Export} {call : Text}

theorem fenced_exports (t : Text) : Fenced isListChar ("exports.".toList ++ t) := by
  have hdot : "exports.".toList = "exports".toList ++ ['.'] := by decide
  refine ⟨"exports".toList, [], '.', t, ?_, by decide, run_nil, by decide, by decide⟩
  rw [hdot]
  simp only [List.append_assoc, List.cons_append, List.nil_append]

theorem fenced_exportsText (name u : Text) : Fenced isListChar (exportsText name ++ u) := by
  show Fenced isListChar ("exports.".toList ++ name ++ " = ".toList ++ u)
  rw [List.append_assoc, List.append_assoc]
  exact fenced_exports _

theorem fenced_moduleExports : Fenced isListChar ("module.exports = ".toList) :=
  ⟨"module".toList, [], '.', "exports = ".toList, by decide, by decide, run_nil, by decide,
    by decide⟩

theorem fenced_copyText (n : Nat) : Fenced isListChar (copyText n) := by
  have hfor : Fenced isListChar "for (const $key".toList :=
    ⟨"for".toList, [' '], '(', "const $key".toList, by decide, by decide, by decide, by decide,
      by decide⟩
  delta copyText
  simp only [List.append_assoc]
  exact hfor.append _

/-- The lines of an export are fenced by what they start with. -/
theorem fenced_of_mem_lines {line : Line} (h : line ∈ e.lines n) :
    Fenced isListChar (line.fill call) := by
  cases e with
  | default value =>
      obtain rfl := List.mem_singleton.mp h
      exact fenced_moduleExports
  | named items path? =>
      cases path? with
      | none =>
          obtain ⟨⟨name, alias?⟩, -, hline⟩ := List.mem_filterMap.mp h
          rw [Specifier.localLine?] at hline
          split at hline
          · cases hline
          · obtain rfl := Option.some.inj hline
            rw [Line.fill_text]
            exact fenced_exportsText _ _
      | some p =>
          obtain ⟨⟨name, _ | alias_⟩, -, rfl⟩ := List.mem_map.mp h
          · exact fenced_exportsText _ _
          · rw [Specifier.fromLine]
            split
            · exact fenced_exportsText _ _
            · exact fenced_exportsText _ _
  | declaration name =>
      obtain rfl := List.mem_singleton.mp h
      exact fenced_exportsText _ _
  | star name? p =>
      rcases List.mem_cons.mp h with rfl | h
      · have hdigits : Run isListChar (Text.ofNat n) :=
          run_mono (fun c hc => by simp [isListChar, hc]) (run_ofNat n)
        exact fenced_const (run_append.mpr ⟨by decide, hdigits⟩) (by decide) _
      · obtain rfl := List.mem_singleton.mp h
        rw [Line.fill_text]
        exact fenced_copyText n
  | binding name =>
      obtain rfl := List.mem_singleton.mp h
      rw [Line.fill_text]
      exact fenced_exports name
  | identifier name =>
      obtain rfl := List.mem_singleton.mp h
      rw [Line.fill_text]
      exact fenced_exportsText _ _

/-- What takes the place of an export, if there is anything and the rule keeps its path on one
    line. -/
theorem newText_require {w rest : Text} (h : Derives (w ++ rest) e rest)
    (hline : ∀ p ∈ e.path?, '\n' ∉ r.apply p.value) (hne : e.require r n ≠ []) :
    NewText isListChar (e.require r n) := by
  have hcall : '\n' ∉ (e.path?.map r.call).getD [] := by
    cases hp : e.path? with
    | none => exact List.not_mem_nil
    | some p => exact PathRule.not_mem_call (by decide) (h.path_infix hp).1 (hline p hp)
  rw [require, assign_eq_fill] at hne ⊢
  have hlines : (e.lines n).map (Line.fill ((e.path?.map r.call).getD [])) ≠ [] := by
    intro hnil
    rw [Line.fillAll, hnil] at hne
    exact hne rfl
  refine .join hlines fun l hl => ?_
  obtain ⟨line, hmem, rfl⟩ := List.mem_map.mp hl
  refine ⟨fenced_of_mem_lines hmem, ?_⟩
  rcases plain_of_mem_lines h.named hmem with hplain | rfl
  · exact Line.not_mem_fill hplain (by decide) hcall
  · rw [Line.fill_text]
    exact not_mem_copyText (by decide) n

end Export

/-! ## Sources with new texts -/

/-- No path that a transform changes is changed to several lines. -/
structure KeepsLines (r : PathRule) (source : Text) : Prop where
  imports : ∀ i ∈ Import.find source, '\n' ∉ r.apply i.what.path.value
  exports : ∀ e ∈ Export.find (afterImports r source), ∀ p ∈ e.what.path?, '\n' ∉ r.apply p.value

instance {source : Text} : Decidable (KeepsLines r source) :=
  decidable_of_iff ((∀ i ∈ Import.find source, '\n' ∉ r.apply i.what.path.value) ∧
      ∀ e ∈ Export.find (afterImports r source), ∀ p ∈ e.what.path?, '\n' ∉ r.apply p.value)
    ⟨fun ⟨hi, he⟩ => ⟨hi, he⟩, fun ⟨hi, he⟩ => ⟨hi, he⟩⟩

/-- A source with changes: where a character that is kept starts a line, `K` holds of the text
    there, and a statement that starts a text gives way to a new text as `N` says. -/
inductive Changed (K : Text → Prop) (N : Text → Text → Prop) :
    Bool → Text → List (Piece Text) → Prop where
  | done {b : Bool} : Changed K N b [] []
  | kept {b : Bool} {c : Char} {rest : Text} {ps : List (Piece Text)} :
      (b = true → K (c :: rest)) → Changed K N (c = '\n') rest ps →
      Changed K N b (c :: rest) (.kept c :: ps)
  | statement {w rest new : Text} {ps : List (Piece Text)} :
      N (w ++ rest) new → Changed K N (endsLine true w) rest ps →
      Changed K N true (w ++ rest) (.statement w new :: ps)

/-- The changes of the first pass. -/
theorem changed_imports {ps : List (Piece Import)} {offset line : Nat}
    (h : Piece.Cuts Import.read? b s ps)
    (hlines : ∀ i ∈ Piece.locateFrom offset line ps, '\n' ∉ r.apply i.what.path.value) :
    Changed (Import.read? · = none) (fun _ new => NewText (!PathLiteral.isQuote ·) new) b s
      (importChanges r ps) := by
  induction h generalizing offset line with
  | done => exact .done
  | kept hno _ ih => exact .kept hno (ih hlines)
  | statement _ hread _ ih =>
      obtain ⟨hi, hrest⟩ := List.forall_mem_cons.mp hlines
      obtain ⟨d, hd, -, rfl⟩ := Import.read?_eq_some_iff.mp hread
      exact .statement (Import.newText_require hd hi) (ih hrest)

/-- The changes of the second pass. -/
theorem changed_exports {ps : List (Piece Export)} {offset line : Nat}
    (h : Piece.Cuts Export.read? b s ps)
    (hlines : ∀ e ∈ Piece.locateFrom offset line ps, ∀ p ∈ e.what.path?,
      '\n' ∉ r.apply p.value)
    (htexts : ∀ edit ∈ exportEdits r n (Piece.locateFrom offset line ps), edit.2 ≠ []) :
    Changed (Export.read? · = none)
      (fun t new => (word? "export".toList t).isSome ∧ NewText isListChar new) b s
      (exportChanges r n ps) := by
  induction h generalizing n offset line with
  | done => exact .done
  | kept hno _ ih => exact .kept hno (ih hlines htexts)
  | statement _ hread _ ih =>
      obtain ⟨he, hlines⟩ := List.forall_mem_cons.mp hlines
      obtain ⟨htext, htexts⟩ := List.forall_mem_cons.mp htexts
      have hd := Export.read?_eq_some_iff.mp hread
      refine .statement ⟨?_, Export.newText_require hd he htext⟩ (ih hlines htexts)
      obtain ⟨t, ht, -⟩ := Option.bind_eq_some_iff.mp hread
      exact Option.isSome_of_eq_some ht

end RequireForm
