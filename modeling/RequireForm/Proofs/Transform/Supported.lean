import RequireForm.Proofs.Export.Grammar
import RequireForm.Proofs.Transform.Lines
import RequireForm.Proofs.Transform.Passes

/-!
# Supported sources — what becomes of a file of whole statements

Items stand one under the other: a line that starts no statement, an import with its `;`, or an
export with what follows it on its line. Each item is put into require form for itself,
whatever stands above and below it.

  1. `ExportSyntax`, `Item`: the items, as they are written and as they come out.
  2. `Item.lines_imports`, `Item.lines_exports`: what either pass does to one item.
  3. `transform_supported`: both passes over a source of items, by induction on the items.
-/

namespace RequireForm

open Text

/-! ## Items -/

/-- An export from behind its gap to the end of its line. -/
inductive ExportSyntax where
  /-- `default VALUE;` -/
  | default (gap value : Text)
  /-- `LIST;`, which may run over lines. -/
  | list (list : ListSyntax)
  /-- `LIST from PATH;` -/
  | listFrom (list : ListSyntax) (gap₁ gap₂ : Text) (path : PathLiteral)
  /-- `* from PATH;` or `* as NAME from PATH;` -/
  | star (star : StarSyntax) (gap₁ gap₂ : Text) (path : PathLiteral)
  /-- A function or a class: the text from the word that declares it on. -/
  | declaration (name text : Text)
  /-- `const NAME`, `let NAME` or `var NAME`, and what follows. -/
  | binding (word gap name tail : Text)
  /-- `NAME;` -/
  | identifier (name : Text)
  deriving DecidableEq, Repr

namespace ExportSyntax

/-- The part that belongs to the statement. -/
def head : ExportSyntax → Text
  | .default gap _ => Export.defaultName ++ gap
  | .list b => b.text
  | .listFrom b gap₁ gap₂ p => b.text ++ (gap₁ ++ (fromWord ++ (gap₂ ++ p.written)))
  | .star d gap₁ gap₂ p => d.text ++ (gap₁ ++ (fromWord ++ (gap₂ ++ p.written)))
  | .declaration _ _ => []
  | .binding word gap name _ => word ++ (gap ++ name)
  | .identifier name => name

/-- The part that the source goes on with: the value, the declaration, the initializer. -/
def tail : ExportSyntax → Text
  | .default _ value => value ++ [';']
  | .declaration _ text => text
  | .binding _ _ _ tail => tail
  | .list _ | .listFrom _ _ _ _ | .star _ _ _ _ | .identifier _ => [';']

/-- The parts fit together, and only a list runs over lines. -/
def Fits : ExportSyntax → Prop
  | .default gap value =>
      Spaces gap ∧ nameEnds (gap ++ value) = true ∧ Stops isSpace value ∧ '\n' ∉ gap ++ value
  | .list b => b.Fits
  | .listFrom b gap₁ gap₂ p =>
      b.Fits ∧ Spaces gap₁ ∧ Spaces gap₂ ∧ p.WellFormed ∧ '\n' ∉ gap₁ ++ gap₂
  | .star d gap₁ gap₂ p =>
      d.Fits (gap₁ ++ fromWord) ∧ Spaces gap₁ ∧ Spaces gap₂ ∧ p.WellFormed ∧
        '\n' ∉ d.text ++ (gap₁ ++ gap₂)
  | .declaration name text => Export.Declares text name ∧ '\n' ∉ text
  | .binding word gap name tail =>
      Export.declaresVariable word = true ∧ gap ≠ [] ∧ Spaces gap ∧ Export.NameThen name tail ∧
        '\n' ∉ gap ++ tail
  | .identifier name => Specifier.isName name = true ∧ name ∉ Export.clauseWords

/-- What the statement says. -/
def meaning : ExportSyntax → Export
  | .default _ value => .default (trimEnd (value ++ [';']))
  | .list b => .named b.specifiers none
  | .listFrom b _ _ p => .named b.specifiers (some p)
  | .star d _ _ p => .star d.name? p
  | .declaration name _ => .declaration name
  | .binding _ _ name _ => .binding name
  | .identifier name => .identifier name

end ExportSyntax

/-- A part of a source that takes up whole lines. -/
inductive Item where
  /-- A line that starts no statement. -/
  | line (text : Text)
  /-- An import and its `;`. -/
  | load (statement : ImportSyntax)
  /-- An export: the spaces behind the word, and the rest. -/
  | publish (gap : Text) (statement : ExportSyntax)
  deriving DecidableEq, Repr

namespace Item

/-- The word that an export starts with. -/
abbrev exportWord : Text := "export".toList

/-- The item as it is written. -/
def text : Item → Text
  | .line t => t
  | .load d => d.text ++ [';']
  | .publish gap e => exportWord ++ (gap ++ e.head) ++ e.tail

/-- A line holds no line feed and does not start with the whole word `import` or `export`, and
    a statement fits. -/
def WellFormed : Item → Prop
  | .line t => '\n' ∉ t ∧ word? ImportSyntax.keyword t = none ∧ word? exportWord t = none
  | .load d => d.Fits
  | .publish gap e => (gap ≠ [] ∧ Spaces gap ∧ '\n' ∉ gap) ∧ e.Fits

/-- The path that an import loads. -/
def loaded? : Item → Option PathLiteral
  | .load d => some d.meaning.path
  | .line _ | .publish _ _ => none

/-- What the item becomes; the `n`-th pair of temporaries is the next one. -/
def requireForm (r : PathRule) (n : Nat) : Item → Text
  | .line t => t
  | .load d => Line.fillAll (r.call d.meaning.path) d.meaning.binding.lines ++ [';']
  | .publish _ e =>
      Line.fillAll ((e.meaning.path?.map r.call).getD []) (e.meaning.lines n) ++ e.tail

/-- What is counted. -/
def report : Item → Report
  | .line _ => ⟨0, 0, 0⟩
  | .load _ => ⟨1, 0, 0⟩
  | .publish _ e => ⟨0, 1, if e.meaning.isStar then 1 else 0⟩

/-- What items become that stand one under the other. Each star takes a pair of temporaries. -/
def requireForms (r : PathRule) (n : Nat) : List Item → List Text
  | [] => []
  | i :: items => i.requireForm r n :: requireForms r (n + i.report.stars) items

/-- What is counted in items. -/
def reports (items : List Item) : Report := items.foldr (fun i => i.report.merge) {}

end Item

/-! ## Where the lines of an export start -/

namespace ExportSyntax

variable {e : ExportSyntax}

/-- A statement stands on one line, or starts with a list and ends on the line of its brace. -/
theorem head_lines (he : e.Fits) :
    '\n' ∉ e.head ∨ ∃ (b : ListSyntax) (t : Text), b.Fits ∧ '\n' ∉ t ∧ e.head = b.text ++ t := by
  have hname {name : Text} (hn : Specifier.isName name = true) : '\n' ∉ name := fun hm =>
    absurd ((isName_iff.mp hn).2 _ hm) (by decide)
  cases e with
  | default gap value =>
      obtain ⟨-, -, -, hline⟩ := he
      refine Or.inl fun hm => ?_
      rcases List.mem_append.mp hm with hm | hm
      · exact absurd hm (by decide)
      · exact hline (List.mem_append_left _ hm)
  | list b => exact Or.inr ⟨b, [], he, List.not_mem_nil, (List.append_nil _).symm⟩
  | listFrom b gap₁ gap₂ p =>
      obtain ⟨hb, -, -, hp, hline⟩ := he
      obtain ⟨h₁, h₂⟩ := not_or.mp (mt List.mem_append.mpr hline)
      refine Or.inr ⟨b, _, hb, ?_, rfl⟩
      simp only [List.mem_append, not_or]
      exact ⟨h₁, by decide, h₂, hp.not_mem_written⟩
  | star d gap₁ gap₂ p =>
      obtain ⟨-, -, -, hp, hline⟩ := he
      refine Or.inl ?_
      simp only [head, List.mem_append, not_or] at hline ⊢
      exact ⟨hline.1, hline.2.1, by decide, hline.2.2, hp.not_mem_written⟩
  | declaration name text => exact Or.inl List.not_mem_nil
  | binding word gap name tail =>
      obtain ⟨hvariable, -, -, ⟨hn, -⟩, hline⟩ := he
      refine Or.inl ?_
      simp only [head, List.mem_append, not_or] at hline ⊢
      exact ⟨hname (Export.declaresVariable_iff hvariable).1, hline.1, hname hn⟩
  | identifier name => exact Or.inl (hname he.1)

/-- The tail stands on one line. -/
theorem not_mem_tail (he : e.Fits) : '\n' ∉ e.tail := by
  have hsemicolon : '\n' ∉ [';'] := by decide
  cases e with
  | default gap value =>
      obtain ⟨-, -, -, hline⟩ := he
      intro hm
      rcases List.mem_append.mp hm with hm | hm
      · exact hline (List.mem_append_right _ hm)
      · exact hsemicolon hm
  | list b => exact hsemicolon
  | listFrom b gap₁ gap₂ p => exact hsemicolon
  | star d gap₁ gap₂ p => exact hsemicolon
  | declaration name text => exact he.2
  | binding word gap name tail => exact fun hm => he.2.2.2.2 (List.mem_append_right _ hm)
  | identifier name => exact hsemicolon

/-- The statement does not end with a line feed. -/
theorem endsLine_head {t : Text} (he : e.Fits) (hne : t ≠ []) (ht : '\n' ∉ t) :
    endsLine true (t ++ e.head) = false := by
  have hline {b : Bool} {u : Text} (hu : '\n' ∉ u) (hb : b = false) : endsLine b u = false := by
    by_cases hnil : u = []
    · rw [hnil, endsLine_nil, hb]
    · exact endsLine_of_not_mem hu hnil
  rw [endsLine_append, endsLine_of_not_mem ht hne]
  rcases head_lines he with hhead | ⟨b, u, -, hu, hhead⟩
  · exact hline hhead rfl
  · rw [hhead, endsLine_append]
    refine hline hu ?_
    show endsLine false ('\x7b' :: (b.body ++ ['\x7d'])) = false
    rw [endsLine_cons, endsLine_append]
    rfl

end ExportSyntax

/-! ## The first pass over an item -/

namespace Import

/-- No import starts at a line start in a list, nor in front of one on its first line. -/
theorem lines_list {b : ListSyntax} {before after : Text} (hb : b.Fits) (hne : before ≠ [])
    (hbefore : '\n' ∉ before) (hafter : '\n' ∉ after)
    (hstart : ∀ t, read? (before ++ t) = none) :
    Piece.Lines read? (before ++ (b.body ++ '\x7d' :: after))
      ((before ++ (b.body ++ '\x7d' :: after)).map .kept) := by
  intro rest _
  have hbody {u v : Text} (h : b.body = u ++ v) {t : Text} : read? (v ++ '\x7d' :: t) = none := by
    have hrun := ListSyntax.run_isListChar hb
    rw [h, run_append] at hrun
    exact read?_eq_none_of_list hrun.2
  have hbrace (t : Text) : read? ('\x7d' :: t) = none := hbody (List.append_nil _).symm
  simp only [List.append_assoc, List.cons_append, List.map_append, List.map_cons]
  -- the line before the body, the body with its line starts, the line behind it
  rw [Piece.cut_line_start hbefore hne (hstart _), Piece.cut_kept fun u v h _ _ => hbody h,
    Piece.cut_kept_char fun _ => hbrace _]
  have hfeed : decide ('\x7d' = '\n') = false := rfl
  rw [hfeed, Piece.cut_line hafter]

end Import

namespace ExportSyntax

variable {e : ExportSyntax} {rest : Text}

/-- The line end behind a name ends it. -/
theorem nameEnds_lineEnd {t : Text} (ht : nameEnds t = true) (hrest : Piece.LineEnd rest) :
    nameEnds (t ++ rest) = true := by
  cases t with
  | nil =>
      rcases hrest with rfl | ⟨u, rfl⟩
      · rfl
      · rfl
  | cons c t => exact ht

theorem declares_lineEnd {t name : Text} (h : Export.Declares t name)
    (hrest : Piece.LineEnd rest) : Export.Declares (t ++ rest) name := by
  have hthen {after : Text} (hn : Export.NameThen name after) :
      Export.NameThen name (after ++ rest) := ⟨hn.1, nameEnds_lineEnd hn.2 hrest⟩
  cases h with
  | @function gap _ after hgap hends hn =>
      have hends' := nameEnds_lineEnd hends hrest
      simp only [List.append_assoc] at hends' ⊢
      exact .function hgap hends' (hthen hn)
  | @asyncFunction gap₁ gap₂ _ after hne hgap₁ hgap₂ hends hn =>
      have hends' := nameEnds_lineEnd hends hrest
      simp only [List.append_assoc] at hends' ⊢
      exact .asyncFunction hne hgap₁ hgap₂ hends' (hthen hn)
  | @classNamed gap _ after hne hgap hn =>
      simp only [List.append_assoc]
      exact .classNamed hne hgap (hthen hn)

theorem firstLine_lineEnd {t : Text} (ht : '\n' ∉ t) (hrest : Piece.LineEnd rest) :
    firstLine (t ++ rest) = t := by
  refine takeWhile_append_of_run ?_ ?_
  · intro c hc
    exact decide_eq_true fun h => ht (h ▸ hc)
  · rcases hrest with rfl | ⟨u, rfl⟩
    · exact trivial
    · exact stops_cons.mpr (by decide)

end ExportSyntax

/-! ## The second pass over an item -/

namespace ExportSyntax

/-- What stands behind the gap starts with no space. -/
theorem stops_head {e : ExportSyntax} (he : e.Fits) (t : Text) :
    Stops isSpace (e.head ++ (e.tail ++ t)) := by
  cases e with
  | default gap value => exact stops_cons.mpr (by decide)
  | list b => exact stops_cons.mpr (by decide)
  | listFrom b gap₁ gap₂ p => exact stops_cons.mpr (by decide)
  | star d gap₁ gap₂ p => exact stops_cons.mpr (by decide)
  | declaration name text =>
      obtain ⟨hd, -⟩ := he
      cases hd with
      | function _ _ _ => exact stops_cons.mpr (by decide)
      | asyncFunction _ _ _ _ _ => exact stops_cons.mpr (by decide)
      | classNamed _ _ _ => exact stops_cons.mpr (by decide)
  | binding word gap name tail =>
      rw [head, List.append_assoc]
      exact stops_isSpace_name (Export.declaresVariable_iff he.1).1
  | identifier name => exact stops_isSpace_name he.1

/-- The value of a default ends with its line. -/
theorem clause_default {gap gap' value rest : Text} (h : (default gap' value).Fits)
    (hrest : Piece.LineEnd rest) :
    Export.Clause gap ("default".toList ++ (gap' ++ (value ++ (';' :: rest))))
      (.default (trimEnd (value ++ [';']))) (value ++ (';' :: rest)) := by
  obtain ⟨hgap', hends, hstop, hline⟩ := h
  have hsplit : value ++ (';' :: rest) = value ++ [';'] ++ rest := by simp
  have hvalue : '\n' ∉ value ++ [';'] := by
    intro hm
    rcases List.mem_append.mp hm with hm | hm
    · exact hline (List.mem_append_right _ hm)
    · exact absurd (List.mem_singleton.mp hm) (by decide)
  have hfirst : firstLine (value ++ (';' :: rest)) = value ++ [';'] := by
    rw [hsplit, firstLine_lineEnd hvalue hrest]
  -- the `;` shows on the line, even if the value is empty
  have hblank : (firstLine (value ++ (';' :: rest))).trimEnd ≠ [] := by
    rw [hfirst]
    intro hnil
    have hrun := run_append.mp (trimEnd_eq_nil_iff.mp hnil)
    exact absurd hrun.2 (by decide)
  have hends' : nameEnds (gap' ++ (value ++ (';' :: rest))) = true := by
    rw [← List.append_assoc]
    generalize gap' ++ value = t at hends
    cases t with
    | nil => rfl
    | cons c t => exact hends
  have hstop' : Stops isSpace (value ++ (';' :: rest)) := by
    cases value with
    | nil => exact stops_cons.mpr (by decide)
    | cons c t => exact hstop
  rw [← hfirst]
  exact .default hgap' hstop' hends' hblank

/-- A `;` behind a list tells that no path follows. -/
theorem semicolon_ne_from (t : Text) :
    ∀ w r, Spaces w → nameEnds r = true → ';' :: t ≠ w ++ (fromWord ++ r) := by
  intro w r hw _ he
  exact spaces_append_ne run_nil hw (by decide) (by decide) (by decide) he

/-- What stands behind `export` derives what the statement says, up to its tail. -/
theorem clause_of_fits {e : ExportSyntax} {gap rest : Text} (hgap : gap ≠ []) (he : e.Fits)
    (hrest : Piece.LineEnd rest) :
    Export.Clause gap (e.head ++ (e.tail ++ rest)) e.meaning (e.tail ++ rest) := by
  cases e with
  | default gap' value =>
      show Export.Clause gap ("default".toList ++ gap' ++ (value ++ [';'] ++ rest)) _
        (value ++ [';'] ++ rest)
      simp only [List.append_assoc, List.cons_append, List.nil_append]
      exact clause_default he hrest
  | list b => exact .list he (semicolon_ne_from rest)
  | listFrom b gap₁ gap₂ p =>
      obtain ⟨hb, h₁, h₂, hp, -⟩ := he
      simp only [head, List.append_assoc]
      exact .listFrom hb h₁ h₂ hp
  | star d gap₁ gap₂ p =>
      obtain ⟨hd, h₁, h₂, hp, -⟩ := he
      simp only [head, List.append_assoc]
      exact .star hd h₁ h₂ hp
  | declaration name text =>
      show Export.Clause gap (text ++ rest) _ (text ++ rest)
      exact .worded hgap (.declaration (declares_lineEnd he.1 hrest))
  | binding word gap' name tail =>
      obtain ⟨hword, hne, hgap', ⟨hn, hends⟩, -⟩ := he
      simp only [head, List.append_assoc]
      exact .worded hgap (.binding hword hne hgap' ⟨hn, nameEnds_lineEnd hends hrest⟩)
  | identifier name =>
      obtain ⟨hn, hno⟩ := he
      refine .worded hgap (.identifier ⟨hn, rfl⟩ hno ?_)
      exact ⟨[], ';' :: rest, rfl, run_nil, Or.inr ⟨rest, Or.inl rfl⟩⟩

end ExportSyntax

namespace Item

variable {i : Item} {gap : Text} {d : ImportSyntax} {e : ExportSyntax} {r : PathRule}

theorem not_mem_exportWord (hgap : '\n' ∉ gap) : '\n' ∉ exportWord ++ gap := by
  intro hm
  rcases List.mem_append.mp hm with hm | hm
  · exact absurd hm (by decide)
  · exact hgap hm

theorem import_read?_export (t : Text) : Import.read? (exportWord ++ t) = none :=
  Import.read?_eq_none_of_word? (word?_cons_eq_none (by decide))

/-- The first pass keeps an export as it is. -/
theorem lines_publish (hgap : '\n' ∉ gap) (he : e.Fits) :
    Piece.Lines Import.read? (exportWord ++ (gap ++ e.head) ++ e.tail)
      ((exportWord ++ (gap ++ e.head) ++ e.tail).map .kept) := by
  have hword := not_mem_exportWord hgap
  have htail := ExportSyntax.not_mem_tail he
  rcases ExportSyntax.head_lines he with hhead | ⟨b, t, hb, ht, hhead⟩
  · refine Piece.lines_line ?_ fun rest _ => ?_
    · simp only [List.mem_append, not_or] at hword ⊢
      exact ⟨⟨hword.1, hword.2, hhead⟩, htail⟩
    · rw [List.append_assoc, List.append_assoc]
      exact import_read?_export _
  · -- only the body of the list runs over lines
    have hsplit : exportWord ++ (gap ++ e.head) ++ e.tail
        = exportWord ++ gap ++ ['\x7b'] ++ (b.body ++ '\x7d' :: (t ++ e.tail)) := by
      simp only [hhead, ListSyntax.text, List.append_assoc, List.cons_append, List.nil_append]
    rw [hsplit]
    refine Import.lines_list hb (List.append_ne_nil_of_right_ne_nil _ (List.cons_ne_nil _ _))
      ?_ ?_ fun u => ?_
    · intro hm
      rcases List.mem_append.mp hm with hm | hm
      · exact hword hm
      · exact absurd hm (by decide)
    · intro hm
      rcases List.mem_append.mp hm with hm | hm
      · exact ht hm
      · exact htail hm
    · rw [List.append_assoc, List.append_assoc]
      exact import_read?_export _

/-- The second pass reads an export up to its tail. -/
theorem lines_export (hne : gap ≠ []) (hgap : Spaces gap) (hfeed : '\n' ∉ gap) (he : e.Fits) :
    Piece.Lines Export.read? (exportWord ++ (gap ++ e.head) ++ e.tail)
      (.statement (exportWord ++ (gap ++ e.head)) e.meaning :: e.tail.map .kept) := by
  refine Piece.lines_statement (List.cons_ne_nil _ _) ?_ (ExportSyntax.not_mem_tail he)
    fun rest hrest => ?_
  · rw [← List.append_assoc]
    exact ExportSyntax.endsLine_head he (List.append_ne_nil_of_right_ne_nil _ hne)
      (not_mem_exportWord hfeed)
  · refine Export.read?_eq_some_iff.mpr ⟨gap, e.head ++ (e.tail ++ rest), ?_,
      nameEnds_gap_append hne hgap, hgap, ExportSyntax.stops_head he rest,
      ExportSyntax.clause_of_fits hne he hrest⟩
    simp only [List.append_assoc]

/-- A line of an import is one line, and no export starts it. -/
theorem lines_fill {call : Text} {l : Line} (hplain : l.Plain) (hopens : l.Opens)
    (hcall : '\n' ∉ call) (hstart : ∀ t, Export.read? (call ++ t) = none) :
    Piece.Lines Export.read? (l.fill call ++ [';']) ((l.fill call ++ [';']).map .kept) := by
  refine Piece.lines_line ?_ fun rest _ => ?_
  · intro hm
    rcases List.mem_append.mp hm with hm | hm
    · exact Line.not_mem_fill hplain (by decide) hcall hm
    · exact absurd hm (by decide)
  · rw [List.append_assoc]
    obtain ⟨parts, rfl | ⟨name, rfl⟩⟩ := hopens
    · rw [Line.fill, List.append_assoc]
      exact hstart _
    · exact Export.read?_eq_none_of_word? (word?_cons_eq_none (by decide))

/-- No export is read in the lines of an import. -/
theorem lines_fillAll {call : Text} {lines : List Line} (hne : lines ≠ [])
    (h : ∀ l ∈ lines, l.Plain ∧ l.Opens) (hcall : '\n' ∉ call)
    (hstart : ∀ t, Export.read? (call ++ t) = none) :
    Piece.Lines Export.read? (Line.fillAll call lines ++ [';'])
      ((Line.fillAll call lines ++ [';']).map .kept) := by
  induction lines with
  | nil => exact absurd rfl hne
  | cons l lines ih =>
      obtain ⟨hplain, hopens⟩ := h l List.mem_cons_self
      have hl := lines_fill hplain hopens hcall hstart
      by_cases hlines : lines = []
      · subst hlines
        exact hl
      · have hrest := ih hlines fun k hk => h k (List.mem_cons_of_mem _ hk)
        -- the `;` of the separator ends the first line, and the source's own `;` ends the last
        have hsplit : Line.fillAll call (l :: lines) ++ [';']
            = (l.fill call ++ [';']) ++ '\n' :: (Line.fillAll call lines ++ [';']) := by
          rw [Line.fillAll_cons hlines]
          simp only [List.append_assoc]
          rfl
        rw [hsplit, List.map_append, List.map_cons]
        exact Piece.lines_append hl hrest

/-! ## One item -/

/-- The pieces of an item in the first pass. -/
def importPieces : Item → List (Piece Import)
  | .line t => t.map .kept
  | .load d => [.statement d.text d.meaning, .kept ';']
  | .publish gap e => (exportWord ++ (gap ++ e.head) ++ e.tail).map .kept

/-- The item between the passes. -/
def between (r : PathRule) : Item → Text
  | .line t => t
  | .load d => Line.fillAll (r.call d.meaning.path) d.meaning.binding.lines ++ [';']
  | .publish gap e => exportWord ++ (gap ++ e.head) ++ e.tail

/-- The pieces of an item in the second pass. -/
def exportPieces (r : PathRule) : Item → List (Piece Export)
  | .line t => t.map .kept
  | .load d =>
      (Line.fillAll (r.call d.meaning.path) d.meaning.binding.lines ++ [';']).map .kept
  | .publish gap e => .statement (exportWord ++ (gap ++ e.head)) e.meaning :: e.tail.map .kept

theorem lines_imports (hi : i.WellFormed) : Piece.Lines Import.read? i.text i.importPieces := by
  cases i with
  | line t =>
      obtain ⟨hline, himport, -⟩ := hi
      refine Piece.lines_line hline fun rest hrest => ?_
      exact Import.read?_eq_none_of_word? (word?_line (by decide) himport hrest)
  | load d =>
      have hend : endsLine true d.text = false := by
        obtain ⟨w, hw⟩ := d.exists_text_eq
        rw [hw, endsLine_append]
        exact endsLine_of_not_mem (ImportSyntax.path_of_fits hi).not_mem_written
          (List.cons_ne_nil _ _)
      refine Piece.lines_statement (t := [';']) ?_ hend (by decide) fun rest _ => ?_
      · cases d with
        | effects gap p => exact List.cons_ne_nil _ _
        | binding gap d gap₁ gap₂ p => exact List.cons_ne_nil _ _
      · exact Import.read?_eq_some_iff.mpr ⟨d, hi, rfl, rfl⟩
  | publish gap e =>
      obtain ⟨⟨-, -, hgap⟩, he⟩ := hi
      exact lines_publish hgap he

theorem lines_exports (hi : i.WellFormed)
    (hpath : ∀ p, i.loaded? = some p → '\n' ∉ r.apply p.value) :
    Piece.Lines Export.read? (i.between r) (i.exportPieces r) := by
  cases i with
  | line t =>
      obtain ⟨hline, -, hexport⟩ := hi
      refine Piece.lines_line hline fun rest hrest => ?_
      exact Export.read?_eq_none_of_word? (word?_line (by decide) hexport hrest)
  | load d =>
      have hnamed := ImportSyntax.named_of_fits hi
      refine lines_fillAll (d.meaning.binding.lines_ne_nil)
        (fun l hl => ImportBinding.plain_of_mem_lines hnamed hl) ?_ fun t => ?_
      · exact PathRule.not_mem_call (by decide) (ImportSyntax.path_of_fits hi) (hpath _ rfl)
      · exact Export.read?_eq_none_of_word? (word?_cons_eq_none (by decide))
  | publish gap e =>
      obtain ⟨⟨hne, hgap, hfeed⟩, he⟩ := hi
      exact lines_export hne hgap hfeed he

/-! ## All items -/

theorem importPass_importPieces (i : Item) : importPass r i.importPieces = i.between r := by
  cases i with
  | line t => exact importPass_kept t
  | load d =>
      show d.meaning.require r ++ [';'] = _
      rw [Import.require, ImportBinding.require_eq_fill]
      rfl
  | publish gap e => exact importPass_kept _

theorem exportPass_exportPieces (i : Item) (n : Nat) :
    exportPass r n (i.exportPieces r) = i.requireForm r n := by
  cases i with
  | line t => exact exportPass_kept n t
  | load d => exact exportPass_kept n _
  | publish gap e =>
      show e.meaning.require r n ++ exportPass r _ (e.tail.map .kept) = _
      rw [exportPass_kept, Export.require, Export.assign_eq_fill]
      rfl

theorem length_importPieces (i : Item) :
    (Piece.statements i.importPieces).length = i.report.imports := by
  cases i with
  | line t => exact congrArg List.length (Piece.statements_kept t)
  | load d => rfl
  | publish gap e => exact congrArg List.length (Piece.statements_kept _)

theorem length_exportPieces (i : Item) :
    (Piece.statements (i.exportPieces r)).length = i.report.exports := by
  cases i with
  | line t => exact congrArg List.length (Piece.statements_kept t)
  | load d => exact congrArg List.length (Piece.statements_kept _)
  | publish gap e =>
      show (Piece.statements (.statement _ e.meaning :: e.tail.map .kept)).length = 1
      rw [Piece.statements_cons_statement, Piece.statements_kept]
      rfl

theorem stars_exportPieces (i : Item) : stars (i.exportPieces r) = i.report.stars := by
  cases i with
  | line t => exact stars_kept t
  | load d => exact stars_kept _
  | publish gap e =>
      show stars (.statement _ e.meaning :: e.tail.map .kept) = if e.meaning.isStar then 1 else 0
      rw [stars, Piece.statements_cons_statement, Piece.statements_kept, List.countP_singleton]

/-- Behind `n` temporaries, the second pass leaves the items in require form. -/
theorem exportPass_joinLines (items : List Item) (n : Nat) :
    exportPass r n (Piece.joinLines (items.map (exportPieces r)))
      = join ['\n'] (requireForms r n items) := by
  induction items generalizing n with
  | nil => rfl
  | cons i items ih =>
      cases items with
      | nil => exact exportPass_exportPieces i n
      | cons j items =>
          show exportPass r n (i.exportPieces r ++
            .kept '\n' :: Piece.joinLines ((j :: items).map (exportPieces r))) = _
          rw [exportPass_append, exportPass_exportPieces, stars_exportPieces, exportPass, ih]
          exact (List.append_assoc _ ['\n'] _).symm

/-- Both passes count what the items count. -/
theorem ofPieces_joinLines (items : List Item) :
    Report.ofPieces (Piece.joinLines (items.map importPieces))
      (Piece.joinLines (items.map (exportPieces r))) = reports items := by
  simp only [Report.ofPieces, Piece.statements_joinLines]
  induction items with
  | nil => rfl
  | cons i items ih =>
      have hstep : reports (i :: items) = i.report.merge (reports items) := rfl
      rw [hstep, ← ih]
      simp only [List.map_cons, List.flatMap_cons, List.length_append, List.countP_append,
        Report.merge, Report.mk.injEq]
      exact ⟨congrArg (· + _) (length_importPieces i), congrArg (· + _) (length_exportPieces i),
        congrArg (· + _) (stars_exportPieces i)⟩

end Item

/-- A source of items is put into require form item by item, and each statement is counted. -/
theorem transform_supported (o : Options) (items : List Item) (hitems : ∀ i ∈ items, i.WellFormed)
    (hpaths : ∀ i ∈ items, ∀ p, i.loaded? = some p →
      '\n' ∉ (PathRule.ofOptions o).apply p.value) :
    transform o (join ['\n'] (items.map Item.text))
      = ⟨join ['\n'] (Item.requireForms (.ofOptions o) 0 items), Item.reports items⟩ := by
  have himports : Import.pieces (join ['\n'] (items.map Item.text))
      = Piece.joinLines (items.map Item.importPieces) :=
    Piece.ofSource_join fun i hi => Item.lines_imports (hitems i hi)
  have hbetween : importPass (.ofOptions o) (Piece.joinLines (items.map Item.importPieces))
      = join ['\n'] (items.map (Item.between (.ofOptions o))) := by
    rw [importPass_joinLines, List.map_map]
    exact congrArg _ (List.map_congr_left fun i _ => Item.importPass_importPieces i)
  have hexports : Export.pieces (join ['\n'] (items.map (Item.between (.ofOptions o))))
      = Piece.joinLines (items.map (Item.exportPieces (.ofOptions o))) :=
    Piece.ofSource_join fun i hi => Item.lines_exports (hitems i hi) (hpaths i hi)
  simp only [transform, transformBy, himports, hbetween, hexports, Item.exportPass_joinLines,
    Item.ofPieces_joinLines]

/-- A comment, an import, a star and a function. -/
def Item.mixed : List Item :=
  [.line "// module".toList,
    .load (.binding [' '] (.group (.list ⟨.plain [' '] ['a'] [' '], []⟩)) [' '] [' ']
      ⟨'\x27', ['m']⟩),
    .publish [' '] (.star .bare [' '] [' '] ⟨'\x27', ['p']⟩),
    .publish [' '] (.declaration ['f']
      ("function".toList ++ ([' '] ++ (['f'] ++ "() \x7b\x7d".toList))))]

theorem transform_supported_mixed :
    (∀ i ∈ Item.mixed, i.WellFormed) ∧
      transform {} (join ['\n'] (Item.mixed.map Item.text)) =
        ⟨"// module\nconst \x7b a \x7d = require('m');\nconst $val0 = require('p');\n".toList ++
          "for (const $key0 of Object.keys($val0)) if ($key0 !== 'default') ".toList ++
          "exports[$key0] = $val0[$key0];\nexports.f = function f() \x7b\x7d".toList,
          ⟨1, 2, 1⟩⟩ := by
  have hitems : ∀ i ∈ Item.mixed, i.WellFormed := by
    intro i hi
    simp only [Item.mixed, List.mem_cons, List.not_mem_nil, or_false] at hi
    rcases hi with rfl | rfl | rfl | rfl
    · exact ⟨by decide, by decide, by decide⟩
    · exact ⟨⟨by decide, by decide⟩, by decide, by decide, by decide, by decide⟩
    · exact ⟨⟨by decide, by decide, by decide⟩, trivial, by decide, by decide, by decide, by decide⟩
    · refine ⟨⟨by decide, by decide, by decide⟩, ?_, by decide⟩
      exact .function (.plain (by decide)) (by decide) ⟨by decide, by decide⟩
  refine ⟨hitems, (transform_supported {} Item.mixed hitems ?_).trans ?_⟩
  · intro i hi p hp
    simp only [Item.mixed, List.mem_cons, List.not_mem_nil, or_false] at hi
    rcases hi with rfl | rfl | rfl | rfl
    · exact nomatch hp
    · obtain rfl := Option.some.inj hp
      decide
    · exact nomatch hp
    · exact nomatch hp
  · decide +kernel

end RequireForm
