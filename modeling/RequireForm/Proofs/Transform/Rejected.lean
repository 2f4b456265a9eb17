import RequireForm.Proofs.Transform.NewText

/-!
# Rejected statements in front of a new text

    LINES  import .. or export ..         LINES  WORD TEXT FENCE ..

A text that starts like a statement may run over lines up to a statement, and be rejected for what
the statement starts with. Then a new text comes to stand there. An import would have to end with
its path in LINES, whatever stands behind. An export may take a name from behind; but then it could
have taken the word `export` itself, and would not have been rejected. Only a line of the word
`export` alone is different: it takes a declaration from behind.

  1. `EndsFeed` and what is read across the end of LINES: `split_feed`, `split_word`,
     `split_gap`.
  2. `Import.read?_of_fenced`: an import ends in LINES.
  3. `Export.Derives.renamed`: an export takes the word `export` for a name.
-/

namespace RequireForm

open Text

variable {q : Char → Bool} {c d : Char} {a n r t u v w x y z gap name after rest : Text}

/-! ## What a fenced text starts with -/

theorem Fenced.nameEnds_eq_false (h : Fenced q y) : nameEnds y = false := by
  obtain ⟨m, k, c, x, rfl, hm, -⟩ := h
  obtain ⟨hne, hrun⟩ := isName_iff.mp (isName_of_mem_newWords hm)
  obtain ⟨d, m, rfl⟩ := List.exists_cons_of_ne_nil hne
  simp [nameEnds, (run_cons.mp hrun).1]

/-- Up to its fence, a fenced text is of one kind of character. -/
theorem Fenced.exists_run (h : Fenced q y) (hq : ∀ c, isNameChar c = true → q c = true) :
    ∃ n c x, y = n ++ c :: x ∧ Run q n ∧ Fence c := by
  obtain ⟨m, k, c, x, rfl, hm, hk, hc, -⟩ := h
  have hrun := (isName_iff.mp (isName_of_mem_newWords hm)).2
  exact ⟨m ++ k, c, x, (List.append_assoc _ _ _).symm, run_append.mpr ⟨run_mono hq hrun, hk⟩, hc⟩

/-! ## Across a line end -/

/-- The text ends with a line feed. -/
def EndsFeed (t : Text) : Prop := ∃ u, t = u ++ ['\n']

theorem EndsFeed.ne_nil (h : EndsFeed v) : v ≠ [] := by
  obtain ⟨u, rfl⟩ := h
  exact List.append_ne_nil_of_right_ne_nil _ (List.cons_ne_nil _ _)

theorem EndsFeed.mem (h : EndsFeed v) : '\n' ∈ v := by
  obtain ⟨u, rfl⟩ := h
  exact List.mem_append_right _ (List.mem_singleton_self _)

/-- An end of such a text is empty or such a text. -/
theorem EndsFeed.suffix (h : EndsFeed (w ++ a)) (hne : a ≠ []) : EndsFeed a := by
  obtain ⟨u, hu⟩ := h
  rcases List.eq_nil_or_concat a with rfl | ⟨a, d, rfl⟩
  · exact absurd rfl hne
  · rw [List.concat_eq_append, ← List.append_assoc] at hu
    obtain rfl : d = '\n' := (List.cons.inj (List.append_inj_right' hu rfl)).1
    exact ⟨a, List.concat_eq_append⟩

/-- What stands on one line is read in front of the line end. -/
theorem split_feed (hv : EndsFeed v) (hw : '\n' ∉ w) (h : v ++ y = w ++ z) :
    ∃ a, v = w ++ a ∧ z = a ++ y ∧ EndsFeed a := by
  rcases List.append_eq_append_iff.mp h with ⟨a, rfl, -⟩ | ⟨a, rfl, rfl⟩
  · exact absurd (List.mem_append_left a hv.mem) hw
  · refine ⟨a, rfl, rfl, hv.suffix ?_⟩
    rintro rfl
    rw [List.append_nil] at hv
    exact hw hv.mem

theorem nameEnds_append (hv : v ≠ []) (h : nameEnds (v ++ y) = true) (z : Text) :
    nameEnds (v ++ z) = true :=
  nameEnds_iff.mpr ((stops_append hv).mpr ((stops_append hv).mp (nameEnds_iff.mp h)))

/-- So is a whole word, and it is one in front of any text. -/
theorem split_word (hv : EndsFeed v) (hw : '\n' ∉ w) (hends : nameEnds z = true)
    (h : v ++ y = w ++ z) :
    ∃ a, v = w ++ a ∧ z = a ++ y ∧ EndsFeed a ∧ ∀ z', nameEnds (a ++ z') = true := by
  obtain ⟨a, rfl, rfl, hfeed⟩ := split_feed hv hw h
  exact ⟨a, rfl, rfl, hfeed, nameEnds_append hfeed.ne_nil hends⟩

/-- Characters that stand in no name are read in front of a name. -/
theorem split_gap (hy : nameEnds y = false) (hgap : Run (!isNameChar ·) gap)
    (h : v ++ y = gap ++ z) : ∃ a, v = gap ++ a ∧ z = a ++ y := by
  rcases List.append_eq_append_iff.mp h with ⟨a, rfl, rfl⟩ | ⟨a, rfl, rfl⟩
  · cases a with
    | nil => exact ⟨[], by simp only [List.append_nil], rfl⟩
    | cons d a =>
        -- the first character of the name would stand in the gap
        have hd : (!isNameChar d) = true := hgap d (List.mem_append_right _ List.mem_cons_self)
        exact Bool.noConfusion (hy.symm.trans hd)
  · exact ⟨a, rfl, rfl⟩

/-- No quote in front of a line end has a path that reaches beyond it. -/
theorem EndsFeed.sealed (hv : EndsFeed v) (hn : Unquoted n) : Sealed (v ++ n) := by
  obtain ⟨u, rfl⟩ := hv
  rw [List.append_assoc]
  induction u with
  | nil => exact Sealed.append (w := ['\n']) (by decide) (sealed_of_unquoted hn)
  | cons c u ih => exact ⟨fun _ => List.mem_append_right _ List.mem_cons_self, ih⟩

/-! ## Imports -/

/-- An import in front of a fenced text is one in front of any text. -/
theorem Import.read?_of_fenced {i : Import} (hv : EndsFeed v)
    (hy : Fenced (!PathLiteral.isQuote ·) y) (h : read? (v ++ y) = some (i, rest)) :
    ∃ a, ∀ z, read? (v ++ z) = some (i, a ++ z) := by
  obtain ⟨n, c, x, rfl, hn, hc⟩ := hy.exists_run fun c hname => by
    rw [PathLiteral.not_isQuote_of_isNameChar hname]
    rfl
  rw [← List.append_assoc] at h
  obtain ⟨w, v', he, -, hp, hsame⟩ := read?_fence hc ((hv.sealed hn).pathsEnd hc x) h
  rw [List.append_assoc] at he
  obtain ⟨a, rfl, -⟩ := split_unquoted hp hn he
  refine ⟨a, fun z => ?_⟩
  rw [← List.append_assoc, List.append_assoc (w ++ i.path.written)]
  exact hsame _

/-! ## Exports -/

namespace Export

variable {e : Export}

/-- Where a name is read from LINES or from behind them, a name is read when `export` comes to stand
    behind them. -/
theorem exists_renamed (ha : a ≠ [] → EndsFeed a) (hn : NameThen name after)
    (h : a ++ y = name ++ after) (hr : nameEnds r = true) :
    ∃ name' after', a ++ ("export".toList ++ r) = name' ++ after' ∧ NameThen name' after' := by
  cases a with
  | nil => exact ⟨_, r, rfl, by decide, hr⟩
  | cons d a =>
      obtain ⟨v, hv, rfl, -, hends⟩ := split_word (ha (List.cons_ne_nil _ _))
        (not_mem_of_run (by decide) (isName_iff.mp hn.1).2) hn.2 h
      refine ⟨name, v ++ ("export".toList ++ r), ?_, hn.1, hends _⟩
      rw [hv, List.append_assoc]

theorem run_spaces (hw : Spaces w) : Run (!isNameChar ·) w :=
  run_mono (fun c hc => by rw [not_isNameChar_of_isSpace hc]; rfl) hw

theorem run_functionGap (h : FunctionGap gap) : Run (!isNameChar ·) gap := by
  cases h with
  | plain hw => exact run_spaces hw
  | star h₁ h₂ => exact run_append.mpr ⟨run_spaces h₁, run_cons.mpr ⟨by decide, run_spaces h₂⟩⟩

theorem exists_renamed_gap (hv : EndsFeed v) (hy : Fenced q y) (hgap : Run (!isNameChar ·) gap)
    (hn : NameThen name after) (h : v ++ y = gap ++ (name ++ after)) (hr : nameEnds r = true) :
    ∃ name' after', v ++ ("export".toList ++ r) = gap ++ (name' ++ after') ∧
      NameThen name' after' := by
  obtain ⟨a, rfl, ha⟩ := split_gap hy.nameEnds_eq_false hgap h
  obtain ⟨name', after', he, hn'⟩ := exists_renamed hv.suffix hn ha.symm hr
  exact ⟨name', after', by rw [List.append_assoc, he], hn'⟩

theorem Declares.renamed (hv : EndsFeed v) (hy : Fenced q y) (hr : nameEnds r = true)
    (h : Declares (v ++ y) name) : ∃ name', Declares (v ++ ("export".toList ++ r)) name' := by
  generalize ht : v ++ y = t at h
  cases h with
  | @function gap _ after hgap hends hn =>
      obtain ⟨v₁, rfl, h₁, hfeed, hword⟩ := split_word hv (by decide) hends ht
      obtain ⟨name', after', he, hn'⟩ :=
        exists_renamed_gap hfeed hy (run_functionGap hgap) hn h₁.symm hr
      have hends' := hword ("export".toList ++ r)
      rw [he] at hends'
      rw [List.append_assoc, he]
      exact ⟨name', .function hgap hends' hn'⟩
  | @asyncFunction gap₁ gap₂ _ after hne hgap₁ hgap₂ hends hn =>
      obtain ⟨v₁, rfl, h₁, hfeed₁⟩ := split_feed hv (by decide) ht
      obtain ⟨a, rfl, ha⟩ := split_gap hy.nameEnds_eq_false (run_spaces hgap₁) h₁.symm
      -- the word `function` is read in front, since no new text starts with it
      have ha_ne : a ≠ [] := by
        rintro rfl
        have hword : word? "function".toList y = none := hy.word?_eq_none (by decide) (by decide)
        rw [List.nil_append] at ha
        rw [← ha, word?_append hends] at hword
        exact nomatch hword
      obtain ⟨v₂, rfl, h₂, hfeed₂, hword⟩ :=
        split_word (hfeed₁.suffix ha_ne) (by decide) hends ha.symm
      obtain ⟨name', after', he, hn'⟩ :=
        exists_renamed_gap hfeed₂ hy (run_functionGap hgap₂) hn h₂.symm hr
      have hends' := hword ("export".toList ++ r)
      rw [he] at hends'
      simp only [List.append_assoc]
      rw [he]
      exact ⟨name', .asyncFunction hne hgap₁ hgap₂ hends' hn'⟩
  | @classNamed gap _ after hne hgap hn =>
      obtain ⟨v₁, rfl, h₁, hfeed⟩ := split_feed hv (by decide) ht
      obtain ⟨name', after', he, hn'⟩ :=
        exists_renamed_gap hfeed hy (run_spaces hgap) hn h₁.symm hr
      rw [List.append_assoc, he]
      exact ⟨name', .classNamed hne hgap hn'⟩

/-- A statement ends in front of a line end, or at it. -/
theorem StatementEnd.of_feed (hv : EndsFeed v) (h : StatementEnd (v ++ y)) (z : Text) :
    StatementEnd (v ++ z) := by
  obtain ⟨w, r, he, hw, hr⟩ := h
  obtain ⟨a, rfl, rfl, hfeed⟩ := split_feed hv (not_mem_of_run (by decide) hw) he
  refine ⟨w, a ++ z, List.append_assoc _ _ _, hw, Or.inr ?_⟩
  refine exists_end_append hfeed.ne_nil ?_ hr z
  rintro rfl
  exact absurd hfeed.mem (by decide)

theorem WordClause.renamed (hv : EndsFeed v) (hy : Fenced q y) (hr : nameEnds r = true)
    (h : WordClause (v ++ y) e rest) :
    ∃ e' rest', WordClause (v ++ ("export".toList ++ r)) e' rest' := by
  generalize ht : v ++ y = t at h
  cases h with
  | declaration hd =>
      rw [← ht] at hd
      obtain ⟨name', hd'⟩ := hd.renamed hv hy hr
      exact ⟨_, _, .declaration hd'⟩
  | @binding word gap name rest hvariable hne hgap hn =>
      have hword := (isName_iff.mp (declaresVariable_iff hvariable).1).2
      obtain ⟨v₁, rfl, h₁, hfeed⟩ := split_feed hv (not_mem_of_run (by decide) hword) ht
      obtain ⟨name', after', he, hn'⟩ :=
        exists_renamed_gap hfeed hy (run_spaces hgap) hn h₁.symm hr
      rw [List.append_assoc, he]
      exact ⟨_, _, .binding hvariable hne hgap hn'⟩
  | @identifier name rest hn hno hend =>
      obtain ⟨v₁, rfl, rfl, hfeed, hends⟩ :=
        split_word hv (not_mem_of_run (by decide) (isName_iff.mp hn.1).2) hn.2 ht
      rw [List.append_assoc]
      exact ⟨_, _, .identifier ⟨hn.1, hends _⟩ hno (hend.of_feed hfeed _)⟩

/-- The word `export` shows a value, and in front of a line end the same one is shown. -/
theorem shown_renamed (ha : a ≠ [] → EndsFeed a) (h : (firstLine (a ++ y)).trimEnd ≠ []) :
    (firstLine (a ++ ("export".toList ++ r))).trimEnd ≠ [] := by
  cases a with
  | nil =>
      intro hnil
      have hblank := trimEnd_eq_nil_iff.mp hnil 'e' List.mem_cons_self
      exact absurd hblank (by decide)
  | cons d a =>
      obtain ⟨u, hu⟩ := ha (List.cons_ne_nil _ _)
      rw [hu, List.append_assoc] at h ⊢
      rw [List.singleton_append, firstLine_append_feed] at h ⊢
      exact h

/-- The word `from` and its path are read in front of a fenced text. -/
theorem split_from_fenced {w gap₁ gap₂ : Text} {p : PathLiteral} (hv : EndsFeed v)
    (hn : Run isListChar n) (hc : Fence c) (hw : c ∉ w) (h₁ : Spaces gap₁) (h₂ : Spaces gap₂)
    (hp : p.WellFormed)
    (h : v ++ (n ++ c :: x) = w ++ (gap₁ ++ (fromWord ++ (gap₂ ++ (p.written ++ rest))))) :
    ∃ a, v = w ++ (gap₁ ++ (fromWord ++ (gap₂ ++ (p.written ++ a)))) := by
  have hunquoted := unquoted_of_isListChar hn
  have hends : PathsEnd (v ++ n) c x := (hv.sealed hunquoted).pathsEnd hc x
  rw [← List.append_assoc] at h
  obtain ⟨a, ha, -⟩ := split_from hc hw h₁ h₂ hp hends h
  have hassoc (a : Text) : w ++ (gap₁ ++ (fromWord ++ (gap₂ ++ (p.written ++ a)))) =
      (w ++ (gap₁ ++ (fromWord ++ gap₂))) ++ (p.written ++ a) := by
    simp only [List.append_assoc]
  rw [hassoc] at ha
  obtain ⟨a', rfl, -⟩ := split_unquoted hp hunquoted ha
  exact ⟨a', (hassoc a').symm⟩

/-- A list is read in front of a fenced text. -/
theorem split_list_fenced {b : ListSyntax} (hv : EndsFeed v) (hn : Run isListChar n) (hc : Fence c)
    (hb : b.Fits) (h : v ++ (n ++ c :: x) = b.text ++ rest) :
    ∃ a, v = b.text ++ a ∧ rest = a ++ (n ++ c :: x) ∧ EndsFeed a := by
  have htext : b.text = ('\x7b' :: b.body) ++ ['\x7d'] := rfl
  rw [← List.append_assoc] at h
  obtain ⟨a₁, h₁, rfl⟩ := split_fence (hc.not_mem_list hb) h
  rw [htext] at h₁ ⊢
  obtain ⟨a, rfl, rfl⟩ := split_closed (not_mem_of_run (by decide) hn) h₁
  refine ⟨a, rfl, List.append_assoc _ _ _, hv.suffix ?_⟩
  rintro rfl
  obtain ⟨u, hu⟩ := hv
  rw [List.append_nil] at hu
  exact absurd (List.append_inj_right' hu rfl) (by decide)

/-- The word `from` does not follow when `export` comes to stand behind a line end. -/
theorem no_from_renamed (ha : EndsFeed a)
    (hno : ∀ w u, Spaces w → nameEnds u = true → a ++ y ≠ w ++ (fromWord ++ u)) (w u : Text)
    (hw : Spaces w) (hu : nameEnds u = true) :
    a ++ ("export".toList ++ r) ≠ w ++ (fromWord ++ u) := by
  intro he
  obtain ⟨a₁, rfl, h₁⟩ := split_gap (y := "export".toList ++ r) rfl (run_spaces hw) he
  have hne : a₁ ≠ [] := by
    rintro rfl
    exact absurd (List.cons.inj h₁).1 (by decide)
  obtain ⟨a₂, rfl, rfl, -, hends⟩ := split_word (ha.suffix hne) (by decide) hu h₁.symm
  refine hno w (a₂ ++ y) hw (hends y) ?_
  simp only [List.append_assoc]

theorem Clause.renamed (hv : EndsFeed v) (hy : Fenced isListChar y) (hr : nameEnds r = true)
    (h : Clause gap (v ++ y) e rest) :
    ∃ e' rest', Clause gap (v ++ ("export".toList ++ r)) e' rest' := by
  obtain ⟨n, c, x, hyn, hn, hc⟩ := hy.exists_run fun c hname => by simp [isListChar, hname]
  generalize ht : v ++ y = t at h
  cases h with
  | @default gap₁ value hgap₁ hstop hends hne =>
      obtain ⟨v₁, rfl, h₁, hfeed, hword⟩ := split_word hv (by decide) hends ht
      obtain ⟨a, rfl, rfl⟩ := split_gap hy.nameEnds_eq_false (run_spaces hgap₁) h₁.symm
      have hends' := hword ("export".toList ++ r)
      have hstop' : Stops isSpace (a ++ ("export".toList ++ r)) := by
        cases a with
        | nil => exact stops_cons.mpr (by decide)
        | cons d a => exact hstop
      simp only [List.append_assoc] at hends' ⊢
      exact ⟨_, _, .default hgap₁ hstop' hends' (shown_renamed hfeed.suffix hne)⟩
  | @list b rest hb hno =>
      rw [hyn] at ht
      obtain ⟨a, rfl, rfl, hfeed⟩ := split_list_fenced hv hn hc hb ht
      rw [List.append_assoc]
      exact ⟨_, _, .list hb (no_from_renamed hfeed hno)⟩
  | @listFrom b gap₁ gap₂ p rest hb h₁ h₂ hp =>
      rw [hyn] at ht
      obtain ⟨a, rfl⟩ := split_from_fenced hv hn hc (hc.not_mem_list hb) h₁ h₂ hp ht
      simp only [List.append_assoc]
      exact ⟨_, _, .listFrom hb h₁ h₂ hp⟩
  | @star d gap₁ gap₂ p rest hd h₁ h₂ hp =>
      rw [hyn] at ht
      obtain ⟨a, rfl⟩ := split_from_fenced hv hn hc (hc.not_mem_star hd) h₁ h₂ hp ht
      simp only [List.append_assoc]
      exact ⟨_, _, .star hd h₁ h₂ hp⟩
  | worded hgap hw =>
      rw [← ht] at hw
      obtain ⟨e', rest', hw'⟩ := hw.renamed hv hy hr
      exact ⟨e', rest', .worded hgap hw'⟩

/-- An export in front of a fenced text is one in front of the word `export` too, unless nothing
    but spaces stands between the word and the fenced text. -/
theorem Derives.renamed (hv : EndsFeed v) (hy : Fenced isListChar y) (hr : nameEnds r = true)
    (h : Derives (v ++ y) e rest) :
    (∃ gap, EndsFeed gap ∧ Spaces gap ∧ v = "export".toList ++ gap) ∨
      ∃ e' rest', Derives (v ++ ("export".toList ++ r)) e' rest' := by
  obtain ⟨gap, body, ht, hends, hgap, hbody, hclause⟩ := h
  obtain ⟨v₁, rfl, h₁, hfeed, hword⟩ := split_word hv (by decide) hends ht
  obtain ⟨a, rfl, rfl⟩ := split_gap hy.nameEnds_eq_false (run_spaces hgap) h₁.symm
  cases a with
  | nil =>
      rw [List.append_nil] at hfeed
      exact Or.inl ⟨gap, hfeed, hgap, by rw [List.append_nil]⟩
  | cons d a =>
      obtain ⟨e', rest', hclause'⟩ :=
        hclause.renamed (hfeed.suffix (List.cons_ne_nil _ _)) hy hr
      have hends' := hword ("export".toList ++ r)
      rw [List.append_assoc] at hends'
      refine Or.inr ⟨e', rest', gap, _, ?_, hends', hgap, hbody, hclause'⟩
      simp only [List.append_assoc]

end Export

end RequireForm
