import RequireForm.Proofs.Transform.Sketch

/-!
# Path text — a rule changes the text of paths, and nothing else

What becomes of a source is a row of fragments: text that depends on the source alone, and the
paths that are written in the source, each changed once between its quotes. The second pass
reads a text in which paths have been changed already; it goes from one open path to the next,
and whatever stands in a path, no export reads into it and none starts in it.

  1. `CutsTo`, `exists_cutsTo`: the second pass up to the parenthesis in front of a path.
  2. `Sketch.exists_fragments`: the second pass over a sketch, by induction on the open paths.
  3. `transform_eq_fill`: both passes over a source, for all options at once.
-/

namespace RequireForm

open Text

variable {r : PathRule} {source t u w rest : Text} {p : PathLiteral} {n : Nat} {b : Bool}
  {e : Export} {ps : List (Piece Export)}

/-! ## Exports up to the line shown of a default -/

namespace Export

theorem lines_outline (e : Export) (n : Nat) : e.outline.lines n = e.lines n := by
  cases e <;> rfl

theorem path?_outline (e : Export) : e.outline.path? = e.path? := by
  cases e <;> rfl

theorem isStar_outline (e : Export) : e.outline.isStar = e.isStar := by
  cases e <;> rfl

end Export

namespace Piece

/-- A piece up to the line that is shown of a default. -/
def outline : Piece Export → Piece Export
  | .kept c => .kept c
  | .statement w e => .statement w e.outline

theorem statements_outline (ps : List (Piece Export)) :
    statements (ps.map outline) = (statements ps).map Export.outline := by
  induction ps with
  | nil => rfl
  | cons piece ps ih =>
      cases piece with
      | kept c => exact ih
      | statement w e => exact congrArg (e.outline :: ·) ih

end Piece

theorem exportFragments_outline (n : Nat) (ps : List (Piece Export)) :
    exportFragments n (ps.map Piece.outline) = exportFragments n ps := by
  induction ps generalizing n with
  | nil => rfl
  | cons piece ps ih =>
      cases piece with
      | kept c => exact congrArg (.text [c] :: ·) (ih n)
      | statement w e =>
          show (Line.under (e.outline.lines n)).fragments e.outline.path? ++
            exportFragments (if e.outline.isStar then n + 1 else n) (ps.map Piece.outline) = _
          rw [e.lines_outline, e.path?_outline, e.isStar_outline, ih]
          rfl

theorem stars_outline (ps : List (Piece Export)) : stars (ps.map Piece.outline) = stars ps := by
  rw [stars, Piece.statements_outline, List.countP_map]
  exact List.countP_congr fun e _ => by rw [Function.comp_apply, e.isStar_outline]

/-! ## Whose paths the fragments are -/

/-- The paths of the statements are written in a text. -/
def PathsIn (t : Text) (ps : List (Piece Export)) : Prop :=
  ∀ e ∈ Piece.statements ps, ∀ p, e.path? = some p → p.WellFormed ∧ p.written <:+: t

theorem mem_fragments {path? : Option PathLiteral} {l : Line}
    (h : Fragment.path p ∈ l.fragments path?) : path? = some p := by
  induction l with
  | nil => exact nomatch h
  | cons part l ih =>
      cases part with
      | text t =>
          rcases List.mem_cons.mp h with h | h
          · exact nomatch h
          · exact ih h
      | call =>
          rcases List.mem_append.mp h with h | h
          · cases path? with
            | none => exact nomatch h
            | some q =>
                have hq : p = q := by simpa [Fragment.call] using h
                rw [hq]
          · exact ih h

theorem mem_exportFragments (h : Fragment.path p ∈ exportFragments n ps) :
    ∃ e ∈ Piece.statements ps, e.path? = some p := by
  induction ps generalizing n with
  | nil => exact nomatch h
  | cons piece ps ih =>
      cases piece with
      | kept c =>
          rcases List.mem_cons.mp h with h | h
          · exact nomatch h
          · exact ih h
      | statement w e =>
          rcases List.mem_append.mp h with h | h
          · exact ⟨e, List.mem_cons_self, mem_fragments h⟩
          · obtain ⟨e', he', hp⟩ := ih h
            exact ⟨e', List.mem_cons_of_mem _ he', hp⟩

theorem PathsIn.nil : PathsIn t [] := fun _ he => nomatch he

theorem PathsIn.kept {c : Char} (h : PathsIn t ps) : PathsIn (c :: t) (.kept c :: ps) := by
  intro e he p hp
  obtain ⟨hwf, hin⟩ := h e he p hp
  exact ⟨hwf, hin.trans (List.suffix_cons _ _).isInfix⟩

theorem PathsIn.statement (hw : ∀ p, e.path? = some p → p.WellFormed ∧ p.written <:+: w)
    (h : PathsIn t ps) : PathsIn (w ++ t) (.statement w e :: ps) := by
  intro e' he p hp
  rcases List.mem_cons.mp he with rfl | he
  · obtain ⟨hwf, hin⟩ := hw p hp
    exact ⟨hwf, hin.trans (List.prefix_append _ _).isInfix⟩
  · obtain ⟨hwf, hin⟩ := h e' he p hp
    exact ⟨hwf, hin.trans (List.suffix_append _ _).isInfix⟩

theorem pathsIn_of_cuts (h : Piece.Cuts Export.read? b t ps) : PathsIn t ps := by
  induction h with
  | done => exact .nil
  | kept _ _ ih => exact ih.kept
  | statement _ hread _ ih =>
      have hd := Export.read?_eq_some_iff.mp hread
      exact ih.statement fun p hp => hd.path_infix hp

/-! ## The second pass up to a path -/

/-- Up to the parenthesis behind `u`, the second pass finds `qs`, whatever comes behind. -/
def CutsTo (b : Bool) (u : Text) (qs : List (Piece Export)) : Prop :=
  ∀ x, ∃ ps, Piece.cut Export.read? b 0 (u ++ '(' :: x) = ps ++ Piece.cut Export.read? false 0 x ∧
    ps.map Piece.outline = qs

theorem CutsTo.nil (b : Bool) : CutsTo b [] [.kept '('] := by
  intro x
  have hno : Export.read? ('(' :: x) = none :=
    Export.read?_eq_none_of_word? (word?_cons_eq_none (by decide))
  exact ⟨[.kept '('], Piece.cut_kept_char fun _ => hno, rfl⟩

theorem CutsTo.kept {c : Char} {qs : List (Piece Export)}
    (hno : b = true → ∀ x, Export.read? (c :: (u ++ '(' :: x)) = none)
    (h : CutsTo (c = '\n') u qs) : CutsTo b (c :: u) (.kept c :: qs) := by
  intro x
  obtain ⟨ps, hps, hout⟩ := h x
  refine ⟨.kept c :: ps, ?_, ?_⟩
  · rw [List.cons_append, Piece.cut_kept_char fun hb => hno hb x, hps]
    rfl
  · rw [List.map_cons, hout]
    rfl

theorem CutsTo.statement {qs : List (Piece Export)} (hne : w ≠ [])
    (hsame : ∀ x, ∃ e', Export.Derives (w ++ u ++ '(' :: x) e' (u ++ '(' :: x) ∧
      e'.outline = e.outline)
    (h : CutsTo (endsLine true w) u qs) : CutsTo true (w ++ u) (.statement w e.outline :: qs) := by
  intro x
  obtain ⟨e', hd, he⟩ := hsame x
  obtain ⟨ps, hps, hout⟩ := h x
  refine ⟨.statement w e' :: ps, ?_, ?_⟩
  · rw [List.append_assoc] at hd ⊢
    rw [Piece.cut_statement hne (Export.read?_eq_some_iff.mpr hd), hps]
    rfl
  · rw [List.map_cons, hout, Piece.outline, he]

/-- Behind a sealed text there is such a cut, and it finds no path that is not in the text. -/
theorem exists_cutsTo (hu : Sealed u) (b : Bool) : ∃ qs, CutsTo b u qs ∧ PathsIn u qs := by
  induction hn : u.length using Nat.strong_induction_on generalizing b u with
  | _ n ih =>
      cases u with
      | nil => exact ⟨_, CutsTo.nil b, PathsIn.nil⟩
      | cons c u =>
          have hkept (hno : b = true → ∀ x, Export.read? (c :: (u ++ '(' :: x)) = none) :
              ∃ qs, CutsTo b (c :: u) qs ∧ PathsIn (c :: u) qs := by
            obtain ⟨qs, hcut, hqs⟩ := ih u.length (by simp [← hn]) hu.2 (c = '\n') rfl
            exact ⟨_, hcut.kept hno, hqs.kept⟩
          cases b with
          | false => exact hkept fun h => nomatch h
          | true =>
              -- one continuation with an export here is enough to know them all
              by_cases hex : ∃ x r, Export.read? (c :: u ++ '(' :: x) = some r
              · obtain ⟨x, ⟨e, rest⟩, hread⟩ := hex
                have hd := Export.read?_eq_some_iff.mp hread
                obtain ⟨w, v, hw, rfl, hsame⟩ := hd.fence (by decide) (hu.pathsEnd (by decide) _)
                rw [hw] at hn hu hd hread hsame ⊢
                -- the statement holds the word `export` at least
                have hne : w ≠ [] := by
                  obtain ⟨w', hne, hs⟩ := Export.consumes_read? hread
                  rw [List.append_assoc] at hs
                  rwa [List.append_cancel_right hs]
                have hpos := List.length_pos_iff.mpr hne
                have hlt : v.length < n := by
                  rw [← hn, List.length_append]
                  omega
                obtain ⟨qs, hcut, hqs⟩ := ih v.length hlt hu.suffix (endsLine true w) rfl
                refine ⟨_, hcut.statement hne hsame, hqs.statement fun p hp => ?_⟩
                rw [e.path?_outline] at hp
                rw [List.append_assoc] at hd
                exact hd.path_infix hp
              · refine hkept fun _ x => ?_
                rw [Option.eq_none_iff_forall_ne_some]
                exact fun r hr => hex ⟨x, r, hr⟩

/-! ## The second pass over a sketch -/

/-- The rule changes every path among the fragments to text on one line. -/
def OneLine (r : PathRule) (fs : List Fragment) : Prop :=
  ∀ p, Fragment.path p ∈ fs → '\n' ∉ r.apply p.value

/-- For each rule that keeps paths on one line, the second pass over the text leaves the same
    fragments and finds the same exports. -/
def Leaves (b : Bool) (n : Nat) (k : Sketch) (fs : List Fragment) (es : List Export) : Prop :=
  ∀ r, OneLine r fs →
    let ps := Piece.cut Export.read? b 0 (k.fill r)
    exportPass r n ps = Fragment.fill r fs ∧ (Piece.statements ps).map Export.outline = es

theorem leaves_last (b : Bool) (n : Nat) (t : Text) :
    Leaves b n (.last t) (exportFragments n (Piece.cut Export.read? b 0 t))
      ((Piece.statements (Piece.cut Export.read? b 0 t)).map Export.outline) :=
  fun _ _ => ⟨(fill_exportFragments _ _).symm, rfl⟩

/-- Behind a path the second pass goes on in the middle of a line. -/
theorem Leaves.hole {k : Sketch} {qs : List (Piece Export)} {fs : List Fragment} {es : List Export}
    (hp : p.WellFormed) (hcut : CutsTo b u qs) (h : Leaves false (n + stars qs) k fs es) :
    Leaves b n (.hole (u ++ ['(']) p k) (exportFragments n qs ++ .path p :: fs)
      (Piece.statements qs ++ es) := by
  intro r hline
  have hpath : '\n' ∉ p.quoting (r.apply p.value) :=
    hp.not_mem_quoting (by decide) (hline p (List.mem_append_right _ List.mem_cons_self))
  have hrest : OneLine r fs := fun q hq =>
    hline q (List.mem_append_right _ (List.mem_cons_of_mem _ hq))
  obtain ⟨hfill, hfound⟩ := h r hrest
  -- what comes behind the parenthesis is the path and the rest of the sketch
  obtain ⟨ps, hps, rfl⟩ := hcut (p.quoting (r.apply p.value) ++ k.fill r)
  have hall : Piece.cut Export.read? b 0 ((Sketch.hole (u ++ ['(']) p k).fill r)
      = ps ++ ((p.quoting (r.apply p.value)).map .kept ++
          Piece.cut Export.read? false 0 (k.fill r)) := by
    rw [← Piece.cut_line hpath, ← hps, Sketch.fill, List.append_assoc]
    rfl
  refine ⟨?_, ?_⟩
  · rw [hall, exportPass_append, exportPass_append, exportPass_kept, stars_kept, Nat.add_zero,
      ← stars_outline, hfill, ← fill_exportFragments, exportFragments_outline,
      Fragment.fill_append]
    rfl
  · rw [hall, Piece.statements_append, Piece.statements_append, Piece.statements_kept,
      List.nil_append, List.map_append, hfound, Piece.statements_outline]

/-- The second pass over a sketch leaves fragments whose paths are written in the source. -/
theorem Sketch.exists_leaves {k : Sketch} (hk : k.Shielded source) (b : Bool) (n : Nat) :
    ∃ fs es, Leaves b n k fs es ∧
      ∀ p, Fragment.path p ∈ fs → p.WellFormed ∧ p.written <:+: source := by
  have hpaths {t : Text} {qs : List (Piece Export)} {n : Nat} (hown : OwnPaths source t)
      (hqs : PathsIn t qs) {p : PathLiteral} (hp : Fragment.path p ∈ exportFragments n qs) :
      p.WellFormed ∧ p.written <:+: source := by
    obtain ⟨e, he, hep⟩ := mem_exportFragments hp
    obtain ⟨hwf, hin⟩ := hqs e he p hep
    exact ⟨hwf, hown p hwf hin⟩
  induction k generalizing b n with
  | last t =>
      have hqs : PathsIn t (Piece.cut Export.read? b 0 t) :=
        pathsIn_of_cuts (Piece.cuts_cut Export.consumes_read?)
      exact ⟨_, _, leaves_last b n t, fun p hp => hpaths hk hqs hp⟩
  | hole t q next ih =>
      obtain ⟨⟨u, rfl, hseal⟩, hown, ⟨hq, hin⟩, hnext⟩ := hk
      obtain ⟨qs, hcut, hqs⟩ := exists_cutsTo hseal b
      obtain ⟨fs, es, hleaves, hfs⟩ := ih hnext false (n + stars qs)
      have hown' : OwnPaths source u := fun p hp h =>
        hown p hp (h.trans (List.prefix_append _ _).isInfix)
      refine ⟨_, _, hleaves.hole hq hcut, fun p hp => ?_⟩
      rcases List.mem_append.mp hp with hp | hp
      · exact hpaths hown' hqs hp
      · rcases List.mem_cons.mp hp with hp | hp
        · obtain rfl := Fragment.path.inj hp
          exact ⟨hq, hin⟩
        · exact hfs p hp

/-! ## Both passes -/

/-- Without options no path is changed. -/
theorem apply_ofOptions_default (value : Text) : (PathRule.ofOptions {}).apply value = value := rfl

/-- The exports that the second pass finds, up to the line that is shown of a default. -/
def foundExports (r : PathRule) (source : Text) : List Export :=
  (Piece.statements (Export.pieces (afterImports r source))).map Export.outline

theorem transform_eq_of_leaves {o : Options} {fs : List Fragment} {es : List Export}
    (h : Leaves true 0 (importSketch (Import.pieces source)) fs es)
    (hline : OneLine (.ofOptions o) fs) :
    transform o source = ⟨Fragment.fill (.ofOptions o) fs,
        ⟨(Piece.statements (Import.pieces source)).length, es.length, es.countP Export.isStar⟩⟩ ∧
      foundExports (.ofOptions o) source = es := by
  have hpass := h (.ofOptions o) hline
  simp only [fill_importSketch] at hpass
  obtain ⟨hfill, hfound⟩ := hpass
  have hexports : Export.pieces (afterImports (.ofOptions o) source)
      = Piece.cut Export.read? true 0 (importPass (.ofOptions o) (Import.pieces source)) := rfl
  rw [← hexports] at hfill hfound
  have hstars : es.countP Export.isStar
      = (Piece.statements (Export.pieces (afterImports (.ofOptions o) source))).countP
          Export.isStar := by
    rw [← hfound, List.countP_map]
    exact List.countP_congr fun e _ => by rw [Function.comp_apply, e.isStar_outline]
  have hlength : es.length
      = (Piece.statements (Export.pieces (afterImports (.ofOptions o) source))).length := by
    rw [← hfound, List.length_map]
  refine ⟨?_, hfound⟩
  rw [hstars, hlength, ← hfill]
  rfl

/-- The output is made of text that no option has a say in, and of the paths written in the
    source, each changed once. As long as no path is changed to several lines, the same
    statements are recognized as without options. -/
theorem transform_eq_fill (source : Text) :
    ∃ fs : List Fragment,
      (∀ p, Fragment.path p ∈ fs → p.WellFormed ∧ p.written <:+: source) ∧
      ∀ o : Options,
        (∀ p, Fragment.path p ∈ fs → '\n' ∉ (PathRule.ofOptions o).apply p.value) →
          transform o source
              = ⟨Fragment.fill (.ofOptions o) fs, (transform {} source).report⟩ ∧
            foundExports (.ofOptions o) source = foundExports (.ofOptions {}) source := by
  have hguard : (importSketch (Import.pieces source)).Shielded source :=
    (fromSource_importSketch (Piece.cuts_cut Import.consumes_read?)).shielded
  obtain ⟨fs, es, hleaves, hpaths⟩ := Sketch.exists_leaves hguard true 0
  have hnone : OneLine (.ofOptions {}) fs := by
    intro p hp hm
    rw [apply_ofOptions_default] at hm
    exact (hpaths p hp).1.not_mem_value hm
  refine ⟨fs, hpaths, fun o hline => ?_⟩
  obtain ⟨hout, hfound⟩ := transform_eq_of_leaves hleaves hline
  obtain ⟨hout', hfound'⟩ := transform_eq_of_leaves hleaves hnone
  rw [hout, hout', hfound, hfound']
  exact ⟨rfl, rfl⟩

end RequireForm
