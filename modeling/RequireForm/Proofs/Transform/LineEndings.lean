import RequireForm.Proofs.Source.LineEndings
import RequireForm.Proofs.Transform.NewText

/-!
# Line endings — a source is transformed the same with either kind

    source      import a from 'a' \r\n     import a from 'a' \n
    between     const a = ..      \r\n     const a = ..      \n
    output      ..                \r\n     ..                \n

Both recognizers find the same without the carriage returns. The new texts hold none, so what
the second pass reads is paired again, whatever the first one has put into it.

  1. `Import.steady_read`, `Export.steady_read`: the recognizers, reader by reader.
  2. `Import.not_mem_require`, `Export.not_mem_require`: new texts hold no carriage return.
  3. `Changed.paired_result`: a pass leaves carriage returns with their line feeds.
  4. `line_endings_agree`: sources that differ in their line endings.
-/

namespace RequireForm

open Text

variable {s t w rest : Text} {r : PathRule} {n : Nat} {b : Bool}

/-! ## Imports -/

namespace Import

theorem steady_starName : Steady starName? :=
  .skip <| (steadyStep_word (by decide)).orElse (.found none) (steady_name.skip.map some)

theorem steady_secondBinding (default : Text) : Steady (secondBinding? default) := by
  refine .head (c := '*') (by decide) (steady_starName.map (.defaultAndStar default))
    (steady_list.map (.defaultAndNamed default)) (fun _ => rfl) fun t ht => ?_
  unfold secondBinding?
  split
  · next s => exact absurd rfl (ht s)
  · rfl

/-- What is bound besides the name that has been read. -/
def afterName? (name t : Text) : Option (ImportBinding × Text) :=
  match skipSpaces t with
  | ',' :: s => secondBinding? name (skipSpaces s)
  | _ => some (.default name, t)

theorem steady_afterName (name : Text) : Steady (afterName? name) := by
  refine ((steadyStep_past ',').orElse (.found (.default name))
    (steady_secondBinding name).skip).congr fun t => ?_
  rw [afterName?, past?]
  cases skipSpaces t with
  | nil => rfl
  | cons c s =>
      by_cases hc : c = ','
      · subst hc
        rfl
      · simp [hc]

/-- What is bound if it is no star. -/
def unstarred? : Text → Option (ImportBinding × Text)
  | '\x7b' :: s => (Specifier.list? ('\x7b' :: s)).map fun (items, s) => (.named items, s)
  | t => (name? t).bind fun (name, t) => afterName? name t

theorem steady_unstarred : Steady unstarred? := by
  refine .head (c := '\x7b') (by decide) (steady_list.map ImportBinding.named |>.behind (by decide))
    (steady_name.bind steady_afterName) (fun _ => rfl) fun t ht => ?_
  unfold unstarred?
  split
  · exact absurd rfl (ht _)
  · rfl

theorem steady_binding : Steady binding? := by
  refine .head (c := '*') (by decide) (steady_starName.map .star) steady_unstarred
    (fun _ => rfl) fun t ht => ?_
  unfold binding? unstarred?
  split
  · exact absurd rfl (ht _)
  · rfl
  · next hbrace =>
      split
      · exact absurd rfl (hbrace _)
      · rfl

theorem pathAhead_bare (h : Paired t) : pathAhead (bare t) = pathAhead t := by
  cases t with
  | nil => rfl
  | cons c t =>
      by_cases hc : c = '\r'
      · subst hc
        obtain ⟨u, rfl⟩ := h.exists_feed
        rfl
      · rw [bare_cons hc]
        rfl

/-- What follows the word `from`. -/
theorem steady_fromPath {α : Type} (k : PathLiteral → α) :
    Steady fun t => (word? "from".toList t).bind fun t =>
      (PathLiteral.read? (skipSpaces t)).bind fun (p, t) => some (k p, t) :=
  (steadyStep_word (by decide)).bind (Steady.skip (steady_path.bind fun p => .found (k p)))

theorem steady_read : Steady read? :=
  (steadyStep_word (w := "import".toList) (by decide)).bind <| steadyStep_spaces.bind <|
    .ite pathAhead_bare (steady_path.bind fun p => .found (⟨.effects, p⟩ : Import)) <|
      steady_binding.bind fun x => .skip (steady_fromPath fun p => (⟨x, p⟩ : Import))

end Import

/-! ## Exports -/

namespace Export

/-- The value of a default, behind the spaces in front of it. -/
def value? (t : Text) : Option (Export × Text) :=
  match (firstLine t).trimEnd with
  | [] => none
  | value => some (.default value, t)

theorem steady_default : Steady default? := by
  refine .skip (f := value?) ⟨fun ht => ?_, fun ht h => ?_⟩
  · rw [value?, value?, trimEnd_firstLine_bare ht]
    split
    · rfl
    · rfl
  · rw [value?] at h
    split at h
    · cases h
    · obtain ⟨-, rfl⟩ := Prod.mk.inj (Option.some.inj h)
      exact ht

theorem steady_named : Steady named? :=
  steady_list.bind fun items => (steadyStep_word (by decide)).skip.orElse
    (.found (Export.named items none))
    (Steady.skip (steady_path.bind fun p => .found (Export.named items (some p))))

theorem steady_starName : Steady starName? := by
  have hname := steady_name.skip.bind fun name => Steady.skip (.found (some name))
  exact (steadyStep_word (by decide)).orElse (.found none)
    (hname.congr fun t => Option.map_eq_bind)

theorem steady_star : Steady star? :=
  steady_starName.skip.bind fun name => Import.steady_fromPath (Export.star name)

/-- A generator has a star in front of its name. -/
theorem steady_functionName :
    Steady fun t => name? (skipSpaces (skipStar (skipSpaces t))) := by
  refine .skip (f := fun t => name? (skipSpaces (skipStar t))) ?_
  refine .head (c := '*') (by decide) steady_name.skip steady_name.skip (fun _ => rfl)
    fun t ht => ?_
  rw [skipStar]
  exact fun s hs => ht s hs

theorem functionName?_bare (h : Paired t) : functionName? (bare t) = functionName? t :=
  steady_functionName.map_fst h

theorem asyncName?_bare (h : Paired t) : asyncName? (bare t) = asyncName? t :=
  steadyStep_spaces.bind_value (fun hu => (steadyStep_word (w := "function".toList)
    (by decide)).bind_value functionName?_bare hu) h

theorem className?_bare (h : Paired t) : className? (bare t) = className? t := by
  refine steadyStep_spaces.bind_value (fun {u} hu => ?_) h
  refine (Option.map_eq_bind (f := Prod.fst)).symm.trans ?_
  exact (steady_name.map_fst hu).trans Option.map_eq_bind

theorem steady_binding : Steady binding? :=
  steadyStep_spaces.bind (steady_name.bind fun name => .found (Export.binding name))

/-- A worded clause ends where it starts, or behind its first words. -/
theorem suffix_of_worded? {e : Export} (h : worded? t = some (e, rest)) : rest <:+ t := by
  cases hname : name? t with
  | none =>
      rw [worded?, hname] at h
      cases h
  | some found =>
      obtain ⟨first, u⟩ := found
      obtain ⟨rfl, hn, hends⟩ := name?_eq_some_iff.mp hname
      have hwhole {name? : Option Text}
          (h : name?.map (fun name => (Export.declaration name, first ++ u)) = some (e, rest)) :
          rest <:+ first ++ u := by
        obtain ⟨name, -, he⟩ := Option.map_eq_some_iff.mp h
        exact (Prod.mk.inj he).2 ▸ List.suffix_refl _
      rw [worded?_of_name ⟨hn, hends⟩] at h
      split at h
      · exact hwhole h
      split at h
      · exact hwhole h
      split at h
      · exact hwhole h
      split at h
      · obtain ⟨v, hv, hb⟩ := Option.bind_eq_some_iff.mp h
        obtain ⟨w, -, -, -, rfl⟩ := spaces?_eq_some_iff.mp hv
        obtain ⟨⟨name, v'⟩, hname', he⟩ := Option.bind_eq_some_iff.mp hb
        obtain ⟨rfl, -⟩ := name?_eq_some_iff.mp hname'
        obtain ⟨-, rfl⟩ := Prod.mk.inj (Option.some.inj he)
        exact ((List.suffix_append name v').trans (List.suffix_append w _)).trans
          (List.suffix_append first _)
      split at h
      · obtain ⟨-, rfl⟩ := Prod.mk.inj (Option.some.inj h)
        exact List.suffix_append first u
      · cases h

theorem steady_worded : Steady worded? := by
  have hnone {t : Text} (h : name? t = none) : worded? t = none := by
    rw [worded?, h]
    rfl
  refine ⟨fun {t} ht => ?_, fun {t e rest} ht h => ?_⟩
  · cases hname : name? t with
    | none =>
        have hname' : name? (bare t) = none := by
          rw [steady_name.bare ht, hname]
          rfl
        rw [hnone hname, hnone hname']
        rfl
    | some found =>
        obtain ⟨first, rest⟩ := found
        obtain ⟨rfl, hn, hends⟩ := name?_eq_some_iff.mp hname
        have hrest : Paired rest := ht.of_append
        have hself : bare first = first := bare_eq_self fun hm =>
          absurd ((isName_iff.mp hn).2 _ hm) (by decide)
        have hends' : nameEnds (bare rest) = true := by rwa [nameEnds_bare hrest]
        -- the same word is read first, and it decides both times
        rw [bare_append, hself, worded?_of_name ⟨hn, hends'⟩, worded?_of_name ⟨hn, hends⟩,
          functionName?_bare hrest, asyncName?_bare hrest, className?_bare hrest,
          statementEnds_bare hrest, steady_binding.bare hrest]
        simp only [apply_ite (Option.map _), Option.map_map, Function.comp_def, Option.map_some,
          Option.map_none, bare_append, hself]
  · obtain ⟨w, rfl⟩ := suffix_of_worded? h
    exact ht.of_append

/-- What is published other than a default. -/
def notDefault? (spaced : Bool) (t : Text) : Option (Export × Text) :=
  match t with
  | '\x7b' :: s => named? ('\x7b' :: s)
  | '*' :: s => star? s
  | t => if spaced then worded? t else none

/-- What is published if there is no brace. -/
def unbraced? (spaced : Bool) : Text → Option (Export × Text)
  | '*' :: s => star? s
  | t => if spaced then worded? t else none

theorem steady_unbraced (spaced : Bool) : Steady (unbraced? spaced) := by
  have hworded : Steady fun t => if spaced then worded? t else none := by
    cases spaced with
    | true => exact steady_worded
    | false => exact .nothing
  refine .head (c := '*') (by decide) steady_star hworded (fun _ => rfl) fun t ht => ?_
  unfold unbraced?
  split
  · exact absurd rfl (ht _)
  · rfl

theorem steady_notDefault (spaced : Bool) : Steady (notDefault? spaced) := by
  refine .head (c := '\x7b') (by decide) (steady_named.behind (by decide)) (steady_unbraced spaced)
    (fun _ => rfl) fun t ht => ?_
  cases t with
  | nil => rfl
  | cons c s =>
      by_cases hstar : c = '*'
      · subst hstar
        rfl
      · simp [notDefault?, unbraced?, hstar]

theorem steady_publication (spaced : Bool) : Steady (publication? spaced) := by
  refine ((steadyStep_word (w := "default".toList) (by decide)).orElse (steady_notDefault spaced)
    steady_default).congr fun t => ?_
  unfold publication?
  cases word? "default".toList t with
  | some s => rfl
  | none =>
      cases t with
      | nil => rfl
      | cons c s =>
          by_cases hbrace : c = '\x7b'
          · subst hbrace
            rfl
          · by_cases hstar : c = '*'
            · subst hstar
              rfl
            · simp [notDefault?, hbrace, hstar]

theorem steady_read : Steady read? := by
  have hspaced {t : Text} (ht : Paired t) : (spaces? (bare t)).isSome = (spaces? t).isSome := by
    rw [steadyStep_spaces.bare ht, Option.isSome_map]
  refine (steadyStep_word (w := "export".toList) (by decide)).bind ⟨fun ht => ?_, fun ht h => ?_⟩
  · rw [hspaced ht]
    exact (steady_publication _).skip.bare ht
  · exact (steady_publication _).skip.paired ht h

end Export

/-! ## New texts -/

/-- The rule puts no carriage return into a path that has none. -/
def PathRule.KeepsBare (r : PathRule) : Prop := ∀ value, '\r' ∉ value → '\r' ∉ r.apply value

theorem not_mem_join {c : Char} {separator : Text} {ts : List Text} (hs : c ∉ separator)
    (h : ∀ u ∈ ts, c ∉ u) : c ∉ join separator ts := by
  induction ts with
  | nil => exact List.not_mem_nil
  | cons u ts ih =>
      obtain ⟨hu, hts⟩ := List.forall_mem_cons.mp h
      cases ts with
      | nil => exact hu
      | cons v ts =>
          show c ∉ u ++ separator ++ join separator (v :: ts)
          simp only [List.mem_append, hu, hs, ih hts, or_self, not_false_eq_true]

/-- A path that is written in a bare text is bare. -/
theorem PathLiteral.not_mem_of_infix {p : PathLiteral} (h : p.written <:+: bare t) :
    '\r' ∉ p.value := fun hm =>
  not_mem_bare t (h.subset (List.mem_cons_of_mem _ (List.mem_append_left _ hm)))

theorem Import.not_mem_require {i : Import} (hr : r.KeepsBare)
    (h : read? (bare t) = some (i, rest)) : '\r' ∉ i.require r := by
  obtain ⟨d, hd, ht, rfl⟩ := read?_eq_some_iff.mp h
  have hpath : '\r' ∉ d.meaning.path.value := by
    obtain ⟨u, hu⟩ := d.exists_text_eq
    refine PathLiteral.not_mem_of_infix (t := t) ⟨u, rest, ?_⟩
    rw [ht, hu]
  have hcall : '\r' ∉ r.call d.meaning.path :=
    PathRule.not_mem_call (by decide) (ImportSyntax.path_of_fits hd) (hr _ hpath)
  rw [Import.require, ImportBinding.require_eq_fill]
  refine not_mem_join (by decide) fun u hu => ?_
  obtain ⟨line, hline, rfl⟩ := List.mem_map.mp hu
  obtain ⟨hplain, -⟩ := ImportBinding.plain_of_mem_lines (ImportSyntax.named_of_fits hd) hline
  exact Line.not_mem_fill hplain (by decide) hcall

theorem Export.not_mem_require {e : Export} (hr : r.KeepsBare)
    (h : read? (bare t) = some (e, rest)) (n : Nat) : '\r' ∉ e.require r n := by
  obtain ⟨w, -, hw⟩ := consumes_read? h
  have hd := read?_eq_some_iff.mp h
  have hcall : '\r' ∉ (e.path?.map r.call).getD [] := by
    cases hp : e.path? with
    | none => exact List.not_mem_nil
    | some p =>
        have hderives := hw ▸ hd
        obtain ⟨hwf, hin⟩ := hderives.path_infix hp
        have hpath : p.written <:+: bare t := by
          rw [hw]
          exact hin.trans (List.prefix_append w rest).isInfix
        exact PathRule.not_mem_call (by decide) hwf (hr _ (PathLiteral.not_mem_of_infix hpath))
  rw [require, assign_eq_fill]
  refine not_mem_join (by decide) fun u hu => ?_
  obtain ⟨line, hline, rfl⟩ := List.mem_map.mp hu
  rcases plain_of_mem_lines hd.named hline with hplain | rfl
  · exact Line.not_mem_fill hplain (by decide) hcall
  · rw [Line.fill_text]
    exact not_mem_copyText (by decide) n

/-! ## Both passes -/

/-- A source whose new texts hold no carriage return. -/
abbrev BareChanged := Changed (fun _ => True) fun _ new => '\r' ∉ new

theorem bareChanged_imports {ps : List (Piece Import)} (hr : r.KeepsBare)
    (h : Piece.Cuts Import.read? b s ps) (hs : Paired s) :
    BareChanged b s (importChanges r ps) := by
  induction h with
  | done => exact .done
  | kept _ _ ih => exact .kept (fun _ => trivial) (ih hs.tail)
  | @statement w rest i ps _ hread _ ih =>
      have hbare : Import.read? (bare (w ++ rest)) = some (i, bare rest) := by
        rw [Import.steady_read.bare hs, hread]
        rfl
      exact .statement (Import.not_mem_require hr hbare) (ih hs.of_append)

theorem bareChanged_exports {ps : List (Piece Export)} (hr : r.KeepsBare)
    (h : Piece.Cuts Export.read? b s ps) (hs : Paired s) (n : Nat) :
    BareChanged b s (exportChanges r n ps) := by
  induction h generalizing n with
  | done => exact .done
  | kept _ _ ih => exact .kept (fun _ => trivial) (ih hs.tail n)
  | @statement w rest e ps _ hread _ ih =>
      have hbare : Export.read? (bare (w ++ rest)) = some (e, bare rest) := by
        rw [Export.steady_read.bare hs, hread]
        rfl
      exact .statement (Export.not_mem_require hr hbare n) (ih hs.of_append _)

/-- Carriage returns stay with their line feeds: behind one that is kept no statement starts. -/
theorem Changed.paired_result {es : List (Piece Text)} (h : BareChanged b s es) (hs : Paired s) :
    Paired (Piece.result es) := by
  induction h with
  | done => trivial
  | @kept b c rest es _ hrest ih =>
      refine ⟨fun hc => ?_, ih hs.tail⟩
      subst hc
      obtain ⟨u, rfl⟩ := hs.exists_feed
      cases hrest with
      | kept _ _ => rfl
  | statement hnew _ ih => exact paired_of_not_mem hnew (ih hs.of_append)

theorem Changed.result_bare {es : List (Piece Text)} (h : BareChanged b s es) :
    Piece.result (Piece.bare es) = bare (Piece.result es) := by
  refine Piece.result_bare ?_
  induction h with
  | done => exact fun _ hm => nomatch hm
  | kept _ _ ih => exact ih
  | statement hnew _ ih => exact List.forall_mem_cons.mpr ⟨hnew, ih⟩

theorem importChanges_bare (ps : List (Piece Import)) :
    importChanges r (Piece.bare ps) = Piece.bare (importChanges r ps) := by
  induction ps with
  | nil => rfl
  | cons piece ps ih =>
      cases piece with
      | kept c =>
          by_cases hc : c = '\r'
          · subst hc
            exact ih
          · rw [Piece.bare_kept hc, importChanges, importChanges, Piece.bare_kept hc, ih]
      | statement w i => exact congrArg (_ :: ·) ih

theorem exportChanges_bare (ps : List (Piece Export)) (n : Nat) :
    exportChanges r n (Piece.bare ps) = Piece.bare (exportChanges r n ps) := by
  induction ps generalizing n with
  | nil => rfl
  | cons piece ps ih =>
      cases piece with
      | kept c =>
          by_cases hc : c = '\r'
          · subst hc
            exact ih n
          · rw [Piece.bare_kept hc, exportChanges, exportChanges, Piece.bare_kept hc, ih]
      | statement w e => exact congrArg (_ :: ·) (ih _)

theorem Import.pieces_bare (hs : Paired s) : pieces (bare s) = Piece.bare (pieces s) :=
  Piece.cut_bare steady_read consumes_read? (fun _ => rfl) (Piece.cuts_cut consumes_read?) hs

theorem Export.pieces_bare (hs : Paired s) : pieces (bare s) = Piece.bare (pieces s) :=
  Piece.cut_bare steady_read consumes_read? (fun _ => rfl) (Piece.cuts_cut consumes_read?) hs

theorem afterImports_bare (hr : r.KeepsBare) (hs : Paired s) :
    afterImports r (bare s) = bare (afterImports r s) ∧ Paired (afterImports r s) := by
  have hchanged := bareChanged_imports (b := true) hr (Piece.cuts_cut Import.consumes_read?) hs
  rw [afterImports, afterImports, ← result_importChanges, ← result_importChanges,
    Import.pieces_bare hs, importChanges_bare]
  exact ⟨hchanged.result_bare, hchanged.paired_result hs⟩

theorem exportPass_bare (hr : r.KeepsBare) (hs : Paired s) (n : Nat) :
    exportPass r n (Export.pieces (bare s)) = bare (exportPass r n (Export.pieces s)) ∧
      Paired (exportPass r n (Export.pieces s)) := by
  have hchanged := bareChanged_exports (b := true) hr (Piece.cuts_cut Export.consumes_read?) hs n
  rw [← result_exportChanges, ← result_exportChanges, Export.pieces_bare hs, exportChanges_bare]
  exact ⟨hchanged.result_bare, hchanged.paired_result hs⟩

/-- Without its carriage returns a source comes out the same, without its carriage returns. -/
theorem transformBy_bare (hr : r.KeepsBare) (hs : Paired s) :
    transformBy r (bare s) = ⟨bare (transformBy r s).output, (transformBy r s).report⟩ ∧
      Paired (transformBy r s).output := by
  obtain ⟨hafter, hpaired⟩ := afterImports_bare hr hs
  obtain ⟨hout, hpaired'⟩ := exportPass_bare hr hpaired 0
  have hreport : Report.ofPieces (Import.pieces (bare s)) (Export.pieces (afterImports r (bare s)))
      = (transformBy r s).report := by
    rw [hafter, Import.pieces_bare hs, Export.pieces_bare hpaired]
    simp only [Report.ofPieces, Piece.statements_bare]
    rfl
  refine ⟨?_, hpaired'⟩
  show Transformed.mk (exportPass r 0 (Export.pieces (afterImports r (bare s))))
    (Report.ofPieces (Import.pieces (bare s)) (Export.pieces (afterImports r (bare s)))) = _
  rw [hreport, hafter, hout]
  rfl

/-- What is found, and on which line. -/
def Located.seen {α : Type} (f : Located α) : α × Nat := (f.what, f.line)

/-- Sources that differ in their line endings only hold the same statements on the same lines,
    and without options they are transformed alike, but for the line endings. -/
theorem line_endings_agree (hs : Paired s) (ht : Paired t) (h : feedLines s = feedLines t) :
    ((Import.find s).map Located.seen = (Import.find t).map Located.seen ∧
        (Export.find s).map Located.seen = (Export.find t).map Located.seen) ∧
      (transform {} s).report = (transform {} t).report ∧
      feedLines (transform {} s).output = feedLines (transform {} t).output := by
  have hbare : bare s = bare t := by rwa [feedLines_eq_bare hs, feedLines_eq_bare ht] at h
  have himports {u : Text} (hu : Paired u) :
      (Import.find (bare u)).map Located.seen = (Import.find u).map Located.seen := by
    rw [Import.find, Import.pieces_bare hu]
    exact Piece.located_bare _ _ _ _
  have hexports {u : Text} (hu : Paired u) :
      (Export.find (bare u)).map Located.seen = (Export.find u).map Located.seen := by
    rw [Export.find, Export.pieces_bare hu]
    exact Piece.located_bare _ _ _ _
  have hr : (PathRule.ofOptions {}).KeepsBare := fun _ hv => hv
  obtain ⟨hs', hspaired⟩ := transformBy_bare hr hs
  obtain ⟨ht', htpaired⟩ := transformBy_bare hr ht
  rw [hbare, ht'] at hs'
  obtain ⟨hout, hreport⟩ := Transformed.mk.inj hs'
  refine ⟨⟨?_, ?_⟩, hreport.symm, ?_⟩
  · rw [← himports hs, hbare, himports ht]
  · rw [← hexports hs, hbare, hexports ht]
  · show feedLines (transformBy _ s).output = feedLines (transformBy _ t).output
    rw [feedLines_eq_bare hspaired, feedLines_eq_bare htpaired, hout]

/-- The line endings are mixed in another way, inside the statements and between them. -/
theorem line_endings_agree_mixed :
    let s := "import \x7ba,\r\nb\x7d from 'a'\nexport *\r\nfrom 'b'\nexport default a\r\n".toList
    let t := "import \x7ba,\nb\x7d from 'a'\r\nexport *\nfrom 'b'\r\nexport default a\n".toList
    (Paired s ∧ Paired t ∧ feedLines s = feedLines t) ∧ s ≠ t ∧
      (transform {} s).report = ⟨1, 2, 1⟩ ∧ (transform {} t).report = ⟨1, 2, 1⟩ ∧
      feedLines (transform {} s).output = feedLines (transform {} t).output := by
  intro s t
  have hs : Paired s := by decide +kernel
  have ht : Paired t := by decide +kernel
  have hfeed : feedLines s = feedLines t := by decide +kernel
  have hreport : (transform {} s).report = ⟨1, 2, 1⟩ := by decide +kernel
  obtain ⟨-, hagree, hout⟩ := line_endings_agree hs ht hfeed
  exact ⟨⟨hs, ht, hfeed⟩, by decide +kernel, hreport, hagree.symm.trans hreport, hout⟩

end RequireForm
