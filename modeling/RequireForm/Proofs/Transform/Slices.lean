import RequireForm.Proofs.Export.Scan
import RequireForm.Proofs.Import.Scan
import RequireForm.Proofs.Rule.Slices
import RequireForm.Proofs.Source.Finding
import RequireForm.Proofs.Transform.Frame

/-!
# The transform by slices — a source rewritten with every offset looked at

    source    scan   spans   edits   splice   between   scan   spans   edits   splice   output
                              |                                         |
                              +-- paths, with templates expanded -------+

Both passes go by offsets: a search tells where statements start and stop, texts are put for
these spans, and the gaps are slices of the source. A path that goes through a template is the
text whose slices stand around a match. Put together from the scans, the expansion and the splice
with every offset looked at, the transform slips nowhere, and it comes to what it comes to by
texts.

  1. `PathRule.applySliced`: paths.
  2. `importEditsSliced`, `exportEditsSliced`, `spliceSliced`: new texts and their places.
  3. `transformSliced`.
-/

namespace RequireForm

open Text

open Pattern (Captures)

/-! ## Paths -/

/-- The text that takes the place of a match in a text; a template is expanded by slices. -/
def Replacement.ofSliced (m : Captures) (haystack : Text) : Replacement → Except Slip Text
  | template text => Template.expandSliced m haystack text
  | function f => return f m

namespace PathRule

/-- Put replacements for the matches in a path: for all of them, or for the first one only. -/
def replaceSliced (all : Bool) (replacement : Replacement) (path : Text) :
    List Pattern.Fragment → Except Slip Text
  | [] => return []
  | .kept c :: fragments => return c :: (← replaceSliced all replacement path fragments)
  | .found m :: fragments => do
      let new ← replacement.ofSliced m path
      if all then return new ++ (← replaceSliced all replacement path fragments)
      else return new ++ fragments.flatMap (·.text)

/-- The path as the rule leaves it. -/
def applySliced (r : PathRule) (path : Text) : Except Slip Text :=
  match r.pattern?, r.replacement? with
  | some pattern, some replacement =>
      let fragments := pattern.fragments path
      if matchesAny fragments then replaceSliced r.all replacement path fragments else return path
  | _, _ => return path

/-- The call that loads the module of a path, as the rule changes it. -/
def callSliced (r : PathRule) (path : PathLiteral) : Except Slip Text :=
  return requireCall (path.quoting (← r.applySliced path.value))

end PathRule

theorem Replacement.ofSliced_eq {m : Captures} {haystack : Text} (hm : m.IsIn haystack)
    (replacement : Replacement) :
    replacement.ofSliced m haystack = .ok (replacement.of m) := by
  cases replacement with
  | template text => exact Template.expandSliced_eq hm text
  | function f => rfl

namespace PathRule

variable {path : Text} {fragments : List Pattern.Fragment}

theorem replaceSliced_eq (all : Bool) (replacement : Replacement)
    (h : ∀ m, Pattern.Fragment.found m ∈ fragments → m.IsIn path) :
    replaceSliced all replacement path fragments = .ok (replace all replacement fragments) := by
  induction fragments with
  | nil => rfl
  | cons fragment fragments ih =>
      have hrest := ih fun m hm => h m (List.mem_cons_of_mem _ hm)
      cases fragment with
      | kept c =>
          rw [replaceSliced, hrest]
          rfl
      | found m =>
          rw [replaceSliced, Replacement.ofSliced_eq (h m List.mem_cons_self), hrest]
          cases all <;> rfl

theorem applySliced_eq (r : PathRule) (path : Text) : r.applySliced path = .ok (r.apply path) := by
  obtain ⟨pattern?, all, replacement?⟩ := r
  rw [applySliced, apply, replaced?]
  cases pattern? with
  | none => rfl
  | some pattern =>
      cases replacement? with
      | none => rfl
      | some replacement =>
          dsimp only
          split
          · exact replaceSliced_eq _ _ fun m hm => Pattern.isIn_of_mem_fragments hm
          · rfl

theorem callSliced_eq (r : PathRule) (path : PathLiteral) :
    r.callSliced path = .ok (r.call path) := by
  rw [callSliced, applySliced_eq]
  rfl

end PathRule

/-! ## New texts -/

variable {r : PathRule} {n : Nat}

/-- An import in require form. -/
def Import.requireSliced (r : PathRule) (i : Import) : Except Slip Text :=
  return i.binding.require (← r.callSliced i.path)

/-- An export in require form, with the `n`-th pair of temporaries. -/
def Export.requireSliced (r : PathRule) (n : Nat) (e : Export) : Except Slip Text :=
  match e.path? with
  | none => return e.assign n []
  | some path => return e.assign n (← r.callSliced path)

/-- The spans of imports with the texts that take their places. -/
def importEditsSliced (r : PathRule) :
    List (Located Import) → Except Slip (List (Span × Text))
  | [] => return []
  | i :: found => return (i.span, ← i.what.requireSliced r) :: (← importEditsSliced r found)

/-- The spans of exports with the texts that take their places. Each star takes a pair of
    temporaries; `n` is the number of the next one. -/
def exportEditsSliced (r : PathRule) (n : Nat) :
    List (Located Export) → Except Slip (List (Span × Text))
  | [] => return []
  | e :: found => do
      let new ← e.what.requireSliced r n
      return (e.span, new) :: (← exportEditsSliced r (if e.what.isStar then n + 1 else n) found)

theorem Import.requireSliced_eq (i : Import) : i.requireSliced r = .ok (i.require r) := by
  rw [requireSliced, PathRule.callSliced_eq]
  rfl

theorem Export.requireSliced_eq (e : Export) : e.requireSliced r n = .ok (e.require r n) := by
  rw [requireSliced, require]
  cases e.path? with
  | none => rfl
  | some path =>
      dsimp only
      rw [PathRule.callSliced_eq]
      rfl

theorem importEditsSliced_eq (found : List (Located Import)) :
    importEditsSliced r found = .ok (importEdits r found) := by
  induction found with
  | nil => rfl
  | cons i found ih =>
      rw [importEditsSliced, Import.requireSliced_eq, ih]
      rfl

theorem exportEditsSliced_eq (found : List (Located Export)) :
    exportEditsSliced r n found = .ok (exportEdits r n found) := by
  induction found generalizing n with
  | nil => rfl
  | cons e found ih =>
      rw [exportEditsSliced, Export.requireSliced_eq, ih]
      rfl

/-! ## Splices -/

/-- Put texts for spans, from the byte `last` of a source on. -/
def spliceSlicedFrom (source : Text) (last : Nat) : List (Span × Text) → Except Slip Text
  | [] => source.sliceFrom last
  | (span, new) :: edits => do
      let gap ← source.sliceIn last span.start
      return gap ++ (new ++ (← spliceSlicedFrom source span.stop edits))

/-- Put texts for spans of a source. -/
def spliceSliced (source : Text) (edits : List (Span × Text)) : Except Slip Text :=
  spliceSlicedFrom source 0 edits

theorem spliceSlicedFrom_eq {source out : Text} {last : Nat} {edits : List (Span × Text)}
    (h : spliceFrom source last edits = some out) :
    spliceSlicedFrom source last edits = .ok out := by
  induction edits generalizing last out with
  | nil =>
      have hslice : source.slice? last source.byteLength = some out := h
      rw [spliceSlicedFrom, sliceFrom, sliceIn, hslice]
  | cons edit edits ih =>
      obtain ⟨gap, hgap, h⟩ := Option.bind_eq_some_iff.mp h
      obtain ⟨rest, hrest, hout⟩ := Option.bind_eq_some_iff.mp h
      rw [spliceSlicedFrom, sliceIn, hgap]
      show (do return gap ++ (edit.2 ++ (← spliceSlicedFrom source edit.1.stop edits))) = _
      rw [ih hrest, ← Option.some.inj hout]
      rfl

/-! ## Both passes -/

/-- The text of a source whose imports are put into require form, and their number. -/
def importPassSliced (r : PathRule) (source : Text) : Except Slip (Text × Nat) := do
  let found ← Scan.find Import.scan source
  let edits ← importEditsSliced r found
  return (← spliceSliced source edits, found.length)

/-- The text of a source whose exports are put into require form, their number, and how many of
    them are stars. -/
def exportPassSliced (r : PathRule) (source : Text) : Except Slip (Text × Nat × Nat) := do
  let found ← Scan.find Export.scan source
  let edits ← exportEditsSliced r 0 found
  return (← spliceSliced source edits, found.length, found.countP (·.what.isStar))

/-- Put a source into require form. -/
def transformSliced (o : Options) (source : Text) : Except Slip Transformed := do
  let r := PathRule.ofOptions o
  let (between, imports) ← importPassSliced r source
  let (output, exports, stars) ← exportPassSliced r between
  return ⟨output, imports, exports, stars⟩

theorem Import.find_scan (source : Text) : Scan.find scan source = .ok (find source) :=
  Scan.find_eq agrees_scan consumes_read? source

theorem Export.find_scan (source : Text) : Scan.find scan source = .ok (find source) :=
  Scan.find_eq agrees_scan consumes_read? source

theorem importPassSliced_eq (r : PathRule) (source : Text) :
    importPassSliced r source = .ok (afterImports r source, (Import.find source).length) := by
  have hsplice : spliceSliced source (importEdits r (Import.find source))
      = .ok (afterImports r source) := spliceSlicedFrom_eq (splice_imports r source)
  simp only [importPassSliced, Import.find_scan, importEditsSliced_eq, hsplice, bind, Except.bind,
    pure, Except.pure]

theorem exportPassSliced_eq (r : PathRule) (source : Text) :
    exportPassSliced r source = .ok (exportPass r 0 (Export.pieces source),
      (Export.find source).length, (Export.find source).countP (·.what.isStar)) := by
  have hsplice : spliceSliced source (exportEdits r 0 (Export.find source))
      = .ok (exportPass r 0 (Export.pieces source)) :=
    spliceSlicedFrom_eq (splice_exports r 0 source)
  simp only [exportPassSliced, Export.find_scan, exportEditsSliced_eq, hsplice, bind, Except.bind,
    pure, Except.pure]

theorem transformSliced_eq (o : Options) (source : Text) :
    transformSliced o source = .ok (transform o source) := by
  simp only [transformSliced, importPassSliced_eq, exportPassSliced_eq, bind, Except.bind, pure,
    Except.pure]
  rw [Import.length_find, Export.length_find, Export.countP_find]
  rfl

/-- No source, no options and no template make an offset slip. Both searches, the whole transform,
    and the expansion of a template for a match in its text come to an end with every cursor
    between two characters, every byte and every slice in its text; and every turn of an
    expansion leaves fewer bytes of the template than there were. -/
theorem transform_never_slips :
    (∀ source : Text, Scan.find Import.scan source = .ok (Import.find source) ∧
        Scan.find Export.scan source = .ok (Export.find source)) ∧
      (∀ (o : Options) (source : Text), transformSliced o source = .ok (transform o source)) ∧
      (∀ (m : Captures) (haystack template : Text), m.IsIn haystack →
        Template.expandSliced m haystack template = .ok (Template.expand m template)) ∧
      ∀ (m : Captures) (haystack rest put left : Text) (sign : Nat),
        Template.turn m haystack rest sign = .ok (put, left) →
          left.byteLength < rest.byteLength := by
  refine ⟨?_, transformSliced_eq, ?_, ?_⟩
  · intro source
    exact ⟨Import.find_scan source, Export.find_scan source⟩
  · intro m haystack template hm
    exact Template.expandSliced_eq hm template
  · intro m haystack rest put left sign h
    exact Template.byteLength_lt_of_turn h

/-- Characters of two and three bytes around a statement, a match and a `$`. -/
theorem transform_never_slips_wide :
    let source : Text := "é\nimport a from 'ü'".toList
    let m : Captures :=
      { before := ['é'], whole := ['日'], after := ['ü'], groups := [some ['日']],
        names := [(['ü'], 1)] }
    let haystack : Text := "é日ü".toList
    let template : Text := "本$<ü>$1".toList
    Scan.find Import.scan source
        = .ok [⟨⟨3, 21⟩, 2, ⟨.default ['a'], ⟨'\x27', ['ü']⟩⟩⟩] ∧
      m.IsIn haystack ∧
      Template.expandSliced m haystack template = .ok "本日日".toList ∧
      Template.turn m haystack template 3 = .ok ("本日".toList, "$1".toList) ∧
      byteLength "$1".toList < template.byteLength := by
  intro source m haystack template
  obtain ⟨hfind, -, hexpand, hturn⟩ := transform_never_slips
  have hm : m.IsIn haystack := by decide
  have hfound : Import.find source
      = [⟨⟨3, 21⟩, 2, ⟨.default ['a'], ⟨'\x27', ['ü']⟩⟩⟩] := by decide
  have hexpanded : Template.expand m template = "本日日".toList := by
    have hname : Template.placeholder? m "<ü>$1".toList = some (['日'], "$1".toList) := by decide
    have hnumber : Template.placeholder? m "1".toList = some (['日'], []) := by decide
    calc Template.expand m template
        = '本' :: Template.expand m "$<ü>$1".toList := Template.expand_cons (by decide) _
      _ = '本' :: ('日' :: Template.expand m "$1".toList) :=
          congrArg _ (Template.expand_placeholder hname)
      _ = '本' :: ('日' :: ('日' :: Template.expand m [])) :=
          congrArg _ (congrArg _ (Template.expand_placeholder hnumber))
      _ = "本日日".toList := by rw [Template.expand_nil]; rfl
  have hstep : Template.turn m haystack template 3 = .ok ("本日".toList, "$1".toList) := by decide
  exact ⟨(hfind source).1.trans (congrArg Except.ok hfound), hm,
    (hexpand m haystack template hm).trans (congrArg Except.ok hexpanded), hstep,
    hturn m haystack template _ _ 3 hstep⟩

end RequireForm
