import RequireForm.Proofs.Export.Fence
import RequireForm.Proofs.Transform.Lines
import RequireForm.Proofs.Transform.Passes

/-!
# Sketches — a source between the passes, with its paths left open

The first pass writes a path only as `require(` PATH `)`. Leave the paths open, and what it
writes no longer depends on the rule: a text, a path, a text, a path, and so on to a last text.
In front of each open path stands a parenthesis, and the quotes in front of that have a line feed
behind them, since imports start lines and bring no quotes of their own.

  1. `Fragment`: pieces of text and places of paths; the fragments of either pass.
  2. `Sketch`: fragments with the texts between the paths put together.
  3. `Sketch.Shielded`, `shielded_importSketch`: what guards the open paths of a source.
-/

namespace RequireForm

open Text

variable {r : PathRule} {source source' s t u w : Text} {p : PathLiteral}

/-! ## Fragments -/

/-- A piece of what comes out: text as it is, or the place of a path. -/
inductive Fragment where
  | text (t : Text)
  | path (p : PathLiteral)
  deriving DecidableEq, Repr

namespace Fragment

/-- The fragments with the paths as a rule changes them, between their quotes. -/
def fill (r : PathRule) : List Fragment → Text
  | [] => []
  | .text t :: fs => t ++ fill r fs
  | .path p :: fs => p.quoting (r.apply p.value) ++ fill r fs

/-- What stands in front of the path in a call. -/
def callOpen : Text := "require(".toList

/-- The call for a path; without a path, none. -/
def call : Option PathLiteral → List Fragment
  | none => []
  | some p => [.text callOpen, .path p, .text [')']]

@[simp] theorem fill_append (fs gs : List Fragment) :
    fill r (fs ++ gs) = fill r fs ++ fill r gs := by
  induction fs with
  | nil => rfl
  | cons f fs ih =>
      cases f with
      | text t => simp only [List.cons_append, fill, ih, List.append_assoc]
      | path p => simp only [List.cons_append, fill, ih, List.append_assoc]

theorem fill_call (path? : Option PathLiteral) :
    fill r (call path?) = (path?.map r.call).getD [] := by
  cases path? with
  | none => rfl
  | some p =>
      have hclose : ")".toList = [')'] := by decide
      show callOpen ++ (p.quoting (r.apply p.value) ++ ([')'] ++ []))
        = "require(".toList ++ p.quoting (r.apply p.value) ++ ")".toList
      rw [hclose, List.append_nil, List.append_assoc]
      rfl

end Fragment

namespace Line

/-- A line with the call for a path in its places. -/
def fragments (path? : Option PathLiteral) : Line → List Fragment
  | [] => []
  | .text t :: parts => .text t :: fragments path? parts
  | .call :: parts => Fragment.call path? ++ fragments path? parts

theorem fill_fragments (path? : Option PathLiteral) (l : Line) :
    Fragment.fill r (l.fragments path?) = l.fill ((path?.map r.call).getD []) := by
  induction l with
  | nil => rfl
  | cons part l ih =>
      cases part with
      | text t => exact congrArg (t ++ ·) ih
      | call =>
          rw [fragments, Fragment.fill_append, Fragment.fill_call, ih]
          rfl

/-- Lines under each other, as one row of parts. -/
def under : List Line → Line
  | [] => []
  | [l] => l
  | l :: lines => l ++ .text statementSeparator :: under lines

theorem fill_append (call : Text) (l k : Line) :
    fill call (l ++ k) = fill call l ++ fill call k := by
  induction l with
  | nil => rfl
  | cons part l ih =>
      cases part with
      | text t => simp only [List.cons_append, fill, ih, List.append_assoc]
      | call => simp only [List.cons_append, fill, ih, List.append_assoc]

theorem fill_under (call : Text) (lines : List Line) :
    (under lines).fill call = fillAll call lines := by
  induction lines with
  | nil => rfl
  | cons l lines ih =>
      cases lines with
      | nil => rfl
      | cons k lines =>
          show fill call (l ++ .text statementSeparator :: under (k :: lines)) = _
          rw [fill_append, fillAll_cons (List.cons_ne_nil _ _), ← ih]
          rfl

end Line

/-- The fragments of a source whose imports are put into require form. -/
def importFragments : List (Piece Import) → List Fragment
  | [] => []
  | .kept c :: ps => .text [c] :: importFragments ps
  | .statement _ i :: ps =>
      (Line.under i.binding.lines).fragments (some i.path) ++ importFragments ps

theorem fill_importFragments (ps : List (Piece Import)) :
    Fragment.fill r (importFragments ps) = importPass r ps := by
  induction ps with
  | nil => rfl
  | cons piece ps ih =>
      cases piece with
      | kept c => exact congrArg (c :: ·) ih
      | statement written i =>
          rw [importFragments, Fragment.fill_append, Line.fill_fragments, Line.fill_under, ih,
            importPass, Import.require, ImportBinding.require_eq_fill]
          rfl

/-- The fragments of a source whose exports are put into require form. -/
def exportFragments (n : Nat) : List (Piece Export) → List Fragment
  | [] => []
  | .kept c :: ps => .text [c] :: exportFragments n ps
  | .statement _ e :: ps =>
      (Line.under (e.lines n)).fragments e.path? ++
        exportFragments (if e.isStar then n + 1 else n) ps

theorem fill_exportFragments (n : Nat) (ps : List (Piece Export)) :
    Fragment.fill r (exportFragments n ps) = exportPass r n ps := by
  induction ps generalizing n with
  | nil => rfl
  | cons piece ps ih =>
      cases piece with
      | kept c => exact congrArg (c :: ·) (ih n)
      | statement written e =>
          rw [exportFragments, Fragment.fill_append, Line.fill_fragments, Line.fill_under, ih,
            exportPass, Export.require, Export.assign_eq_fill]

/-! ## Sketches -/

/-- Texts and open paths in turn, with a text at both ends. -/
inductive Sketch where
  | last (t : Text)
  | hole (t : Text) (p : PathLiteral) (next : Sketch)
  deriving DecidableEq, Repr

namespace Sketch

/-- The sketch with the paths as a rule changes them. -/
def fill (r : PathRule) : Sketch → Text
  | .last t => t
  | .hole t p next => t ++ (p.quoting (r.apply p.value) ++ next.fill r)

/-- The text in front of the first open path. -/
def front : Sketch → Text
  | .last t => t
  | .hole t _ _ => t

/-- Put a text in front. -/
def prepend (w : Text) : Sketch → Sketch
  | .last t => .last (w ++ t)
  | .hole t p next => .hole (w ++ t) p next

/-- Put fragments in front. -/
def weave : List Fragment → Sketch → Sketch
  | [], k => k
  | .text t :: fs, k => (weave fs k).prepend t
  | .path p :: fs, k => .hole [] p (weave fs k)

theorem front_prepend (k : Sketch) : (k.prepend w).front = w ++ k.front := by
  cases k with
  | last t => rfl
  | hole t p next => rfl

theorem fill_prepend (k : Sketch) : (k.prepend w).fill r = w ++ k.fill r := by
  cases k with
  | last t => rfl
  | hole t p next => exact List.append_assoc _ _ _

theorem fill_weave (fs : List Fragment) (k : Sketch) :
    (weave fs k).fill r = Fragment.fill r fs ++ k.fill r := by
  induction fs with
  | nil => rfl
  | cons f fs ih =>
      cases f with
      | text t =>
          rw [weave, fill_prepend, ih, ← List.append_assoc]
          rfl
      | path p =>
          show [] ++ (p.quoting (r.apply p.value) ++ (weave fs k).fill r) = _
          rw [ih, List.nil_append, ← List.append_assoc]
          rfl

theorem weave_append (fs gs : List Fragment) (k : Sketch) :
    weave (fs ++ gs) k = weave fs (weave gs k) := by
  induction fs with
  | nil => rfl
  | cons f fs ih =>
      cases f with
      | text t => exact congrArg (prepend t) ih
      | path p => exact congrArg (hole [] p) ih

end Sketch

/-- The sketch of a source between the passes. -/
def importSketch (ps : List (Piece Import)) : Sketch := .weave (importFragments ps) (.last [])

theorem fill_importSketch (ps : List (Piece Import)) :
    (importSketch ps).fill r = importPass r ps := by
  rw [importSketch, Sketch.fill_weave, fill_importFragments]
  exact List.append_nil _

/-! ## What guards the open paths -/

/-- Every literal in the text is written in the source. -/
def OwnPaths (source t : Text) : Prop :=
  ∀ p : PathLiteral, p.WellFormed → p.written <:+: t → p.written <:+: source

theorem OwnPaths.mono (hs : source <:+: source') (h : OwnPaths source t) : OwnPaths source' t :=
  fun p hp hin => (h p hp hin).trans hs

/-- A literal starts with a quote, so a text without quotes brings none. -/
theorem OwnPaths.append (hw : Unquoted w) (h : OwnPaths source t) : OwnPaths source (w ++ t) := by
  induction w with
  | nil => exact h
  | cons c w ih =>
      obtain ⟨hc, hw⟩ := run_cons.mp hw
      intro p hp hin
      rcases List.infix_cons_iff.mp hin with hpre | hin
      · have hq : p.quote = c := (List.cons_prefix_cons.mp hpre).1
        rw [← hq, hp.quote] at hc
        exact nomatch hc
      · exact ih hw p hp hin

theorem ownPaths_of_unquoted (h : Unquoted t) : OwnPaths source t := by
  have hnil : OwnPaths source [] := fun p _ hin => absurd (List.eq_nil_of_infix_nil hin)
    (List.cons_ne_nil _ _)
  have hown := OwnPaths.append h hnil
  rwa [List.append_nil] at hown

/-- A literal at the front of a text ends with a quote, so it does not reach into a text without
    quotes behind. -/
theorem prefix_of_unquoted (hp : p.WellFormed) (hw : Unquoted w) (h : p.written <+: u ++ w) :
    p.written <+: u := by
  obtain ⟨v, hv⟩ := h
  obtain ⟨a, rfl, -⟩ := split_unquoted (w := []) hp hw hv.symm
  exact List.prefix_append _ _

namespace Sketch

/-- What guards the open paths of a source: in front of each a parenthesis, in front of that no
    quote that could reach it, and nowhere a literal that is not written in the source. -/
def Shielded (source : Text) : Sketch → Prop
  | .last t => OwnPaths source t
  | .hole t p next =>
      (∃ u, t = u ++ ['('] ∧ Sealed u) ∧ OwnPaths source t ∧
        (p.WellFormed ∧ p.written <:+: source) ∧ next.Shielded source

theorem Shielded.mono {k : Sketch} (hs : source <:+: source') (h : k.Shielded source) :
    k.Shielded source' := by
  induction k with
  | last t => exact OwnPaths.mono hs h
  | hole t p next ih =>
      obtain ⟨hseal, hown, ⟨hp, hin⟩, hnext⟩ := h
      exact ⟨hseal, hown.mono hs, ⟨hp, hin.trans hs⟩, ih hnext⟩

theorem Shielded.prepend {k : Sketch} (hw : Unquoted w) (h : k.Shielded source) :
    (k.prepend w).Shielded source := by
  cases k with
  | last t => exact OwnPaths.append hw h
  | hole t p next =>
      obtain ⟨⟨u, rfl, hseal⟩, hown, hrest⟩ := h
      exact ⟨⟨w ++ u, (List.append_assoc _ _ _).symm, Sealed.append hw hseal⟩,
        hown.append hw, hrest⟩

/-- The call for a path leaves it open behind a parenthesis. -/
theorem weave_call (k : Sketch) :
    weave (Fragment.call (some p)) k = .hole Fragment.callOpen p (k.prepend [')']) := by
  show Sketch.hole (Fragment.callOpen ++ []) p (k.prepend [')']) = _
  rw [List.append_nil]

theorem Shielded.weave {k : Sketch} {l : Line} (hl : ∀ t, Part.text t ∈ l → Unquoted t)
    (hp : p.WellFormed) (hin : p.written <:+: source) (h : k.Shielded source) :
    (Sketch.weave (l.fragments (some p)) k).Shielded source := by
  induction l with
  | nil => exact h
  | cons part l ih =>
      have hnext := ih fun t ht => hl t (List.mem_cons_of_mem _ ht)
      cases part with
      | text t => exact hnext.prepend (hl t List.mem_cons_self)
      | call =>
          have hrest := hnext.prepend (w := [')']) (by decide)
          have hword : Unquoted Fragment.callOpen := by decide
          rw [Line.fragments, weave_append, weave_call]
          exact ⟨⟨"require".toList, by decide, sealed_of_unquoted (by decide)⟩,
            ownPaths_of_unquoted hword, ⟨hp, hin⟩, hrest⟩

end Sketch

/-- No quotes stand in the lines of an import. -/
theorem unquoted_under {lines : List Line} (h : ∀ l ∈ lines, l.Plain) :
    ∀ t, Part.text t ∈ Line.under lines → Unquoted t := by
  induction lines with
  | nil => exact fun t ht => nomatch ht
  | cons l lines ih =>
      -- the separator brings no quote either
      have hl (t : Text) (ht : Part.text t ∈ l) : Unquoted t :=
        unquoted_of_isLineChar (h l List.mem_cons_self t ht)
      cases lines with
      | nil => exact hl
      | cons k lines =>
          intro t ht
          rcases List.mem_append.mp ht with ht | ht
          · exact hl t ht
          · rcases List.mem_cons.mp ht with ht | ht
            · rw [(Part.text.inj ht)]
              decide
            · exact ih (fun m hm => h m (List.mem_cons_of_mem _ hm)) t ht

/-- The sketch of a source from a place on: its paths are guarded, the text in front of the first
    one is source text and then text of an import, and an import starts a line. -/
structure FromSource (b : Bool) (source : Text) (k : Sketch) : Prop where
  shielded : k.Shielded source
  front : ∃ u w, k.front = u ++ w ∧ u <+: source ∧ Unquoted w
  feed : b = false → ∀ t p next, k = .hole t p next → '\n' ∈ t

theorem under_cons (l : Line) (lines : List Line) :
    ∃ more, Line.under (l :: lines) = l ++ more := by
  cases lines with
  | nil => exact ⟨[], (List.append_nil _).symm⟩
  | cons k lines => exact ⟨_, rfl⟩

/-- No quote stands in front of the first path of an import. -/
theorem unquoted_front {lines : List Line} (hne : lines ≠ []) (h : ∀ l ∈ lines, l.Plain ∧ l.Opens)
    (k : Sketch) : Unquoted (Sketch.weave ((Line.under lines).fragments (some p)) k).front := by
  have hcall : Unquoted Fragment.callOpen := by decide
  obtain ⟨l, lines, rfl⟩ := List.exists_cons_of_ne_nil hne
  obtain ⟨more, hmore⟩ := under_cons l lines
  obtain ⟨hplain, parts, rfl | ⟨name, rfl⟩⟩ := h l List.mem_cons_self
  · rw [hmore]
    show Unquoted (Sketch.weave (Fragment.call (some p) ++ _) k).front
    rw [Sketch.weave_append, Sketch.weave_call]
    exact hcall
  · rw [hmore]
    show Unquoted ((Sketch.weave (Fragment.call (some p) ++ _) k).prepend (constText name)).front
    rw [Sketch.front_prepend, Sketch.weave_append, Sketch.weave_call]
    have hname := unquoted_of_isLineChar (Line.plain_text.mp hplain).1
    exact run_append.mpr ⟨hname, hcall⟩

/-- An import puts its lines in front, whatever comes behind. -/
theorem FromSource.statement {d : ImportSyntax} {k : Sketch} (hd : d.Fits)
    (hk : k.Shielded source) :
    FromSource true (d.text ++ source)
      (.weave ((Line.under d.meaning.binding.lines).fragments (some d.meaning.path)) k) := by
  have hlines (l : Line) (hl : l ∈ d.meaning.binding.lines) : l.Plain ∧ l.Opens :=
    ImportBinding.plain_of_mem_lines (ImportSyntax.named_of_fits hd) hl
  have hunquoted := unquoted_under fun l hl => (hlines l hl).1
  have hwritten : d.meaning.path.written <:+: d.text ++ source := by
    obtain ⟨w, hw⟩ := d.exists_text_eq
    exact ⟨w, source, by rw [hw]⟩
  refine ⟨?_, ?_, fun h => nomatch h⟩
  · exact (hk.mono (List.suffix_append _ _).isInfix).weave hunquoted
      (ImportSyntax.path_of_fits hd) hwritten
  · exact ⟨[], _, rfl, List.nil_prefix,
      unquoted_front (ImportBinding.lines_ne_nil _) hlines k⟩

/-- A character of the source that is kept. -/
theorem FromSource.kept {b : Bool} {c : Char} {k : Sketch} (h : FromSource (c = '\n') source k) :
    FromSource b (c :: source) (k.prepend [c]) := by
  obtain ⟨hshielded, ⟨u, w, hfront, hu, hw⟩, hfeed⟩ := h
  have hsuffix : source <:+: c :: source := (List.suffix_cons _ _).isInfix
  -- a literal that starts with the character ends in the source text in front
  have hown (hk : OwnPaths source k.front) : OwnPaths (c :: source) (c :: k.front) := by
    intro p hp hin
    rcases List.infix_cons_iff.mp hin with hpre | hin
    · rw [hfront, ← List.cons_append] at hpre
      exact ((prefix_of_unquoted hp hw hpre).trans (List.cons_prefix_cons.mpr ⟨rfl, hu⟩)).isInfix
    · exact (hk p hp hin).trans hsuffix
  refine ⟨?_, ⟨c :: u, w, ?_, List.cons_prefix_cons.mpr ⟨rfl, hu⟩, hw⟩, ?_⟩
  · cases k with
    | last t => exact hown hshielded
    | hole t p next =>
        obtain ⟨⟨v, rfl, hseal⟩, hk, ⟨hp, hin⟩, hnext⟩ := hshielded
        refine ⟨⟨c :: v, rfl, fun hq => ?_, hseal⟩, hown hk, ⟨hp, hin.trans hsuffix⟩,
          hnext.mono hsuffix⟩
        -- a quote ends no line, so the import with the path starts on a later one
        have hc : c ≠ '\n' := by
          rintro rfl
          exact absurd hq (by decide)
        rcases List.mem_append.mp (hfeed (decide_eq_false hc) _ _ _ rfl) with hm | hm
        · exact hm
        · exact absurd (List.mem_singleton.mp hm) (by decide)
  · rw [Sketch.front_prepend, hfront]
    rfl
  · intro _ t p next he
    cases k with
    | last t' => exact nomatch he
    | hole t' p' next' =>
        obtain ⟨rfl, -, -⟩ := Sketch.hole.inj he
        by_cases hc : c = '\n'
        · rw [hc]
          exact List.mem_cons_self
        · exact List.mem_cons_of_mem _ (hfeed (decide_eq_false hc) _ _ _ rfl)

/-- The sketch of a source is guarded. -/
theorem fromSource_importSketch {b : Bool} {ps : List (Piece Import)}
    (h : Piece.Cuts Import.read? b source ps) : FromSource b source (importSketch ps) := by
  induction h with
  | done =>
      exact ⟨ownPaths_of_unquoted run_nil, ⟨[], [], rfl, List.nil_prefix, run_nil⟩,
        fun _ _ _ _ he => nomatch he⟩
  | kept _ _ ih => exact ih.kept
  | @statement w rest i ps hne hread _ ih =>
      obtain ⟨d, hd, hs, rfl⟩ := Import.read?_eq_some_iff.mp hread
      obtain rfl := List.append_cancel_right hs
      have hweave : importSketch (.statement d.text d.meaning :: ps)
          = .weave ((Line.under d.meaning.binding.lines).fragments (some d.meaning.path))
            (importSketch ps) := Sketch.weave_append _ _ _
      rw [hweave]
      exact FromSource.statement hd ih.shielded

end RequireForm
