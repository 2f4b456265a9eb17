import Mathlib.Algebra.GroupWithZero.Nat
import RequireForm.Proofs.Files.Sources

/-!
# Transforming a tree — every source below one path, to the same path below another

    src/a.js          out/a.js          written, if nothing stands in the way
    src/lib/b.js      out/lib/b.js      and out/lib made, if it is missing

Sources are dealt with one after another, and none of them is in the way of another one: what
is written for one source is neither read for another one nor leads to where another is
written. So it is the tree before the run that decides what becomes of each source, and their
order does not matter.

  1. `TreeTask`: a directory of sources, and a path for their outputs that is apart from it.
  2. `Stored`: texts that have been written, and the directories above them.
  3. `TreeTask.step`, `TreeTask.run`: what holds after each source, and after all of them.
  4. `transformTree_exact`: what becomes of a tree, in whatever order the walk goes.
-/

namespace RequireForm

open FilePath

namespace FileTree

open FilePlace

variable {t t' t₁ t₂ : FileTree} {q : FilePlace} {e : Entry} {new new' : List (FilePlace × Text)}

/-! ## Texts that have been written -/

/-- Texts have been written at some places, and directories made above them where nothing was.
    Nothing else has changed. -/
structure Stored (t t' : FileTree) (new : List (FilePlace × Text)) : Prop where
  texts : ∀ n ∈ new, t'.get? n.1 = some (.file (.text n.2))
  rest : ∀ q, (∀ n ∈ new, q ≠ n.1) →
    t'.get? q = if t.get? q = none ∧ ∃ n ∈ new, q <+: n.1 then some .directory else t.get? q

namespace Stored

theorem refl (t : FileTree) : Stored t t [] where
  texts := fun _ hn => absurd hn List.not_mem_nil
  rest := fun q _ => by simp

theorem get?_of_some (h : Stored t t' new) (hnew : ∀ n ∈ new, q ≠ n.1) (hq : t.get? q = some e) :
    t'.get? q = some e := by
  rw [h.rest q hnew, if_neg (by simp [hq]), hq]

theorem isSome_mono (h : Stored t t' new) (hq : (t.get? q).isSome = true) :
    (t'.get? q).isSome = true := by
  obtain ⟨e, he⟩ := Option.isSome_iff_exists.mp hq
  by_cases hnew : ∀ n ∈ new, q ≠ n.1
  · rw [h.get?_of_some hnew he]
    rfl
  · push Not at hnew
    obtain ⟨n, hn, rfl⟩ := hnew
    rw [h.texts n hn]
    rfl

/-- Files are where they were, and where texts have been written. -/
theorem file_iff (h : Stored t t' new) (hnew : ∀ n ∈ new, q ≠ n.1) (content : Content) :
    t'.get? q = some (.file content) ↔ t.get? q = some (.file content) := by
  rw [h.rest q hnew]
  split
  · next hmade => simp [hmade.1]
  · rfl

/-- One more text. -/
theorem append {place : FilePlace} {text : Text} (h : Stored t t₁ new)
    (hfree : ∀ n ∈ new, place ≠ n.1) (hplace : t₂.get? place = some (.file (.text text)))
    (hrest : ∀ q, q ≠ place →
      t₂.get? q = if t₁.get? q = none ∧ q <+: place then some .directory else t₁.get? q) :
    Stored t t₂ (new ++ [(place, text)]) where
  texts := by
    refine List.forall_mem_append.mpr ⟨fun n hn => ?_, fun n hn => ?_⟩
    · rw [hrest n.1 (hfree n hn).symm, h.texts n hn]
      simp
    · rw [List.mem_singleton.mp hn, hplace]
  rest := by
    intro q hq
    obtain ⟨hnew, hlast⟩ := List.forall_mem_append.mp hq
    have hne : q ≠ place := hlast (place, text) List.mem_cons_self
    by_cases hnone : t.get? q = none
    · by_cases hmade : ∃ n ∈ new, q <+: n.1
      · have hdir : t₁.get? q = some .directory := by rw [h.rest q hnew, if_pos ⟨hnone, hmade⟩]
        obtain ⟨n, hn, hle⟩ := hmade
        rw [hrest q hne, hdir, if_neg (by simp),
          if_pos ⟨hnone, n, List.mem_append_left _ hn, hle⟩]
      · have hmissing : t₁.get? q = none := by
          rw [h.rest q hnew, if_neg fun h => hmade h.2, hnone]
        have hiff : (∃ n ∈ new ++ [(place, text)], q <+: n.1) ↔ q <+: place := by
          constructor
          · rintro ⟨n, hn, hle⟩
            rcases List.mem_append.mp hn with hn | hn
            · exact absurd ⟨n, hn, hle⟩ hmade
            · rwa [List.mem_singleton.mp hn] at hle
          · exact fun hle => ⟨_, List.mem_append_right new List.mem_cons_self, hle⟩
        rw [hrest q hne, hmissing]
        simp only [hnone, true_and, hiff]
    · have hsame : t₁.get? q = t.get? q := by rw [h.rest q hnew, if_neg fun h => hnone h.1]
      rw [hrest q hne, hsame, if_neg fun h => hnone h.1, if_neg fun h => hnone h.1]

/-- Which texts are written where decides all. -/
theorem unique (h₁ : Stored t t₁ new) (h₂ : Stored t t₂ new') (hnew : ∀ n, n ∈ new ↔ n ∈ new')
    (q : FilePlace) : t₁.get? q = t₂.get? q := by
  by_cases hq : ∀ n ∈ new, q ≠ n.1
  · rw [h₁.rest q hq, h₂.rest q fun n hn => hq n ((hnew n).mpr hn)]
    simp only [hnew]
  · push Not at hq
    obtain ⟨n, hn, rfl⟩ := hq
    rw [h₁.texts n hn, h₂.texts n ((hnew n).mp hn)]

end Stored

/-- The text at a place, if there is one. -/
def textAt (t : FileTree) (q : FilePlace) : Text :=
  match t.get? q with
  | some (.file (.text text)) => text
  | _ => []

/-- The path is that of a source below a directory. -/
def IsSource (t : FileTree) (root : FilePlace) (p : FilePath) : Prop :=
  ∃ names content, Candidate t root names content ∧ p = ofNames names

end FileTree

/-- Reports taken together, count by count. -/
def Report.sum (reports : List Report) : Report where
  imports := (reports.map (·.imports)).sum
  exports := (reports.map (·.exports)).sum
  stars := (reports.map (·.stars)).sum

theorem Report.sum_append (reports : List Report) (r : Report) :
    Report.sum (reports ++ [r]) = (Report.sum reports).merge r := by
  simp [Report.sum, Report.merge]

theorem Report.sum_perm {reports reports' : List Report} (h : reports.Perm reports') :
    Report.sum reports = Report.sum reports' := by
  rw [Report.sum, (h.map _).sum_nat, (h.map _).sum_nat, (h.map _).sum_nat]
  rfl

/-! ## The task -/

open FileTree FilePlace

/-- A directory of sources, and a path for their outputs that is apart from it. The path may
    leave again only what is there, and the system has to accept the paths of all sources and
    outputs. -/
structure TreeTask (t : FileTree) (source target : FilePath) : Prop where
  wellFormed : t.WellFormed
  directory : t.leadsToDirectory source = true
  apart : ¬ Within source.goal target.goal ∧ ¬ Within target.goal source.goal
  grounded : t.Grounded (FileTree.start target) target.parts
  accepted : ∀ names content, Candidate t source.goal names content →
    (source.join (ofNames names)).Accepted ∧ (target.join (ofNames names)).Accepted

/-- A source is transformed if it is a text, and its output can be written. -/
def Transformable (t : FileTree) (source target p : FilePath) : Prop :=
  (∃ text, t.get? (source.join p).goal = some (.file (.text text))) ∧ t.Writable (target.join p)

/-- What becomes of a source. -/
def outcomeOf (o : Options) (t : FileTree) (source p : FilePath) : Transformed :=
  transform o (t.textAt (source.join p).goal)

/-- The outputs of sources, with their places. -/
def outputsOf (o : Options) (t : FileTree) (source target : FilePath) (ps : List FilePath) :
    List (FilePlace × Text) :=
  ps.map fun p => ((target.join p).goal, (outcomeOf o t source p).output)

/-- What holds in the course of a run, with some sources dealt with. -/
structure Running (o : Options) (t : FileTree) (source target : FilePath) (done : List FilePath)
    (t' : FileTree) (r : TreeReport) : Prop where
  closed : t'.Closed
  sources : ∀ p ∈ done, IsSource t source.goal p
  stored : Stored t t' (outputsOf o t source target r.transformed)
  once : (r.transformed ++ r.failed.map (·.1)).Perm done
  mem_iff : ∀ p ∈ done, p ∈ r.transformed ↔ Transformable t source target p
  totals : r.totals = Report.sum (r.transformed.map fun p => (outcomeOf o t source p).report)

namespace Running

variable {o : Options} {t t' : FileTree} {source target : FilePath} {p : FilePath}
  {q : FilePlace} {done : List FilePath} {r : TreeReport}

/-- What has been written so far are outputs of sources that were dealt with. -/
theorem exists_of_mem_outputs (hrun : Running o t source target done t' r)
    {n : FilePlace × Text} (hn : n ∈ outputsOf o t source target r.transformed) :
    ∃ names content, Candidate t source.goal names content ∧ ofNames names ∈ done ∧
      t.Writable (target.join (ofNames names)) ∧ n.1 = target.goal ++ names := by
  obtain ⟨p, hp, rfl⟩ := List.mem_map.mp hn
  have hdone := hrun.once.subset (List.mem_append_left _ hp)
  obtain ⟨names, content, hc, rfl⟩ := hrun.sources p hdone
  exact ⟨names, content, hc, hdone, ((hrun.mem_iff _ hdone).mp hp).2, goal_below hc.named⟩

theorem isDirectory_stays (hrun : Running o t source target done t' r)
    (hq : t.isDirectory q = true) : t'.isDirectory q = true := by
  rw [isDirectory_iff] at hq ⊢
  refine hrun.stored.get?_of_some (fun n hn heq => ?_) hq
  obtain ⟨names, content, hc, -, hw, hgoal⟩ := hrun.exists_of_mem_outputs hn
  refine hw.free ?_
  rw [goal_below hc.named, ← hgoal, ← heq, hq]

/-- A source that is transformed. -/
theorem add_ok (hrun : Running o t source target done t' r)
    (hsource : IsSource t source.goal p) {t₂ : FileTree} (hclosed : t₂.Closed)
    (hstored : Stored t t₂ (outputsOf o t source target (r.transformed ++ [p])))
    (hdo : Transformable t source target p) :
    Running o t source target (done ++ [p]) t₂ (r.add p (.ok (outcomeOf o t source p).report)) where
  closed := hclosed
  sources := List.forall_mem_append.mpr
    ⟨hrun.sources, fun u hu => List.mem_singleton.mp hu ▸ hsource⟩
  stored := hstored
  once := by
    show ((r.transformed ++ [p]) ++ r.failed.map (·.1)).Perm (done ++ [p])
    rw [List.append_assoc]
    refine ((List.perm_append_comm.append_left r.transformed).trans ?_)
    rw [← List.append_assoc]
    exact hrun.once.append_right [p]
  mem_iff := by
    refine List.forall_mem_append.mpr ⟨fun u hu => ?_, fun u hu => ?_⟩
    · show u ∈ r.transformed ++ [p] ↔ _
      rw [List.mem_append, hrun.mem_iff u hu, List.mem_singleton, or_iff_left_iff_imp]
      exact fun heq => heq ▸ hdo
    · obtain rfl := List.mem_singleton.mp hu
      exact ⟨fun _ => hdo, fun _ => List.mem_append_right _ List.mem_cons_self⟩
  totals := by
    show r.totals.merge _ = Report.sum ((r.transformed ++ [p]).map _)
    rw [List.map_append, List.map_singleton, Report.sum_append, hrun.totals]

/-- A source that is not. -/
theorem add_error (hrun : Running o t source target done t' r) (hnew : p ∉ done)
    (hsource : IsSource t source.goal p) {t₂ : FileTree} (hclosed : t₂.Closed)
    (hsame : ∀ q, t₂.get? q = t'.get? q) (hdo : ¬ Transformable t source target p)
    (error : FileError) :
    Running o t source target (done ++ [p]) t₂ (r.add p (.error error)) where
  closed := hclosed
  sources := List.forall_mem_append.mpr
    ⟨hrun.sources, fun u hu => List.mem_singleton.mp hu ▸ hsource⟩
  stored := ⟨fun n hn => (hsame n.1).trans (hrun.stored.texts n hn),
    fun q hq => (hsame q).trans (hrun.stored.rest q hq)⟩
  once := by
    show (r.transformed ++ (r.failed ++ [(p, error)]).map (·.1)).Perm (done ++ [p])
    rw [List.map_append, ← List.append_assoc]
    exact hrun.once.append_right [p]
  mem_iff := by
    refine List.forall_mem_append.mpr ⟨hrun.mem_iff, fun u hu => ?_⟩
    obtain rfl := List.mem_singleton.mp hu
    refine ⟨fun hmem => ?_, fun h => absurd h hdo⟩
    exact absurd (hrun.once.subset (List.mem_append_left _ hmem)) hnew
  totals := hrun.totals

end Running

namespace TreeTask

variable {o : Options} {t t' : FileTree} {source target : FilePath} {p p' : FilePath}
  {names names' : List Text} {content content' : Content} {q : FilePlace}
  {done : List FilePath} {r : TreeReport}

theorem acceptedSource (h : TreeTask t source target) : source.Accepted :=
  accepted_of_leadsToDirectory h.directory

theorem isDirectory (h : TreeTask t source target) : t.isDirectory source.goal = true :=
  (h.wellFormed.closed.place?_of_leadsToDirectory h.acceptedSource h.directory).2

theorem names_ne_nil (h : TreeTask t source target) (hc : Candidate t source.goal names content) :
    names ≠ [] :=
  hc.names_ne_nil h.isDirectory

/-- No source lies below another one. -/
theorem not_isPrefix (h : TreeTask t source target) (hc : Candidate t source.goal names content)
    (hc' : Candidate t source.goal names' content') (hne : names ≠ names') :
    ¬ names <+: names' := by
  rintro ⟨rest, rfl⟩
  have hrest : rest ≠ [] := by
    rintro rfl
    exact hne (List.append_nil names).symm
  have hfile := hc'.file
  rw [← List.append_assoc] at hfile
  have hdir := h.wellFormed.closed.isDirectory_above (by rw [hfile]; rfl) hrest
  rw [isDirectory_iff, hc.file] at hdir
  cases hdir

/-- Outputs are apart from sources. -/
theorem not_within_source (h : TreeTask t source target) (hnames : ∀ name ∈ names, IsName name)
    (hfixed : isFixed q = false) (hq : Within source.goal q) : ¬ q <+: target.goal ++ names := by
  intro hle
  have hdown : Within q (target.goal ++ names) := by
    rw [← goal_below hnames] at hle ⊢
    exact within_path _ hfixed hle
  rcases (hq.trans hdown).total (within_append hnames) with hwithin | hwithin
  · exact h.apart.1 hwithin
  · exact h.apart.2 hwithin

/-- No source is an output. -/
theorem source_ne_output (h : TreeTask t source target)
    (hc : Candidate t source.goal names content) (hnames' : ∀ name ∈ names', IsName name) :
    source.goal ++ names ≠ target.goal ++ names' := fun heq =>
  h.not_within_source hnames' (hc.isFixed h.isDirectory) (within_append hc.named)
    (heq ▸ List.prefix_rfl)

/-- What is written for one source is not on the way to where another is written. -/
theorem output_not_mem_trail (h : TreeTask t source target) {front : List Text} {name : Text}
    (hc : Candidate t source.goal (front ++ [name]) content)
    (hc' : Candidate t source.goal names' content')
    (hw : t.Writable (target.join (ofNames names'))) :
    target.goal ++ names' ∉ (FileTree.start target).trail (target.parts ++ front) := by
  rw [trail_append, List.mem_append, not_or]
  have hne' := h.names_ne_nil hc'
  constructor
  · -- what the target leads through is there, or above it
    intro hmem
    cases hget : t.get? (target.goal ++ names') with
    | none =>
        have hlength := (h.grounded.of_missing h.wellFormed.closed hmem hget).2.length_le
        rw [List.length_append] at hlength
        have : names'.length ≠ 0 := fun heq => hne' (List.length_eq_zero_iff.mp heq)
        change _ ≤ target.goal.length at hlength
        omega
    | some entry =>
        cases entry with
        | directory => exact hw.free (by rw [goal_below hc'.named, hget])
        | file text =>
            refine hw.through _ ?_ text hget
            rw [start_below hc'.named, parts_below hc'.named, List.dropLast_append_of_ne_nil hne',
              trail_append]
            exact List.mem_append_left _ hmem
  · intro hmem
    have hfront : ∀ u ∈ front, NamesOwn u :=
      fun u hu => (hc.named u (List.mem_append_left _ hu)).namesOwn
    obtain ⟨before, -, hle, heq⟩ := mem_trail_names hfront hmem
    obtain rfl : names' = before := List.append_cancel_left heq
    refine h.not_isPrefix hc' hc (fun heq => ?_) (hle.trans (List.prefix_append front [name]))
    rw [heq] at hle
    have := hle.length_le
    rw [List.length_append, List.length_singleton] at this
    omega

/-- Every source is read as it was at first. -/
theorem read_source (h : TreeTask t source target) (hrun : Running o t source target done t' r)
    (hc : Candidate t source.goal names content) :
    t'.read (source.join (ofNames names)) = content.asText := by
  refine hc.read_eq h.wellFormed.closed hrun.closed h.directory (h.accepted _ _ hc).1
    (fun _ => hrun.isDirectory_stays) (hrun.stored.get?_of_some (fun n hn heq => ?_) hc.file)
  obtain ⟨names', content', hc', -, -, hgoal⟩ := hrun.exists_of_mem_outputs hn
  exact h.source_ne_output hc hc'.named (heq.trans hgoal)

theorem writable_below {front : List Text} {name : Text} (t : FileTree) (target : FilePath)
    (hnames : ∀ u ∈ front ++ [name], IsName u) :
    t.Writable (target.join (ofNames (front ++ [name]))) ↔
      (∀ q ∈ (FileTree.start target).trail (target.parts ++ front), ∀ content,
        ¬ t.get? q = some (.file content)) ∧
        t.get? (target.goal ++ (front ++ [name])) ≠ some .directory := by
  have hparts : (target.join (ofNames (front ++ [name]))).parts.dropLast
      = target.parts ++ front := by
    rw [parts_below hnames, ← List.append_assoc, List.dropLast_concat]
  rw [← hparts, ← goal_below hnames, ← start_below hnames]
  exact ⟨fun h => ⟨h.through, h.free⟩, fun h => ⟨h.1, h.2⟩⟩

/-- What has been written is in the way of no output that is still to be written. -/
theorem writable_iff (h : TreeTask t source target) (hrun : Running o t source target done t' r)
    (hc : Candidate t source.goal names content) (hnew : ofNames names ∉ done) :
    t'.Writable (target.join (ofNames names)) ↔ t.Writable (target.join (ofNames names)) := by
  have hne := h.names_ne_nil hc
  obtain ⟨front, name, rfl⟩ : ∃ front name, names = front ++ [name] :=
    ⟨_, _, (List.dropLast_concat_getLast hne).symm⟩
  have hthrough : ∀ q ∈ (FileTree.start target).trail (target.parts ++ front), ∀ content,
      t'.get? q = some (.file content) ↔ t.get? q = some (.file content) := by
    refine fun q hq content => hrun.stored.file_iff (fun n hn heq => ?_) content
    obtain ⟨names', content', hc', -, hw, hgoal⟩ := hrun.exists_of_mem_outputs hn
    rw [heq, hgoal] at hq
    exact h.output_not_mem_trail hc hc' hw hq
  have hother : ∀ n ∈ outputsOf o t source target r.transformed,
      ¬ target.goal ++ (front ++ [name]) <+: n.1 := by
    intro n hn hle
    obtain ⟨names', content', hc', hdone, -, hgoal⟩ := hrun.exists_of_mem_outputs hn
    rw [hgoal, List.prefix_append_right_inj] at hle
    exact h.not_isPrefix hc hc' (fun heq => hnew (heq ▸ hdone)) hle
  have hgoal : t'.get? (target.goal ++ (front ++ [name]))
      = t.get? (target.goal ++ (front ++ [name])) := by
    rw [hrun.stored.rest _ fun n hn heq => hother n hn (heq ▸ List.prefix_rfl), if_neg]
    rintro ⟨-, n, hn, hle⟩
    exact hother n hn hle
  rw [writable_below _ _ hc.named, writable_below _ _ hc.named, hgoal]
  refine and_congr_left fun _ => forall₂_congr fun q hq => ?_
  exact forall_congr' fun content => not_congr (hthrough q hq content)

theorem outcomeOf_eq {text : Text} (hc : Candidate t source.goal names (.text text)) :
    outcomeOf o t source (ofNames names) = transform o text := by
  rw [outcomeOf, textAt, goal_below hc.named, hc.file]

/-- One source is dealt with, whatever has been dealt with before. -/
theorem step (h : TreeTask t source target) (hrun : Running o t source target done t' r)
    (hnew : p ∉ done) (hsource : IsSource t source.goal p) :
    Running o t source target (done ++ [p])
      (transformOne o t' (FileTree.below source p) (target.join p)).1
      (r.add p (transformOne o t' (FileTree.below source p) (target.join p)).2) := by
  obtain ⟨names, content, hc, rfl⟩ := hsource
  have hsource : IsSource t source.goal (ofNames names) := ⟨names, content, hc, rfl⟩
  have hne := h.names_ne_nil hc
  have hbelow : FileTree.below source (ofNames names) = source.join (ofNames names) :=
    if_neg (text_ofNames_ne_nil hc.named hne)
  have hread := h.read_source hrun hc
  rw [hbelow]
  cases content with
  | bytes b =>
      rw [transformOne, hread]
      refine hrun.add_error hnew hsource hrun.closed (fun _ => rfl) ?_ _
      rintro ⟨⟨text, htext⟩, -⟩
      rw [goal_below hc.named, hc.file] at htext
      cases htext
  | text text =>
      have hslash := endsWithSlash_below (x := target) hc.named hne
      have hwrite := h.writable_iff hrun hc hnew
      obtain ⟨front, name, rfl⟩ : ∃ front name, names = front ++ [name] :=
        ⟨_, _, (List.dropLast_concat_getLast hne).symm⟩
      have hends := ends_below hc.named (h.accepted _ _ hc).2
      have hground : t'.Grounded (FileTree.start (target.join (ofNames (front ++ [name]))))
          (target.parts ++ front) := by
        rw [start_below hc.named, grounded_append]
        refine ⟨h.grounded.mono fun q => hrun.stored.isSome_mono, grounded_names fun u hu => ?_⟩
        exact (hc.named u (List.mem_append_left _ hu)).namesOwn
      have hone {t₂ : FileTree} {result : Except IoError Unit}
          (hmade : t'.writeBelow (target.join (ofNames (front ++ [name])))
            (transform o text).output = (t₂, result)) :
          transformOne o t' (source.join (ofNames (front ++ [name])))
              (target.join (ofNames (front ++ [name])))
            = (t₂, (result.mapError FileError.io).map fun _ => (transform o text).report) := by
        rw [transformOne, hread]
        dsimp only [Content.asText]
        rw [hmade]
        cases result <;> rfl
      by_cases hw : t.Writable (target.join (ofNames (front ++ [name])))
      · obtain ⟨t₂, hmade, hclosed, hplace, hrest⟩ :=
          writeBelow_of_writable hrun.closed hends hslash hground (hwrite.mpr hw)
            (transform o text).output
        rw [hone hmade, ← outcomeOf_eq hc]
        rw [← outcomeOf_eq (o := o) hc] at hplace
        refine hrun.add_ok hsource hclosed ?_ ⟨⟨text, by rw [goal_below hc.named, hc.file]⟩, hw⟩
        rw [outputsOf, List.map_append]
        refine hrun.stored.append (fun n hn heq => ?_) hplace hrest
        obtain ⟨names', content', hc', hdone, -, hgoal⟩ := hrun.exists_of_mem_outputs hn
        rw [hgoal, goal_below hc.named] at heq
        exact hnew (List.append_cancel_left heq ▸ hdone)
      · obtain ⟨t₂, error, hmade, hclosed, hsame⟩ :=
          writeBelow_of_not_writable hrun.closed hends hslash hground (mt hwrite.mp hw)
            (transform o text).output
        rw [hone hmade]
        exact hrun.add_error hnew hsource hclosed hsame (fun hdo => hw hdo.2) _

/-- All sources are dealt with, one after another. -/
theorem run (h : TreeTask t source target) (hrun : Running o t source target done t' r)
    {paths : List FilePath} (hnodup : (done ++ paths).Nodup)
    (hpaths : ∀ p ∈ paths, IsSource t source.goal p) :
    Running o t source target (done ++ paths) (transformSources o source target t' r paths).1
      (transformSources o source target t' r paths).2 := by
  induction paths generalizing done t' r with
  | nil =>
      rw [List.append_nil]
      exact hrun
  | cons p paths ih =>
      obtain ⟨hsource, hsources⟩ := List.forall_mem_cons.mp hpaths
      have hnew : p ∉ done := fun hmem =>
        (List.nodup_append.mp hnodup).2.2 p hmem p List.mem_cons_self rfl
      rw [List.append_cons] at hnodup ⊢
      exact ih (h.step hrun hnew hsource) hnodup hsources

theorem start (h : TreeTask t source target) : Running o t source target [] t {} where
  closed := h.wellFormed.closed
  sources := fun _ hp => absurd hp List.not_mem_nil
  stored := .refl t
  once := .refl []
  mem_iff := fun _ hp => absurd hp List.not_mem_nil
  totals := rfl

/-- An output is read where it has been written. -/
theorem read_output (h : TreeTask t source target) (hrun : Running o t source target done t' r)
    (hp : p ∈ r.transformed) :
    t'.read (target.join p) = .ok (outcomeOf o t source p).output := by
  have hdone := hrun.once.subset (List.mem_append_left _ hp)
  obtain ⟨names, content, hc, rfl⟩ := hrun.sources p hdone
  have hw := ((hrun.mem_iff _ hdone).mp hp).2
  have hne := h.names_ne_nil hc
  have hslash := endsWithSlash_below (x := target) hc.named hne
  obtain ⟨front, name, rfl⟩ : ∃ front name, names = front ++ [name] :=
    ⟨_, _, (List.dropLast_concat_getLast hne).symm⟩
  rw [writable_below _ _ hc.named] at hw
  refine read_of_written h.wellFormed.closed hrun.closed (ends_below hc.named (h.accepted _ _ hc).2)
    hslash ?_ ?_ (fun q => hrun.isDirectory_stays)
    (hrun.stored.texts _ (List.mem_map_of_mem hp))
  · rw [start_below hc.named, grounded_append]
    refine ⟨h.grounded, grounded_names fun u hu => ?_⟩
    exact (hc.named u (List.mem_append_left _ hu)).namesOwn
  · rw [start_below hc.named]
    exact hw.1

end TreeTask

/-! ## The whole tree -/

/-- What becomes of a tree: the sources are reported once each, transformed if they can be;
    outputs are written, and the directories above them made; nothing else changes. -/
structure TreeOutcome (o : Options) (t : FileTree) (source target : FilePath)
    (paths : List FilePath) (t' : FileTree) (r : TreeReport) : Prop where
  once : (r.transformed ++ r.failed.map (·.1)).Perm paths
  transformed_iff : ∀ p ∈ paths, p ∈ r.transformed ↔ Transformable t source target p
  written : ∀ p ∈ r.transformed,
    t'.get? (target.join p).goal = some (.file (.text (outcomeOf o t source p).output)) ∧
      t'.read (target.join p) = .ok (outcomeOf o t source p).output
  created : ∀ q, t.get? q = none → t'.get? q ≠ none → ∃ p ∈ r.transformed,
    q = (target.join p).goal ∨ t'.get? q = some .directory ∧ q <+: (target.join p).goal
  unchanged : ∀ q e, t.get? q = some e → (∀ p ∈ r.transformed, q ≠ (target.join p).goal) →
    t'.get? q = some e
  sources : ∀ q, Within source.goal q → t'.get? q = t.get? q
  totals : r.totals = Report.sum (r.transformed.map fun p => (outcomeOf o t source p).report)

theorem TreeTask.treeOutcome {o : Options} {t t' : FileTree} {source target : FilePath}
    {paths : List FilePath} {r : TreeReport} (h : TreeTask t source target)
    (hrun : Running o t source target paths t' r) : TreeOutcome o t source target paths t' r where
  once := hrun.once
  transformed_iff := hrun.mem_iff
  written := fun p hp =>
    ⟨hrun.stored.texts _ (List.mem_map_of_mem hp), h.read_output hrun hp⟩
  created := by
    intro q hnone hsome
    by_cases hq : ∀ n ∈ outputsOf o t source target r.transformed, q ≠ n.1
    · have hget := hrun.stored.rest q hq
      rw [hget, hnone] at hsome
      split at hsome
      · next hmade =>
          obtain ⟨n, hn, hle⟩ := hmade.2
          obtain ⟨p, hp, rfl⟩ := List.mem_map.mp hn
          exact ⟨p, hp, .inr ⟨by rw [hget, hnone, if_pos hmade], hle⟩⟩
      · exact absurd rfl hsome
    · push Not at hq
      obtain ⟨n, hn, rfl⟩ := hq
      obtain ⟨p, hp, rfl⟩ := List.mem_map.mp hn
      exact ⟨p, hp, .inl rfl⟩
  unchanged := by
    intro q e hq hother
    refine hrun.stored.get?_of_some (fun n hn => ?_) hq
    obtain ⟨p, hp, rfl⟩ := List.mem_map.mp hn
    exact hother p hp
  sources := by
    intro q hwithin
    by_cases hfixed : isFixed q = true
    · rw [get?_of_isFixed hfixed, get?_of_isFixed hfixed]
    · have hapart : ∀ n ∈ outputsOf o t source target r.transformed, ¬ q <+: n.1 := by
        intro n hn
        obtain ⟨names, content, hc, -, -, hgoal⟩ := hrun.exists_of_mem_outputs hn
        rw [hgoal]
        exact h.not_within_source hc.named (Bool.eq_false_iff.mpr hfixed) hwithin
      rw [hrun.stored.rest q fun n hn heq => hapart n hn (heq ▸ List.prefix_rfl), if_neg]
      rintro ⟨-, n, hn, hle⟩
      exact hapart n hn hle
  totals := hrun.totals

/-- A tree with a source that is no text, one that is passed over, and one whose output a file
    is in the way of. -/
def mixedTree : FileTree :=
  ⟨[(["src".toList], .directory),
    (["src".toList, "a.js".toList], .file (.text "import a from 'b';".toList)),
    (["src".toList, "b.ts".toList], .file (.bytes [255])),
    (["src".toList, "dist".toList], .directory),
    (["src".toList, "dist".toList, "c.js".toList], .file (.text [])),
    (["src".toList, "lib".toList], .directory),
    (["src".toList, "lib".toList, "d.mjs".toList], .file (.text [])),
    (["out".toList], .directory),
    (["out".toList, "lib".toList], .file (.text []))]⟩

/-- A tree with one source. -/
def lonelyTree : FileTree :=
  ⟨[(["src".toList], .directory), (["src".toList, "a.js".toList], .file (.text [])),
    (["f".toList], .file (.text []))]⟩

theorem transformTree_lonely (target : FilePath) :
    transformTree {} lonelyTree ⟨"src".toList⟩ target
      = ((transformSources {} ⟨"src".toList⟩ target lonelyTree {} [⟨"a.js".toList⟩]).1,
        .ok (transformSources {} ⟨"src".toList⟩ target lonelyTree {} [⟨"a.js".toList⟩]).2) := by
  have hsources : lonelyTree.sources ⟨"src".toList⟩ = .ok [⟨"a.js".toList⟩] := by
    have hwalk : lonelyTree.sourcesBelow ["src".toList] = [⟨"a.js".toList⟩] :=
      List.perm_singleton.mp ((sourcesBelow_perm _ _).trans (.of_eq (by decide +kernel)))
    rw [← hwalk]
    rfl
  rw [transformTree, hsources]

end RequireForm
