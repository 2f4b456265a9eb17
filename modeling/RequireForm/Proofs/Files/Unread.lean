import RequireForm.Proofs.Files.Sources

/-!
# Unread files — two trees that differ in what one file holds

    src/a.js    "import a"          src/a.js    "import a"
    src         a directory         src         a directory
    o.json      "[1]"               o.json      "[2]"             the file that differs

Where paths lead, what a walk comes to and what may be written depend on which places hold
directories and which hold files, and not on what the files hold. So what is done to two such
trees comes apart only where the one file that differs is read. Elsewhere both answer the same
and change in the same way, and after that they still differ in that file only.

  1. `FileTree.SameBut`: trees that differ in one file, and the paths in them.
  2. `FileTree.Parallel`: the same answer after the same changes.
  3. `SameBut.write` and the other changes, each made on both trees.
  4. `SameBut.transformTree`: a tree of sources that the file is none of.
-/

namespace RequireForm

/-- Both are directories, or both are files. -/
inductive Entry.Alike : Entry → Entry → Prop where
  | directory : Alike .directory .directory
  | file (content content' : Content) : Alike (.file content) (.file content')

namespace FileTree

open FilePlace

variable {t t' : FileTree} {p source : FilePath} {q r : FilePlace}

/-! ## Trees that differ in one file -/

/-- What two trees hold at a place: something of the same kind, and the same thing unless it is
    the place of the file that differs. -/
structure SameEntry (q : FilePlace) (x x' : FilePlace × Entry) : Prop where
  place : x'.1 = x.1
  alike : x.2.Alike x'.2
  same : x.1 ≠ q → x'.2 = x.2

theorem SameEntry.refl (q : FilePlace) (x : FilePlace × Entry) : SameEntry q x x where
  place := rfl
  alike := by
    obtain ⟨r, _ | content⟩ := x
    · exact .directory
    · exact .file content content
  same := fun _ => rfl

/-- The trees list the same directories and files, and only the file at one place may hold
    something else. -/
def SameBut (q : FilePlace) (t t' : FileTree) : Prop :=
  List.Forall₂ (SameEntry q) t.entries t'.entries

namespace SameBut

theorem get?_rel (h : SameBut q t t') (r : FilePlace) :
    Option.Rel (fun e e' => SameEntry q (r, e) (r, e')) (t.get? r) (t'.get? r) := by
  obtain ⟨entries⟩ := t
  obtain ⟨entries'⟩ := t'
  rw [FileTree.get?, FileTree.get?]
  split
  · exact .some (.refl q _)
  · dsimp only [SameBut] at h ⊢
    induction h with
    | nil => exact .none
    | @cons x x' entries entries' hx _ ih =>
        obtain ⟨place, e⟩ := x
        obtain ⟨place', e'⟩ := x'
        obtain rfl : place' = place := hx.place
        rw [List.lookup_cons, List.lookup_cons]
        cases hr : r == place' with
        | true => exact .some (beq_iff_eq.mp hr ▸ hx)
        | false => exact ih

theorem isDirectory_eq (h : SameBut q t t') (r : FilePlace) :
    t'.isDirectory r = t.isDirectory r := by
  have hrel := h.get?_rel r
  rw [isDirectory, isDirectory]
  generalize t.get? r = e? at hrel
  generalize t'.get? r = e?' at hrel
  cases hrel with
  | none => rfl
  | some hentry => cases hentry.alike <;> rfl

theorem isNone_eq (h : SameBut q t t') (r : FilePlace) :
    (t'.get? r).isNone = (t.get? r).isNone := by
  have hrel := h.get?_rel r
  generalize t.get? r = e? at hrel
  generalize t'.get? r = e?' at hrel
  cases hrel <;> rfl

theorem get?_eq (h : SameBut q t t') (hr : r ≠ q) : t'.get? r = t.get? r := by
  have hrel := h.get?_rel r
  generalize t.get? r = e? at hrel
  generalize t'.get? r = e?' at hrel
  cases hrel with
  | none => rfl
  | some hentry => exact congrArg some (hentry.same hr)

/-- The file that differs may be given another content. -/
theorem of_put {content : Content} (h : t.get? q = some (.file content)) (content' : Content) :
    SameBut q t (t.put q (.file content')) := by
  rw [FileTree.get?] at h
  split at h
  · cases h
  · rw [SameBut, FileTree.put]
    dsimp only
    generalize t.entries = entries at h
    induction entries with
    | nil => cases h
    | cons x entries ih =>
        obtain ⟨place, e⟩ := x
        rw [List.lookup_cons] at h
        rw [putIn]
        by_cases hplace : place = q
        · rw [if_pos hplace]
          rw [beq_iff_eq.mpr hplace.symm] at h
          obtain rfl : e = .file content := Option.some.inj h
          exact .cons ⟨hplace.symm, .file content content', fun hne => absurd hplace hne⟩
            (List.forall₂_same.mpr fun x _ => .refl q x)
        · rw [if_neg hplace]
          rw [beq_eq_false_iff_ne.mpr (Ne.symm hplace)] at h
          exact .cons (.refl q _) (ih h)

/-- The same change on both sides. -/
theorem put (h : SameBut q t t') (r : FilePlace) (e : Entry) :
    SameBut q (t.put r e) (t'.put r e) := by
  obtain ⟨entries⟩ := t
  obtain ⟨entries'⟩ := t'
  dsimp only [SameBut, FileTree.put] at h ⊢
  induction h with
  | nil => exact .cons (.refl q _) .nil
  | @cons x x' entries entries' hx hentries ih =>
      obtain ⟨place, d⟩ := x
      obtain ⟨place', d'⟩ := x'
      obtain rfl : place' = place := hx.place
      rw [putIn, putIn]
      split
      · exact .cons (.refl q _) hentries
      · exact .cons hx ih

/-! ## Paths -/

theorem follow_eq (h : SameBut q t t') (place : FilePlace) (part : Text) :
    t'.follow place part = t.follow place part := by
  rw [follow, follow, h.isDirectory_eq, h.isNone_eq]

theorem followAll_eq (h : SameBut q t t') (place : FilePlace) (parts : List Text) :
    t'.followAll place parts = t.followAll place parts := by
  induction parts generalizing place with
  | nil => rfl
  | cons part parts ih =>
      rw [followAll, followAll, h.follow_eq]
      cases t.follow place part with
      | error e => rfl
      | ok next => exact ih next

theorem place?_eq (h : SameBut q t t') (p : FilePath) : t'.place? p = t.place? p := by
  simp only [FileTree.place?, h.followAll_eq, h.isDirectory_eq]

theorem leadsToDirectory_eq (h : SameBut q t t') (p : FilePath) :
    t'.leadsToDirectory p = t.leadsToDirectory p := by
  simp only [leadsToDirectory, h.place?_eq, h.isDirectory_eq]

theorem holder_eq (h : SameBut q t t') (p : FilePath) (named : IoError) :
    t'.holder p named = t.holder p named := by
  simp only [holder, h.followAll_eq, h.isDirectory_eq]

theorem filePlace_eq (h : SameBut q t t') (p : FilePath) : t'.filePlace p = t.filePlace p := by
  rw [filePlace, filePlace, h.holder_eq]

theorem directoryPlace_eq (h : SameBut q t t') (p : FilePath) :
    t'.directoryPlace p = t.directoryPlace p := by
  rw [directoryPlace, directoryPlace, h.holder_eq]

end SameBut

theorem goal_of_follow {place : FilePlace} {part : Text} (h : t.follow place part = .ok r) :
    r = place.next part := by
  rw [follow] at h
  rw [next]
  split at h
  · cases h
  · split at h
    · next hhere => rw [if_pos hhere, Except.ok.inj h]
    · next hhere =>
        rw [if_neg hhere]
        split at h
        · next habove => rw [if_pos habove, Except.ok.inj h]
        · next habove =>
            rw [if_neg habove]
            split at h
            · cases h
            · split at h
              · cases h
              · exact (Except.ok.inj h).symm

theorem goal_of_followAll {place : FilePlace} {parts : List Text}
    (h : t.followAll place parts = .ok r) : r = place.goal parts := by
  induction parts generalizing place with
  | nil => exact (Except.ok.inj h).symm
  | cons part parts ih =>
      rw [followAll] at h
      split at h
      · cases h
      · next next hnext =>
          rw [goal_of_follow hnext] at h
          exact ih h

/-- A path that leads anywhere leads to its goal, whatever the tree holds. -/
theorem goal_of_place? (h : t.place? p = .ok r) : r = p.goal := by
  rw [place?] at h
  split at h
  · cases h
  · split at h
    · cases h
    · next hfollow =>
        split at h
        · cases h
        · rw [← Except.ok.inj h]
          exact goal_of_followAll hfollow

namespace SameBut

/-- A path to anything else is read alike. -/
theorem read_eq (h : SameBut q t t') (hp : ∀ place, t.place? p = .ok place → place ≠ q) :
    t'.read p = t.read p := by
  rw [read, read, h.place?_eq]
  cases hplace : t.place? p with
  | error e => rfl
  | ok place =>
      dsimp only
      rw [h.get?_eq (hp place hplace)]

/-! ## Walks -/

theorem source?_eq {x x' : FilePlace × Entry} (h : SameEntry q x x') (root : FilePlace) :
    source? root x' = source? root x := by
  obtain ⟨place, e⟩ := x
  obtain ⟨place', e'⟩ := x'
  obtain rfl : place' = place := h.place
  have hcandidate (names : List Text) : isCandidate names e' = isCandidate names e := by
    cases h.alike <;> rfl
  simp only [source?, hcandidate]

theorem sourcesBelow_eq (h : SameBut q t t') (root : FilePlace) :
    t'.sourcesBelow root = t.sourcesBelow root := by
  have hfound : t'.entries.filterMap (source? root) = t.entries.filterMap (source? root) := by
    obtain ⟨entries⟩ := t
    obtain ⟨entries'⟩ := t'
    dsimp only [SameBut] at h ⊢
    induction h with
    | nil => rfl
    | cons hx _ ih => rw [List.filterMap_cons, List.filterMap_cons, source?_eq hx, ih]
  exact congrArg (List.mergeSort · _) hfound

theorem sources_eq (h : SameBut q t t') (root : FilePath) : t'.sources root = t.sources root := by
  simp only [sources, h.place?_eq, h.isDirectory_eq, h.sourcesBelow_eq]

end SameBut

/-- What a walk comes to is in the directory that it starts from, or is the file itself. -/
theorem within_of_mem_sources {paths : List FilePath} (ht : t.WellFormed)
    (hsources : t.sources source = .ok paths) (hp : p ∈ paths) :
    ∃ place, t.place? source = .ok place ∧ Within place (below source p).goal := by
  rw [sources] at hsources
  split at hsources
  · cases hsources
  · next place hplace =>
      refine ⟨place, hplace, ?_⟩
      split at hsources
      · next hdir =>
          rw [← Except.ok.inj hsources] at hp
          obtain ⟨names, content, hc, rfl⟩ := ((walkOrder_sourcesBelow ht hdir).mem_iff p).mp hp
          have hne := FilePath.text_ofNames_ne_nil hc.named (hc.names_ne_nil hdir)
          rw [below, if_neg hne, FilePath.goal_below hc.named, ← goal_of_place? hplace]
          exact within_append hc.named
      · rw [← Except.ok.inj hsources] at hp
        split at hp
        · obtain rfl := List.mem_singleton.mp hp
          rw [below, if_pos rfl, ← goal_of_place? hplace]
          exact .refl
        · exact absurd hp List.not_mem_nil

/-! ## The same changes -/

variable {α : Type}

/-- The tree with some changes made to it, one after another. -/
def putAll (t : FileTree) (changes : List (FilePlace × Entry)) : FileTree :=
  changes.foldl (fun t change => t.put change.1 change.2) t

theorem SameBut.putAll (h : SameBut q t t') (changes : List (FilePlace × Entry)) :
    SameBut q (t.putAll changes) (t'.putAll changes) := by
  induction changes generalizing t t' with
  | nil => exact h
  | cons change changes ih => exact ih (h.put change.1 change.2)

/-- What is done to two trees gives the same answer, and makes the same changes. -/
def Parallel (t t' : FileTree) (done done' : FileTree × α) : Prop :=
  ∃ changes answer, done = (t.putAll changes, answer) ∧ done' = (t'.putAll changes, answer)

namespace Parallel

theorem answer (t t' : FileTree) (a : α) : Parallel t t' (t, a) (t', a) := ⟨[], a, rfl, rfl⟩

theorem put (t t' : FileTree) (r : FilePlace) (e : Entry) (a : α) :
    Parallel t t' (t.put r e, a) (t'.put r e, a) := ⟨[(r, e)], a, rfl, rfl⟩

/-- One thing is done after another. -/
theorem after {changes : List (FilePlace × Entry)} {done done' : FileTree × α}
    (h : Parallel (t.putAll changes) (t'.putAll changes) done done') :
    Parallel t t' done done' := by
  obtain ⟨more, a, rfl, rfl⟩ := h
  exact ⟨changes ++ more, a, by rw [FileTree.putAll, FileTree.putAll, FileTree.putAll,
    List.foldl_append], by rw [FileTree.putAll, FileTree.putAll, FileTree.putAll,
    List.foldl_append]⟩

end Parallel

namespace SameBut

theorem write (h : SameBut q t t') (p : FilePath) (text : Text) :
    Parallel t t' (t.write p text) (t'.write p text) := by
  rw [FileTree.write, FileTree.write, h.filePlace_eq]
  cases t.filePlace p with
  | error e => exact .answer t t' _
  | ok place =>
      dsimp only
      rw [h.isDirectory_eq]
      split
      · exact .answer t t' _
      · exact .put t t' place _ _

theorem makeDirectory (h : SameBut q t t') (p : FilePath) :
    Parallel t t' (t.makeDirectory p) (t'.makeDirectory p) := by
  rw [FileTree.makeDirectory, FileTree.makeDirectory, h.directoryPlace_eq]
  cases t.directoryPlace p with
  | error e => exact .answer t t' _
  | ok place =>
      dsimp only
      rw [← Option.not_isNone, ← Option.not_isNone, h.isNone_eq]
      split
      · exact .answer t t' _
      · exact .put t t' place _ _

theorem unlessThere (h : SameBut q t t') (p : FilePath)
    {made made' : FileTree × Except IoError Unit} (hmade : Parallel t t' made made') :
    Parallel t t' (FileTree.unlessThere p made) (FileTree.unlessThere p made') := by
  obtain ⟨changes, error | ⟨⟩, rfl, rfl⟩ := hmade
  · rw [FileTree.unlessThere, FileTree.unlessThere, (h.putAll changes).leadsToDirectory_eq]
    exact .after (.answer _ _ _)
  · exact .after (.answer _ _ _)

theorem makeAll (h : SameBut q t t') (ps : List FilePath) :
    Parallel t t' (t.makeAll ps) (t'.makeAll ps) := by
  -- on the paths: the directories above are made in the same way
  induction ps generalizing t t' with
  | nil => exact .answer t t' _
  | cons p above ih =>
      have hmade := h.makeDirectory p
      rw [FileTree.makeAll, FileTree.makeAll]
      have hthere := h.unlessThere p hmade
      obtain ⟨changes, answer, hdone, hdone'⟩ := hmade
      rw [hdone, hdone'] at hthere ⊢
      have hs := h.putAll changes
      split
      · next t₁ heq =>
          obtain ⟨rfl, rfl⟩ := Prod.mk.inj heq
          obtain ⟨more, result, hall, hall'⟩ := ih hs
          dsimp only
          rw [hall, hall']
          have hs := hs.putAll more
          cases result with
          | error e => exact .after (.after (.answer _ _ _))
          | ok u => exact .after (.after (hs.unlessThere _ (hs.makeDirectory _)))
      · next hother =>
          split
          · next heq =>
              obtain ⟨-, rfl⟩ := Prod.mk.inj heq
              exact absurd rfl (hother _)
          · exact hthere

theorem makeDirectories (h : SameBut q t t') (p : FilePath) :
    Parallel t t' (t.makeDirectories p) (t'.makeDirectories p) := h.makeAll _

theorem writeBelow (h : SameBut q t t') (p : FilePath) (text : Text) :
    Parallel t t' (t.writeBelow p text) (t'.writeBelow p text) := by
  rw [FileTree.writeBelow, FileTree.writeBelow]
  cases p.parent? with
  | none => exact h.write p text
  | some parent =>
      obtain ⟨changes, answer, hmade, hmade'⟩ := h.makeDirectories parent
      dsimp only
      rw [hmade, hmade']
      cases answer with
      | error e => exact .after (.answer _ _ _)
      | ok u => exact .after ((h.putAll changes).write p text)

/-! ## Sources -/

theorem transformOne (o : Options) (h : SameBut q t t') (hsource : source.goal ≠ q)
    (target : FilePath) :
    Parallel t t' (transformOne o t source target) (transformOne o t' source target) := by
  rw [RequireForm.transformOne, RequireForm.transformOne,
    h.read_eq fun place hplace => goal_of_place? hplace ▸ hsource]
  cases t.read source with
  | error e => exact .answer t t' _
  | ok text =>
      obtain ⟨changes, answer, hwritten, hwritten'⟩ :=
        h.writeBelow target (transform o text).output
      dsimp only
      rw [hwritten, hwritten']
      cases answer with
      | error e => exact .after (.answer _ _ _)
      | ok u => exact .after (.answer _ _ _)

theorem transformSources (o : Options) (h : SameBut q t t') (target : FilePath)
    {paths : List FilePath} (hpaths : ∀ p ∈ paths, (below source p).goal ≠ q) (r : TreeReport) :
    Parallel t t' (transformSources o source target t r paths)
      (transformSources o source target t' r paths) := by
  -- on the sources: the trees still differ in one file only when one source has been written
  induction paths generalizing t t' r with
  | nil => exact .answer t t' r
  | cons p paths ih =>
      obtain ⟨hp, hpaths⟩ := List.forall_mem_cons.mp hpaths
      obtain ⟨changes, answer, hone, hone'⟩ := h.transformOne o hp (target.join p)
      rw [RequireForm.transformSources, RequireForm.transformSources, hone, hone']
      exact .after (ih (h.putAll changes) hpaths _)

/-- The file that differs is no source of the tree, so what it holds makes no difference. -/
theorem transformTree (o : Options) (h : SameBut q t t') (ht : t.WellFormed)
    (hapart : ∀ place, t.place? source = .ok place → ¬ Within place q) (target : FilePath) :
    Parallel t t' (transformTree o t source target) (transformTree o t' source target) := by
  rw [RequireForm.transformTree, RequireForm.transformTree, h.sources_eq]
  cases hsources : t.sources source with
  | error e => exact .answer t t' _
  | ok paths =>
      have hpaths : ∀ p ∈ paths, (below source p).goal ≠ q := by
        rintro p hp rfl
        obtain ⟨place, hplace, hwithin⟩ := within_of_mem_sources ht hsources hp
        exact hapart place hplace hwithin
      obtain ⟨changes, r, hdone, hdone'⟩ := h.transformSources o target hpaths {}
      dsimp only
      rw [hdone, hdone']
      exact .after (.answer _ _ _)

end SameBut

end FileTree

end RequireForm
