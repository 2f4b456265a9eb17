import Mathlib.Data.List.Nodup
import RequireForm.Files.Transform
import RequireForm.Proofs.Files.Directories

/-!
# Sources below a directory — what a walk comes to

    src/a.js               a source, by its extension
    src/lib/b.TSX          a source as well
    src/dist/c.js          not one: `dist` is passed over
    src/d.txt, src/lib     neither

  1. `FileTree.WellFormed`: a tree as a file system holds it.
  2. `FilePlace.Within`: what lies in a directory, by going up.
  3. `FilePath.parts_below`, `goal_below`: the path of what lies below another path.
  4. `FileTree.Candidate`, `walkOrder_sourcesBelow`: a walk comes to each candidate once, and to
     nothing else.
-/

namespace RequireForm

open FilePath

/-! ## Names and trees -/

/-- A text that something may be named. -/
def IsName (name : Text) : Prop :=
  (name ≠ [] ∧ '/' ∉ name) ∧ (name ≠ here ∧ name ≠ above) ∧ '\x00' ∉ name ∧
    name.byteLength ≤ FileTree.maxName

instance : DecidablePred IsName := fun _ => inferInstanceAs (Decidable (_ ∧ _))

namespace IsName

variable {name : Text}

theorem isPart (h : IsName name) : IsPart name := h.1

theorem namesOwn (h : IsName name) : NamesOwn name := h.2.1

theorem ne_root (h : IsName name) : name ≠ ['/'] := by
  rintro rfl
  exact h.isPart.2 List.mem_cons_self

end IsName

namespace FilePlace

variable {place q : FilePlace} {names : List Text}

/-- A place lies in a directory, or is it: going up from it leads there. -/
inductive Within (place : FilePlace) : FilePlace → Prop where
  | refl : Within place place
  | up {q : FilePlace} : Within place q.parent → Within place q

theorem Within.trans {place' : FilePlace} (h : Within place' place) (h' : Within place q) :
    Within place' q := by
  induction h' with
  | refl => exact h
  | up _ ih => exact .up ih

/-- Of two directories that a place lies in, one lies in the other. -/
theorem Within.total {place' : FilePlace} (h : Within place q) (h' : Within place' q) :
    Within place place' ∨ Within place' place := by
  induction h with
  | refl => exact .inr h'
  | up hup ih =>
      cases h' with
      | refl => exact .inl (.up hup)
      | up hup' => exact ih hup'

theorem within_append (h : ∀ name ∈ names, IsName name) : Within place (place ++ names) := by
  induction names using List.reverseRecOn with
  | nil =>
      rw [List.append_nil]
      exact .refl
  | append_singleton names name ih =>
      obtain ⟨hnames, hname⟩ := List.forall_mem_append.mp h
      have hname := hname name List.mem_cons_self
      refine .up ?_
      rw [← List.append_assoc, parent_concat hname.isPart hname.namesOwn]
      exact ih hnames

/-- From what is not there in any case, one comes up by names only. -/
theorem Within.isPrefix (h : Within place q) (hplace : isFixed place = false) : place <+: q := by
  have hfixed {q : FilePlace} (h : Within place q) : isFixed q = false := by
    induction h with
    | refl => exact hplace
    | up _ ih => exact Bool.eq_false_iff.mpr fun hq => Bool.eq_false_iff.mp ih (isFixed_parent hq)
  induction h with
  | refl => exact List.prefix_rfl
  | @up q hup ih =>
      rw [parent_of_not_isFixed (hfixed (.up hup))] at ih
      exact ih.trans (List.dropLast_prefix q)

/-- A path leads down from whatever is above its goal and not there in any case. -/
theorem within_goal {parts : List Text} (hparts : ∀ part ∈ parts, IsPart part)
    (hplace : ∀ q, isFixed q = false → q <+: place → Within q place) :
    ∀ q, isFixed q = false → q <+: place.goal parts → Within q (place.goal parts) := by
  induction parts generalizing place with
  | nil => exact hplace
  | cons part parts ih =>
      obtain ⟨hpart, hparts⟩ := List.forall_mem_cons.mp hparts
      refine ih hparts fun q hq hle => ?_
      by_cases hhere : part = here
      · subst hhere
        exact hplace q hq hle
      · by_cases habove : part = above
        · subst habove
          rw [next_above] at hle ⊢
          by_cases hfixed : isFixed place = true
          · obtain ⟨rest, hrest⟩ := hle
            exact absurd (isFixed_left (hrest ▸ isFixed_parent hfixed)) (ne_true_of_eq_false hq)
          · have hparent := parent_of_not_isFixed (Bool.eq_false_iff.mpr hfixed)
            rw [hparent] at hle
            cases hplace q hq (hle.trans (List.dropLast_prefix place)) with
            | refl =>
                have hnil : place = [] := by
                  have hlength := hle.length_le
                  rw [List.length_dropLast] at hlength
                  exact List.length_eq_zero_iff.mp (by omega)
                subst hnil
                cases hq
            | up hup => exact hup
        · rw [next_of_namesOwn ⟨hhere, habove⟩] at hle ⊢
          rcases List.prefix_concat_iff.mp hle with rfl | hle
          · exact .refl
          · refine .up ?_
            rw [parent_concat hpart ⟨hhere, habove⟩]
            exact hplace q hq hle

theorem within_path (p : FilePath) (hq : isFixed q = false) (hle : q <+: p.goal) :
    Within q p.goal := by
  refine within_goal (fun part hpart => isPart_of_mem_parts hpart) (fun q hq hle => ?_) q hq hle
  have hstart : isFixed (FileTree.start p) = true := by
    rw [FileTree.start]
    split <;> rfl
  obtain ⟨rest, hrest⟩ := hle
  exact absurd (isFixed_left (hrest ▸ hstart)) (ne_true_of_eq_false hq)

end FilePlace

/-! ## Paths below a directory -/

namespace FilePath

variable {x : FilePath} {names : List Text}

theorem parts_ofNames (h : ∀ name ∈ names, IsName name) : (ofNames names).parts = names :=
  parts_ofParts fun name hname => (h name hname).isPart

theorem isAbsolute_ofNames (h : ∀ name ∈ names, IsName name) : (ofNames names).isAbsolute = false :=
  isAbsolute_ofPieces (arePieces_of_isPart fun name hname => (h name hname).isPart)

theorem text_ofNames_ne_nil (h : ∀ name ∈ names, IsName name) (hne : names ≠ []) :
    (ofNames names).text ≠ [] := by
  intro hnil
  have hparts := parts_ofNames h
  rw [parts_eq_nil hnil] at hparts
  exact hne hparts.symm

theorem exists_join_concat (sep : Text) (front : List Text) (name : Text) :
    ∃ s, Text.join sep (front ++ [name]) = s ++ name := by
  induction front with
  | nil => exact ⟨[], rfl⟩
  | cons part front ih =>
      obtain ⟨s, hs⟩ := ih
      refine ⟨part ++ sep ++ s, ?_⟩
      rw [List.cons_append, Text.join_cons sep part (by simp), hs, List.append_assoc (part ++ sep)]

theorem endsWithSlash_ofNames (h : ∀ name ∈ names, IsName name) (hne : names ≠ []) :
    (ofNames names).endsWithSlash = false := by
  obtain ⟨front, name, rfl⟩ : ∃ front name, names = front ++ [name] :=
    ⟨_, _, (List.dropLast_concat_getLast hne).symm⟩
  obtain ⟨s, hs⟩ := exists_join_concat ['/'] front name
  obtain ⟨hname, hslash⟩ := (h name (List.mem_append_right front List.mem_cons_self)).isPart
  rw [endsWithSlash, decide_eq_false_iff_not]
  show (Text.join ['/'] (front ++ [name])).getLast? ≠ some '/'
  rw [hs, List.getLast?_append, List.getLast?_eq_some_getLast hname]
  intro hlast
  exact hslash (Option.some.inj hlast ▸ List.getLast_mem hname)

theorem start_below (h : ∀ name ∈ names, IsName name) :
    FileTree.start (x.join (ofNames names)) = FileTree.start x :=
  start_join (isAbsolute_ofNames h)

theorem parts_below (h : ∀ name ∈ names, IsName name) :
    (x.join (ofNames names)).parts = x.parts ++ names := by
  rw [parts_join (isAbsolute_ofNames h), parts_ofNames h]

theorem goal_below (h : ∀ name ∈ names, IsName name) :
    (x.join (ofNames names)).goal = x.goal ++ names := by
  rw [goal, start_below h, parts_below h, FilePlace.goal_append,
    FilePlace.goal_names fun name hname => (h name hname).namesOwn]
  rfl

theorem endsWithSlash_below (h : ∀ name ∈ names, IsName name) (hne : names ≠ []) :
    (x.join (ofNames names)).endsWithSlash = false := by
  rw [endsWithSlash_join (text_ofNames_ne_nil h hne), endsWithSlash_ofNames h hne]

theorem ends_below {front : List Text} {name : Text}
    (h : ∀ u ∈ front ++ [name], IsName u)
    (haccepted : (x.join (ofNames (front ++ [name]))).Accepted) :
    FileTree.Ends (x.join (ofNames (front ++ [name]))) (x.parts ++ front) name where
  accepted := haccepted
  parts := by rw [parts_below h, List.append_assoc]
  named := (h name (List.mem_append_right front List.mem_cons_self)).namesOwn

end FilePath

namespace FileTree

open FilePlace

variable {t : FileTree} {root q : FilePlace} {p : FilePath} {names names' : List Text}
  {e : Entry} {content content' : Content}

/-- A tree as a file system holds it: each place is there once, and named in a directory. -/
structure WellFormed (t : FileTree) : Prop where
  nodup : (t.entries.map (·.1)).Nodup
  held : ∀ entry ∈ t.entries, (∃ name ∈ entry.1.getLast?, IsName name) ∧
    t.isDirectory entry.1.dropLast = true

instance : Decidable t.WellFormed :=
  decidable_of_iff ((t.entries.map (·.1)).Nodup ∧
    ∀ entry ∈ t.entries, (∃ name ∈ entry.1.getLast?, IsName name) ∧
      t.isDirectory entry.1.dropLast = true)
    ⟨fun h => ⟨h.1, h.2⟩, fun h => ⟨h.nodup, h.held⟩⟩

namespace WellFormed

/-- Whatever is there has a name in a directory, but for what is there in any case. -/
theorem get?_cases (ht : t.WellFormed) (h : t.get? q = some e) :
    isFixed q = true ∨ ∃ holder name, q = holder ++ [name] ∧ IsName name ∧
      t.isDirectory holder = true := by
  rw [get?] at h
  split at h
  · next hfixed => exact .inl hfixed
  · refine .inr ?_
    obtain ⟨l₁, l₂, hentries, -⟩ := List.lookup_eq_some_iff.mp h
    have hmem : (q, e) ∈ t.entries := by
      rw [hentries]
      exact List.mem_append_right l₁ List.mem_cons_self
    obtain ⟨⟨name, hlast, hname⟩, hdir⟩ := ht.held _ hmem
    obtain ⟨holder, rfl⟩ := List.getLast?_eq_some_iff.mp hlast
    rw [List.dropLast_concat] at hdir
    exact ⟨holder, name, rfl, hname, hdir⟩

theorem closed (ht : t.WellFormed) : t.Closed := by
  intro q hq
  obtain ⟨e, he⟩ := Option.isSome_iff_exists.mp hq
  rcases ht.get?_cases he with hfixed | ⟨holder, name, rfl, hname, hdir⟩
  · exact isDirectory_iff.mpr (get?_of_isFixed (isFixed_parent hfixed))
  · rwa [parent_concat hname.isPart hname.namesOwn]

/-- What is listed is what is there. -/
theorem get?_of_mem (ht : t.WellFormed) (h : (q, e) ∈ t.entries) : t.get? q = some e := by
  obtain ⟨⟨name, hlast, hname⟩, -⟩ := ht.held _ h
  obtain ⟨holder, rfl⟩ : ∃ holder, q = holder ++ [name] := List.getLast?_eq_some_iff.mp hlast
  rw [get?, if_neg (ne_true_of_eq_false (isFixed_concat hname.isPart hname.namesOwn))]
  obtain ⟨l₁, l₂, hentries⟩ := List.append_of_mem h
  refine List.lookup_eq_some_iff.mpr ⟨l₁, l₂, hentries, fun entry hentry => ?_⟩
  have hnodup := ht.nodup
  rw [hentries, List.map_append, List.nodup_append] at hnodup
  exact bne_iff_ne.mpr fun heq => hnodup.2.2 _ (List.mem_map_of_mem hentry) _ List.mem_cons_self
    heq.symm

theorem mem_of_get? (hfixed : isFixed q = false) (h : t.get? q = some e) : (q, e) ∈ t.entries := by
  rw [get?, if_neg (ne_true_of_eq_false hfixed)] at h
  obtain ⟨l₁, l₂, hentries, -⟩ := List.lookup_eq_some_iff.mp h
  rw [hentries]
  exact List.mem_append_right l₁ List.mem_cons_self

/-- What is there below a directory has names all the way, unless it leaves the directory. -/
theorem isName_of_get? (ht : t.WellFormed) (h : t.get? (root ++ names) = some e)
    (habove : names.head? ≠ some above) (hroot : names.head? ≠ some ['/']) :
    ∀ name ∈ names, IsName name := by
  induction names using List.reverseRecOn generalizing e with
  | nil => exact fun _ hname => absurd hname List.not_mem_nil
  | append_singleton names name ih =>
      rcases ht.get?_cases h with hfixed | ⟨holder, name', heq, hname, hdir⟩
      · -- a place that is there in any case is above, or the root
        exfalso
        obtain ⟨first, rest, hfirst⟩ := List.exists_cons_of_ne_nil
          (List.append_ne_nil_of_right_ne_nil names (List.cons_ne_nil name []))
        rw [hfirst] at hfixed habove hroot
        rw [isFixed, Bool.or_eq_true, decide_eq_true_eq] at hfixed
        rcases hfixed with heq | hall
        · rcases List.append_eq_singleton_iff.mp heq with ⟨-, heq⟩ | ⟨-, heq⟩
          · exact hroot (congrArg List.head? heq)
          · cases heq
        · rw [List.all_append, List.all_cons, Bool.and_eq_true, Bool.and_eq_true,
            decide_eq_true_eq] at hall
          exact habove (congrArg some hall.2.1)
      · rw [← List.append_assoc] at heq
        obtain rfl : root ++ names = holder := List.append_inj_left' heq rfl
        obtain rfl : name = name' := List.singleton_inj.mp (List.append_inj_right' heq rfl)
        refine List.forall_mem_append.mpr ⟨?_, fun u hu => List.mem_singleton.mp hu ▸ hname⟩
        by_cases hnil : names = []
        · rw [hnil]
          exact fun _ hname => absurd hname List.not_mem_nil
        · rw [List.head?_append_of_ne_nil _ hnil] at habove hroot
          exact ih (isDirectory_iff.mp hdir) habove hroot

end WellFormed

/-! ## Candidates -/

/-- A source below a directory: a file with the extension of a source, of which no directory
    on the way is passed over. -/
structure Candidate (t : FileTree) (root : FilePlace) (names : List Text) (content : Content) :
    Prop where
  named : ∀ name ∈ names, IsName name
  file : t.get? (root ++ names) = some (.file content)
  supported : (ofNames names).isSupported = true
  kept : ∀ name ∈ names.dropLast, isIgnored name = false

/-- The paths of all candidates, each of them once. -/
structure WalkOrder (t : FileTree) (root : FilePlace) (paths : List FilePath) : Prop where
  nodup : paths.Nodup
  mem_iff : ∀ p, p ∈ paths ↔ ∃ names content, Candidate t root names content ∧ p = ofNames names

theorem WalkOrder.of_perm {paths paths' : List FilePath} (h : WalkOrder t root paths)
    (hperm : paths'.Perm paths) : WalkOrder t root paths' where
  nodup := hperm.nodup_iff.mpr h.nodup
  mem_iff := fun p => hperm.mem_iff.trans (h.mem_iff p)

theorem namesBelow?_eq_some_iff {place : FilePlace} :
    namesBelow? root place = some names ↔
      place = root ++ names ∧ names.head? ≠ some above ∧ names.head? ≠ some ['/'] := by
  induction root generalizing place with
  | nil =>
      rw [namesBelow?]
      split
      · next hout =>
          rw [Bool.or_eq_true, decide_eq_true_eq, decide_eq_true_eq] at hout
          refine ⟨fun h => (nomatch h), fun ⟨heq, habove, hroot⟩ => ?_⟩
          rw [heq] at hout
          exact (hout.elim habove hroot).elim
      · next hin =>
          rw [Bool.or_eq_true, decide_eq_true_eq, decide_eq_true_eq, not_or] at hin
          rw [Option.some.injEq]
          exact ⟨fun h => ⟨h, h ▸ hin⟩, fun h => h.1⟩
  | cons a root ih =>
      cases place with
      | nil => simp [namesBelow?]
      | cons b place =>
          rw [namesBelow?]
          by_cases heq : a = b
          · subst heq
            rw [if_pos rfl, ih, List.cons_append, List.cons_inj_right]
          · rw [if_neg heq]
            exact ⟨fun h => (nomatch h), fun h => absurd (List.cons.inj h.1).1.symm heq⟩

theorem isCandidate_iff :
    isCandidate names e = true ↔
      (∃ content, e = .file content) ∧ (∀ name ∈ names.dropLast, isIgnored name = false) ∧
        (ofNames names).isSupported = true := by
  rw [isCandidate, Bool.and_eq_true, Bool.and_eq_true, decide_eq_true_eq, List.all_eq_true,
    and_assoc]
  refine and_congr ?_ (and_congr ?_ Iff.rfl)
  · cases e with
    | directory => simp
    | file content => simp
  · exact forall₂_congr fun name _ => by rw [Bool.not_eq_true']

/-- Names that differ make paths that differ. -/
theorem ofNames_inj (h : ∀ name ∈ names, IsName name) (h' : ∀ name ∈ names', IsName name)
    (heq : ofNames names = ofNames names') : names = names' := by
  have hparts : (ofNames names).parts = (ofNames names').parts := by rw [heq]
  rwa [ofNames, ofNames, parts_ofParts fun name hname => (h name hname).isPart,
    parts_ofParts fun name hname => (h' name hname).isPart] at hparts

/-- The source that an entry is. -/
def source? (root : FilePlace) (entry : FilePlace × Entry) : Option FilePath :=
  match namesBelow? root entry.1 with
  | some names => if isCandidate names entry.2 then some (ofNames names) else none
  | none => none

theorem sourcesBelow_perm (t : FileTree) (root : FilePlace) :
    (t.sourcesBelow root).Perm (t.entries.filterMap (source? root)) :=
  List.mergeSort_perm _ _

theorem source?_eq_some_iff (ht : t.WellFormed) {entry : FilePlace × Entry}
    (hentry : entry ∈ t.entries) :
    source? root entry = some p ↔
      ∃ names content, Candidate t root names content ∧ p = ofNames names ∧
        entry = (root ++ names, .file content) := by
  obtain ⟨place, e⟩ := entry
  rw [source?]
  constructor
  · intro h
    split at h
    · next names hnames =>
        obtain ⟨hplace, habove, hroot⟩ := namesBelow?_eq_some_iff.mp hnames
        obtain rfl : place = root ++ names := hplace
        split at h
        · next hcandidate =>
            obtain ⟨⟨content, hfile⟩, hkept, hsupported⟩ := isCandidate_iff.mp hcandidate
            obtain rfl : e = .file content := hfile
            have hget := ht.get?_of_mem hentry
            exact ⟨names, content,
              ⟨ht.isName_of_get? hget habove hroot, hget, hsupported, hkept⟩,
              (Option.some.inj h).symm, rfl⟩
        · cases h
    · cases h
  · rintro ⟨names, content, hcandidate, rfl, heq⟩
    obtain ⟨rfl, rfl⟩ := Prod.mk.inj heq
    have hnames : namesBelow? root (root ++ names) = some names := by
      refine namesBelow?_eq_some_iff.mpr ⟨rfl, fun h => ?_, fun h => ?_⟩
      · exact (hcandidate.named _ (List.mem_of_mem_head? h)).namesOwn.2 rfl
      · exact (hcandidate.named _ (List.mem_of_mem_head? h)).ne_root rfl
    rw [hnames]
    exact if_pos (isCandidate_iff.mpr
      ⟨⟨content, rfl⟩, hcandidate.kept, hcandidate.supported⟩)

theorem Candidate.names_ne_nil (h : Candidate t root names content)
    (hroot : t.isDirectory root = true) : names ≠ [] := by
  rintro rfl
  have hfile := h.file
  rw [List.append_nil, isDirectory_iff.mp hroot] at hfile
  cases hfile

theorem Candidate.isFixed (h : Candidate t root names content)
    (hroot : t.isDirectory root = true) : FilePlace.isFixed (root ++ names) = false := by
  obtain ⟨front, name, rfl⟩ : ∃ front name, names = front ++ [name] :=
    ⟨_, _, (List.dropLast_concat_getLast (h.names_ne_nil hroot)).symm⟩
  have hname := h.named name (List.mem_append_right front List.mem_cons_self)
  rw [← List.append_assoc, isFixed_concat hname.isPart hname.namesOwn]

/-- A walk from a directory comes to the candidates, and to each of them once. -/
theorem walkOrder_sourcesBelow (ht : t.WellFormed) (hroot : t.isDirectory root = true) :
    WalkOrder t root (t.sourcesBelow root) := by
  constructor
  · rw [(sourcesBelow_perm t root).nodup_iff]
    have hentries : t.entries.Nodup := ht.nodup.of_map _
    refine List.pairwise_filterMap.mpr (hentries.imp_of_mem ?_)
    intro entry entry' hentry hentry' hne p hp p' hp' heq
    subst heq
    obtain ⟨names, content, hc, rfl, rfl⟩ := (source?_eq_some_iff ht hentry).mp hp
    obtain ⟨names', content', hc', heq, rfl⟩ := (source?_eq_some_iff ht hentry').mp hp'
    obtain rfl := ofNames_inj hc.named hc'.named heq
    have hfile := hc.file
    rw [hc'.file] at hfile
    cases hfile
    exact hne rfl
  · intro p
    rw [(sourcesBelow_perm t root).mem_iff, List.mem_filterMap]
    constructor
    · rintro ⟨entry, hentry, hp⟩
      obtain ⟨names, content, hc, heq, -⟩ := (source?_eq_some_iff ht hentry).mp hp
      exact ⟨names, content, hc, heq⟩
    · rintro ⟨names, content, hc, rfl⟩
      have hentry := WellFormed.mem_of_get? (hc.isFixed hroot) hc.file
      exact ⟨_, hentry, (source?_eq_some_iff ht hentry).mpr ⟨names, content, hc, rfl, rfl⟩⟩

/-- A walk from a path that leads to a directory. -/
theorem Closed.sources_eq {source : FilePath} (ht : t.Closed)
    (hdir : t.leadsToDirectory source = true) :
    t.sources source = .ok (t.sourcesBelow source.goal) := by
  have hplace := ht.place?_of_leadsToDirectory (accepted_of_leadsToDirectory hdir) hdir
  rw [sources, hplace.1]
  exact if_pos hplace.2

/-- A source is read where it is, also when other files have changed. -/
theorem Candidate.read_eq {t' : FileTree} {source : FilePath}
    (hc : Candidate t source.goal names content) (ht : t.Closed) (ht' : t'.Closed)
    (hdir : t.leadsToDirectory source = true) (haccepted : (source.join (ofNames names)).Accepted)
    (hstays : ∀ q, t.isDirectory q = true → t'.isDirectory q = true)
    (hfile : t'.get? (source.goal ++ names) = some (.file content)) :
    t'.read (source.join (ofNames names)) = content.asText := by
  have haccept := accepted_of_leadsToDirectory hdir
  have hne := hc.names_ne_nil (ht.place?_of_leadsToDirectory haccept hdir).2
  have hslash := endsWithSlash_below (x := source) hc.named hne
  obtain ⟨front, name, rfl⟩ : ∃ front name, names = front ++ [name] :=
    ⟨_, _, (List.dropLast_concat_getLast hne).symm⟩
  refine ht'.read_of_file (ends_below hc.named haccepted) hslash ?_ ?_
  · rw [obstacle?_eq_none_iff, start_below hc.named, trail_append]
    refine fun q hq => hstays q ?_
    rcases List.mem_append.mp hq with hq | hq
    · exact obstacle?_eq_none_iff.mp ((ht.leadsToDirectory_iff haccept).mp hdir) q hq
    · obtain ⟨before, -, ⟨rest, rfl⟩, rfl⟩ :=
        mem_trail_names (fun u hu => (hc.named u (List.mem_append_left _ hu)).namesOwn) hq
      have hsource := hc.file
      have hsome : (t.get? (source.goal ++ before ++ (rest ++ [name]))).isSome = true := by
        rw [List.append_assoc, ← List.append_assoc] at hsource
        rw [hsource]
        rfl
      exact ht.isDirectory_above hsome (by simp)
  · rwa [goal_below hc.named]

end FileTree

end RequireForm
