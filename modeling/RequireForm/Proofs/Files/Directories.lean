import RequireForm.Proofs.Files.Access

/-!
# Making directories — what is missing above a file that is written

    out/lib/a.js        out  missing,  out/lib  missing       both are made, and the file written
    a.txt/lib/a.js      a.txt  a file                         nothing is made, nothing written

Directories are made along a path from the first that is missing. A file on the way stops it.
What a path leaves again by a `..` has to be there beforehand: else it would be made as well,
although it is not above the goal, and even where a file stops the path later on.

  1. `Grounded`: every `..` leaves something that is there. Then nothing is there behind what
     is missing, and what is missing is above the goal.
  2. `makeAll_of_no_file`, `makeAll_of_file`: directories along a path.
  3. `writeBelow_of_writable`, `writeBelow_of_not_writable`: a file with all above it.
-/

namespace RequireForm

open FilePath

namespace FileTree

open FilePlace

variable {t t' : FileTree} {p parent : FilePath} {place q : FilePlace} {part name text u : Text}
  {front parts names us : List Text} {absolute : Bool}

/-! ## What is missing on the way -/

/-- Every `..` leaves something that is there. -/
def Grounded (t : FileTree) (place : FilePlace) : List Text → Prop
  | [] => True
  | part :: parts =>
      (part = above → (t.get? place).isSome = true) ∧ Grounded t (place.next part) parts

instance : (place : FilePlace) → (parts : List Text) → Decidable (t.Grounded place parts)
  | _, [] => isTrue trivial
  | place, part :: parts =>
      have := instDecidableGrounded (place.next part) parts
      inferInstanceAs (Decidable (_ ∧ _))

theorem grounded_append :
    t.Grounded place (front ++ parts) ↔
      t.Grounded place front ∧ t.Grounded (place.goal front) parts := by
  induction front generalizing place with
  | nil => exact ⟨fun h => ⟨trivial, h⟩, fun h => h.2⟩
  | cons part front ih =>
      rw [List.cons_append, Grounded, Grounded, ih, and_assoc]
      rfl

theorem grounded_names (h : ∀ name ∈ names, NamesOwn name) : t.Grounded place names := by
  induction names generalizing place with
  | nil => trivial
  | cons name names ih =>
      obtain ⟨hname, hnames⟩ := List.forall_mem_cons.mp h
      exact ⟨fun heq => absurd heq hname.2, ih hnames⟩

theorem Grounded.mono (hmono : ∀ q, (t.get? q).isSome = true → (t'.get? q).isSome = true)
    (h : t.Grounded place parts) : t'.Grounded place parts := by
  induction parts generalizing place with
  | nil => trivial
  | cons part parts ih => exact ⟨fun heq => hmono _ (h.1 heq), ih h.2⟩

/-- From a place where nothing is, all that follows is missing too, and below it. -/
theorem Grounded.missing (ht : t.Closed) (h : t.Grounded place parts)
    (hnone : t.get? place = none) :
    (∀ q ∈ place.trail parts, t.get? q = none) ∧ place <+: place.goal parts := by
  induction parts generalizing place with
  | nil => exact ⟨fun _ hq => absurd hq List.not_mem_nil, List.prefix_rfl⟩
  | cons part parts ih =>
      by_cases hhere : part = here
      · subst hhere
        obtain ⟨htrail, hgoal⟩ := ih h.2 hnone
        exact ⟨List.forall_mem_cons.mpr ⟨hnone, htrail⟩, hgoal⟩
      · have habove : part ≠ above := by
          intro heq
          have := h.1 heq
          rw [hnone] at this
          cases this
        have hnext : place.next part = place ++ [part] := next_of_namesOwn ⟨hhere, habove⟩
        have hmissing : t.get? (place.next part) = none := by
          rw [hnext]
          exact ht.get?_concat_eq_none hnone
        obtain ⟨htrail, hgoal⟩ := ih h.2 hmissing
        refine ⟨List.forall_mem_cons.mpr ⟨hmissing, htrail⟩, ?_⟩
        exact (hnext ▸ List.prefix_append place [part] : place <+: place.next part).trans hgoal

/-- What is missing on a path is above its goal, and the goal is missing. -/
theorem Grounded.of_missing (ht : t.Closed) (h : t.Grounded place parts)
    (hq : q ∈ place.trail parts) (hnone : t.get? q = none) :
    t.get? (place.goal parts) = none ∧ q <+: place.goal parts := by
  induction parts generalizing place with
  | nil => exact absurd hq List.not_mem_nil
  | cons part parts ih =>
      rcases List.mem_cons.mp hq with rfl | hq
      · obtain ⟨htrail, hgoal⟩ := h.2.missing ht hnone
        refine ⟨?_, hgoal⟩
        by_cases hnil : parts = []
        · rwa [hnil]
        · exact htrail _ (goal_mem_trail hnil)
      · exact ih h.2 hq

/-- Behind the first that is missing there is no file. -/
theorem Grounded.no_file (ht : t.Closed) (h : t.Grounded place parts)
    (hobstacle : t.obstacle? (place.trail parts) = some .notFound) :
    ∀ q ∈ place.trail parts, ∀ content, t.get? q ≠ some (.file content) := by
  induction parts generalizing place with
  | nil => cases hobstacle
  | cons part parts ih =>
      rw [trail, obstacle?] at hobstacle
      rw [trail, List.forall_mem_cons]
      cases hnext : t.get? (place.next part) with
      | none =>
          constructor
          · intro content hfile
            cases hfile
          · intro q hq content hfile
            rw [(h.2.missing ht hnext).1 q hq] at hfile
            cases hfile
      | some entry =>
          rw [hnext] at hobstacle
          cases entry with
          | file content => cases hobstacle
          | directory =>
              refine ⟨fun content hfile => ?_, ih h.2 hobstacle⟩
              cases hfile

/-! ## Directories along a path -/

/-- Directories have been made at those of some places where nothing was, and nothing else has
    changed. -/
def Filled (t t' : FileTree) (qs : List FilePlace) : Prop :=
  ∀ q, t'.get? q = if q ∈ qs ∧ t.get? q = none then some .directory else t.get? q

namespace Filled

variable {t₁ t₂ : FileTree} {qs rs : List FilePlace}

theorem refl (h : ∀ q ∈ qs, t.get? q ≠ none) : Filled t t qs := by
  intro q
  rw [if_neg fun hq => h q hq.1 hq.2]

theorem trans (h : Filled t t₁ qs) (h' : Filled t₁ t₂ rs) : Filled t t₂ (qs ++ rs) := by
  intro q
  rw [h' q, h q]
  by_cases hq : q ∈ qs <;> by_cases hr : q ∈ rs <;> by_cases hnone : t.get? q = none <;>
    simp [hq, hr, hnone]

theorem congr (h : Filled t t' qs) (hqs : ∀ q, t.get? q = none → (q ∈ qs ↔ q ∈ rs)) :
    Filled t t' rs := by
  intro q
  rw [h q]
  by_cases hnone : t.get? q = none
  · simp [hnone, hqs q hnone]
  · simp [hnone]

/-- Where there was no file, there are directories now. -/
theorem obstacle?_eq_none (h : Filled t t' qs)
    (hno : ∀ q ∈ qs, ∀ content, t.get? q ≠ some (.file content)) : t'.obstacle? qs = none := by
  rw [obstacle?_eq_none_iff]
  intro q hq
  rw [isDirectory_iff, h q]
  cases hget : t.get? q with
  | none => simp [hq]
  | some entry =>
      cases entry with
      | directory => simp
      | file content => exact absurd hget (hno q hq content)

end Filled

/-- Where the paths with some pieces start. -/
def beginning (absolute : Bool) : FilePlace := if absolute then root else []

theorem get?_beginning (t : FileTree) (absolute : Bool) :
    t.get? (beginning absolute) = some .directory := by
  cases absolute <;> rfl

theorem start_ofPieces (h : ArePieces absolute us) :
    start (ofPieces absolute us) = beginning absolute := by
  rw [start, isAbsolute_ofPieces h]
  rfl

/-- The directory of a path whose last place is the only one that may be missing. -/
theorem makeDirectory_of_no_file (ht : t.Closed) (haccepted : p.Accepted)
    (hparts : p.parts = front ++ [part]) (hfront : t.obstacle? ((start p).trail front) = none)
    (hno : ∀ content, t.get? p.goal ≠ some (.file content)) :
    ∃ t', unlessThere p (t.makeDirectory p) = (t', .ok ()) ∧ t'.Closed ∧ Filled t t' [p.goal] := by
  rw [ht.makeDirectory_eq haccepted hparts, hfront]
  show ∃ t', unlessThere p (if (t.get? p.goal).isSome then _ else _) = _ ∧ _
  cases hget : t.get? p.goal with
  | some entry =>
      cases entry with
      | file content => exact absurd hget (hno content)
      | directory =>
          have hdir : t.leadsToDirectory p = true := by
            rw [ht.leadsToDirectory_iff haccepted, hparts, trail_concat, obstacle?_append, hfront,
              ← hparts, ← FilePath.goal, obstacle?, hget]
            rfl
          refine ⟨t, ?_, ht, .refl fun q hq => ?_⟩
          · show (t, if t.leadsToDirectory p then Except.ok () else Except.error _) = _
            rw [hdir]
            rfl
          · rw [List.mem_singleton.mp hq, hget]
            exact Option.some_ne_none _
  | none =>
      have hdir := isDirectory_goal (isDirectory_start t p) hfront
      have hgoal : p.goal = ((start p).goal front).next part := by
        rw [FilePath.goal, hparts, goal_append]
        rfl
      -- a part that names nothing of its own would lead to a directory
      have hown : NamesOwn part := by
        refine ⟨fun hhere => ?_, fun habove => ?_⟩
        · rw [hgoal, hhere, next_here, isDirectory_iff.mp hdir] at hget
          cases hget
        · have hparent := ht _ (by rw [isDirectory_iff.mp hdir]; rfl)
          rw [hgoal, habove, next_above, isDirectory_iff.mp hparent] at hget
          cases hget
      have hpart : IsPart part :=
        isPart_of_mem_parts (hparts ▸ List.mem_append_right front List.mem_cons_self)
      rw [next_of_namesOwn hown] at hgoal
      refine ⟨t.put p.goal .directory, rfl, ?_, fun q => ?_⟩
      · rw [hgoal] at hget ⊢
        exact ht.put hpart hown hdir (by rw [hget]; exact (Option.some_ne_none _).symm) _
      · rw [get?_put t _ q (hgoal ▸ isFixed_concat hpart hown)]
        by_cases hq : q = p.goal
        · rw [if_pos hq, if_pos ⟨List.mem_singleton.mpr hq, hq ▸ hget⟩]
        · rw [if_neg hq, if_neg fun h => hq (List.mem_singleton.mp h.1)]

/-- Where nothing is missing above it, a directory is made at once. -/
theorem makeAll_at_once {above : List FilePath} (h : (t.makeDirectory p).2 ≠ .error .notFound) :
    t.makeAll (p :: above) = unlessThere p (t.makeDirectory p) := by
  rw [makeAll]
  split
  · next heq =>
      rw [heq] at h
      exact absurd rfl h
  · rfl

/-- Else it is made after what is above it. -/
theorem makeAll_after {t₁ : FileTree} {above : List FilePath}
    (h : t.makeDirectory p = (t, .error .notFound)) (habove : t.makeAll above = (t₁, .ok ())) :
    t.makeAll (p :: above) = unlessThere p (t₁.makeDirectory p) := by
  rw [makeAll, h]
  dsimp only
  rw [habove]

/-- With those above it made, the first directory is made as well. -/
theorem makeAll_cons_of_no_file {above : List FilePath} (ht : t.Closed) (haccepted : p.Accepted)
    (hparts : p.parts = front ++ [part])
    (hno : ∀ q ∈ (start p).trail p.parts, ∀ content, t.get? q ≠ some (.file content))
    (habove : ∃ t₁, t.makeAll above = (t₁, .ok ()) ∧ t₁.Closed ∧
      Filled t t₁ ((start p).trail front)) :
    ∃ t', t.makeAll (p :: above) = (t', .ok ()) ∧ t'.Closed ∧
      Filled t t' ((start p).trail p.parts) := by
  have htrail : (start p).trail p.parts = (start p).trail front ++ [p.goal] := by
    rw [FilePath.goal, hparts, trail_concat]
  rw [htrail] at hno ⊢
  rw [List.forall_mem_append, List.forall_mem_singleton] at hno
  cases hobstacle : t.obstacle? ((start p).trail front) with
  | none =>
      obtain ⟨t', hmake, hclosed, hfilled⟩ :=
        makeDirectory_of_no_file ht haccepted hparts hobstacle hno.2
      refine ⟨t', (makeAll_at_once ?_).trans hmake, hclosed, ?_⟩
      · rw [ht.makeDirectory_eq haccepted hparts, hobstacle]
        show (if _ then _ else _ : FileTree × Except IoError Unit).2 ≠ _
        split
        · intro h
          cases h
        · intro h
          cases h
      · refine Filled.trans (.refl fun q hq => ?_) hfilled
        rw [isDirectory_iff.mp (obstacle?_eq_none_iff.mp hobstacle q hq)]
        exact Option.some_ne_none _
  | some error =>
      rcases obstacle?_cases hobstacle with ⟨rfl, -⟩ | ⟨-, q, hq, content, hfile⟩
      · obtain ⟨t₁, habove, hclosed₁, hfilled₁⟩ := habove
        have hfront := hfilled₁.obstacle?_eq_none hno.1
        have hgoal : ∀ content, t₁.get? p.goal ≠ some (.file content) := by
          intro content
          rw [hfilled₁]
          split
          · intro h
            cases h
          · exact hno.2 content
        obtain ⟨t', hmake, hclosed, hfilled⟩ :=
          makeDirectory_of_no_file hclosed₁ haccepted hparts hfront hgoal
        refine ⟨t', (makeAll_after ?_ habove).trans hmake, hclosed, hfilled₁.trans hfilled⟩
        rw [ht.makeDirectory_eq haccepted hparts, hobstacle]
      · exact absurd hfile (hno.1 q hq content)

/-- A file on the way stops the first directory, and those above it are not tried. -/
theorem makeAll_cons_of_file {above : List FilePath} (ht : t.Closed) (haccepted : p.Accepted)
    (hparts : p.parts = front ++ [part]) (hground : t.Grounded (start p) p.parts)
    (hfile : ∃ q ∈ (start p).trail p.parts, ∃ content, t.get? q = some (.file content)) :
    ∃ error, t.makeAll (p :: above) = (t, .error error) := by
  obtain ⟨q, hq, content, hfile⟩ := hfile
  have hsome : t.obstacle? ((start p).trail p.parts) ≠ none := by
    rw [Ne, obstacle?_eq_none_iff]
    intro h
    have hdir := isDirectory_iff.mp (h q hq)
    rw [hfile] at hdir
    cases hdir
  have hfound : t.obstacle? ((start p).trail p.parts) ≠ some .notFound :=
    fun h => hground.no_file ht h q hq content hfile
  have hno : t.leadsToDirectory p = false := by
    rw [Bool.eq_false_iff, Ne, ht.leadsToDirectory_iff haccepted]
    exact hsome
  have hmake : ∃ error, error ≠ IoError.notFound ∧ t.makeDirectory p = (t, .error error) := by
    rw [ht.makeDirectory_eq haccepted hparts]
    rw [hparts, trail_concat, obstacle?_append, ← hparts, ← FilePath.goal] at hfound
    cases hobstacle : t.obstacle? ((start p).trail front) with
    | some error =>
        rw [hobstacle] at hfound
        exact ⟨error, fun heq => hfound (congrArg some heq), rfl⟩
    | none =>
        rw [hobstacle, Option.none_or] at hfound
        -- the last place is not missing, so a directory cannot be made there
        refine ⟨.exists, by decide, if_pos ?_⟩
        rw [Option.isSome_iff_ne_none]
        intro hnone
        rw [obstacle?, hnone] at hfound
        exact hfound rfl
  obtain ⟨error, hne, hmake⟩ := hmake
  refine ⟨error, ?_⟩
  rw [makeAll_at_once (by rw [hmake]; exact fun h => hne (Except.error.inj h)), hmake]
  show (t, if t.leadsToDirectory _ then Except.ok () else Except.error error) = _
  rw [hno]
  rfl

/-- A piece that does not count leads through no other file. -/
theorem exists_file_of_not_counts (h : counts absolute us.reverse u = false) :
    (∃ q ∈ (beginning absolute).trail (partsOf (us ++ [u])), ∃ content,
        t.get? q = some (.file content)) ↔
      ∃ q ∈ (beginning absolute).trail (partsOf us), ∃ content,
        t.get? q = some (.file content) := by
  have hmem (q : FilePlace) := mem_trail_of_not_counts (beginning absolute) q h
  have hbeginning : ∀ content, t.get? (beginning absolute) ≠ some (.file content) := by
    intro content hfile
    rw [get?_beginning] at hfile
    cases hfile
  constructor
  · rintro ⟨q, hq, content, hfile⟩
    rcases (hmem q).mp (.inr hq) with rfl | hq
    · exact absurd hfile (hbeginning content)
    · exact ⟨q, hq, content, hfile⟩
  · rintro ⟨q, hq, content, hfile⟩
    rcases (hmem q).mpr (.inr hq) with rfl | hq
    · exact absurd hfile (hbeginning content)
    · exact ⟨q, hq, content, hfile⟩

/-- Directories are made along a path on which there is no file. -/
theorem makeAll_of_no_file (ht : t.Closed) (h : Followable absolute us)
    (hno : ∀ q ∈ (beginning absolute).trail (partsOf us), ∀ content,
      t.get? q ≠ some (.file content)) :
    ∃ t', t.makeAll (ancestorsOf absolute us.reverse) = (t', .ok ()) ∧ t'.Closed ∧
      Filled t t' ((beginning absolute).trail (partsOf us)) := by
  -- on the pieces: what is above a directory is made before it
  induction us using List.reverseRecOn with
  | nil => exact ⟨t, rfl, ht, .refl fun _ hq => absurd hq List.not_mem_nil⟩
  | append_singleton us u ih =>
      have ih := ih (h.above (List.prefix_append us [u]))
      rw [ancestorsOf_concat]
      cases hcounts : counts absolute us.reverse u with
      | false =>
          obtain ⟨t', hmake, hclosed, hfilled⟩ := ih fun q hq content hfile => by
            obtain ⟨q', hq', content', hfile'⟩ :=
              (exists_file_of_not_counts hcounts).mpr ⟨q, hq, content, hfile⟩
            exact hno q' hq' content' hfile'
          refine ⟨t', hmake, hclosed, hfilled.congr fun q hnone => ?_⟩
          have hne : q ≠ beginning absolute := by
            rintro rfl
            rw [get?_beginning] at hnone
            cases hnone
          have hmem := mem_trail_of_not_counts (beginning absolute) q hcounts
          rw [or_iff_right hne, or_iff_right hne] at hmem
          exact hmem.symm
      | true =>
          have hfront := partsOf_concat_of_counts us hcounts
          have haccept := h.accepted (us ++ [u]) List.prefix_rfl (by simp [hfront])
          have hparts := parts_ofPieces h.pieces
          have hstart := start_ofPieces h.pieces
          rw [← hparts, ← hstart] at hno ⊢
          refine makeAll_cons_of_no_file ht haccept (hparts.trans hfront) hno ?_
          rw [hstart]
          refine ih fun q hq => ?_
          rw [hparts, hfront, trail_append, hstart] at hno
          exact hno q (List.mem_append_left _ hq)

/-- A file on the way stops it, and nothing is made. -/
theorem makeAll_of_file (ht : t.Closed) (h : Followable absolute us)
    (hground : t.Grounded (beginning absolute) (partsOf us))
    (hfile : ∃ q ∈ (beginning absolute).trail (partsOf us), ∃ content,
      t.get? q = some (.file content)) :
    ∃ error, t.makeAll (ancestorsOf absolute us.reverse) = (t, .error error) := by
  -- on the pieces: the last one that counts is tried first, and that is where it ends
  induction us using List.reverseRecOn with
  | nil =>
      obtain ⟨q, hq, -⟩ := hfile
      exact absurd hq List.not_mem_nil
  | append_singleton us u ih =>
      rw [ancestorsOf_concat]
      cases hcounts : counts absolute us.reverse u with
      | false =>
          rw [partsOf_append, grounded_append] at hground
          exact ih (h.above (List.prefix_append us [u])) hground.1
            ((exists_file_of_not_counts hcounts).mp hfile)
      | true =>
          have hfront := partsOf_concat_of_counts us hcounts
          have haccept := h.accepted (us ++ [u]) List.prefix_rfl (by simp [hfront])
          have hparts := parts_ofPieces h.pieces
          rw [← hparts, ← start_ofPieces h.pieces] at hground hfile
          exact makeAll_cons_of_file ht haccept (hparts.trans hfront) hground hfile

/-! ## Files with all above them -/

/-- A file can be written at a path: it leads through no file, and to no directory. -/
structure Writable (t : FileTree) (p : FilePath) : Prop where
  through : ∀ q ∈ (start p).trail p.parts.dropLast, ∀ content, t.get? q ≠ some (.file content)
  free : t.get? p.goal ≠ some .directory

instance : Decidable (t.Writable p) :=
  decidable_of_iff ((∀ q ∈ (start p).trail p.parts.dropLast,
      t.get? q = none ∨ t.get? q = some .directory) ∧ t.get? p.goal ≠ some .directory) <| by
    have hno (q : FilePlace) : (t.get? q = none ∨ t.get? q = some .directory) ↔
        ∀ content, t.get? q ≠ some (.file content) := by
      cases t.get? q with
      | none => simp
      | some entry => cases entry <;> simp
    simp only [hno]
    exact ⟨fun h => ⟨h.1, h.2⟩, fun h => ⟨h.through, h.free⟩⟩

theorem Ends.exists_parent (h : Ends p front name) : ∃ parent, p.parent? = some parent := by
  obtain ⟨us, -, -, hancestors⟩ := ancestors_eq h.parts h.named.1
  rw [parent?, hancestors]
  exact ⟨_, rfl⟩

/-- The pieces above a path that ends with a name, and what is made of them. -/
theorem Ends.pieces_above (h : Ends p front name) (hparent : p.parent? = some parent) :
    ∃ us, Followable p.isAbsolute us ∧ partsOf us = front ∧ ∀ t : FileTree,
      t.makeDirectories parent = t.makeAll (ancestorsOf p.isAbsolute us.reverse) := by
  obtain ⟨us, hus, hfront, hancestors⟩ := ancestors_eq h.parts h.named.1
  refine ⟨us, h.accepted.followable.above hus, hfront, fun t => ?_⟩
  rw [makeDirectories, ancestors_parent hparent, hancestors]
  rfl

/-- The directories above a file are made if no file is in the way. -/
theorem makeParent_of_no_file (ht : t.Closed) (h : Ends p front name)
    (hparent : p.parent? = some parent)
    (hno : ∀ q ∈ (start p).trail front, ∀ content, t.get? q ≠ some (.file content)) :
    ∃ t', t.makeDirectories parent = (t', .ok ()) ∧ t'.Closed ∧
      Filled t t' ((start p).trail front) := by
  obtain ⟨us, hus, rfl, hmake⟩ := h.pieces_above hparent
  rw [hmake t]
  exact makeAll_of_no_file ht hus hno

/-- Else nothing is made. -/
theorem makeParent_of_file (ht : t.Closed) (h : Ends p front name)
    (hparent : p.parent? = some parent) (hground : t.Grounded (start p) front)
    (hfile : ∃ q ∈ (start p).trail front, ∃ content, t.get? q = some (.file content)) :
    ∃ error, t.makeDirectories parent = (t, .error error) := by
  obtain ⟨us, hus, rfl, hmake⟩ := h.pieces_above hparent
  rw [hmake t]
  exact makeAll_of_file ht hus hground hfile

theorem writeBelow_of_made {t₁ : FileTree} (hparent : p.parent? = some parent)
    (hmake : t.makeDirectories parent = (t₁, .ok ())) (text : Text) :
    t.writeBelow p text = t₁.write p text := by
  rw [writeBelow, hparent]
  dsimp only
  rw [hmake]

theorem writeBelow_of_not_made {t₁ : FileTree} {error : IoError} (hparent : p.parent? = some parent)
    (hmake : t.makeDirectories parent = (t₁, .error error)) (text : Text) :
    t.writeBelow p text = (t₁, .error error) := by
  rw [writeBelow, hparent]
  dsimp only
  rw [hmake]

/-- A file is written after the directories above it have been made, unless its path leads
    through the place where it is to be written. -/
theorem write_of_writable (ht : t.Closed) (h : Ends p front name)
    (hparent : p.parent? = some parent) (hslash : p.endsWithSlash = false)
    (hw : t.Writable p) (hfresh : p.goal ∉ (start p).trail front) (text : Text) :
    ∃ t₁ t', t.makeDirectories parent = (t₁, .ok ()) ∧
      t₁.write p text = (t', .ok ()) ∧ t'.Closed ∧
      t'.get? p.goal = some (.file (.text text)) ∧
      (∀ q, q ≠ p.goal → t'.get? q
        = if q ∈ (start p).trail front ∧ t.get? q = none then some .directory else t.get? q) ∧
      t'.read p = .ok text := by
  have hno : ∀ q ∈ (start p).trail front, ∀ content, t.get? q ≠ some (.file content) := by
    have := hw.through
    rwa [h.parts, List.dropLast_concat] at this
  obtain ⟨t₁, hall, hclosed, hfilled⟩ := makeParent_of_no_file ht h hparent hno
  have hfront := hfilled.obstacle?_eq_none hno
  have hgoal : t₁.get? p.goal ≠ some .directory := by
    rw [hfilled, if_neg fun hmade => hfresh hmade.1]
    exact hw.free
  have hdir := isDirectory_goal (isDirectory_start t₁ p) hfront
  have hget (q : FilePlace) : (t₁.put p.goal (.file (.text text))).get? q
      = if q = p.goal then some (.file (.text text)) else t₁.get? q :=
    get?_put t₁ _ q h.isFixed_goal
  have hclosed' : (t₁.put p.goal (.file (.text text))).Closed := by
    rw [h.goal_eq] at hgoal ⊢
    exact hclosed.put h.isPart h.named hdir hgoal _
  refine ⟨t₁, _, hall, ?_, hclosed', by rw [hget, if_pos rfl], fun q hq => ?_, ?_⟩
  · rw [hclosed.write_eq h hslash, hfront]
    exact if_neg fun hdir => hgoal (isDirectory_iff.mp hdir)
  · rw [hget, if_neg hq, hfilled]
  · have hfile : (t₁.put p.goal (.file (.text text))).get? p.goal = some (.file (.text text)) := by
      rw [hget, if_pos rfl]
    refine hclosed'.read_of_file h hslash (obstacle?_eq_none_iff.mpr fun q hq => ?_) hfile
    have hne : q ≠ p.goal := fun heq => hfresh (heq ▸ hq)
    have hmade := isDirectory_iff.mp (obstacle?_eq_none_iff.mp hfront q hq)
    rw [isDirectory_iff, hget, if_neg hne, hmade]

/-- A file that can be written is written, and what is missing above it is made. -/
theorem writeBelow_of_writable (ht : t.Closed) (h : Ends p front name)
    (hslash : p.endsWithSlash = false) (hground : t.Grounded (start p) front)
    (hw : t.Writable p) (text : Text) :
    ∃ t', t.writeBelow p text = (t', .ok ()) ∧ t'.Closed ∧
      t'.get? p.goal = some (.file (.text text)) ∧
      ∀ q, q ≠ p.goal →
        t'.get? q = if t.get? q = none ∧ q <+: p.goal then some .directory else t.get? q := by
  have hfresh : p.goal ∉ (start p).trail front := by
    intro hmem
    cases hget : t.get? p.goal with
    | none =>
        have hlength := (hground.of_missing ht hmem hget).2.length_le
        rw [h.goal_eq, List.length_append, List.length_singleton] at hlength
        omega
    | some entry =>
        cases entry with
        | directory => exact hw.free hget
        | file content =>
            have hno := hw.through
            rw [h.parts, List.dropLast_concat] at hno
            exact hno _ hmem content hget
  obtain ⟨parent, hparent⟩ := h.exists_parent
  obtain ⟨t₁, t', hall, hwrite, hclosed, hplace, hrest, -⟩ :=
    write_of_writable ht h hparent hslash hw hfresh text
  refine ⟨t', ?_, hclosed, hplace, fun q hq => ?_⟩
  · rw [writeBelow_of_made hparent hall, hwrite]
  · rw [hrest q hq]
    by_cases hnone : t.get? q = none
    · have hiff : q ∈ (start p).trail front ↔ q <+: p.goal := by
        constructor
        · intro hmem
          rw [h.goal_eq]
          exact (hground.of_missing ht hmem hnone).2.trans (List.prefix_append _ _)
        · rintro ⟨rest, hrest'⟩
          have hne : rest ≠ [] := by
            rintro rfl
            exact hq (by rw [← hrest', List.append_nil])
          -- the goal is in a directory now, and it was made on the way if it was missing
          have hmade := hclosed.isDirectory_above (by rw [hrest', hplace]; rfl) hne
          rw [isDirectory_iff, hrest q hq] at hmade
          split at hmade
          · next hmem => exact hmem.1
          · rw [hnone] at hmade
            cases hmade
      simp only [hnone, hiff, and_true, true_and]
    · rw [if_neg fun h => hnone h.2, if_neg fun h => hnone h.1]

/-- Else it is not, and nothing has changed. -/
theorem writeBelow_of_not_writable (ht : t.Closed) (h : Ends p front name)
    (hslash : p.endsWithSlash = false) (hground : t.Grounded (start p) front)
    (hw : ¬ t.Writable p) (text : Text) :
    ∃ t' error, t.writeBelow p text = (t', .error error) ∧ t'.Closed ∧
      ∀ q, t'.get? q = t.get? q := by
  obtain ⟨parent, hparent⟩ := h.exists_parent
  by_cases hfile : ∃ q ∈ (start p).trail front, ∃ content, t.get? q = some (.file content)
  · obtain ⟨error, hall⟩ := makeParent_of_file ht h hparent hground hfile
    exact ⟨t, error, writeBelow_of_not_made hparent hall text, ht, fun _ => rfl⟩
  · have hno : ∀ q ∈ (start p).trail front, ∀ content, t.get? q ≠ some (.file content) :=
      fun q hq content heq => hfile ⟨q, hq, content, heq⟩
    have hgoal : t.get? p.goal = some .directory := by
      by_contra hfree
      refine hw ⟨?_, hfree⟩
      rwa [h.parts, List.dropLast_concat]
    obtain ⟨t₁, hall, hclosed, hfilled⟩ := makeParent_of_no_file ht h hparent hno
    -- all above a directory is there, so nothing has been made
    have hsame (q : FilePlace) : t₁.get? q = t.get? q := by
      rw [hfilled, if_neg]
      rintro ⟨hq, hnone⟩
      have hmissing : t.get? ((start p).goal front ++ [name]) = none :=
        ht.get?_concat_eq_none (hground.of_missing ht hq hnone).1
      rw [← h.goal_eq, hgoal] at hmissing
      cases hmissing
    refine ⟨t₁, .isADirectory, ?_, hclosed, hsame⟩
    rw [writeBelow_of_made hparent hall, hclosed.write_eq h hslash,
      hfilled.obstacle?_eq_none hno]
    exact if_pos (isDirectory_iff.mpr (by rw [hsame, hgoal]))

/-- What has been written along a path is read along it. -/
theorem read_of_written (ht : t.Closed) (ht' : t'.Closed) (h : Ends p front name)
    (hslash : p.endsWithSlash = false) (hground : t.Grounded (start p) front)
    (hno : ∀ q ∈ (start p).trail front, ∀ content, t.get? q ≠ some (.file content))
    (hstays : ∀ q, t.isDirectory q = true → t'.isDirectory q = true)
    (hplace : t'.get? p.goal = some (.file (.text text))) : t'.read p = .ok text := by
  rw [ht'.read_of_file h hslash ?_ hplace]
  · rfl
  · rw [obstacle?_eq_none_iff]
    intro q hq
    cases hget : t.get? q with
    | none =>
        obtain ⟨rest, hrest⟩ := (hground.of_missing ht hq hget).2
        refine ht'.isDirectory_above ?_ (List.append_ne_nil_of_right_ne_nil rest
          (List.cons_ne_nil name []))
        rw [← List.append_assoc, hrest]
        change (t'.get? ((start p).goal front ++ [name])).isSome = true
        rw [← h.goal_eq, hplace]
        rfl
    | some entry =>
        cases entry with
        | directory => exact hstays q (isDirectory_iff.mpr hget)
        | file content => exact absurd hget (hno q hq content)

end FileTree

end RequireForm
