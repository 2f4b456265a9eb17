import RequireForm.Proofs.Files.Path

/-!
# Following paths — reading and writing at the place that a path leads to

    src/a/b.js       src  directory,  src/a  directory,  src/a/b.js  read or written

What a path leads through decides whether it can be followed: the first place that holds no
directory stops it. Where none does, the last part is read, written or made a directory at the
goal of the path, and nowhere else.

  1. `FileTree.Closed`: whatever is there is in a directory. Writing keeps it so.
  2. `FileTree.obstacle?`: what stops a path, and `holder_eq`: nothing else does.
  3. `read_of_file`, `write_eq`, `makeDirectory_eq`: each access by what the places hold.
-/

namespace RequireForm

open FilePath

/-! ## Places -/

namespace FilePlace

variable {place q : FilePlace} {name : Text} {names : List Text}

theorem isFixed_parent (h : isFixed q = true) : isFixed q.parent = true := by
  rw [parent]
  by_cases hroot : q = root
  · rwa [if_pos hroot]
  · have hall : q.all (· = above) = true := by simpa [isFixed, hroot] using h
    rw [if_neg hroot, if_pos h, isFixed, List.all_append, hall]
    simp

theorem isFixed_left (h : isFixed (q ++ names) = true) : isFixed q = true := by
  rw [isFixed, Bool.or_eq_true, decide_eq_true_eq] at h
  rcases h with hroot | hall
  · rcases List.append_eq_singleton_iff.mp hroot with ⟨rfl, -⟩ | ⟨rfl, -⟩ <;> rfl
  · rw [List.all_append, Bool.and_eq_true] at hall
    rw [isFixed, hall.1, Bool.or_true]

/-- What is named in a directory is not there in any case. -/
theorem isFixed_concat (hpart : IsPart name) (hown : NamesOwn name) :
    isFixed (place ++ [name]) = false := by
  rw [Bool.eq_false_iff]
  intro h
  rw [isFixed, Bool.or_eq_true, decide_eq_true_eq] at h
  rcases h with hroot | hall
  · rcases List.append_eq_singleton_iff.mp hroot with ⟨-, hname⟩ | ⟨-, hname⟩
    · obtain rfl : name = ['/'] := List.singleton_inj.mp hname
      exact hpart.2 List.mem_cons_self
    · exact absurd hname (List.cons_ne_nil _ _)
  · rw [List.all_append, Bool.and_eq_true] at hall
    exact hown.2 (by simpa using hall.2)

theorem parent_of_not_isFixed (h : isFixed q = false) : q.parent = q.dropLast := by
  have hroot : q ≠ root := by
    rintro rfl
    cases h
  rw [parent, if_neg hroot, if_neg (by simp [h])]

theorem parent_concat (hpart : IsPart name) (hown : NamesOwn name) :
    parent (place ++ [name]) = place := by
  rw [parent_of_not_isFixed (isFixed_concat hpart hown), List.dropLast_concat]

end FilePlace

/-- What a content is read as. -/
def Content.asText : Content → Except IoError Text
  | .text t => .ok t
  | .bytes _ => .error .notText

namespace FileTree

open FilePlace

variable {t : FileTree} {p : FilePath} {place q : FilePlace} {part name text : Text}
  {front parts names : List Text} {e : Entry}

theorem isDirectory_iff : t.isDirectory q = true ↔ t.get? q = some .directory := decide_eq_true_iff

theorem get?_of_isFixed (h : isFixed q = true) : t.get? q = some .directory := if_pos h

theorem isDirectory_start (t : FileTree) (p : FilePath) : t.isDirectory (start p) = true := by
  rw [isDirectory_iff, get?_of_isFixed]
  rw [start]
  split <;> rfl

/-! ## Closed trees -/

/-- Whatever is there is in a directory. -/
def Closed (t : FileTree) : Prop := ∀ q, (t.get? q).isSome = true → t.isDirectory q.parent = true

namespace Closed

/-- All above something that is there are directories. -/
theorem isDirectory_above (ht : t.Closed) (h : (t.get? (q ++ names)).isSome = true)
    (hne : names ≠ []) : t.isDirectory q = true := by
  by_cases hfixed : isFixed q = true
  · exact isDirectory_iff.mpr (get?_of_isFixed hfixed)
  · have hnot (names : List Text) : isFixed (q ++ names) = false :=
      Bool.eq_false_iff.mpr fun h => hfixed (isFixed_left h)
    induction names using List.reverseRecOn with
    | nil => exact absurd rfl hne
    | append_singleton names name ih =>
        have hparent := ht _ h
        rw [parent_of_not_isFixed (hnot _), ← List.append_assoc, List.dropLast_concat] at hparent
        by_cases hnil : names = []
        · rwa [hnil, List.append_nil] at hparent
        · exact ih (by rw [isDirectory_iff.mp hparent]; rfl) hnil

/-- What is missing has nothing in it. -/
theorem get?_concat_eq_none (ht : t.Closed) (h : t.get? q = none) :
    t.get? (q ++ [name]) = none := by
  by_contra hsome
  have hdir := ht.isDirectory_above (Option.isSome_iff_ne_none.mpr hsome) (List.cons_ne_nil _ _)
  rw [isDirectory_iff, h] at hdir
  cases hdir

/-- A tree stays closed when something is put in a directory, unless it replaces one. -/
theorem put (ht : t.Closed) (hpart : IsPart name) (hown : NamesOwn name)
    (hplace : t.isDirectory place = true) (hno : t.get? (place ++ [name]) ≠ some .directory)
    (e : Entry) : (t.put (place ++ [name]) e).Closed := by
  have hget (q : FilePlace) : (t.put (place ++ [name]) e).get? q
      = if q = place ++ [name] then some e else t.get? q :=
    get?_put t e q (isFixed_concat hpart hown)
  intro q hq
  have hdir : t.isDirectory q.parent = true := by
    by_cases heq : q = place ++ [name]
    · rwa [heq, parent_concat hpart hown]
    · rw [hget, if_neg heq] at hq
      exact ht q hq
  rw [isDirectory_iff] at hdir ⊢
  rw [hget, if_neg, hdir]
  intro heq
  rw [heq] at hdir
  exact hno hdir

end Closed

/-! ## Obstacles -/

/-- What stops a path that leads through places: the first that holds no directory. -/
def obstacle? (t : FileTree) : List FilePlace → Option IoError
  | [] => none
  | q :: qs =>
      match t.get? q with
      | none => some .notFound
      | some (.file _) => some .notADirectory
      | some .directory => obstacle? t qs

theorem obstacle?_eq_none_iff {qs : List FilePlace} :
    t.obstacle? qs = none ↔ ∀ q ∈ qs, t.isDirectory q = true := by
  induction qs with
  | nil => simp [obstacle?]
  | cons q qs ih =>
      rw [List.forall_mem_cons, isDirectory_iff, obstacle?]
      split
      · next h => simp [h]
      · next h => simp [h]
      · next h => simp [h, ih]

theorem obstacle?_append (qs qs' : List FilePlace) :
    t.obstacle? (qs ++ qs') = (t.obstacle? qs).or (t.obstacle? qs') := by
  induction qs with
  | nil => rfl
  | cons q qs ih =>
      rw [List.cons_append, obstacle?, obstacle?]
      split
      · rfl
      · rfl
      · exact ih

/-- What stops a path is missing or a file. -/
theorem obstacle?_cases {qs : List FilePlace} {error : IoError} (h : t.obstacle? qs = some error) :
    error = .notFound ∧ (∃ q ∈ qs, t.get? q = none) ∨
      error = .notADirectory ∧ ∃ q ∈ qs, ∃ content, t.get? q = some (.file content) := by
  induction qs with
  | nil => cases h
  | cons q qs ih =>
      rw [obstacle?] at h
      split at h
      · next hq => exact .inl ⟨(Option.some.inj h).symm, q, List.mem_cons_self, hq⟩
      · next content hq =>
          exact .inr ⟨(Option.some.inj h).symm, q, List.mem_cons_self, content, hq⟩
      · rcases ih h with ⟨heq, r, hr, hnone⟩ | ⟨heq, r, hr, hfile⟩
        · exact .inl ⟨heq, r, List.mem_cons_of_mem q hr, hnone⟩
        · exact .inr ⟨heq, r, List.mem_cons_of_mem q hr, hfile⟩

/-- A part that is followed leads to its place, if anything is there. -/
theorem Closed.follow_eq (ht : t.Closed) (hplace : t.isDirectory place = true)
    (hshort : part.byteLength ≤ maxName) :
    t.follow place part
      = if (t.get? (place.next part)).isNone then .error .notFound else .ok (place.next part) := by
  rw [follow, if_neg (by simp [hplace])]
  by_cases hhere : part = here
  · subst hhere
    rw [if_pos rfl, next_here, isDirectory_iff.mp hplace]
    rfl
  · by_cases habove : part = above
    · subst habove
      have hparent := ht place (by rw [isDirectory_iff.mp hplace]; rfl)
      rw [if_neg hhere, if_pos rfl, next_above, isDirectory_iff.mp hparent]
      rfl
    · rw [if_neg hhere, if_neg habove, if_neg (Nat.not_lt.mpr hshort),
        next_of_namesOwn ⟨hhere, habove⟩]

theorem isDirectory_goal (hplace : t.isDirectory place = true)
    (h : t.obstacle? (place.trail parts) = none) : t.isDirectory (place.goal parts) = true := by
  induction parts generalizing place with
  | nil => exact hplace
  | cons part parts ih =>
      rw [obstacle?_eq_none_iff, trail, List.forall_mem_cons, ← obstacle?_eq_none_iff] at h
      exact ih h.1 h.2

/-- Where nothing stops them, parts lead to their goal. -/
theorem Closed.followAll_of_no_obstacle (ht : t.Closed) (hplace : t.isDirectory place = true)
    (hshort : ∀ part ∈ parts, part.byteLength ≤ maxName)
    (h : t.obstacle? (place.trail parts) = none) :
    t.followAll place parts = .ok (place.goal parts) := by
  induction parts generalizing place with
  | nil => rfl
  | cons part parts ih =>
      obtain ⟨hpart, hparts⟩ := List.forall_mem_cons.mp hshort
      rw [obstacle?_eq_none_iff, trail, List.forall_mem_cons, ← obstacle?_eq_none_iff] at h
      rw [followAll, ht.follow_eq hplace hpart, isDirectory_iff.mp h.1]
      exact ih h.1 hparts h.2

/-- What stops parts is the error, unless they end at a file. -/
theorem Closed.followAll_of_obstacle (ht : t.Closed) (hplace : t.isDirectory place = true)
    (hshort : ∀ part ∈ parts, part.byteLength ≤ maxName) {error : IoError}
    (h : t.obstacle? (place.trail parts) = some error) :
    t.followAll place parts = .error error ∨
      error = .notADirectory ∧ ∃ q, t.followAll place parts = .ok q ∧ t.isDirectory q = false := by
  induction parts generalizing place with
  | nil => cases h
  | cons part parts ih =>
      obtain ⟨hpart, hparts⟩ := List.forall_mem_cons.mp hshort
      rw [trail, obstacle?] at h
      rw [followAll, ht.follow_eq hplace hpart]
      cases hnext : t.get? (place.next part) with
      | none =>
          rw [hnext] at h
          cases h
          exact .inl rfl
      | some entry =>
          rw [hnext] at h
          cases entry with
          | directory => exact ih (isDirectory_iff.mpr hnext) hparts h
          | file content =>
              cases h
              have hno : t.isDirectory (place.next part) = false := by
                rw [isDirectory, hnext]
                rfl
              cases parts with
              | nil => exact .inr ⟨rfl, _, rfl, hno⟩
              | cons part' parts =>
                  refine .inl ?_
                  show t.followAll (place.next part) (part' :: parts) = _
                  rw [followAll, follow, hno]
                  rfl

theorem followAll_append (place : FilePlace) (front parts : List Text) :
    t.followAll place (front ++ parts)
      = (t.followAll place front).bind fun q => t.followAll q parts := by
  induction front generalizing place with
  | nil => rfl
  | cons part front ih =>
      rw [List.cons_append, followAll, followAll]
      cases t.follow place part with
      | error e => rfl
      | ok q => exact ih q

/-! ## Accesses -/

/-- A path that is accepted and ends with a name. -/
structure Ends (p : FilePath) (front : List Text) (name : Text) : Prop where
  accepted : p.Accepted
  parts : p.parts = front ++ [name]
  named : NamesOwn name

namespace Ends

theorem isPart (h : Ends p front name) : IsPart name :=
  isPart_of_mem_parts (h.parts ▸ List.mem_append_right front List.mem_cons_self)

theorem short (h : Ends p front name) : ∀ part ∈ front, part.byteLength ≤ maxName :=
  fun part hpart => h.accepted.short part (h.parts ▸ List.mem_append_left [name] hpart)

theorem goal_eq (h : Ends p front name) : p.goal = (start p).goal front ++ [name] := by
  rw [FilePath.goal, h.parts, goal_concat h.named]

theorem isFixed_goal (h : Ends p front name) : isFixed p.goal = false := by
  rw [h.goal_eq, isFixed_concat h.isPart h.named]

end Ends

theorem Closed.holder_eq (ht : t.Closed) (haccepted : p.Accepted)
    (hparts : p.parts = front ++ [part]) (named : IoError) :
    t.holder p named
      = match t.obstacle? ((start p).trail front) with
        | some e => .error e
        | none => .ok ((start p).goal front, part) := by
  have hshort : ∀ u ∈ front, u.byteLength ≤ maxName :=
    fun u hu => haccepted.short u (hparts ▸ List.mem_append_left [part] hu)
  rw [holder, haccepted.fault, hparts, List.getLast?_concat, List.dropLast_concat]
  cases hobstacle : t.obstacle? ((start p).trail front) with
  | none =>
      rw [ht.followAll_of_no_obstacle (isDirectory_start t p) hshort hobstacle]
      exact if_pos (isDirectory_goal (isDirectory_start t p) hobstacle)
  | some error =>
      rcases ht.followAll_of_obstacle (isDirectory_start t p) hshort hobstacle with
        hfollow | ⟨rfl, q, hfollow, hno⟩
      · rw [hfollow]
      · rw [hfollow]
        exact if_neg (ne_true_of_eq_false hno)

/-- A path leads to a directory if it leads through directories only. -/
theorem Closed.leadsToDirectory_iff (ht : t.Closed) (h : p.Accepted) :
    t.leadsToDirectory p = true ↔ t.obstacle? ((start p).trail p.parts) = none := by
  rw [leadsToDirectory, place?, h.fault]
  cases hobstacle : t.obstacle? ((start p).trail p.parts) with
  | none =>
      have hdir := isDirectory_goal (isDirectory_start t p) hobstacle
      rw [ht.followAll_of_no_obstacle (isDirectory_start t p) h.short hobstacle]
      simp [hdir]
  | some error =>
      rcases ht.followAll_of_obstacle (isDirectory_start t p) h.short hobstacle with
        hfollow | ⟨rfl, q, hfollow, hno⟩
      · simp [hfollow]
      · cases hslash : p.endsWithSlash <;> simp [hfollow, hno]

theorem Closed.place?_of_leadsToDirectory (ht : t.Closed) (h : p.Accepted)
    (hdir : t.leadsToDirectory p = true) :
    t.place? p = .ok p.goal ∧ t.isDirectory p.goal = true := by
  have hobstacle := (ht.leadsToDirectory_iff h).mp hdir
  have hgoal : t.isDirectory p.goal = true := isDirectory_goal (isDirectory_start t p) hobstacle
  rw [place?, h.fault, ht.followAll_of_no_obstacle (isDirectory_start t p) h.short hobstacle]
  refine ⟨?_, hgoal⟩
  show (if p.endsWithSlash && !t.isDirectory p.goal then _ else _) = _
  rw [hgoal, Bool.not_true, Bool.and_false]
  rfl

theorem short_of_followAll (h : t.followAll place parts = .ok q) :
    ∀ part ∈ parts, part.byteLength ≤ maxName := by
  induction parts generalizing place with
  | nil => exact fun _ hpart => absurd hpart List.not_mem_nil
  | cons part parts ih =>
      rw [followAll] at h
      split at h
      · cases h
      · next next hfollow =>
          refine List.forall_mem_cons.mpr ⟨?_, ih h⟩
          rw [follow] at hfollow
          split at hfollow
          · cases hfollow
          · split at hfollow
            · next hhere =>
                rw [hhere]
                decide
            · split at hfollow
              · next habove =>
                  rw [habove]
                  decide
              · split at hfollow
                · cases hfollow
                · next hshort => exact Nat.not_lt.mp hshort

/-- A path that leads somewhere is accepted. -/
theorem accepted_of_leadsToDirectory (h : t.leadsToDirectory p = true) : p.Accepted := by
  rw [leadsToDirectory, place?] at h
  cases hfault : pathFault? p with
  | some error =>
      rw [hfault] at h
      cases h
  | none =>
      cases hfollow : t.followAll (start p) p.parts with
      | error error =>
          rw [hfault, hfollow] at h
          cases h
      | ok q => exact ⟨hfault, short_of_followAll hfollow⟩

/-- Where a file is. -/
theorem Closed.place?_of_isSome (ht : t.Closed) (h : Ends p front name)
    (hslash : p.endsWithSlash = false) (hfront : t.obstacle? ((start p).trail front) = none)
    (hsome : (t.get? p.goal).isSome = true) : t.place? p = .ok p.goal := by
  have hfollow := ht.followAll_of_no_obstacle (isDirectory_start t p) h.short hfront
  have hholder : t.isDirectory ((start p).goal front) = true := by
    refine ht.isDirectory_above ?_ (List.cons_ne_nil name [])
    rwa [← h.goal_eq]
  have hname : name.byteLength ≤ maxName :=
    h.accepted.short name (h.parts ▸ List.mem_append_right front List.mem_cons_self)
  have hlast : t.followAll ((start p).goal front) [name] = .ok p.goal := by
    rw [followAll, ht.follow_eq hholder hname, next_of_namesOwn h.named, ← h.goal_eq, if_neg]
    · rfl
    · rw [Option.isNone_iff_eq_none]
      intro hnone
      rw [hnone] at hsome
      cases hsome
  have hall : t.followAll (start p) p.parts = .ok p.goal := by
    rw [h.parts, followAll_append, hfollow]
    exact hlast
  rw [place?, h.accepted.fault, hall]
  show (if p.endsWithSlash && _ then _ else _) = _
  rw [hslash]
  rfl

/-- A file is read. -/
theorem Closed.read_of_file (ht : t.Closed) (h : Ends p front name)
    (hslash : p.endsWithSlash = false) (hfront : t.obstacle? ((start p).trail front) = none)
    {content : Content} (hfile : t.get? p.goal = some (.file content)) :
    t.read p = content.asText := by
  rw [read, ht.place?_of_isSome h hslash hfront (by rw [hfile]; rfl)]
  dsimp only
  rw [hfile]
  cases content <;> rfl

/-- A file is written at the goal of its path, unless a directory is there. -/
theorem Closed.write_eq (ht : t.Closed) (h : Ends p front name) (hslash : p.endsWithSlash = false)
    (text : Text) :
    t.write p text
      = match t.obstacle? ((start p).trail front) with
        | some e => (t, .error e)
        | none =>
            if t.isDirectory p.goal then (t, .error .isADirectory)
            else (t.put p.goal (.file (.text text)), .ok ()) := by
  have hname : ¬ maxName < name.byteLength :=
    Nat.not_lt.mpr <|
      h.accepted.short name (h.parts ▸ List.mem_append_right front List.mem_cons_self)
  rw [write, filePlace, ht.holder_eq h.accepted h.parts]
  cases t.obstacle? ((start p).trail front) with
  | some e => rfl
  | none =>
      dsimp only
      rw [hslash, newPlace, if_neg hname, ← h.goal_eq]
      simp [h.named.1, h.named.2]

/-- A directory is made at the goal of its path, unless something is there. -/
theorem Closed.makeDirectory_eq (ht : t.Closed) (haccepted : p.Accepted)
    (hparts : p.parts = front ++ [part]) :
    t.makeDirectory p
      = match t.obstacle? ((start p).trail front) with
        | some e => (t, .error e)
        | none =>
            if (t.get? p.goal).isSome then (t, .error .exists)
            else (t.put p.goal .directory, .ok ()) := by
  have hshort : ¬ maxName < part.byteLength :=
    Nat.not_lt.mpr (haccepted.short part (hparts ▸ List.mem_append_right front List.mem_cons_self))
  have hgoal : p.goal = ((start p).goal front).next part := by
    rw [FilePath.goal, hparts, goal_append]
    rfl
  rw [makeDirectory, directoryPlace, ht.holder_eq haccepted hparts]
  cases hobstacle : t.obstacle? ((start p).trail front) with
  | some e => rfl
  | none =>
      have hfront := isDirectory_goal (isDirectory_start t p) hobstacle
      dsimp only
      by_cases hown : NamesOwn part
      · rw [newPlace, if_neg (by simp [hown.1, hown.2]), if_neg hshort, hgoal,
          next_of_namesOwn hown]
      · -- what leads to the place itself, or above it, leads to a directory
        have hdir : t.isDirectory p.goal = true := by
          rw [hgoal]
          by_cases hhere : part = here
          · rwa [hhere, next_here]
          · obtain rfl : part = above := by_contra fun habove => hown ⟨hhere, habove⟩
            rw [next_above]
            exact ht _ (by rw [isDirectory_iff.mp hfront]; rfl)
        have hdots : (part = here || part = above) = true := by
          by_cases hhere : part = here
          · simp [hhere]
          · have habove : part = above := by_contra fun habove => hown ⟨hhere, habove⟩
            simp [habove]
        rw [newPlace, if_pos hdots, isDirectory_iff.mp hdir]
        rfl

end FileTree

end RequireForm
