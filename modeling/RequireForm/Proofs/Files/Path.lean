import RequireForm.Files.Access
import RequireForm.Proofs.Source.Words

/-!
# Paths and their parts — what a path says, whatever is at its places

    path      ./src//a/../b.js
    pieces    .   src   (empty)   a   ..   b.js
    parts     .   src   a   ..   b.js
    places    []  src   src/a   src   src/b.js

A path names its parts, and the parts lead from place to place. All of this is known without
looking at files; where the places hold something, it is where the path leads.

  1. `ofPieces_pieces`, `pieces_ofPieces`: a path and its pieces. `parts_join`: its parts.
  2. `ancestors_parent`: what is above the parent of a path is what is above the path.
  3. `FilePlace.trail`, `FilePlace.goal`: the places that parts lead through, and to.
  4. `FilePath.Accepted`: paths that can be followed. `Accepted.followable`: so can all above them.
-/

namespace RequireForm

/-! ## Cutting and joining at slashes -/

namespace Text

variable {p : Char → Bool} {c : Char} {s t u : Text} {us vs : List Text}

/-- Both sides of a cut are cut on their own. -/
theorem cutAt_append (hc : p c = true) (s t : Text) :
    cutAt p (s ++ c :: t) = cutAt p s ++ cutAt p t := by
  induction s with
  | nil => simp [cutAt, hc]
  | cons d s ih =>
      cases hd : p d with
      | true => simp only [List.cons_append, cutAt, hd, ih, if_true]
      | false =>
          obtain ⟨piece, pieces, hs⟩ := List.exists_cons_of_ne_nil (cutAt_ne_nil p s)
          rw [hs, List.cons_append] at ih
          rw [List.cons_append, cutAt_cons_of_not hd ih, cutAt_cons_of_not hd hs]
          rfl

theorem run_of_mem_cutAt (h : u ∈ cutAt p t) : Run (!p ·) u := by
  induction t generalizing u with
  | nil =>
      obtain rfl := List.mem_singleton.mp h
      exact run_nil
  | cons c t ih =>
      obtain ⟨piece, pieces, ht⟩ := List.exists_cons_of_ne_nil (cutAt_ne_nil p t)
      cases hc : p c with
      | true =>
          rw [cutAt, if_pos hc] at h
          rcases List.mem_cons.mp h with rfl | h
          · exact run_nil
          · exact ih h
      | false =>
          rw [cutAt_cons_of_not hc ht] at h
          rw [ht] at ih
          rcases List.mem_cons.mp h with rfl | h
          · exact run_cons.mpr ⟨by simp [hc], ih List.mem_cons_self⟩
          · exact ih (List.mem_cons_of_mem _ h)

theorem join_cons (sep u : Text) (h : us ≠ []) : join sep (u :: us) = u ++ sep ++ join sep us := by
  cases us with
  | nil => exact absurd rfl h
  | cons v us => rfl

theorem join_cutAt (t : Text) : join [c] (cutAt (· = c) t) = t := by
  induction t with
  | nil => rfl
  | cons d t ih =>
      obtain ⟨piece, pieces, ht⟩ := List.exists_cons_of_ne_nil (cutAt_ne_nil (· = c) t)
      by_cases hd : d = c
      · rw [cutAt, if_pos (decide_eq_true hd), join_cons [c] [] (cutAt_ne_nil _ t), ih, hd]
        rfl
      · rw [cutAt_cons_of_not (decide_eq_false hd) ht]
        rw [ht] at ih
        cases pieces with
        | nil => exact congrArg (d :: ·) ih
        | cons v pieces => exact congrArg (d :: ·) ih

theorem cutAt_join (hne : us ≠ []) (h : ∀ u ∈ us, c ∉ u) :
    cutAt (· = c) (join [c] us) = us := by
  have hrun {u : Text} (hu : c ∉ u) : Run (fun d => !decide (d = c)) u := by
    intro d hd
    have : d ≠ c := fun heq => hu (heq ▸ hd)
    simp [this]
  induction us with
  | nil => exact absurd rfl hne
  | cons u us ih =>
      obtain ⟨hu, hus⟩ := List.forall_mem_cons.mp h
      by_cases hnil : us = []
      · subst hnil
        exact cutAt_eq_singleton (hrun hu)
      · rw [join_cons [c] u hnil, List.append_assoc, List.singleton_append,
          cutAt_append_cons (hrun hu) (decide_eq_true rfl), ih hnil hus]

/-- The first pieces make a beginning of the text. -/
theorem isPrefix_join (sep : Text) (h : us <+: vs) : join sep us <+: join sep vs := by
  induction us generalizing vs with
  | nil => exact List.nil_prefix
  | cons u us ih =>
      obtain ⟨ws, rfl⟩ := h
      by_cases hnil : us = []
      · subst hnil
        by_cases hws : ws = []
        · subst hws
          exact List.prefix_rfl
        · rw [List.cons_append, List.nil_append, join_cons sep u hws, List.append_assoc]
          exact List.prefix_append u _
      · have hmore : us ++ ws ≠ [] := List.append_ne_nil_of_left_ne_nil hnil ws
        rw [List.cons_append, join_cons sep u hnil, join_cons sep u hmore,
          List.prefix_append_right_inj]
        exact ih (List.prefix_append us ws)

end Text

open Text

/-! ## Pieces and parts -/

namespace FilePath

variable {p q : FilePath} {part name u : Text} {absolute : Bool}
  {front parts names us vs : List Text}

/-- A text that may stand between slashes. -/
def IsPart (part : Text) : Prop := part ≠ [] ∧ '/' ∉ part

/-- A part that names something of its own. -/
def NamesOwn (part : Text) : Prop := part ≠ here ∧ part ≠ above

instance : DecidablePred NamesOwn := fun _ => inferInstanceAs (Decidable (_ ∧ _))

/-- Texts that may be what stands between the slashes of a path. -/
structure ArePieces (absolute : Bool) (us : List Text) : Prop where
  slashless : ∀ u ∈ us, '/' ∉ u
  head : absolute = false → us.head? ≠ some []

/-- The parts among some pieces. -/
def partsOf (us : List Text) : List Text := us.filter (· ≠ [])

theorem partsOf_append (us vs : List Text) : partsOf (us ++ vs) = partsOf us ++ partsOf vs :=
  List.filter_append us vs

theorem partsOf_eq_self (h : ∀ part ∈ parts, IsPart part) : partsOf parts = parts :=
  List.filter_eq_self.mpr fun part hpart => decide_eq_true (h part hpart).1

theorem arePieces_of_isPart (h : ∀ part ∈ parts, IsPart part) : ArePieces absolute parts where
  slashless := fun part hpart => (h part hpart).2
  head := fun _ heq => (h [] (List.mem_of_head? heq)).1 rfl

theorem ArePieces.above (h : ArePieces absolute vs) (hus : us <+: vs) :
    ArePieces absolute us where
  slashless := fun u hu => h.slashless u (hus.subset hu)
  head := by
    intro habs heq
    obtain ⟨ws, rfl⟩ := hus
    exact h.head habs (by rw [List.head?_append, heq]; rfl)

theorem text_ofPieces (absolute : Bool) (us : List Text) :
    (ofPieces absolute us).text
      = (if absolute then ['/'] else []) ++ Text.join ['/'] us := rfl

/-- A path is what stands between its slashes. -/
theorem ofPieces_pieces (p : FilePath) : ofPieces p.isAbsolute p.pieces = p := by
  obtain ⟨text⟩ := p
  rw [ofPieces, pieces, join_cutAt, mk.injEq]
  cases habs : isAbsolute ⟨text⟩ with
  | false => rfl
  | true =>
      rw [isAbsolute, decide_eq_true_eq, List.head?_eq_some_iff] at habs
      obtain ⟨t, rfl⟩ := habs
      rfl

theorem arePieces_pieces (h : p.text ≠ []) : ArePieces p.isAbsolute p.pieces where
  slashless := by
    intro u hu hslash
    have := run_of_mem_cutAt hu '/' hslash
    simp at this
  head := by
    intro habs
    obtain ⟨c, t, htext⟩ := List.exists_cons_of_ne_nil h
    have hc : c ≠ '/' := by
      rintro rfl
      rw [isAbsolute, htext] at habs
      exact Bool.noConfusion habs
    obtain ⟨piece, pieces, ht⟩ := List.exists_cons_of_ne_nil (cutAt_ne_nil (· = '/') t)
    rw [FilePath.pieces, habs, if_neg Bool.false_ne_true, htext,
      cutAt_cons_of_not (decide_eq_false hc) ht, List.head?_cons]
    exact fun heq => List.cons_ne_nil c piece (Option.some.inj heq)

theorem isAbsolute_ofPieces (h : ArePieces absolute us) :
    (ofPieces absolute us).isAbsolute = absolute := by
  cases absolute with
  | true => rfl
  | false =>
      rw [isAbsolute, decide_eq_false_iff_not, text_ofPieces]
      show (Text.join ['/'] us).head? ≠ some '/'
      cases us with
      | nil =>
          intro h
          cases h
      | cons u us =>
          cases u with
          | nil => exact absurd rfl (h.head rfl)
          | cons c u =>
              have hhead : (Text.join ['/'] ((c :: u) :: us)).head? = some c := by
                cases us <;> rfl
              rw [hhead]
              rintro ⟨⟩
              exact h.slashless _ List.mem_cons_self List.mem_cons_self

theorem pieces_ofPieces (h : ArePieces absolute us) (hne : us ≠ []) :
    (ofPieces absolute us).pieces = us := by
  have hjoin := cutAt_join hne h.slashless
  rw [pieces, isAbsolute_ofPieces h, text_ofPieces]
  cases absolute with
  | true => exact hjoin
  | false => exact hjoin

theorem parts_eq_partsOf (p : FilePath) : p.parts = partsOf p.pieces := by
  rw [parts, partsOf, pieces]
  cases habs : p.isAbsolute with
  | false => rfl
  | true =>
      rw [isAbsolute, decide_eq_true_eq, List.head?_eq_some_iff] at habs
      obtain ⟨t, ht⟩ := habs
      rw [ht, cutAt, if_pos (decide_eq_true rfl), List.filter_cons_of_neg (by simp)]
      rfl

theorem parts_ofPieces (h : ArePieces absolute us) : (ofPieces absolute us).parts = partsOf us := by
  by_cases hnil : us = []
  · subst hnil
    cases absolute <;> rfl
  · rw [parts_eq_partsOf, pieces_ofPieces h hnil]

theorem parts_ofParts (h : ∀ part ∈ parts, IsPart part) : (ofPieces absolute parts).parts = parts :=
  (parts_ofPieces (arePieces_of_isPart h)).trans (partsOf_eq_self h)

theorem isPart_of_mem_parts (h : part ∈ p.parts) : IsPart part := by
  rw [FilePath.parts, List.mem_filter, decide_eq_true_eq] at h
  refine ⟨h.2, fun hslash => ?_⟩
  have := run_of_mem_cutAt h.1 '/' hslash
  simp at this

theorem parts_eq_nil (h : p.text = []) : p.parts = [] := by
  rw [FilePath.parts, h]
  rfl

/-- A name that is joined to a path adds its parts. -/
theorem parts_join (hq : q.isAbsolute = false) : (p.join q).parts = p.parts ++ q.parts := by
  rw [join]
  by_cases hp : p.text = []
  · rw [if_pos (by simp [hp]), parts_eq_nil hp, List.nil_append]
  · rw [if_neg (by simp [hp, hq])]
    split
    · next hslash =>
        obtain ⟨s, hs⟩ : ∃ s, p.text = s ++ ['/'] := by
          rw [endsWithSlash, decide_eq_true_eq, List.getLast?_eq_some_iff] at hslash
          exact hslash
        rw [parts, parts, parts, hs, List.append_assoc, List.singleton_append,
          cutAt_append (decide_eq_true rfl), cutAt_concat (decide_eq_true rfl),
          List.filter_append, List.filter_append]
        simp
    · rw [parts, parts, parts, List.append_assoc, List.singleton_append,
        cutAt_append (decide_eq_true rfl), List.filter_append]

theorem isAbsolute_join (hq : q.isAbsolute = false) : (p.join q).isAbsolute = p.isAbsolute := by
  rw [join]
  by_cases hp : p.text = []
  · rw [if_pos (by simp [hp]), hq, isAbsolute, hp]
    rfl
  · obtain ⟨c, s, hs⟩ := List.exists_cons_of_ne_nil hp
    rw [if_neg (by simp [hp, hq])]
    split <;> simp [isAbsolute, hs]

theorem start_join (hq : q.isAbsolute = false) :
    FileTree.start (p.join q) = FileTree.start p := by
  rw [FileTree.start, FileTree.start, isAbsolute_join hq]

theorem endsWithSlash_join (hq : q.text ≠ []) : (p.join q).endsWithSlash = q.endsWithSlash := by
  have hlast (s : Text) : (s ++ q.text).getLast? = q.text.getLast? := by
    rw [List.getLast?_append, List.getLast?_eq_some_getLast hq]
    rfl
  rw [join]
  split
  · rfl
  · split
    · rw [endsWithSlash, endsWithSlash, hlast]
    · rw [endsWithSlash, endsWithSlash, hlast]

/-! ## What is above a path -/

theorem ancestorsOf_concat (absolute : Bool) (us : List Text) (u : Text) :
    ancestorsOf absolute (us ++ [u]).reverse
      = if counts absolute us.reverse u then
          ofPieces absolute (us ++ [u]) :: ancestorsOf absolute us.reverse
        else ancestorsOf absolute us.reverse := by
  rw [List.reverse_concat, ancestorsOf, List.reverse_cons, List.reverse_reverse]

/-- A piece that does not count is no part, or the one that stays where it is. -/
theorem eq_of_not_counts (h : counts absolute us u = false) : u = [] ∨ u = here := by
  rw [counts, Bool.and_eq_false_iff, Bool.or_eq_false_iff, decide_eq_false_iff_not,
    decide_eq_false_iff_not, not_not, not_not] at h
  exact h.imp_right And.left

theorem partsOf_concat_of_counts {before : List Text} (us : List Text)
    (h : counts absolute before u = true) : partsOf (us ++ [u]) = partsOf us ++ [u] := by
  rw [counts, Bool.and_eq_true] at h
  have hu : partsOf [u] = [u] := List.filter_cons_of_pos h.1
  rw [partsOf_append, hu]

theorem counts_of_ne (hpart : u ≠ []) (hhere : u ≠ here) : counts absolute us u = true := by
  rw [counts, decide_eq_true hpart, decide_eq_true hhere]
  rfl

theorem ancestorsOf_blanks (h : partsOf vs = []) :
    ancestorsOf absolute (us ++ vs).reverse = ancestorsOf absolute us.reverse := by
  induction vs using List.reverseRecOn with
  | nil => rw [List.append_nil]
  | append_singleton vs u ih =>
      rw [partsOf_append, List.append_eq_nil_iff] at h
      have hu : u = [] := by
        have := List.filter_eq_nil_iff.mp h.2 u List.mem_cons_self
        simpa using this
      rw [← List.append_assoc, ancestorsOf_concat, hu, if_neg (by simp [counts]), ih h.1]

/-- The first of some ancestors has the others above it. -/
theorem ancestors_headD (h : ArePieces absolute us) :
    ((ancestorsOf absolute us.reverse).headD (ofPieces absolute [])).ancestors
      = ancestorsOf absolute us.reverse := by
  induction us using List.reverseRecOn with
  | nil => cases absolute <;> rfl
  | append_singleton us u ih =>
      rw [ancestorsOf_concat]
      split
      · next hcounts =>
          show (ofPieces absolute (us ++ [u])).ancestors = _
          rw [ancestors, isAbsolute_ofPieces h, pieces_ofPieces h (by simp), ancestorsOf_concat,
            if_pos hcounts]
      · exact ih (h.above (List.prefix_append us [u]))

theorem ancestors_headD_tail {above : List FilePath} (h : ArePieces absolute us)
    (heq : ancestorsOf absolute us.reverse = q :: above) :
    (above.headD (ofPieces absolute [])).ancestors = above := by
  induction us using List.reverseRecOn with
  | nil => cases heq
  | append_singleton us u ih =>
      have hus := h.above (List.prefix_append us [u])
      rw [ancestorsOf_concat] at heq
      split at heq
      · obtain ⟨-, rfl⟩ := List.cons.inj heq
        exact ancestors_headD hus
      · exact ih hus heq

/-- What is above a path is its parent, and what is above that. -/
theorem ancestors_parent (h : p.parent? = some q) : q.ancestors = p.ancestors.tail := by
  rw [parent?] at h
  cases hall : p.ancestors with
  | nil =>
      rw [hall] at h
      cases h
  | cons first above =>
      rw [hall] at h
      obtain rfl := Option.some.inj h
      have htext : p.text ≠ [] := by
        intro hnil
        have hnone : p.ancestors = [] := by
          obtain ⟨text⟩ := p
          subst hnil
          rfl
        rw [hnone] at hall
        cases hall
      exact ancestors_headD_tail (arePieces_pieces htext) hall

example : ancestors ⟨"./src//a/./b.js".toList⟩
    = [⟨"./src//a/./b.js".toList⟩, ⟨"./src//a".toList⟩, ⟨"./src".toList⟩, ⟨".".toList⟩] := by
  decide

/-- The paths above one that ends with a name. -/
theorem ancestors_eq (hparts : p.parts = front ++ [name]) (hname : name ≠ here) :
    ∃ us, us <+: p.pieces ∧ partsOf us = front ∧
      p.ancestors
        = ofPieces p.isAbsolute (us ++ [name]) :: ancestorsOf p.isAbsolute us.reverse := by
  rw [parts_eq_partsOf] at hparts
  obtain ⟨us, ws, hpieces, hus, hws⟩ := List.filter_eq_append_iff.mp hparts
  obtain ⟨blanks, vs, rfl, hblanks, hne, hvs⟩ := List.filter_eq_cons_iff.mp hws
  have hnone : partsOf blanks = [] := List.filter_eq_nil_iff.mpr hblanks
  have hcounts : counts p.isAbsolute (us ++ blanks).reverse name = true :=
    counts_of_ne (of_decide_eq_true hne) hname
  have hall : p.pieces = (us ++ blanks) ++ [name] ++ vs := by
    rw [hpieces, List.append_assoc, List.append_assoc]
    rfl
  refine ⟨us ++ blanks, ⟨[name] ++ vs, ?_⟩, ?_, ?_⟩
  · rw [hall, List.append_assoc (us ++ blanks)]
  · rw [partsOf_append, hnone, List.append_nil]
    exact hus
  · rw [ancestors, hall, ancestorsOf_blanks hvs, ancestorsOf_concat, if_pos hcounts]

end FilePath

/-! ## Places -/

namespace FilePlace

open FilePath

variable {place q : FilePlace} {part name u : Text} {front parts names us : List Text}
  {absolute : Bool}

/-- The place that a part leads to. -/
def next (place : FilePlace) (part : Text) : FilePlace :=
  if part = here then place else if part = above then place.parent else place ++ [part]

/-- The places that parts lead through, from the first to the last. -/
def trail (place : FilePlace) : List Text → List FilePlace
  | [] => []
  | part :: parts => place.next part :: trail (place.next part) parts

/-- The place that parts lead to. -/
def goal (place : FilePlace) (parts : List Text) : FilePlace := parts.foldl next place

@[simp] theorem next_here : place.next here = place := rfl

@[simp] theorem next_above : place.next above = place.parent := rfl

theorem next_of_namesOwn (h : NamesOwn part) : place.next part = place ++ [part] := by
  rw [next, if_neg h.1, if_neg h.2]

theorem trail_append (place : FilePlace) (front parts : List Text) :
    place.trail (front ++ parts) = place.trail front ++ (place.goal front).trail parts := by
  induction front generalizing place with
  | nil => rfl
  | cons part front ih => exact congrArg (_ :: ·) (ih _)

theorem goal_append (place : FilePlace) (front parts : List Text) :
    place.goal (front ++ parts) = (place.goal front).goal parts := List.foldl_append

theorem goal_mem_trail (h : parts ≠ []) : place.goal parts ∈ place.trail parts := by
  induction parts generalizing place with
  | nil => exact absurd rfl h
  | cons part parts ih =>
      by_cases hnil : parts = []
      · subst hnil
        exact List.mem_cons_self
      · exact List.mem_cons_of_mem _ (ih hnil)

theorem trail_concat (place : FilePlace) (front : List Text) (part : Text) :
    place.trail (front ++ [part]) = place.trail front ++ [place.goal (front ++ [part])] := by
  rw [trail_append, goal_append]
  rfl

theorem goal_concat (h : NamesOwn name) :
    place.goal (front ++ [name]) = place.goal front ++ [name] := by
  rw [goal_append]
  exact next_of_namesOwn h

/-- Names lead straight down. -/
theorem goal_names (h : ∀ name ∈ names, NamesOwn name) : place.goal names = place ++ names := by
  induction names generalizing place with
  | nil => exact (List.append_nil place).symm
  | cons name names ih =>
      obtain ⟨hname, hnames⟩ := List.forall_mem_cons.mp h
      show (place.next name).goal names = _
      rw [ih hnames, next_of_namesOwn hname, List.append_assoc]
      rfl

theorem mem_trail_names (h : ∀ name ∈ names, NamesOwn name) (hq : q ∈ place.trail names) :
    ∃ front, front ≠ [] ∧ front <+: names ∧ q = place ++ front := by
  induction names generalizing place with
  | nil => exact absurd hq List.not_mem_nil
  | cons name names ih =>
      obtain ⟨hname, hnames⟩ := List.forall_mem_cons.mp h
      rcases List.mem_cons.mp hq with rfl | hq
      · exact ⟨[name], List.cons_ne_nil _ _, ⟨names, rfl⟩, next_of_namesOwn hname⟩
      · obtain ⟨front, -, hfront, rfl⟩ := ih hnames hq
        refine ⟨name :: front, List.cons_ne_nil _ _, List.cons_prefix_cons.mpr ⟨rfl, hfront⟩, ?_⟩
        rw [next_of_namesOwn hname, List.append_assoc]
        rfl

/-- A piece that does not count leads through no other places. -/
theorem mem_trail_of_not_counts (place q : FilePlace) (h : counts absolute us.reverse u = false) :
    q = place ∨ q ∈ place.trail (partsOf (us ++ [u])) ↔
      q = place ∨ q ∈ place.trail (partsOf us) := by
  rw [partsOf_append]
  rcases eq_of_not_counts h with rfl | rfl
  · show q = place ∨ q ∈ place.trail (partsOf us ++ []) ↔ _
    rw [List.append_nil]
  · show q = place ∨ q ∈ place.trail (partsOf us ++ [here]) ↔ _
    have hgoal : q = place.goal (partsOf us) → q = place ∨ q ∈ place.trail (partsOf us) := by
      rintro rfl
      by_cases hnil : partsOf us = []
      · rw [hnil]
        exact .inl rfl
      · exact .inr (goal_mem_trail hnil)
    rw [trail_concat, goal_append, List.mem_append, List.mem_singleton, ← or_assoc]
    exact or_iff_left_of_imp hgoal

end FilePlace

/-! ## Accepted paths -/

namespace FilePath

variable {p : FilePath} {absolute : Bool} {us vs : List Text}

/-- The place that a path leads to, if it leads anywhere. -/
def goal (p : FilePath) : FilePlace := (FileTree.start p).goal p.parts

/-- Nothing is wrong with the path itself: it can be followed if all it names is there. -/
structure Accepted (p : FilePath) : Prop where
  fault : FileTree.pathFault? p = none
  short : ∀ part ∈ p.parts, part.byteLength ≤ FileTree.maxName

instance : Decidable p.Accepted :=
  decidable_of_iff (FileTree.pathFault? p = none ∧
    ∀ part ∈ p.parts, part.byteLength ≤ FileTree.maxName)
    ⟨fun ⟨hfault, hshort⟩ => ⟨hfault, hshort⟩, fun h => ⟨h.fault, h.short⟩⟩

theorem pathFault?_eq_none_iff : FileTree.pathFault? p = none ↔
    '\x00' ∉ p.text ∧ p.text ≠ [] ∧ p.text.byteLength ≤ FileTree.maxPath := by
  rw [FileTree.pathFault?]
  by_cases hnul : '\x00' ∈ p.text
  · simp [hnul]
  · by_cases hnil : p.text = []
    · simp [hnil]
    · by_cases hlong : FileTree.maxPath < p.text.byteLength
      · simp [hnul, hnil, hlong]
      · simp [hnul, hnil, hlong, Nat.not_lt.mp hlong]

/-- What is above a path is a beginning of it. -/
theorem isPrefix_text_ofPieces (h : us <+: p.pieces) :
    (ofPieces p.isAbsolute us).text <+: p.text := by
  have htext : p.text = (ofPieces p.isAbsolute p.pieces).text := by rw [ofPieces_pieces]
  rw [htext, text_ofPieces, text_ofPieces, List.prefix_append_right_inj]
  exact isPrefix_join ['/'] h

/-- The paths above an accepted one are accepted. -/
theorem Accepted.above (h : p.Accepted) (hus : us <+: p.pieces) (hne : partsOf us ≠ []) :
    (ofPieces p.isAbsolute us).Accepted := by
  obtain ⟨hnul, htext, hlong⟩ := pathFault?_eq_none_iff.mp h.fault
  obtain ⟨rest, hrest⟩ := isPrefix_text_ofPieces hus
  have hparts := parts_ofPieces ((arePieces_pieces htext).above hus)
  refine ⟨pathFault?_eq_none_iff.mpr ⟨fun hmem => ?_, fun hnil => ?_, ?_⟩, fun part hpart => ?_⟩
  · exact hnul (hrest ▸ List.mem_append_left rest hmem)
  · exact hne (hparts.symm.trans (parts_eq_nil hnil))
  · rw [← hrest, byteLength_append] at hlong
    omega
  · refine h.short part ?_
    rw [hparts] at hpart
    rw [parts_eq_partsOf]
    exact (hus.sublist.filter _).subset hpart

/-- Pieces of which every beginning that has parts makes an accepted path. -/
structure Followable (absolute : Bool) (us : List Text) : Prop where
  pieces : ArePieces absolute us
  accepted : ∀ vs, vs <+: us → partsOf vs ≠ [] → (ofPieces absolute vs).Accepted

theorem Followable.above (h : Followable absolute vs) (hus : us <+: vs) :
    Followable absolute us where
  pieces := h.pieces.above hus
  accepted := fun ws hws => h.accepted ws (hws.trans hus)

theorem Accepted.followable (h : p.Accepted) : Followable p.isAbsolute p.pieces where
  pieces := arePieces_pieces (pathFault?_eq_none_iff.mp h.fault).2.1
  accepted := fun _ => h.above

end FilePath

end RequireForm
