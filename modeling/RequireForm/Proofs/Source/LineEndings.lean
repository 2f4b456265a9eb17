import RequireForm.Proofs.Source.Listing
import RequireForm.Proofs.Source.Splice

/-!
# Line endings — a carriage return in front of a line feed says nothing

    read (bare t)  =  the same find, with  bare rest  behind it

Where every carriage return has its line feed behind it, to write all lines with a line feed
alone is to leave the carriage returns out. Every reader takes a carriage return for a blank or
stops at it, and then it stops at the line feed behind it too.

  1. `Text.feedLines`, `Text.Paired`, `Text.bare`: texts, and their carriage returns left out.
  2. `bare_dropWhile`, `bare_run`: runs that take a carriage return in, and runs that stop at
     line ends.
  3. `Steady`: a reader that finds the same without the carriage returns. Readers put together
     of such readers, and the leaf readers.
  4. `Piece.bare`, `Piece.cut_bare`: so a source is cut at the same statements.
-/

namespace RequireForm

namespace Text

variable {p : Char → Bool} {c : Char} {t u w : Text}

/-! ## Texts without their carriage returns -/

/-- The text with each carriage return and line feed in a row replaced by the line feed. -/
def feedLines : Text → Text
  | [] => []
  | '\r' :: '\n' :: t => '\n' :: feedLines t
  | c :: t => c :: feedLines t

/-- Every carriage return has a line feed right behind it. -/
def Paired : Text → Prop
  | [] => True
  | c :: t => (c = '\r' → t.head? = some '\n') ∧ Paired t

/-- The text with its carriage returns left out. -/
def bare (t : Text) : Text := t.filter (· ≠ '\r')

instance : (t : Text) → Decidable (Paired t)
  | [] => isTrue trivial
  | c :: t =>
      have := instDecidablePaired t
      inferInstanceAs (Decidable ((c = '\r' → t.head? = some '\n') ∧ Paired t))

@[simp] theorem bare_nil : bare [] = [] := rfl

@[simp] theorem bare_append (t u : Text) : bare (t ++ u) = bare t ++ bare u :=
  List.filter_append t u

@[simp] theorem bare_return (t : Text) : bare ('\r' :: t) = bare t := rfl

theorem bare_cons (hc : c ≠ '\r') (t : Text) : bare (c :: t) = c :: bare t :=
  List.filter_cons_of_pos (decide_eq_true hc)

@[simp] theorem bare_feed (t : Text) : bare ('\n' :: t) = '\n' :: bare t := rfl

theorem not_mem_bare (t : Text) : '\r' ∉ bare t := fun hm =>
  absurd rfl (of_decide_eq_true (List.mem_filter.mp hm).2)

theorem bare_eq_self (h : '\r' ∉ t) : bare t = t :=
  List.filter_eq_self.mpr fun _ hc => decide_eq_true fun he => h (he ▸ hc)

theorem Paired.tail (h : Paired (c :: t)) : Paired t := h.2

theorem Paired.of_append (h : Paired (t ++ u)) : Paired u := by
  induction t with
  | nil => exact h
  | cons c t ih => exact ih h.tail

/-- Behind a carriage return stands its line feed. -/
theorem Paired.exists_feed (h : Paired ('\r' :: t)) : ∃ u, t = '\n' :: u := by
  have hhead := h.1 rfl
  cases t with
  | nil => exact nomatch hhead
  | cons c t =>
      obtain rfl : c = '\n' := Option.some.inj hhead
      exact ⟨t, rfl⟩

/-- The front of such a text is one too, unless it is cut off in front of a line feed. -/
theorem Paired.front (h : Paired (t ++ u)) (hu : Stops (· = '\n') u) : Paired t := by
  induction t with
  | nil => trivial
  | cons c t ih =>
      refine ⟨fun hc => ?_, ih h.tail⟩
      have hhead := h.1 hc
      cases t with
      | nil =>
          cases u with
          | nil => exact nomatch hhead
          | cons d u =>
              obtain rfl : d = '\n' := Option.some.inj hhead
              exact nomatch stops_cons.mp hu
      | cons d t => exact hhead

theorem paired_of_not_mem (h : '\r' ∉ t) (hu : Paired u) : Paired (t ++ u) := by
  induction t with
  | nil => exact hu
  | cons c t ih =>
      obtain ⟨hc, ht⟩ := not_or.mp (mt List.mem_cons.mpr h)
      exact ⟨fun he => absurd he.symm hc, ih ht⟩

/-- On a line that goes on there is no carriage return. -/
theorem Paired.not_mem_line (h : Paired (t ++ c :: u)) (ht : '\n' ∉ t) (hc : c ≠ '\n') :
    '\r' ∉ t := by
  intro hm
  have hfront : Paired t := h.front (stops_cons.mpr (decide_eq_false hc))
  obtain ⟨v, w, rfl⟩ := List.append_of_mem hm
  obtain ⟨x, rfl⟩ := hfront.of_append.exists_feed
  exact ht (by simp)

/-- What stands on one line of the bare text stands on one line of the text. -/
theorem Paired.exists_of_bare (h : Paired t) (hw : '\n' ∉ w) (ht : bare t = w ++ u) :
    ∃ v, t = w ++ v ∧ bare v = u := by
  induction w generalizing t with
  | nil => exact ⟨t, rfl, ht⟩
  | cons c w ih =>
      obtain ⟨hc, hline⟩ := not_or.mp (mt List.mem_cons.mpr hw)
      cases t with
      | nil => exact nomatch ht
      | cons d t =>
          by_cases hd : d = '\r'
          · subst hd
            obtain ⟨x, rfl⟩ := h.exists_feed
            exact absurd (List.cons.inj ht).1 hc
          · rw [bare_cons hd] at ht
            obtain ⟨rfl, htail⟩ := List.cons.inj ht
            obtain ⟨v, rfl, hv⟩ := ih h.tail hline htail
            exact ⟨v, rfl, hv⟩

/-- In a paired text, to write each line end as a line feed is to leave carriage returns out. -/
theorem feedLines_eq_bare (h : Paired t) : feedLines t = bare t := by
  fun_induction feedLines t with
  | case1 => rfl
  | case2 t ih => rw [ih h.tail.tail]; rfl
  | case3 c t hno ih =>
      have hc : c ≠ '\r' := by
        rintro rfl
        obtain ⟨u, rfl⟩ := h.exists_feed
        exact hno u rfl rfl
      rw [ih h.tail, bare_cons hc]

/-! ## Runs -/

/-- A run that takes carriage returns in is the same run without them. -/
theorem bare_dropWhile (hp : p '\r' = true) (t : Text) :
    (bare t).dropWhile p = bare (t.dropWhile p) := by
  induction t with
  | nil => rfl
  | cons c t ih =>
      by_cases hc : c = '\r'
      · subst hc
        rw [bare_return, List.dropWhile_cons_of_pos hp, ih]
      · rw [bare_cons hc]
        cases h : p c with
        | true => rw [List.dropWhile_cons_of_pos h, List.dropWhile_cons_of_pos h, ih]
        | false =>
            rw [List.dropWhile_cons_of_neg (by simp [h]), List.dropWhile_cons_of_neg (by simp [h]),
              bare_cons hc]

theorem bare_takeWhile (hp : p '\r' = true) (t : Text) :
    (bare t).takeWhile p = bare (t.takeWhile p) := by
  induction t with
  | nil => rfl
  | cons c t ih =>
      by_cases hc : c = '\r'
      · subst hc
        rw [bare_return, List.takeWhile_cons_of_pos hp, ih, bare_return]
      · rw [bare_cons hc]
        cases h : p c with
        | true => rw [List.takeWhile_cons_of_pos h, List.takeWhile_cons_of_pos h, ih, bare_cons hc]
        | false =>
            rw [List.takeWhile_cons_of_neg (by simp [h]), List.takeWhile_cons_of_neg (by simp [h])]
            rfl

/-- What stops at both characters of a line end stops there without the carriage return. -/
theorem stops_bare (hp : p '\r' = p '\n') (h : Paired t) : Stops p (bare t) ↔ Stops p t := by
  cases t with
  | nil => exact Iff.rfl
  | cons c t =>
      by_cases hc : c = '\r'
      · subst hc
        obtain ⟨u, rfl⟩ := h.exists_feed
        rw [bare_return, bare_feed, stops_cons, stops_cons, hp]
      · rw [bare_cons hc, stops_cons, stops_cons]

/-- A run that stops at line ends holds no carriage return, and what is behind it is bared. -/
theorem bare_run (hreturn : p '\r' = false) (hfeed : p '\n' = false) (h : Paired t) :
    (bare t).takeWhile p = t.takeWhile p ∧ (bare t).dropWhile p = bare (t.dropWhile p) := by
  obtain ⟨w, rest, rfl, hw, hr⟩ := exists_run p t
  have hself : bare w = w := bare_eq_self fun hm => by
    rw [hw _ hm] at hreturn
    exact Bool.noConfusion hreturn
  have hr' : Stops p (bare rest) := (stops_bare (hreturn.trans hfeed.symm) h.of_append).mpr hr
  rw [bare_append, hself]
  exact ⟨by rw [takeWhile_append_of_run hw hr', takeWhile_append_of_run hw hr],
    by rw [dropWhile_append_of_run hw hr', dropWhile_append_of_run hw hr]⟩

theorem cutAt_bare (hp : p '\r' = false) (t : Text) : cutAt p (bare t) = (cutAt p t).map bare := by
  induction t with
  | nil => rfl
  | cons c t ih =>
      obtain ⟨piece, pieces, hcut⟩ := List.exists_cons_of_ne_nil (cutAt_ne_nil p t)
      rw [hcut, List.map_cons] at ih
      by_cases hc : c = '\r'
      · subst hc
        rw [bare_return, ih, cutAt_cons_of_not hp hcut, List.map_cons, bare_return]
      · rw [bare_cons hc]
        cases h : p c with
        | true => rw [cutAt, if_pos h, cutAt, if_pos h, ih, hcut]; rfl
        | false =>
            rw [cutAt_cons_of_not h ih, cutAt_cons_of_not h hcut, List.map_cons, bare_cons hc]

theorem mem_cutAt_paired (hp : p '\n' = false) (h : Paired t) : ∀ u ∈ cutAt p t, Paired u := by
  induction t with
  | nil => simp [cutAt, Paired]
  | cons c t ih =>
      obtain ⟨piece, pieces, hcut⟩ := List.exists_cons_of_ne_nil (cutAt_ne_nil p t)
      have hall := ih h.tail
      cases hc : p c with
      | true =>
          rw [cutAt, if_pos hc]
          exact List.forall_mem_cons.mpr ⟨trivial, hall⟩
      | false =>
          rw [cutAt_cons_of_not hc hcut]
          rw [hcut] at hall
          obtain ⟨hpiece, hpieces⟩ := List.forall_mem_cons.mp hall
          refine List.forall_mem_cons.mpr ⟨⟨fun he => ?_, hpiece⟩, hpieces⟩
          -- the line feed is not cut off
          obtain ⟨u, rfl⟩ := (he ▸ h).exists_feed
          obtain ⟨piece', pieces', hcut'⟩ := List.exists_cons_of_ne_nil (cutAt_ne_nil p u)
          rw [cutAt_cons_of_not hp hcut'] at hcut
          obtain ⟨rfl, -⟩ := List.cons.inj hcut
          rfl

theorem blanks_bare : Blanks (bare t) ↔ Blanks t := by
  constructor
  · intro h c hc
    by_cases he : c = '\r'
    · subst he
      decide
    · exact h c (List.mem_filter.mpr ⟨hc, decide_eq_true he⟩)
  · exact fun h c hc => h c (List.mem_filter.mp hc).1

/-- The words of a text are parted by line ends of either kind. -/
theorem words_bare (h : Paired t) : words (bare t) = words t := by
  -- on the length, since blanks and a word are taken away at once
  induction hn : t.length using Nat.strong_induction_on generalizing t with
  | _ n ih =>
      cases hw : words t with
      | nil => exact words_eq_nil_iff.mpr (blanks_bare.mpr (words_eq_nil_iff.mp hw))
      | cons w ws =>
          obtain ⟨u, rest, rfl, hu, hne, hrun, hstop, rfl⟩ := words_eq_cons_iff.mp hw
          have hrest : Paired rest := h.of_append.of_append
          have hself : bare w = w := bare_eq_self fun hm => absurd (hrun _ hm) (by decide)
          have hpos := List.length_pos_iff.mpr hne
          have hlt : rest.length < n := by
            rw [← hn, List.length_append, List.length_append]
            omega
          rw [bare_append, bare_append, hself]
          exact words_eq_cons_iff.mpr ⟨bare u, bare rest, rfl, blanks_bare.mpr hu, hne, hrun,
            (stops_bare (by decide) hrest).mpr hstop, ih _ hlt hrest rfl⟩

/-- The first line of a paired text, but for a carriage return at its end. -/
theorem Paired.exists_line (h : Paired t) :
    ∃ u, '\r' ∉ u ∧ (firstLine t = u ∨ firstLine t = u ++ ['\r']) := by
  induction t with
  | nil => exact ⟨[], List.not_mem_nil, Or.inl rfl⟩
  | cons c t ih =>
      obtain ⟨u, hu, hline⟩ := ih h.tail
      by_cases hfeed : c = '\n'
      · subst hfeed
        exact ⟨[], List.not_mem_nil, Or.inl rfl⟩
      by_cases hc : c = '\r'
      · subst hc
        obtain ⟨v, rfl⟩ := h.exists_feed
        exact ⟨[], List.not_mem_nil, Or.inr rfl⟩
      · refine ⟨c :: u, mt List.mem_cons.mp (not_or.mpr ⟨Ne.symm hc, hu⟩), ?_⟩
        rw [firstLine_cons hfeed]
        exact hline.imp (congrArg (c :: ·)) (congrArg (c :: ·))

theorem trimEnd_firstLine_bare (h : Paired t) :
    trimEnd (firstLine (bare t)) = trimEnd (firstLine t) := by
  have hbare : firstLine (bare t) = bare (firstLine t) := bare_takeWhile (by decide) t
  obtain ⟨u, hu, hline | hline⟩ := h.exists_line
  · rw [hbare, hline, bare_eq_self hu]
  · have htrim : trimEnd (u ++ ['\r']) = trimEnd u := by
      rw [trimEnd, List.reverse_append]
      rfl
    rw [hbare, hline, bare_append, bare_eq_self hu, htrim]
    exact congrArg trimEnd (List.append_nil u)

theorem lineBreaks_bare (t : Text) : (bare t).lineBreaks = t.lineBreaks := by
  induction t with
  | nil => rfl
  | cons c t ih =>
      by_cases hc : c = '\r'
      · subst hc
        rw [bare_return, ih, lineBreaks_cons]
        simp
      · rw [bare_cons hc, lineBreaks_cons, lineBreaks_cons, ih]

end Text

open Text

/-! ## Readers -/

variable {α β : Type} {b : Bool} {c : Char} {s t w rest : Text}

/-- A reader that finds the same in a text without its carriage returns. -/
structure Steady (read : Text → Option (α × Text)) : Prop where
  bare : ∀ {t}, Paired t → read (bare t) = (read t).map fun (x, rest) => (x, bare rest)
  paired : ∀ {t x rest}, Paired t → read t = some (x, rest) → Paired rest

/-- A step over something at the front that takes the same off a text without its carriage
    returns. -/
structure SteadyStep (step : Text → Option Text) : Prop where
  bare : ∀ {t}, Paired t → step (bare t) = (step t).map bare
  paired : ∀ {t rest}, Paired t → step t = some rest → Paired rest

theorem skipSpaces_bare (t : Text) : skipSpaces (bare t) = bare (skipSpaces t) :=
  bare_dropWhile (by decide) t

theorem Text.Paired.skipSpaces (h : Paired t) : Paired (skipSpaces t) := by
  obtain ⟨w, -, hs⟩ := exists_spaces t
  exact (hs ▸ h).of_append

/-! ## Readers that are put together -/

namespace Steady

variable {read f g : Text → Option (α × Text)}

theorem nothing : Steady fun _ => (none : Option (α × Text)) :=
  ⟨fun _ => rfl, fun _ h => nomatch h⟩

theorem found (x : α) : Steady fun t => some (x, t) := by
  refine ⟨fun _ => rfl, fun ht h => ?_⟩
  obtain ⟨-, rfl⟩ := Prod.mk.inj (Option.some.inj h)
  exact ht

theorem congr (hf : Steady f) (h : ∀ t, read t = f t) : Steady read := by
  obtain rfl : read = f := funext h
  exact hf

theorem skip (hf : Steady f) : Steady fun t => f (skipSpaces t) :=
  ⟨fun ht => by rw [skipSpaces_bare, hf.bare ht.skipSpaces], fun ht h => hf.paired ht.skipSpaces h⟩

theorem map (hr : Steady read) (k : α → β) :
    Steady fun t => (read t).map fun (x, rest) => (k x, rest) := by
  refine ⟨fun ht => ?_, fun ht h => ?_⟩
  · simp only [hr.bare ht, Option.map_map]
    rfl
  · obtain ⟨⟨x, rest⟩, hx, he⟩ := Option.map_eq_some_iff.mp h
    obtain ⟨-, rfl⟩ := Prod.mk.inj he
    exact hr.paired ht hx

theorem bind (hr : Steady read) {k : α → Text → Option (β × Text)} (hk : ∀ x, Steady (k x)) :
    Steady fun t => (read t).bind fun (x, rest) => k x rest := by
  refine ⟨fun {t} ht => ?_, fun ht h => ?_⟩
  · simp only [hr.bare ht]
    cases hx : read t with
    | none => rfl
    | some x => exact (hk x.1).bare (hr.paired ht hx)
  · obtain ⟨⟨x, rest⟩, hx, hrest⟩ := Option.bind_eq_some_iff.mp h
    exact (hk x).paired (hr.paired ht hx) hrest

/-- What is found is the same, whatever becomes of the rest. -/
theorem map_fst (hr : Steady read) (h : Paired t) :
    (read (Text.bare t)).map (·.1) = (read t).map (·.1) := by
  rw [hr.bare h, Option.map_map]
  rfl

theorem ite {test : Text → Bool} (htest : ∀ {t}, Paired t → test (Text.bare t) = test t)
    (hf : Steady f) (hg : Steady g) : Steady fun t => if test t then f t else g t := by
  refine ⟨fun ht => ?_, fun ht h => ?_⟩
  · simp only [htest ht]
    split
    · exact hf.bare ht
    · exact hg.bare ht
  · split at h
    · exact hf.paired ht h
    · exact hg.paired ht h

/-- A reader in front of which a character is put. -/
theorem behind (hc : c ≠ '\r') (hr : Steady read) : Steady fun t => read (c :: t) := by
  have hpaired {t : Text} (ht : Paired t) : Paired (c :: t) := ⟨fun he => absurd he hc, ht⟩
  refine ⟨fun ht => ?_, fun ht h => hr.paired (hpaired ht) h⟩
  rw [← bare_cons hc]
  exact hr.bare (hpaired ht)

/-- A reader that is told by the first character how to go on. -/
theorem head (hc : isSpace c = false) (hf : Steady f) (hg : Steady g)
    (hcons : ∀ s, read (c :: s) = f s) (hother : ∀ t, (∀ s, t ≠ c :: s) → read t = g t) :
    Steady read := by
  have hreturn : c ≠ '\r' := fun he => absurd hc (by rw [he]; decide)
  have hline : '\n' ∉ [c] := fun hm =>
    absurd hc (by rw [← List.mem_singleton.mp hm]; decide)
  refine ⟨fun {t} ht => ?_, fun {t _ _} ht h => ?_⟩
  · by_cases hs : ∃ s, Text.bare t = c :: s
    · obtain ⟨s, hs⟩ := hs
      obtain ⟨v, rfl, rfl⟩ := ht.exists_of_bare (w := [c]) hline hs
      show read (Text.bare (c :: v)) = (read (c :: v)).map _
      rw [bare_cons hreturn, hcons, hcons]
      exact hf.bare ht.tail
    · have hno : ∀ s, t ≠ c :: s := by
        rintro s rfl
        exact hs ⟨_, bare_cons hreturn s⟩
      rw [hother _ fun s h => hs ⟨s, h⟩, hother _ hno]
      exact hg.bare ht
  · by_cases hs : ∃ s, t = c :: s
    · obtain ⟨s, rfl⟩ := hs
      exact hf.paired ht.tail (hcons s ▸ h)
    · exact hg.paired ht (hother t (fun s hs' => hs ⟨s, hs'⟩) ▸ h)

end Steady

namespace SteadyStep

variable {step : Text → Option Text} {f g : Text → Option (α × Text)}

theorem bind (hs : SteadyStep step) (hf : Steady f) : Steady fun t => (step t).bind f := by
  refine ⟨fun {t} ht => ?_, fun ht h => ?_⟩
  · simp only [hs.bare ht]
    cases hx : step t with
    | none => rfl
    | some rest => exact hf.bare (hs.paired ht hx)
  · obtain ⟨rest, hx, hrest⟩ := Option.bind_eq_some_iff.mp h
    exact hf.paired (hs.paired ht hx) hrest

theorem skip (hs : SteadyStep step) : SteadyStep fun t => step (skipSpaces t) :=
  ⟨fun ht => by rw [skipSpaces_bare, hs.bare ht.skipSpaces], fun ht h => hs.paired ht.skipSpaces h⟩

/-- What is found behind a step, if only that counts. -/
theorem bind_value (hs : SteadyStep step) {value : Text → Option β}
    (hv : ∀ {t}, Paired t → value (Text.bare t) = value t) (h : Paired t) :
    (step (Text.bare t)).bind value = (step t).bind value := by
  rw [hs.bare h]
  cases hx : step t with
  | none => rfl
  | some rest => exact hv (hs.paired h hx)

/-- A reader that goes on behind a step if there is one, and otherwise without it. -/
theorem orElse (hs : SteadyStep step) (hf : Steady f) (hg : Steady g) :
    Steady fun t => match step t with
      | none => f t
      | some rest => g rest := by
  refine ⟨fun {t} ht => ?_, fun {t _ _} ht h => ?_⟩
  · simp only [hs.bare ht]
    cases hx : step t with
    | none => exact hf.bare ht
    | some rest => exact hg.bare (hs.paired ht hx)
  · cases hx : step t with
    | none => exact hf.paired ht (by simpa only [hx] using h)
    | some rest => exact hg.paired (hs.paired ht hx) (by simpa only [hx] using h)

end SteadyStep

/-! ## Leaf readers -/

theorem steadyStep_spaces : SteadyStep spaces? := by
  refine ⟨fun {t} h => ?_, fun {t rest} h hs => ?_⟩
  · cases t with
    | nil => rfl
    | cons c t =>
        by_cases hc : c = '\r'
        · subst hc
          obtain ⟨u, rfl⟩ := h.exists_feed
          exact congrArg some (skipSpaces_bare u)
        · rw [bare_cons hc, spaces?, spaces?]
          split
          · exact congrArg some (skipSpaces_bare t)
          · rfl
  · obtain ⟨w, -, -, -, rfl⟩ := spaces?_eq_some_iff.mp hs
    exact h.of_append

/-- Step over spaces and a sign. -/
def past? (sign : Char) (t : Text) : Option Text :=
  match skipSpaces t with
  | [] => none
  | c :: rest => if c = sign then some rest else none

theorem steadyStep_past (sign : Char) : SteadyStep (past? sign) := by
  refine ⟨fun {t} h => ?_, fun {t rest} h hs => ?_⟩
  · have hskip := h.skipSpaces
    rw [past?, past?, skipSpaces_bare]
    cases hs : skipSpaces t with
    | nil => rfl
    | cons d rest =>
        -- what stands behind spaces is no carriage return
        have hd : d ≠ '\r' := by
          rintro rfl
          have hstop := stops_skipSpaces t
          rw [hs] at hstop
          exact absurd (stops_cons.mp hstop) (by decide)
        rw [bare_cons hd]
        show (if d = sign then _ else _) = Option.map bare (if d = sign then _ else _)
        split
        · rfl
        · rfl
  · have hskip := h.skipSpaces
    rw [past?] at hs
    split at hs
    · cases hs
    · next hcons =>
        split at hs
        · obtain rfl := Option.some.inj hs
          rw [hcons] at hskip
          exact hskip.tail
        · cases hs

theorem nameEnds_bare (h : Paired t) : nameEnds (bare t) = nameEnds t := by
  rw [Bool.eq_iff_iff, nameEnds_iff, nameEnds_iff]
  exact stops_bare (by decide) h

theorem after?_bare (hw : Run (!isSpace ·) w) (h : Paired t) :
    after? w (bare t) = (after? w t).map bare := by
  induction w generalizing t with
  | nil => rfl
  | cons b w ih =>
      obtain ⟨hb, hw⟩ := run_cons.mp hw
      cases t with
      | nil => rfl
      | cons c t =>
          by_cases hc : c = '\r'
          · -- neither character of a line end goes on with the word
            subst hc
            obtain ⟨u, rfl⟩ := h.exists_feed
            have hfeed : b ≠ '\n' := fun he => absurd hb (by rw [he]; decide)
            have hreturn : b ≠ '\r' := fun he => absurd hb (by rw [he]; decide)
            rw [bare_return, bare_feed, after?, if_neg hfeed, after?, if_neg hreturn]
            rfl
          · rw [bare_cons hc, after?, after?]
            split
            · exact ih hw h.tail
            · rfl

theorem steadyStep_word (hw : Run (!isSpace ·) w) : SteadyStep (word? w) := by
  refine ⟨fun {t} h => ?_, fun h hs => ((word?_eq_some_iff.mp hs).1 ▸ h).of_append⟩
  rw [word?, word?, after?_bare hw h]
  cases hafter : after? w t with
  | none => rfl
  | some rest =>
      have hrest : Paired rest := (after?_eq_some_iff.mp hafter ▸ h).of_append
      show (if nameEnds (bare rest) = true then _ else _) = Option.map bare (if _ then _ else _)
      rw [nameEnds_bare hrest]
      split
      · rfl
      · rfl

theorem steady_name : Steady name? := by
  refine ⟨fun {t} h => ?_, fun h hs => ((name?_eq_some_iff.mp hs).1 ▸ h).of_append⟩
  obtain ⟨htake, hdrop⟩ := bare_run (p := isNameChar) (by decide) (by decide) h
  rw [name?, name?, htake, hdrop]
  split
  · rfl
  · rfl

theorem statementEnds_bare (h : Paired t) : statementEnds (bare t) = statementEnds t := by
  obtain ⟨-, hdrop⟩ := bare_run (p := isInlineSpace) (by decide) (by decide) h
  have hrest : Paired (t.dropWhile isInlineSpace) := by
    rw [← List.takeWhile_append_dropWhile (p := isInlineSpace) (l := t)] at h
    exact h.of_append
  rw [statementEnds, statementEnds, hdrop]
  cases hcons : t.dropWhile isInlineSpace with
  | nil => rfl
  | cons c u =>
      rw [hcons] at hrest
      by_cases hc : c = '\r'
      · subst hc
        obtain ⟨v, rfl⟩ := hrest.exists_feed
        rfl
      · rw [bare_cons hc]
        by_cases hslash : c = '/'
        · subst hslash
          cases u with
          | nil => rfl
          | cons d u =>
              by_cases hd : d = '\r'
              · subst hd
                obtain ⟨v, rfl⟩ := hrest.tail.exists_feed
                rfl
              · rw [bare_cons hd]
                by_cases hdslash : d = '/'
                · subst hdslash
                  rfl
                · simp [hdslash]
        · by_cases hsemi : c = ';'
          · subst hsemi
            rfl
          · by_cases hfeed : c = '\n'
            · subst hfeed
              rfl
            · simp [hc, hslash, hsemi, hfeed]

theorem steady_path : Steady PathLiteral.read? := by
  refine ⟨fun {t} h => ?_, fun h hs => ((PathLiteral.read?_eq_some_iff.mp hs).2 ▸ h).of_append⟩
  cases hread : PathLiteral.read? t with
  | some found =>
      obtain ⟨p, rest⟩ := found
      obtain ⟨hp, rfl⟩ := PathLiteral.read?_eq_some_iff.mp hread
      have hquote : p.quote ≠ '\n' := fun he => absurd hp.quote (by rw [he]; decide)
      have hreturn : '\r' ∉ p.written := by
        have hvalue : Paired (p.value ++ p.quote :: rest) := by
          have htail : Paired (p.value ++ [p.quote] ++ rest) := h.tail
          rwa [List.append_assoc] at htail
        have hopen : '\r' ≠ p.quote := fun he => absurd hp.quote (by rw [← he]; decide)
        have hin := hvalue.not_mem_line hp.not_mem_value hquote
        simp [PathLiteral.written, PathLiteral.quoting, hopen, hin]
      rw [bare_append, bare_eq_self hreturn, PathLiteral.read?_written hp]
      rfl
  | none =>
      rw [Option.map_none, Option.eq_none_iff_forall_ne_some]
      rintro ⟨p, rest⟩ hbare
      obtain ⟨hp, hs⟩ := PathLiteral.read?_eq_some_iff.mp hbare
      -- the literal would stand in the text too
      obtain ⟨v, rfl, -⟩ := h.exists_of_bare hp.not_mem_written hs
      rw [PathLiteral.read?_written hp] at hread
      cases hread

theorem ofPieces?_bare {pieces : List Text} (h : ∀ u ∈ pieces, Paired u) :
    Specifier.ofPieces? (pieces.map bare) = Specifier.ofPieces? pieces := by
  induction pieces with
  | nil => rfl
  | cons u pieces ih =>
      obtain ⟨hu, hpieces⟩ := List.forall_mem_cons.mp h
      rw [List.map_cons]
      by_cases hb : Blanks u
      · rw [Specifier.ofPieces?_cons_blank hb, Specifier.ofPieces?_cons_blank (blanks_bare.mpr hb),
          ih hpieces]
      · rw [Specifier.ofPieces?_cons hb, Specifier.ofPieces?_cons (mt blanks_bare.mp hb),
          words_bare hu, ih hpieces]

theorem listOfBody?_bare (h : Paired t) :
    Specifier.listOfBody? (bare t) = Specifier.listOfBody? t := by
  rw [Specifier.listOfBody?_eq, Specifier.listOfBody?_eq, cutAt_bare (by decide)]
  exact ofPieces?_bare (mem_cutAt_paired (by decide) h)

theorem steady_list : Steady Specifier.list? := by
  refine ⟨fun {t} h => ?_, fun {t items rest} h hs => ?_⟩
  case refine_2 =>
    obtain ⟨b, -, -, rfl⟩ := Specifier.list?_eq_some_iff.mp hs
    exact h.of_append
  cases t with
  | nil => rfl
  | cons c t =>
      by_cases hc : c = '\x7b'
      · subst hc
        have hin : (!Specifier.endsBody '\r') = true := by decide
        have hsplit := List.takeWhile_append_dropWhile (p := (!Specifier.endsBody ·)) (l := t)
        have hpaired := h.tail
        rw [← hsplit] at hpaired
        rw [bare_cons (by decide), Specifier.list?, Specifier.list?, bare_takeWhile hin,
          bare_dropWhile hin]
        generalize t.takeWhile (!Specifier.endsBody ·) = body at hpaired
        generalize t.dropWhile (!Specifier.endsBody ·) = rest at hpaired
        cases rest with
        | nil => rfl
        | cons d rest =>
            by_cases hd : d = '\x7d'
            · subst hd
              have hbody : Paired body := hpaired.front (stops_cons.mpr (by decide))
              rw [bare_cons (by decide)]
              show (Specifier.listOfBody? (bare body)).map _
                = ((Specifier.listOfBody? body).map _).map _
              rw [listOfBody?_bare hbody, Option.map_map]
              rfl
            · -- the list is spoilt by another brace or by a `;`
              by_cases hd' : d = '\r'
              · subst hd'
                obtain ⟨u, rfl⟩ := hpaired.of_append.exists_feed
                rfl
              · rw [bare_cons hd']
                simp [hd]
      · by_cases hc' : c = '\r'
        · subst hc'
          obtain ⟨u, rfl⟩ := h.exists_feed
          rfl
        · rw [bare_cons hc']
          simp [Specifier.list?, hc]

/-! ## The cut -/

namespace Piece

variable {read : Text → Option (α × Text)} {ps : List (Piece α)}

/-- A piece without its carriage returns: nothing, if it is one. -/
def bare? : Piece α → Option (Piece α)
  | .kept c => if c = '\r' then none else some (.kept c)
  | .statement w x => some (.statement (Text.bare w) x)

/-- Pieces without their carriage returns. -/
def bare (ps : List (Piece α)) : List (Piece α) := ps.filterMap bare?

@[simp] theorem bare_nil : bare ([] : List (Piece α)) = [] := rfl

@[simp] theorem bare_return : bare (.kept '\r' :: ps) = bare ps := rfl

theorem bare_kept {c : Char} (hc : c ≠ '\r') : bare (.kept c :: ps) = .kept c :: bare ps :=
  List.filterMap_cons_some (if_neg hc)

@[simp] theorem bare_statement (w : Text) (x : α) :
    bare (.statement w x :: ps) = .statement (Text.bare w) x :: bare ps := rfl

theorem statements_bare (ps : List (Piece α)) : statements (bare ps) = statements ps := by
  induction ps with
  | nil => rfl
  | cons piece ps ih =>
      cases piece with
      | kept c =>
          by_cases hc : c = '\r'
          · subst hc
            exact ih
          · rw [bare_kept hc]
            exact ih
      | statement w x => exact congrArg (x :: ·) ih

/-- Whether a line starts in front of a line feed does not matter if nothing is read there. -/
theorem cut_feed_eq (hfeed : ∀ t, read ('\n' :: t) = none) (b b' : Bool) (t : Text) :
    cut read b 0 ('\n' :: t) = cut read b' 0 ('\n' :: t) := by
  rw [cut_kept_char fun _ => hfeed t, cut_kept_char fun _ => hfeed t]

theorem endsLine_bare (hne : w ≠ []) :
    (endsLine b (Text.bare w) = endsLine b w) ∨ ∃ v, w = v ++ ['\r'] := by
  obtain ⟨v, c, rfl⟩ := (List.eq_nil_or_concat w).resolve_left hne
  rw [List.concat_eq_append]
  by_cases hc : c = '\r'
  · exact Or.inr ⟨v, by rw [hc]⟩
  · refine Or.inl ?_
    rw [Text.bare_append, Text.bare_cons hc, endsLine_append, endsLine_append]
    rfl

/-- Without its carriage returns a source is cut at the same statements. -/
theorem cut_bare (hread : Steady read) (hcons : Consumes read)
    (hfeed : ∀ t, read ('\n' :: t) = none) (h : Cuts read b s ps) (hs : Paired s) :
    cut read b 0 (Text.bare s) = bare ps := by
  induction h with
  | done => rfl
  | @kept b c rest ps hno _ ih =>
      have ih := ih hs.tail
      by_cases hc : c = '\r'
      · -- what is left of the line end is its line feed
        subst hc
        obtain ⟨u, rfl⟩ := hs.exists_feed
        rw [bare_return, ← ih, Text.bare_return, Text.bare_feed]
        exact cut_feed_eq hfeed _ _ _
      · have hno' : b = true → read (c :: Text.bare rest) = none := fun hb => by
          rw [← Text.bare_cons hc, hread.bare hs, hno hb]
          rfl
        rw [Text.bare_cons hc, cut_kept_char hno', ih, bare_kept hc]
  | @statement w rest x ps hne hw _ ih =>
      have hrest : Paired rest := hs.of_append
      have hw' : read (Text.bare w ++ Text.bare rest) = some (x, Text.bare rest) := by
        rw [← Text.bare_append, hread.bare hs, hw]
        rfl
      have hne' : Text.bare w ≠ [] := by
        obtain ⟨w', hne', hs'⟩ := hcons hw'
        rwa [List.append_cancel_right hs']
      rw [Text.bare_append, cut_statement hne' hw', bare_statement, ← ih hrest]
      rcases endsLine_bare (b := true) hne with hends | ⟨v, rfl⟩
      · rw [hends]
      · -- a statement that ends with a carriage return has the line feed behind it
        rw [List.append_assoc] at hs
        obtain ⟨u, hu⟩ := hs.of_append.exists_feed
        obtain rfl : rest = '\n' :: u := hu
        exact congrArg _ (cut_feed_eq hfeed _ _ _)

/-- The statements of pieces are on the same lines without the carriage returns. -/
theorem located_bare (ps : List (Piece α)) (offset offset' line : Nat) :
    (locateFrom offset line (bare ps)).map (fun f => (f.what, f.line))
      = (locateFrom offset' line ps).map fun f => (f.what, f.line) := by
  induction ps generalizing offset offset' line with
  | nil => rfl
  | cons piece ps ih =>
      cases piece with
      | kept c =>
          by_cases hc : c = '\r'
          · subst hc
            exact ih _ _ _
          · rw [bare_kept hc]
            exact ih _ _ _
      | statement w x =>
          rw [bare_statement]
          simp only [locateFrom, List.map_cons, Text.lineBreaks_bare]
          exact congrArg _ (ih _ _ _)

/-- What comes out of the bared pieces is what comes out of the pieces, bared: the new texts
    hold no carriage return. -/
theorem result_bare {es : List (Piece Text)} (h : ∀ new ∈ statements es, '\r' ∉ new) :
    result (bare es) = Text.bare (result es) := by
  induction es with
  | nil => rfl
  | cons piece es ih =>
      cases piece with
      | kept c =>
          by_cases hc : c = '\r'
          · subst hc
            exact ih h
          · rw [bare_kept hc, result, result, Text.bare_cons hc, ih h]
      | statement w new =>
          obtain ⟨hnew, hrest⟩ := List.forall_mem_cons.mp h
          rw [bare_statement, result, result, Text.bare_append, Text.bare_eq_self hnew, ih hrest]

end Piece

end RequireForm
