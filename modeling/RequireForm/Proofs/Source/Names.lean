import RequireForm.Proofs.Source.Reading

/-!
# Names that stand in a text, and names that it declares

    const $a = b.$c ;      `$a` is declared; `$c` stands behind a dot, as the name of a member

A name stands where its run of name characters starts and ends. Both are looked for from the left,
in one pass over a text, with what has to be known of the text in front: whether a name may start
here. So the texts that a text is put together from are looked through one after the other.

  1. `StandsIn`, `Absent`: a name stands in a text; it stands nowhere but behind a dot.
  2. `declared`: the names behind the words that declare.
  3. `declaredFrom_barrier`: a declaration does not reach over a mark.
  4. `Absent.not_mem_declaredFrom`: a name that is absent is not declared.
-/

namespace RequireForm

open Text

variable {name k s t u v x gap : Text} {c : Char} {free inside : Bool}

/-! ## Where a name stands -/

/-- A name stands in a text, with no further name character on either side. -/
def StandsIn (name source : Text) : Prop :=
  ∃ before after : Text, source = before ++ (name ++ after) ∧ Specifier.isName name = true ∧
    Stops isNameChar before.reverse ∧ Stops isNameChar after

/-- Behind the character a name may start that is not the name of a member. -/
def opensName (c : Char) : Bool := !isNameChar c && c ≠ '.'

/-- Such a name may start behind a text, if `free` tells whether one may start at its front. -/
def opensBehind (free : Bool) : Text → Bool
  | [] => free
  | c :: t => opensBehind (opensName c) t

/-- The name stands nowhere in a text but behind a dot. -/
def Absent (name : Text) : Bool → Text → Prop
  | _, [] => True
  | free, c :: t =>
      (free = true → (c :: t).takeWhile isNameChar ≠ name) ∧ Absent name (opensName c) t

theorem ne_nil_of_head (h : name.head? = some c) : name ≠ [] := by
  rintro rfl
  exact nomatch h

theorem opensBehind_append : opensBehind free (u ++ t) = opensBehind (opensBehind free u) t := by
  induction u generalizing free with
  | nil => rfl
  | cons c u ih => exact ih

/-- Characters behind which a name may start keep one ready to start. -/
theorem opensBehind_run (hu : Run opensName u) : opensBehind true u = true := by
  induction u with
  | nil => rfl
  | cons c u ih =>
      obtain ⟨hc, hu⟩ := run_cons.mp hu
      rw [opensBehind, hc]
      exact ih hu

/-- Behind such characters, of which there is one, a name may start whatever stands in front. -/
theorem opensBehind_of_ne_nil (hne : u ≠ []) (hu : Run opensName u) :
    opensBehind free u = true := by
  obtain ⟨c, u, rfl⟩ := List.exists_cons_of_ne_nil hne
  obtain ⟨hc, hu⟩ := run_cons.mp hu
  rw [opensBehind, hc]
  exact opensBehind_run hu

theorem opensName_of_isBlank (h : isBlank c = true) : opensName c = true := by
  have hdot : c ≠ '.' := by
    rintro rfl
    exact absurd h (by decide)
  rw [opensName, not_isNameChar_of_isBlank h]
  exact decide_eq_true hdot

/-- A name has ended where blanks stand up to the end of the text. -/
theorem nameEnds_blanks (h : Blanks u) : nameEnds u = true := by
  cases u with
  | nil => rfl
  | cons c u =>
      exact nameEnds_iff.mpr (stops_cons.mpr (not_isNameChar_of_isBlank (run_cons.mp h).1))

theorem run_opensName_of_blanks (h : Blanks u) : Run opensName u :=
  run_mono (fun _ => opensName_of_isBlank) h

theorem run_opensName_of_spaces (h : Spaces u) : Run opensName u :=
  run_mono (fun _ hc => opensName_of_isBlank (isBlank_of_isSpace hc)) h

/-- The run of name characters does not reach over a mark. -/
theorem takeWhile_append_mark (hc : isNameChar c = false) :
    (t ++ c :: x).takeWhile isNameChar = t.takeWhile isNameChar := by
  induction t with
  | nil => rw [List.nil_append, List.takeWhile_cons, hc]; rfl
  | cons d t ih => rw [List.cons_append, List.takeWhile_cons, List.takeWhile_cons, ih]

namespace Absent

theorem mono (h : Absent name true t) : Absent name free t := by
  cases t with
  | nil => exact trivial
  | cons c t => exact ⟨fun _ => h.1 rfl, h.2⟩

/-- What is absent from a text is absent from its end. -/
theorem behind (h : Absent name free (u ++ t)) : Absent name (opensBehind free u) t := by
  induction u generalizing free with
  | nil => exact h
  | cons c u ih => exact ih h.2

/-- At a mark a text is parted into two. -/
theorem append_mark_iff (hc : isNameChar c = false) (hname : name ≠ []) :
    Absent name free (t ++ c :: x) ↔ Absent name free t ∧ Absent name (opensName c) x := by
  induction t generalizing free with
  | nil =>
      have hrun : (c :: x).takeWhile isNameChar = [] := by rw [List.takeWhile_cons, hc]; rfl
      exact ⟨fun h => ⟨trivial, h.2⟩, fun h => ⟨fun _ he => hname (he.symm.trans hrun), h.2⟩⟩
  | cons d t ih =>
      have hrun := takeWhile_append_mark (t := d :: t) (x := x) hc
      rw [List.cons_append] at hrun
      rw [List.cons_append, Absent, Absent, hrun, ih, and_assoc]

/-- A name that starts where a name may start, and is not the absent one. -/
theorem ne_of_front (h : Absent name true (k ++ x)) (hk : Specifier.isName k = true)
    (hx : nameEnds x = true) : k ≠ name := by
  obtain ⟨hne, hrun⟩ := isName_iff.mp hk
  obtain ⟨c, k, rfl⟩ := List.exists_cons_of_ne_nil hne
  intro he
  exact h.1 rfl ((takeWhile_append_of_run hrun (nameEnds_iff.mp hx)).trans he)

/-- A run of name characters in which no name may start. -/
theorem member (hk : Run isNameChar k) (hx : Absent name false x) :
    Absent name false (k ++ x) := by
  induction k with
  | nil => exact hx
  | cons c k ih =>
      obtain ⟨hc, hk⟩ := run_cons.mp hk
      refine ⟨fun h => (nomatch h), ?_⟩
      rw [opensName, hc]
      exact ih hk

/-- Another name. -/
theorem other (hk : Specifier.isName k = true) (hne : k ≠ name) (hx : nameEnds x = true)
    (h : Absent name false x) : Absent name free (k ++ x) := by
  obtain ⟨hk', hrun⟩ := isName_iff.mp hk
  obtain ⟨c, k, rfl⟩ := List.exists_cons_of_ne_nil hk'
  obtain ⟨hc, htail⟩ := run_cons.mp hrun
  have htake := takeWhile_append_of_run hrun (nameEnds_iff.mp hx)
  refine ⟨fun _ he => hne (htake.symm.trans he), ?_⟩
  rw [opensName, hc]
  exact member htail h

/-- A text without the first character of the name. -/
theorem of_not_mem (hname : name.head? = some c) (hc : c ∉ t)
    (h : Absent name (opensBehind free t) x) : Absent name free (t ++ x) := by
  induction t generalizing free with
  | nil => exact h
  | cons d t ih =>
      obtain ⟨hd, ht⟩ := not_or.mp (mt List.mem_cons.mpr hc)
      refine ⟨fun _ he => ?_, ih ht h⟩
      have hrun : (d :: (t ++ x)).takeWhile isNameChar = name := he
      rw [← hrun, List.takeWhile_cons] at hname
      cases hchar : isNameChar d with
      | false =>
          rw [hchar] at hname
          exact nomatch hname
      | true =>
          rw [hchar] at hname
          exact hd (Option.some.inj hname).symm

end Absent

/-- A name that does not stand in a source is absent from it. -/
theorem absent_of_not_standsIn (hname : name ≠ []) (h : ¬ StandsIn name s) :
    Absent name true s := by
  -- the text in front ends with a name character just where no name may start
  have hfrom : ∀ u t, s = u ++ t → ∀ free, (free = true → Stops isNameChar u.reverse) →
      Absent name free t := by
    intro u t
    induction t generalizing u with
    | nil => exact fun _ _ _ => trivial
    | cons c t ih =>
        intro hs free hfree
        refine ⟨fun hf he => ?_, ih (u ++ [c]) ?_ _ fun ho => ?_⟩
        · have hrun : Run isNameChar name := he ▸ run_takeWhile _ _
          refine h ⟨u, (c :: t).dropWhile isNameChar, ?_, isName_iff.mpr ⟨hname, hrun⟩, hfree hf,
            stops_dropWhile _ _⟩
          rw [hs, ← he, List.takeWhile_append_dropWhile]
        · rw [hs, List.append_assoc]
          rfl
        · rw [opensName, Bool.and_eq_true, Bool.not_eq_true'] at ho
          rw [List.reverse_append]
          exact ho.1
  exact hfrom [] s rfl true fun _ => trivial

/-! ## What a text declares -/

/-- The words in front of a declared name. -/
def declaringWords : List Text := ["const", "let", "var", "function", "class"].map (·.toList)

/-- The name that is declared by the word at the front of a text. -/
def declaration? (s : Text) : Option Text :=
  (name? s).bind fun word =>
    if word.1 ∈ declaringWords then (spaces? word.2).bind fun t => (name? t).map (·.1) else none

/-- The names that a text declares, if `inside` tells whether a name character stands in front. -/
def declaredFrom (inside : Bool) : Text → List Text
  | [] => []
  | c :: t =>
      (if inside then [] else (declaration? (c :: t)).toList) ++ declaredFrom (isNameChar c) t

/-- The names that a text declares, each as often as it does. -/
def declared (t : Text) : List Text := declaredFrom false t

/-- A text ends with a name character, if `inside` tells whether one stands in front. -/
def endsInside (inside : Bool) : Text → Bool
  | [] => inside
  | c :: t => endsInside (isNameChar c) t

theorem endsInside_append :
    endsInside inside (u ++ t) = endsInside (endsInside inside u) t := by
  induction u generalizing inside with
  | nil => rfl
  | cons c u ih => exact ih

theorem isName_of_mem_declaringWords (h : k ∈ declaringWords) : Specifier.isName k = true := by
  have hall : ∀ k ∈ declaringWords, Specifier.isName k = true := by decide
  exact hall k h

theorem declaration?_eq_some_iff :
    declaration? s = some name ↔
      ∃ word gap rest, s = word ++ (gap ++ (name ++ rest)) ∧ word ∈ declaringWords ∧ gap ≠ [] ∧
        Spaces gap ∧ Specifier.isName name = true ∧ nameEnds rest = true := by
  constructor
  · intro h
    obtain ⟨⟨word, t⟩, hword, h⟩ := Option.bind_eq_some_iff.mp h
    simp only at h
    split at h
    · next hmem =>
        obtain ⟨t', ht, h⟩ := Option.bind_eq_some_iff.mp h
        obtain ⟨⟨name', rest⟩, hname, rfl⟩ := Option.map_eq_some_iff.mp h
        obtain ⟨gap, hne, hgap, -, rfl⟩ := spaces?_eq_some_iff.mp ht
        obtain ⟨rfl, hn, hrest⟩ := name?_eq_some_iff.mp hname
        exact ⟨word, gap, rest, (name?_eq_some_iff.mp hword).1, hmem, hne, hgap, hn, hrest⟩
    · exact nomatch h
  · rintro ⟨word, gap, rest, rfl, hmem, hne, hgap, hn, hrest⟩
    have hword := name?_append (isName_of_mem_declaringWords hmem)
      (nameEnds_gap_append (s := name ++ rest) hne hgap)
    have hspaces : spaces? (gap ++ (name ++ rest)) = some (name ++ rest) :=
      spaces?_eq_some_iff.mpr ⟨gap, hne, hgap, stops_isSpace_name hn, rfl⟩
    rw [declaration?, hword, Option.bind_some, if_pos hmem, hspaces, Option.bind_some,
      name?_append hn hrest]
    rfl

/-- A declaration does not reach over a mark. -/
theorem declaration?_append_mark (hname : isNameChar c = false) (hspace : isSpace c = false) :
    declaration? (t ++ c :: x) = declaration? t := by
  refine Option.ext fun k => ?_
  rw [declaration?_eq_some_iff, declaration?_eq_some_iff]
  constructor
  · rintro ⟨word, gap, rest, hs, hmem, hne, hgap, hn, hrest⟩
    have hmark : c ∉ word ++ (gap ++ k) := by
      simp only [List.mem_append, not_or]
      refine ⟨fun hc => ?_, fun hc => ?_, fun hc => ?_⟩
      · have := (isName_iff.mp (isName_of_mem_declaringWords hmem)).2 c hc
        rw [hname] at this
        exact nomatch this
      · rw [hgap c hc] at hspace
        exact nomatch hspace
      · have := (isName_iff.mp hn).2 c hc
        rw [hname] at this
        exact nomatch this
    have hassoc : word ++ (gap ++ (k ++ rest)) = word ++ (gap ++ k) ++ rest := by
      simp only [List.append_assoc]
    obtain ⟨v, rfl, rfl⟩ := split_fence hmark (hs.trans hassoc)
    refine ⟨word, gap, v, by simp only [List.append_assoc], hmem, hne, hgap, hn, ?_⟩
    cases v with
    | nil => rfl
    | cons d v => exact hrest
  · rintro ⟨word, gap, rest, rfl, hmem, hne, hgap, hn, hrest⟩
    refine ⟨word, gap, rest ++ c :: x, by simp only [List.append_assoc], hmem, hne, hgap, hn, ?_⟩
    cases rest with
    | nil => exact nameEnds_iff.mpr (stops_cons.mpr hname)
    | cons d rest => exact hrest

/-- No declaration starts with a mark. -/
theorem declaration?_mark (hc : isNameChar c = false) : declaration? (c :: t) = none := by
  have hends : nameEnds (c :: t) = true := nameEnds_iff.mpr (stops_cons.mpr hc)
  rw [declaration?, name?_eq_none_iff.mpr hends]
  rfl

theorem declaredFrom_mark (hc : isNameChar c = false) :
    declaredFrom inside (c :: t) = declaredFrom false t := by
  rw [declaredFrom, declaration?_mark hc, hc]
  cases inside with
  | false => rfl
  | true => rfl

/-- Inside of a word, nothing is declared. -/
theorem declaredFrom_inside (hk : Run isNameChar k) :
    declaredFrom true (k ++ t) = declaredFrom true t := by
  induction k with
  | nil => rfl
  | cons c k ih =>
      obtain ⟨hc, hk⟩ := run_cons.mp hk
      rw [List.cons_append, declaredFrom, hc, if_pos rfl, ih hk]
      rfl

theorem declaredFrom_word (hk : Specifier.isName k = true) :
    declaredFrom false (k ++ t) = (declaration? (k ++ t)).toList ++ declaredFrom true t := by
  obtain ⟨hne, hrun⟩ := isName_iff.mp hk
  obtain ⟨c, k, rfl⟩ := List.exists_cons_of_ne_nil hne
  obtain ⟨hc, hk⟩ := run_cons.mp hrun
  rw [List.cons_append, declaredFrom, hc, declaredFrom_inside hk]
  rfl

/-- A word alone declares nothing, nor with spaces behind it. -/
theorem declaration?_run (hk : Run isNameChar k) (hgap : Spaces gap) :
    declaration? (k ++ gap) = none := by
  refine Option.eq_none_iff_forall_ne_some.mpr fun own hown => ?_
  obtain ⟨word, gap', rest, hs, hmem, hne, hgap', hn, -⟩ := declaration?_eq_some_iff.mp hown
  have hends : nameEnds gap = true :=
    nameEnds_blanks (run_mono (fun _ => isBlank_of_isSpace) hgap)
  obtain ⟨-, rfl⟩ := run_append_unique hk (nameEnds_iff.mp hends)
    (isName_iff.mp (isName_of_mem_declaringWords hmem)).2
    (nameEnds_iff.mp (nameEnds_gap_append hne hgap')) hs
  -- the spaces would hold a name
  have hspaces : Spaces (own ++ rest) := (run_append.mp hgap).2
  obtain ⟨hne, hrun⟩ := isName_iff.mp hn
  obtain ⟨c, own, rfl⟩ := List.exists_cons_of_ne_nil hne
  have hc := not_isNameChar_of_isSpace (run_cons.mp hspaces).1
  rw [(run_cons.mp hrun).1] at hc
  exact nomatch hc

theorem declaredFrom_spaces (hgap : Spaces gap) : declaredFrom inside gap = [] := by
  induction gap generalizing inside with
  | nil => rfl
  | cons c gap ih =>
      obtain ⟨hc, hgap⟩ := run_cons.mp hgap
      rw [declaredFrom_mark (not_isNameChar_of_isSpace hc), ih hgap]

theorem declaredFrom_run (hk : Run isNameChar k) (hgap : Spaces gap) :
    declaredFrom false (k ++ gap) = [] := by
  by_cases hne : k = []
  · subst hne
    exact declaredFrom_spaces hgap
  · rw [declaredFrom_word (isName_iff.mpr ⟨hne, hk⟩), declaration?_run hk hgap,
      declaredFrom_spaces hgap]
    rfl

/-- Where a name has ended, it does not matter what stands in front. -/
theorem declaredFrom_ended (ht : nameEnds t = true) :
    declaredFrom inside t = declaredFrom false t := by
  cases t with
  | nil => rfl
  | cons c t =>
      have hc : isNameChar c = false := nameEnds_iff.mp ht
      rw [declaredFrom_mark hc, declaredFrom_mark hc]

/-- A constant is declared, and behind it what the rest declares. -/
theorem declaredFrom_const (hk : Specifier.isName k = true) (hno : k ∉ declaringWords)
    (ht : nameEnds t = true) :
    declaredFrom false ("const ".toList ++ (k ++ t)) = k :: declaredFrom false t := by
  have hsplit : "const ".toList ++ (k ++ t) = "const".toList ++ ' ' :: (k ++ t) := by
    have hconst : "const ".toList = "const".toList ++ [' '] := by decide
    rw [hconst, List.append_assoc]
    rfl
  have hconst : declaration? ("const".toList ++ ' ' :: (k ++ t)) = some k :=
    declaration?_eq_some_iff.mpr
      ⟨"const".toList, [' '], t, rfl, by decide, by decide, by decide, hk, ht⟩
  have hword : declaration? (k ++ t) = none := by
    rw [declaration?, name?_append hk ht, Option.bind_some, if_neg hno]
  rw [hsplit, declaredFrom_word (by decide), hconst, declaredFrom_mark (by decide),
    declaredFrom_word hk, hword, declaredFrom_ended ht]
  rfl

/-- What stands on both sides of a mark that parts no words is declared on its own. -/
theorem declaredFrom_barrier (hname : isNameChar c = false) (hspace : isSpace c = false) :
    declaredFrom inside (t ++ c :: x) = declaredFrom inside t ++ declaredFrom false x := by
  induction t generalizing inside with
  | nil => exact declaredFrom_mark hname
  | cons d t ih =>
      have hfront := declaration?_append_mark (t := d :: t) (x := x) hname hspace
      rw [List.cons_append] at hfront
      rw [List.cons_append, declaredFrom, declaredFrom, hfront, ih, List.append_assoc]

/-- The end of a text declares what it declares behind the rest. -/
theorem declaredFrom_suffix (inside : Bool) (u t : Text) :
    declaredFrom (endsInside inside u) t <:+ declaredFrom inside (u ++ t) := by
  induction u generalizing inside with
  | nil => exact List.suffix_rfl
  | cons c u ih => exact (ih (isNameChar c)).trans (List.suffix_append _ _)

/-- A name that is absent is not declared. -/
theorem Absent.not_mem_declaredFrom (h : Absent name free t) : name ∉ declaredFrom inside t := by
  induction t generalizing free inside with
  | nil => exact List.not_mem_nil
  | cons c t ih =>
      rw [declaredFrom, List.mem_append, not_or]
      refine ⟨fun hmem => ?_, ih h.2⟩
      cases inside with
      | true => exact nomatch hmem
      | false =>
          obtain ⟨word, gap, rest, hs, -, hne, hgap, hn, hrest⟩ :=
            declaration?_eq_some_iff.mp (Option.mem_toList.mp hmem)
          rw [hs, ← List.append_assoc] at h
          have hfront := h.behind
          rw [opensBehind_append,
            opensBehind_of_ne_nil hne (run_opensName_of_spaces hgap)] at hfront
          exact hfront.ne_of_front hn hrest rfl

end RequireForm
