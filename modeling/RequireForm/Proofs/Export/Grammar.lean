import RequireForm.Export.Basic
import RequireForm.Proofs.Import.Grammar

/-!
# The grammar of exports

    EXPORT = `export` W* CLAUSE

where no name character follows the word, and the next token decides the clause. A clause that
does not go on as it should is no export; it is not tried as another one.

    `default` W* VALUE                          up to where VALUE starts
    LIST | LIST W* `from` W* PATH               the second if the word `from` follows
    `*` W* (`as` W* NAME W*)? `from` W* PATH
    DECLARATION                                 up to where DECLARATION starts
    (`const` | `let` | `var`) W+ NAME
    NAME                                        at the end of its statement

The last three ask for a space behind `export`, and their first word goes on as long as it can.

  1. `Export.Declares`, `Export.StatementEnd`: what starts a declaration, where one may end.
  2. `Export.Clause`, `Export.Derives`: the grammar.
  3. `Export.read?_eq_some_iff`: the recognizer accepts exactly what derives.
  4. `Export.exports_eq_iff_visits`: the exports of a source.
-/

namespace RequireForm

open Text

namespace Export

variable {s t w r rest gap name : Text} {e : Export}

/-! ## The grammar -/

/-- A name stands at the front of a text and goes on as long as it can. -/
def NameThen (name after : Text) : Prop :=
  Specifier.isName name = true ∧ nameEnds after = true

/-- What may stand between the word `function` and the name: spaces, and a star among them. -/
inductive FunctionGap : Text → Prop where
  | plain {gap : Text} : Spaces gap → FunctionGap gap
  | star {gap₁ gap₂ : Text} : Spaces gap₁ → Spaces gap₂ → FunctionGap (gap₁ ++ '*' :: gap₂)

/-- The text starts a declaration of the name. -/
inductive Declares : Text → Text → Prop where
  | function {gap name after : Text} :
      FunctionGap gap → nameEnds (gap ++ (name ++ after)) = true → NameThen name after →
      Declares ("function".toList ++ (gap ++ (name ++ after))) name
  | asyncFunction {gap₁ gap₂ name after : Text} :
      gap₁ ≠ [] → Spaces gap₁ → FunctionGap gap₂ →
      nameEnds (gap₂ ++ (name ++ after)) = true → NameThen name after →
      Declares ("async".toList ++ (gap₁ ++ ("function".toList ++ (gap₂ ++ (name ++ after))))) name
  | classNamed {gap name after : Text} :
      gap ≠ [] → Spaces gap → NameThen name after →
      Declares ("class".toList ++ (gap ++ (name ++ after))) name

/-- A statement may end here: behind spaces and tabs comes the end of the text, a `;`, a line
    break or a line comment. -/
def StatementEnd (s : Text) : Prop :=
  ∃ w r, s = w ++ r ∧ Run isInlineSpace w ∧
    (r = [] ∨ ∃ r', r = ';' :: r' ∨ r = '\n' :: r' ∨ r = '\r' :: r' ∨ r = '/' :: '/' :: r')

/-- The words that start another clause. -/
def clauseWords : List Text :=
  ["default", "function", "async", "class", "const", "let", "var"].map (·.toList)

/-- The clauses that start with a word. The word goes on as long as it can. -/
inductive WordClause : Text → Export → Text → Prop where
  | declaration {t name : Text} : Declares t name → WordClause t (.declaration name) t
  | binding {word gap name rest : Text} :
      declaresVariable word = true → gap ≠ [] → Spaces gap → NameThen name rest →
      WordClause (word ++ (gap ++ (name ++ rest))) (.binding name) rest
  | identifier {name rest : Text} :
      NameThen name rest → name ∉ clauseWords → StatementEnd rest →
      WordClause (name ++ rest) (.identifier name) rest

/-- What stands behind `export` and its spaces `gap`: the text, the export, and the rest behind
    the statement. -/
inductive Clause (gap : Text) : Text → Export → Text → Prop where
  | default {gap₁ value : Text} :
      Spaces gap₁ → Stops isSpace value → nameEnds (gap₁ ++ value) = true →
      (firstLine value).trimEnd ≠ [] →
      Clause gap ("default".toList ++ (gap₁ ++ value)) (.default (firstLine value).trimEnd) value
  | list {b : ListSyntax} {rest : Text} :
      b.Fits →
      (∀ w r, Spaces w → nameEnds r = true → rest ≠ w ++ (fromWord ++ r)) →
      Clause gap (b.text ++ rest) (.named b.specifiers none) rest
  | listFrom {b : ListSyntax} {gap₁ gap₂ : Text} {p : PathLiteral} {rest : Text} :
      b.Fits → Spaces gap₁ → Spaces gap₂ → p.WellFormed →
      Clause gap (b.text ++ (gap₁ ++ (fromWord ++ (gap₂ ++ (p.written ++ rest)))))
        (.named b.specifiers (some p)) rest
  | star {d : StarSyntax} {gap₁ gap₂ : Text} {p : PathLiteral} {rest : Text} :
      d.Fits (gap₁ ++ fromWord) → Spaces gap₁ → Spaces gap₂ → p.WellFormed →
      Clause gap (d.text ++ (gap₁ ++ (fromWord ++ (gap₂ ++ (p.written ++ rest)))))
        (.star d.name? p) rest
  | worded {t rest : Text} {e : Export} :
      gap ≠ [] → WordClause t e rest → Clause gap t e rest

/-- The text derives an export: the word, all spaces behind it, and a clause. -/
def Derives (t : Text) (e : Export) (rest : Text) : Prop :=
  ∃ gap body, t = "export".toList ++ (gap ++ body) ∧ nameEnds (gap ++ body) = true ∧
    Spaces gap ∧ Stops isSpace body ∧ Clause gap body e rest

/-! ## Statement ends -/

theorem statementEnds_iff : statementEnds s = true ↔ StatementEnd s := by
  constructor
  · intro h
    refine ⟨s.takeWhile isInlineSpace, s.dropWhile isInlineSpace,
      List.takeWhile_append_dropWhile.symm, run_takeWhile _ _, ?_⟩
    unfold statementEnds at h
    split at h
    · next hr => exact Or.inl hr
    · next r hr => exact Or.inr ⟨r, Or.inl hr⟩
    · next r hr => exact Or.inr ⟨r, Or.inr (Or.inl hr)⟩
    · next r hr => exact Or.inr ⟨r, Or.inr (Or.inr (Or.inl hr))⟩
    · next r hr => exact Or.inr ⟨r, Or.inr (Or.inr (Or.inr hr))⟩
    · exact nomatch h
  · rintro ⟨w, r, rfl, hw, hr⟩
    unfold statementEnds
    rcases hr with rfl | ⟨r', rfl | rfl | rfl | rfl⟩
    · rw [dropWhile_append_of_run hw stops_nil]
    · rw [dropWhile_append_of_run hw (stops_cons.mpr (by decide))]; rfl
    · rw [dropWhile_append_of_run hw (stops_cons.mpr (by decide))]; rfl
    · rw [dropWhile_append_of_run hw (stops_cons.mpr (by decide))]; rfl
    · rw [dropWhile_append_of_run hw (stops_cons.mpr (by decide))]; rfl

/-! ## Clauses that start with a token of their own -/

theorem default?_eq_some_iff :
    default? s = some (e, rest) ↔
      ∃ w, Spaces w ∧ s = w ++ rest ∧ Stops isSpace rest ∧ (firstLine rest).trimEnd ≠ [] ∧
        e = .default (firstLine rest).trimEnd := by
  constructor
  · intro h
    obtain ⟨w, hw, hs⟩ := exists_spaces s
    simp only [default?] at h
    split at h
    · exact nomatch h
    · next hne =>
        obtain ⟨rfl, rfl⟩ := Prod.mk.inj (Option.some.inj h)
        exact ⟨w, hw, hs, stops_skipSpaces s, hne, rfl⟩
  · rintro ⟨w, hw, rfl, hr, hne, rfl⟩
    simp only [default?, skipSpaces_run hw hr]

/-- The two readers of what follows a star differ in the spaces behind the name only. -/
theorem starName?_eq (s : Text) :
    starName? (skipSpaces s) = (Import.starName? s).map fun (x, r) => (x, skipSpaces r) := by
  have hskip (t : Text) : skipSpaces (skipSpaces t) = skipSpaces t :=
    skipSpaces_of_stops (stops_skipSpaces t)
  simp only [starName?, Import.starName?]
  cases word? asWord (skipSpaces s) with
  | none => simp only [Option.map_some, hskip]
  | some t =>
      rw [Option.map_map]
      rfl

/-- A path behind the word `from`. -/
theorem fromPath?_eq_some_iff {p : PathLiteral} :
    ((word? fromWord s).bind fun t => PathLiteral.read? (skipSpaces t)) = some (p, rest) ↔
      ∃ w, Spaces w ∧ p.WellFormed ∧ s = fromWord ++ (w ++ (p.written ++ rest)) := by
  constructor
  · intro h
    obtain ⟨t, ht, hp⟩ := Option.bind_eq_some_iff.mp h
    obtain ⟨w, hw, htw⟩ := exists_spaces t
    obtain ⟨hwf, hr⟩ := PathLiteral.read?_eq_some_iff.mp hp
    refine ⟨w, hw, hwf, ?_⟩
    rw [(word?_eq_some_iff.mp ht).1, htw, hr]
  · rintro ⟨w, hw, hwf, rfl⟩
    have hends : nameEnds (w ++ (p.written ++ rest)) = true :=
      nameEnds_spaces_append hw hwf.nameEnds
    rw [word?_append hends, Option.bind_some, skipSpaces_run hw hwf.stops_spaces]
    exact PathLiteral.read?_written hwf

theorem named?_eq_some_iff :
    named? s = some (e, rest) ↔
      ∃ b : ListSyntax, b.Fits ∧
        ((e = .named b.specifiers none ∧ s = b.text ++ rest ∧
            ∀ w r, Spaces w → nameEnds r = true → rest ≠ w ++ (fromWord ++ r)) ∨
          ∃ (gap₁ gap₂ : Text) (p : PathLiteral), Spaces gap₁ ∧ Spaces gap₂ ∧ p.WellFormed ∧
            e = .named b.specifiers (some p) ∧
            s = b.text ++ (gap₁ ++ (fromWord ++ (gap₂ ++ (p.written ++ rest))))) := by
  constructor
  · intro h
    obtain ⟨⟨xs, t⟩, hlist, hrest⟩ := Option.bind_eq_some_iff.mp h
    obtain ⟨b, hb, rfl, hs⟩ := Specifier.list?_eq_some_iff.mp hlist
    refine ⟨b, hb, ?_⟩
    simp only at hrest
    split at hrest
    · next hno =>
        obtain ⟨rfl, rfl⟩ := Prod.mk.inj (Option.some.inj hrest)
        refine Or.inl ⟨rfl, hs, ?_⟩
        rintro w r hw hr rfl
        rw [skipSpaces_run hw (stops_fromWord r), word?_append hr] at hno
        exact nomatch hno
    · next u hu =>
        obtain ⟨⟨p, r⟩, hp, hrest⟩ := Option.bind_eq_some_iff.mp hrest
        obtain ⟨rfl, rfl⟩ := Prod.mk.inj (Option.some.inj hrest)
        obtain ⟨w, hw, ht⟩ := exists_spaces t
        obtain ⟨w₂, hw₂, hwf, hu⟩ := fromPath?_eq_some_iff.mp
          (Option.bind_eq_some_iff.mpr ⟨u, hu, hp⟩)
        refine Or.inr ⟨w, w₂, p, hw, hw₂, hwf, rfl, ?_⟩
        rw [hs, ht, hu]
  · rintro ⟨b, hb, ⟨rfl, rfl, hno⟩ | ⟨gap₁, gap₂, p, h₁, h₂, hwf, rfl, rfl⟩⟩
    · refine Option.bind_eq_some_iff.mpr ⟨_, Specifier.list?_text hb, ?_⟩
      -- no path follows, so the word `from` must not either
      cases hu : word? fromWord (skipSpaces rest) with
      | none => simp only [hu]; rfl
      | some u =>
          obtain ⟨w, hw, hrest⟩ := exists_spaces rest
          obtain ⟨hu, hends⟩ := word?_eq_some_iff.mp hu
          rw [hu] at hrest
          exact absurd hrest (hno w u hw hends)
    · refine Option.bind_eq_some_iff.mpr ⟨_, Specifier.list?_text hb, ?_⟩
      obtain ⟨u, hu, hp⟩ := Option.bind_eq_some_iff.mp
        (fromPath?_eq_some_iff.mpr ⟨gap₂, h₂, hwf, rfl⟩)
      simp only [skipSpaces_run h₁ (stops_fromWord _)]
      rw [hu]
      exact Option.bind_eq_some_iff.mpr ⟨_, hp, rfl⟩

theorem star?_eq_some_iff :
    star? s = some (e, rest) ↔
      ∃ (d : StarSyntax) (gap₁ gap₂ : Text) (p : PathLiteral),
        d.Fits (gap₁ ++ fromWord) ∧ Spaces gap₁ ∧ Spaces gap₂ ∧ p.WellFormed ∧
        e = .star d.name? p ∧
        s = d.tail ++ (gap₁ ++ (fromWord ++ (gap₂ ++ (p.written ++ rest)))) := by
  unfold star?
  rw [starName?_eq]
  constructor
  · intro h
    obtain ⟨⟨x, t⟩, hx, h₁⟩ := Option.bind_eq_some_iff.mp h
    obtain ⟨u, hu, h₂⟩ := Option.bind_eq_some_iff.mp h₁
    obtain ⟨⟨p, r⟩, hp, h₃⟩ := Option.bind_eq_some_iff.mp h₂
    obtain ⟨rfl, rfl⟩ := Prod.mk.inj (Option.some.inj h₃)
    obtain ⟨⟨y, r'⟩, hy, hr'⟩ := Option.map_eq_some_iff.mp hx
    obtain ⟨rfl, rfl⟩ := Prod.mk.inj hr'
    obtain ⟨d, w, hw, hs, hd, rfl⟩ := StarSyntax.exists_of_starName? hy
    obtain ⟨w', hw', hr⟩ := exists_spaces r'
    obtain ⟨w₂, hw₂, hwf, hfrom⟩ := fromPath?_eq_some_iff.mp
      (Option.bind_eq_some_iff.mpr ⟨u, hu, hp⟩)
    rw [hfrom] at hr
    refine ⟨d, w ++ w', w₂, p, ?_, run_append.mpr ⟨hw, hw'⟩, hw₂, hwf, rfl, ?_⟩
    · refine (@StarSyntax.fits_append (w₂ ++ (p.written ++ r)) _ _
        (append_fromWord_ne_nil _)).mp ?_
      rw [List.append_assoc, List.append_assoc, ← hr]
      exact hd
    · rw [hs, hr, List.append_assoc]
  · rintro ⟨d, gap₁, gap₂, p, hd, h₁, h₂, hwf, rfl, rfl⟩
    have hd' : d.Fits (gap₁ ++ (fromWord ++ (gap₂ ++ (p.written ++ rest)))) := by
      rw [← List.append_assoc]
      exact (StarSyntax.fits_append (append_fromWord_ne_nil _)).mpr hd
    obtain ⟨r, hread, hskip⟩ := StarSyntax.starName?_tail hd' h₁ (stops_fromWord _)
      (word?_cons_eq_none (by decide))
    obtain ⟨u, hu, hp⟩ := Option.bind_eq_some_iff.mp
      (fromPath?_eq_some_iff.mpr ⟨gap₂, h₂, hwf, rfl⟩)
    rw [hread, Option.map_some]
    simp only [hskip]
    refine Option.bind_eq_some_iff.mpr ⟨_, rfl, ?_⟩
    refine Option.bind_eq_some_iff.mpr ⟨u, hu, ?_⟩
    exact Option.bind_eq_some_iff.mpr ⟨_, hp, rfl⟩

/-! ## Clauses that start with a word -/

theorem functionName?_eq_some_iff :
    functionName? s = some name ↔
      ∃ gap after, s = gap ++ (name ++ after) ∧ FunctionGap gap ∧ NameThen name after := by
  constructor
  · intro h
    obtain ⟨⟨n, after⟩, hname, rfl⟩ := Option.map_eq_some_iff.mp h
    obtain ⟨w, hw, hs⟩ := exists_spaces s
    obtain ⟨hskip, hn⟩ := name?_eq_some_iff.mp hname
    have hstop := stops_skipSpaces s
    generalize skipSpaces s = t at hs hskip hstop
    unfold skipStar at hskip
    split at hskip
    · next u =>
        obtain ⟨w₂, hw₂, hu⟩ := exists_spaces u
        refine ⟨w ++ '*' :: w₂, after, ?_, .star hw hw₂, hn⟩
        rw [hs, hu, hskip]
        simp only [List.append_assoc, List.cons_append]
    · rw [skipSpaces_of_stops hstop] at hskip
      exact ⟨w, after, hs.trans (congrArg _ hskip), .plain hw, hn⟩
  · rintro ⟨gap, after, rfl, hgap, hn, hends⟩
    refine Option.map_eq_some_iff.mpr ⟨(name, after), ?_, rfl⟩
    have hname : Stops isSpace (name ++ after) := stops_isSpace_name hn
    have hread : name? (name ++ after) = some (name, after) := name?_append hn hends
    cases hgap with
    | plain hw =>
        -- a name does not start with the star that is stepped over
        have hstar : skipStar (name ++ after) = name ++ after := by
          obtain ⟨hne, hrun⟩ := isName_iff.mp hn
          obtain ⟨c, name, rfl⟩ := List.exists_cons_of_ne_nil hne
          unfold skipStar
          split
          · next u hu =>
              have hc := (run_cons.mp hrun).1
              rw [(List.cons.inj hu).1] at hc
              exact absurd hc (by decide)
          · rfl
        rw [skipSpaces_run hw hname, hstar, skipSpaces_of_stops hname, hread]
    | @star gap₁ gap₂ h₁ h₂ =>
        rw [List.append_assoc, List.cons_append, skipSpaces_run h₁ (stops_cons.mpr (by decide)),
          skipStar, skipSpaces_run h₂ hname, hread]

/-- A name read behind spaces, of which there has to be one. -/
theorem spacedName?_eq_some_iff {rest : Text} :
    ((spaces? s).bind fun t => name? t) = some (name, rest) ↔
      ∃ gap, gap ≠ [] ∧ Spaces gap ∧ s = gap ++ (name ++ rest) ∧ NameThen name rest := by
  constructor
  · intro h
    obtain ⟨t, ht, hname⟩ := Option.bind_eq_some_iff.mp h
    obtain ⟨gap, hne, hgap, -, rfl⟩ := spaces?_eq_some_iff.mp ht
    obtain ⟨rfl, hn⟩ := name?_eq_some_iff.mp hname
    exact ⟨gap, hne, hgap, rfl, hn⟩
  · rintro ⟨gap, hne, hgap, rfl, hn, hends⟩
    refine Option.bind_eq_some_iff.mpr ⟨name ++ rest, ?_, name?_append hn hends⟩
    exact spaces?_eq_some_iff.mpr ⟨gap, hne, hgap, stops_isSpace_name hn, rfl⟩

theorem asyncName?_eq_some_iff :
    asyncName? s = some name ↔
      ∃ gap₁ gap₂ after, gap₁ ≠ [] ∧ Spaces gap₁ ∧ FunctionGap gap₂ ∧
        nameEnds (gap₂ ++ (name ++ after)) = true ∧ NameThen name after ∧
        s = gap₁ ++ ("function".toList ++ (gap₂ ++ (name ++ after))) := by
  constructor
  · intro h
    obtain ⟨t, ht, h₁⟩ := Option.bind_eq_some_iff.mp h
    obtain ⟨u, hu, hname⟩ := Option.bind_eq_some_iff.mp h₁
    obtain ⟨gap₁, hne, hgap, -, rfl⟩ := spaces?_eq_some_iff.mp ht
    obtain ⟨rfl, hends⟩ := word?_eq_some_iff.mp hu
    obtain ⟨gap₂, after, rfl, hgap₂, hn⟩ := functionName?_eq_some_iff.mp hname
    exact ⟨gap₁, gap₂, after, hne, hgap, hgap₂, hends, hn, rfl⟩
  · rintro ⟨gap₁, gap₂, after, hne, hgap, hgap₂, hends, hn, rfl⟩
    refine Option.bind_eq_some_iff.mpr ⟨_, spaces?_eq_some_iff.mpr
      ⟨gap₁, hne, hgap, stops_isSpace_name (by decide), rfl⟩, ?_⟩
    refine Option.bind_eq_some_iff.mpr ⟨_, word?_append hends, ?_⟩
    exact functionName?_eq_some_iff.mpr ⟨gap₂, after, rfl, hgap₂, hn⟩

theorem className?_eq_some_iff :
    className? s = some name ↔
      ∃ gap after, gap ≠ [] ∧ Spaces gap ∧ s = gap ++ (name ++ after) ∧ NameThen name after := by
  constructor
  · intro h
    obtain ⟨t, ht, h₁⟩ := Option.bind_eq_some_iff.mp h
    obtain ⟨⟨n, after⟩, hname, h₂⟩ := Option.bind_eq_some_iff.mp h₁
    obtain rfl : n = name := Option.some.inj h₂
    obtain ⟨gap, hgap⟩ := spacedName?_eq_some_iff.mp
      (Option.bind_eq_some_iff.mpr ⟨t, ht, hname⟩)
    exact ⟨gap, after, hgap⟩
  · rintro ⟨gap, after, hgap⟩
    obtain ⟨t, ht, hname⟩ := Option.bind_eq_some_iff.mp (spacedName?_eq_some_iff.mpr ⟨gap, hgap⟩)
    refine Option.bind_eq_some_iff.mpr ⟨t, ht, ?_⟩
    exact Option.bind_eq_some_iff.mpr ⟨_, hname, rfl⟩

theorem binding?_eq_some_iff :
    binding? s = some (e, rest) ↔
      ∃ gap name, gap ≠ [] ∧ Spaces gap ∧ s = gap ++ (name ++ rest) ∧ NameThen name rest ∧
        e = .binding name := by
  constructor
  · intro h
    obtain ⟨t, ht, h₁⟩ := Option.bind_eq_some_iff.mp h
    obtain ⟨⟨name, r⟩, hname, h₂⟩ := Option.bind_eq_some_iff.mp h₁
    obtain ⟨rfl, rfl⟩ := Prod.mk.inj (Option.some.inj h₂)
    obtain ⟨gap, hne, hgap, hs, hn⟩ := spacedName?_eq_some_iff.mp
      (Option.bind_eq_some_iff.mpr ⟨t, ht, hname⟩)
    exact ⟨gap, name, hne, hgap, hs, hn, rfl⟩
  · rintro ⟨gap, name, hne, hgap, hs, hn, rfl⟩
    obtain ⟨t, ht, hname⟩ := Option.bind_eq_some_iff.mp
      (spacedName?_eq_some_iff.mpr ⟨gap, hne, hgap, hs, hn⟩)
    refine Option.bind_eq_some_iff.mpr ⟨t, ht, ?_⟩
    exact Option.bind_eq_some_iff.mpr ⟨_, hname, rfl⟩

/-- The words that start a clause other than a default. -/
theorem not_mem_clauseWords_iff {first : Text} (hdefault : first ≠ "default".toList) :
    first ∉ clauseWords ↔
      first ≠ "function".toList ∧ first ≠ "async".toList ∧ first ≠ "class".toList ∧
        declaresVariable first = false := by
  simp only [clauseWords, List.map_cons, List.map_nil, List.mem_cons, List.not_mem_nil,
    or_false, not_or, declaresVariable, Bool.or_eq_false_iff, decide_eq_false_iff_not, ne_eq,
    and_assoc]
  exact and_iff_right hdefault

theorem ne_default {first : Text} (hn : NameThen first rest)
    (hno : word? "default".toList (first ++ rest) = none) : first ≠ "default".toList := by
  rintro rfl
  rw [word?_append hn.2] at hno
  exact nomatch hno

theorem wordClause_of_worded? (hno : word? "default".toList s = none)
    (h : worded? s = some (e, rest)) : WordClause s e rest := by
  obtain ⟨⟨first, r⟩, hfirst, h₁⟩ := Option.bind_eq_some_iff.mp h
  obtain ⟨rfl, hn⟩ := name?_eq_some_iff.mp hfirst
  simp only at h₁
  split at h₁
  · next hw =>
      obtain ⟨name, hname, h₂⟩ := Option.bind_eq_some_iff.mp h₁
      obtain ⟨rfl, rfl⟩ := Prod.mk.inj (Option.some.inj h₂)
      obtain ⟨gap, after, rfl, hgap, hname⟩ := functionName?_eq_some_iff.mp hname
      rw [hw]
      exact .declaration (.function hgap hn.2 hname)
  · next hfunction =>
      split at h₁
      · next hw =>
          obtain ⟨name, hname, h₂⟩ := Option.bind_eq_some_iff.mp h₁
          obtain ⟨rfl, rfl⟩ := Prod.mk.inj (Option.some.inj h₂)
          obtain ⟨gap₁, gap₂, after, hne, hgap₁, hgap₂, hends, hthen, rfl⟩ :=
            asyncName?_eq_some_iff.mp hname
          rw [hw]
          exact .declaration (.asyncFunction hne hgap₁ hgap₂ hends hthen)
      · next hasync =>
          split at h₁
          · next hw =>
              obtain ⟨name, hname, h₂⟩ := Option.bind_eq_some_iff.mp h₁
              obtain ⟨rfl, rfl⟩ := Prod.mk.inj (Option.some.inj h₂)
              obtain ⟨gap, after, hne, hgap, rfl, hthen⟩ := className?_eq_some_iff.mp hname
              rw [hw]
              exact .declaration (.classNamed hne hgap hthen)
          · next hclass =>
              split at h₁
              · next hvariable =>
                  obtain ⟨gap, name, hne, hgap, rfl, hname, rfl⟩ := binding?_eq_some_iff.mp h₁
                  exact .binding hvariable hne hgap hname
              · next hvariable =>
                  split at h₁
                  · next hend =>
                      obtain ⟨rfl, rfl⟩ := Prod.mk.inj (Option.some.inj h₁)
                      refine .identifier hn ?_ (statementEnds_iff.mp hend)
                      exact (not_mem_clauseWords_iff (ne_default hn hno)).mpr
                        ⟨hfunction, hasync, hclass, Bool.eq_false_iff.mpr hvariable⟩
                  · exact nomatch h₁

/-- The first word decides how a worded clause is read. -/
theorem worded?_of_name {first : Text} (hn : NameThen first rest) :
    worded? (first ++ rest) =
      if first = "function".toList then
        (functionName? rest).map fun name => (.declaration name, first ++ rest)
      else if first = "async".toList then
        (asyncName? rest).map fun name => (.declaration name, first ++ rest)
      else if first = "class".toList then
        (className? rest).map fun name => (.declaration name, first ++ rest)
      else if declaresVariable first then binding? rest
      else if statementEnds rest then some (.identifier first, rest)
      else none := by
  have hread : name? (first ++ rest) = some (first, rest) := name?_append hn.1 hn.2
  unfold worded?
  rw [hread]
  simp only [Option.map_eq_bind]
  rfl

theorem declaresVariable_iff {word : Text} (h : declaresVariable word = true) :
    Specifier.isName word = true ∧ word ≠ "function".toList ∧ word ≠ "async".toList ∧
      word ≠ "class".toList := by
  simp only [declaresVariable, Bool.or_eq_true, decide_eq_true_eq] at h
  rcases h with (rfl | rfl) | rfl <;> decide

theorem worded?_of_wordClause (h : WordClause s e rest) : worded? s = some (e, rest) := by
  cases h with
  | declaration hd =>
      cases hd with
      | function hgap hends hthen =>
          rw [worded?_of_name ⟨by decide, hends⟩, if_pos rfl,
            functionName?_eq_some_iff.mpr ⟨_, _, rfl, hgap, hthen⟩]
          rfl
      | asyncFunction hne hgap₁ hgap₂ hends hthen =>
          rw [worded?_of_name ⟨by decide, nameEnds_gap_append hne hgap₁⟩, if_neg (by decide),
            if_pos rfl,
            asyncName?_eq_some_iff.mpr ⟨_, _, _, hne, hgap₁, hgap₂, hends, hthen, rfl⟩]
          rfl
      | classNamed hne hgap hthen =>
          rw [worded?_of_name ⟨by decide, nameEnds_gap_append hne hgap⟩, if_neg (by decide),
            if_neg (by decide), if_pos rfl,
            className?_eq_some_iff.mpr ⟨_, _, hne, hgap, rfl, hthen⟩]
          rfl
  | binding hvariable hne hgap hthen =>
      obtain ⟨hn, hfunction, hasync, hclass⟩ := declaresVariable_iff hvariable
      rw [worded?_of_name ⟨hn, nameEnds_gap_append hne hgap⟩, if_neg hfunction, if_neg hasync,
        if_neg hclass, if_pos hvariable]
      exact binding?_eq_some_iff.mpr ⟨_, _, hne, hgap, rfl, hthen, rfl⟩
  | @identifier name rest hthen hno hend =>
      -- the word `default` has been looked for before any other
      have hdefault : name ≠ "default".toList := by
        rintro rfl
        exact hno List.mem_cons_self
      obtain ⟨hfunction, hasync, hclass, hvariable⟩ := (not_mem_clauseWords_iff hdefault).mp hno
      rw [worded?_of_name hthen, if_neg hfunction, if_neg hasync, if_neg hclass,
        if_neg (Bool.eq_false_iff.mp hvariable), if_pos (statementEnds_iff.mpr hend)]

/-- No clause that starts with a word starts with the word `default`. -/
theorem word?_default_of_wordClause (h : WordClause s e rest) :
    word? "default".toList s = none := by
  obtain ⟨first, r, rfl, hthen, hne⟩ :
      ∃ first r, s = first ++ r ∧ NameThen first r ∧ first ≠ "default".toList := by
    cases h with
    | declaration hd =>
        cases hd with
        | function _ hends _ => exact ⟨_, _, rfl, ⟨by decide, hends⟩, by decide⟩
        | asyncFunction hne hgap _ _ _ =>
            exact ⟨_, _, rfl, ⟨by decide, nameEnds_gap_append hne hgap⟩, by decide⟩
        | classNamed hne hgap _ =>
            exact ⟨_, _, rfl, ⟨by decide, nameEnds_gap_append hne hgap⟩, by decide⟩
    | @binding word _ _ _ hvariable hne hgap _ =>
        refine ⟨_, _, rfl, ⟨(declaresVariable_iff hvariable).1, nameEnds_gap_append hne hgap⟩, ?_⟩
        rintro rfl
        exact absurd hvariable (by decide)
    | identifier hthen hno _ =>
        refine ⟨_, _, rfl, hthen, ?_⟩
        rintro rfl
        exact hno List.mem_cons_self
  cases hd : word? "default".toList (first ++ r) with
  | none => rfl
  | some t =>
      obtain ⟨he, hends⟩ := word?_eq_some_iff.mp hd
      obtain ⟨rfl, -⟩ := name_append_unique hthen.1 hthen.2 (by decide) hends he
      exact absurd rfl hne

/-! ## Statements -/

theorem publication?_eq_some_iff (hbody : Stops isSpace s) :
    publication? (decide (gap ≠ [])) s = some (e, rest) ↔ Clause gap s e rest := by
  constructor
  · intro h
    unfold publication? at h
    split at h
    · next t ht =>
        obtain ⟨rfl, hends⟩ := word?_eq_some_iff.mp ht
        obtain ⟨w, hw, rfl, hr, hne, rfl⟩ := default?_eq_some_iff.mp h
        exact .default hw hr hends hne
    · next hno =>
        split at h
        · obtain ⟨b, hb, ⟨rfl, hs, hfrom⟩ | ⟨gap₁, gap₂, p, h₁, h₂, hwf, rfl, hs⟩⟩ :=
            named?_eq_some_iff.mp h
          · rw [hs]
            exact .list hb hfrom
          · rw [hs]
            exact .listFrom hb h₁ h₂ hwf
        · obtain ⟨d, gap₁, gap₂, p, hd, h₁, h₂, hwf, rfl, rfl⟩ := star?_eq_some_iff.mp h
          exact .star hd h₁ h₂ hwf
        · split at h
          · next hgap => exact .worded (of_decide_eq_true hgap) (wordClause_of_worded? hno h)
          · exact nomatch h
  · intro h
    cases h with
    | default hw hr hends hne =>
        unfold publication?
        rw [word?_append hends]
        exact default?_eq_some_iff.mpr ⟨_, hw, rfl, hr, hne, rfl⟩
    | list hb hfrom =>
        show named? _ = _
        exact named?_eq_some_iff.mpr ⟨_, hb, Or.inl ⟨rfl, rfl, hfrom⟩⟩
    | listFrom hb h₁ h₂ hwf =>
        show named? _ = _
        exact named?_eq_some_iff.mpr ⟨_, hb, Or.inr ⟨_, _, _, h₁, h₂, hwf, rfl, rfl⟩⟩
    | star hd h₁ h₂ hwf =>
        show star? _ = _
        exact star?_eq_some_iff.mpr ⟨_, _, _, _, hd, h₁, h₂, hwf, rfl, rfl⟩
    | worded hgap hw =>
        have hread := worded?_of_wordClause hw
        -- the text starts with a name, so neither with a brace nor with a star
        have hstart : nameEnds s ≠ true := by
          intro hends
          rw [worded?, name?_eq_none_iff.mpr hends] at hread
          exact nomatch hread
        unfold publication?
        rw [word?_default_of_wordClause hw]
        split
        · next ht => exact nomatch ht
        · split
          · exact absurd rfl hstart
          · exact absurd rfl hstart
          · rw [if_pos (decide_eq_true hgap)]
            exact hread

/-- The recognizer accepts what derives, and nothing else. -/
theorem read?_eq_some_iff : read? s = some (e, rest) ↔ Derives s e rest := by
  have hspaced {gap body : Text} (hgap : Spaces gap) (hbody : Stops isSpace body) :
      (spaces? (gap ++ body)).isSome = decide (gap ≠ []) := by
    cases gap with
    | nil =>
        cases body with
        | nil => rfl
        | cons c body => simp [spaces?, stops_cons.mp hbody]
    | cons c gap => simp [spaces?, (run_cons.mp hgap).1]
  constructor
  · intro h
    obtain ⟨t, ht, h₁⟩ := Option.bind_eq_some_iff.mp h
    obtain ⟨rfl, hends⟩ := word?_eq_some_iff.mp ht
    obtain ⟨gap, hgap, hgt⟩ := exists_spaces t
    have hbody := stops_skipSpaces t
    generalize skipSpaces t = body at hgt hbody h₁
    subst hgt
    rw [hspaced hgap hbody, publication?_eq_some_iff hbody] at h₁
    exact ⟨gap, body, rfl, hends, hgap, hbody, h₁⟩
  · rintro ⟨gap, body, rfl, hends, hgap, hbody, hclause⟩
    refine Option.bind_eq_some_iff.mpr ⟨_, word?_append hends, ?_⟩
    rw [hspaced hgap hbody, skipSpaces_run hgap hbody]
    exact (publication?_eq_some_iff hbody).mpr hclause

theorem read?_eq_none_of_word? (h : word? "export".toList s = none) : read? s = none :=
  congrArg (Option.bind · _) h

/-- Every clause leaves an end of its own text. -/
theorem Clause.exists_append (h : Clause gap s e rest) : ∃ w, s = w ++ rest := by
  cases h with
  | default _ _ _ _ => exact ⟨_, (List.append_assoc _ _ _).symm⟩
  | list _ _ => exact ⟨_, rfl⟩
  | @listFrom b gap₁ gap₂ p _ _ _ _ _ =>
      exact ⟨b.text ++ (gap₁ ++ (fromWord ++ (gap₂ ++ p.written))), by
        simp only [List.append_assoc]⟩
  | @star d gap₁ gap₂ p _ _ _ _ _ =>
      exact ⟨d.text ++ (gap₁ ++ (fromWord ++ (gap₂ ++ p.written))), by
        simp only [List.append_assoc]⟩
  | worded _ hw =>
      cases hw with
      | declaration _ => exact ⟨[], rfl⟩
      | @binding word gap name _ _ _ _ _ =>
          exact ⟨word ++ (gap ++ name), by simp only [List.append_assoc]⟩
      | identifier _ _ _ => exact ⟨_, rfl⟩

/-- What derives from a text is a beginning of it that holds the word `export`. -/
theorem consumes_read? : Piece.Consumes read? := by
  intro s e rest h
  obtain ⟨gap, body, rfl, -, -, -, hclause⟩ := read?_eq_some_iff.mp h
  obtain ⟨w, rfl⟩ := hclause.exists_append
  refine ⟨"export".toList ++ (gap ++ w), List.cons_ne_nil _ _, ?_⟩
  simp only [List.append_assoc]

/-- The exports of a source are found by visiting its line starts. -/
theorem exports_eq_iff_visits (source : Text) (found : List (Located Export)) :
    find source = found ↔ Visits Derives 0 (lineStarts source) found :=
  locate_eq_iff_visits read?_eq_some_iff consumes_read? source found

end Export

end RequireForm
