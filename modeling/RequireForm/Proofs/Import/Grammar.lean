import RequireForm.Import.Basic
import RequireForm.Proofs.Source.Listing
import RequireForm.Proofs.Source.Visit

/-!
# The grammar of imports

    IMPORT  = `import` W+ (PATH | BINDING W* `from` W* PATH)
    BINDING = GROUP | NAME | NAME W* `,` W* GROUP
    GROUP   = LIST | `*` | `*` W* `as` W* NAME

where W is a space that parts words, a NAME goes on as long as it can, and no name character
follows the word `as`. The recognizer never goes back: behind a name it commits to a comma,
behind a star to `as`. It loses no derivation by that.

  1. `StarSyntax`, `GroupSyntax`, `BindingSyntax`, `ImportSyntax`: derivations as syntax trees.
  2. `ImportSyntax.text_append_unique`: a text has at most one derivation.
  3. `Import.read?_eq_some_iff`: the recognizer accepts exactly what derives.
  4. `Import.imports_eq_iff_visits`: the imports of a source.
-/

namespace RequireForm

open Text

/-- The word before a path. -/
abbrev fromWord : Text := "from".toList

variable {s t w r rest rest' after : Text}

theorem stops_asWord (t : Text) : Stops isSpace (asWord ++ t) := stops_cons.mpr (by decide)

theorem append_fromWord_ne_nil (w : Text) : w ++ fromWord ≠ [] :=
  List.append_ne_nil_of_right_ne_nil _ (List.cons_ne_nil _ _)

theorem stops_fromWord (t : Text) : Stops isSpace (fromWord ++ t) := stops_cons.mpr (by decide)

/-! ## Stars -/

/-- A star with the spaces in it: alone, or with a name behind `as`. -/
inductive StarSyntax where
  | bare
  | named (gap₁ gap₂ name : Text)
  deriving DecidableEq, Repr

namespace StarSyntax

/-- What is written behind the star. -/
def tail : StarSyntax → Text
  | .bare => []
  | .named gap₁ gap₂ name => gap₁ ++ (asWord ++ (gap₂ ++ name))

/-- The star as it is written. -/
def text (d : StarSyntax) : Text := '*' :: d.tail

/-- The gaps are spaces, and each word has ended where the next part starts. -/
def Fits (after : Text) : StarSyntax → Prop
  | .bare => True
  | .named gap₁ gap₂ name =>
      Spaces gap₁ ∧ Spaces gap₂ ∧ nameEnds (gap₂ ++ name) = true ∧
        Specifier.isName name = true ∧ nameEnds after = true

instance : (d : StarSyntax) → Decidable (d.Fits after)
  | .bare => inferInstanceAs (Decidable True)
  | .named _ _ _ => inferInstanceAs (Decidable (_ ∧ _ ∧ _ ∧ _ ∧ _))

/-- The name behind `as`. -/
def name? : StarSyntax → Option Text
  | .bare => none
  | .named _ _ name => some name

theorem exists_of_starName? {x : Option Text} (h : Import.starName? s = some (x, r)) :
    ∃ (d : StarSyntax) (w : Text), Spaces w ∧ s = d.tail ++ (w ++ r) ∧ d.Fits (w ++ r) ∧
      d.name? = x := by
  obtain ⟨w, hw, hs⟩ := exists_spaces s
  simp only [Import.starName?] at h
  split at h
  · obtain ⟨rfl, rfl⟩ := Prod.mk.inj (Option.some.inj h)
    exact ⟨.bare, w, hw, hs, trivial, rfl⟩
  · next t ht =>
      obtain ⟨⟨name, r'⟩, hname, h⟩ := Option.map_eq_some_iff.mp h
      obtain ⟨rfl, rfl⟩ := Prod.mk.inj h
      obtain ⟨hst, hends⟩ := word?_eq_some_iff.mp ht
      obtain ⟨v, hv, htv⟩ := exists_spaces t
      obtain ⟨hskip, hn, hr⟩ := name?_eq_some_iff.mp hname
      refine ⟨.named w v name, [], run_nil, ?_, ⟨hw, hv, ?_, hn, hr⟩, rfl⟩
      · rw [hs, hst, htv, hskip]
        simp only [tail, List.append_assoc, List.nil_append]
      · rw [htv, hskip, ← List.append_assoc, nameEnds_iff, stops_append] at hends
        · exact nameEnds_iff.mpr hends
        · exact List.append_ne_nil_of_right_ne_nil _ (isName_iff.mp hn).1

/-- A star is read back if the word `as` does not follow it: the reader steps over spaces to
    look for the word, and leaves them out of what it gives back. -/
theorem starName?_tail {d : StarSyntax} (hd : d.Fits (w ++ r)) (hw : Spaces w)
    (hr : Stops isSpace r) (has : word? asWord r = none) :
    ∃ r', Import.starName? (d.tail ++ (w ++ r)) = some (d.name?, r') ∧ skipSpaces r' = r := by
  cases d with
  | bare =>
      refine ⟨r, ?_, skipSpaces_of_stops hr⟩
      simp only [tail, List.nil_append, Import.starName?, skipSpaces_run hw hr, has]
      rfl
  | named gap₁ gap₂ name =>
      obtain ⟨h₁, h₂, hends, hn, hafter⟩ := hd
      refine ⟨w ++ r, ?_, skipSpaces_run hw hr⟩
      have hstop₁ := stops_asWord (gap₂ ++ (name ++ (w ++ r)))
      have hstop₂ : Stops isSpace (name ++ (w ++ r)) := stops_isSpace_name hn
      have hends' : nameEnds (gap₂ ++ (name ++ (w ++ r))) = true := by
        rw [← List.append_assoc, nameEnds_iff, stops_append]
        · exact nameEnds_iff.mp hends
        · exact List.append_ne_nil_of_right_ne_nil _ (isName_iff.mp hn).1
      simp only [tail, List.append_assoc, Import.starName?, skipSpaces_run h₁ hstop₁,
        word?_append hends', skipSpaces_run h₂ hstop₂, name?_append hn hafter]
      rfl

end StarSyntax

/-! ## Bindings -/

/-- A list or a star. -/
inductive GroupSyntax where
  | list (list : ListSyntax)
  | star (star : StarSyntax)
  deriving DecidableEq, Repr

namespace GroupSyntax

def text : GroupSyntax → Text
  | .list b => b.text
  | .star d => d.text

def Fits (after : Text) : GroupSyntax → Prop
  | .list b => b.Fits
  | .star d => d.Fits after

instance : (g : GroupSyntax) → Decidable (g.Fits after)
  | .list b => inferInstanceAs (Decidable b.Fits)
  | .star d => inferInstanceAs (Decidable (d.Fits after))

/-- What the group binds alone. -/
def binding : GroupSyntax → ImportBinding
  | .list b => .named b.specifiers
  | .star d => .star d.name?

/-- What the group binds behind a name for the default. -/
def bindingAfter (name : Text) : GroupSyntax → ImportBinding
  | .list b => .defaultAndNamed name b.specifiers
  | .star d => .defaultAndStar name d.name?

theorem exists_of_secondBinding? {name : Text} {x : ImportBinding}
    (h : Import.secondBinding? name s = some (x, r)) :
    ∃ (g : GroupSyntax) (w : Text), Spaces w ∧ s = g.text ++ (w ++ r) ∧ g.Fits (w ++ r) ∧
      g.bindingAfter name = x := by
  unfold Import.secondBinding? at h
  split at h
  · next s =>
      obtain ⟨⟨y, r'⟩, hy, h⟩ := Option.map_eq_some_iff.mp h
      obtain ⟨rfl, rfl⟩ := Prod.mk.inj h
      obtain ⟨d, w, hw, hs, hd, rfl⟩ := StarSyntax.exists_of_starName? hy
      exact ⟨.star d, w, hw, congrArg ('*' :: ·) hs, hd, rfl⟩
  · obtain ⟨⟨y, r'⟩, hy, h⟩ := Option.map_eq_some_iff.mp h
    obtain ⟨rfl, rfl⟩ := Prod.mk.inj h
    obtain ⟨b, hb, rfl, hs⟩ := Specifier.list?_eq_some_iff.mp hy
    exact ⟨.list b, [], run_nil, hs, hb, rfl⟩

theorem secondBinding?_text {g : GroupSyntax} (name : Text) (hg : g.Fits (w ++ r))
    (hw : Spaces w) (hr : Stops isSpace r) (has : word? asWord r = none) :
    ∃ r', Import.secondBinding? name (g.text ++ (w ++ r)) = some (g.bindingAfter name, r') ∧
      skipSpaces r' = r := by
  cases g with
  | list b =>
      refine ⟨w ++ r, ?_, skipSpaces_run hw hr⟩
      have hlist : Specifier.list? (b.text ++ (w ++ r)) = some (b.specifiers, w ++ r) :=
        Specifier.list?_text hg
      unfold Import.secondBinding?
      split
      · next s hs => exact absurd (List.cons.inj hs).1 (by decide)
      · rw [text, hlist]
        rfl
  | star d =>
      obtain ⟨r', hread, hskip⟩ := StarSyntax.starName?_tail hg hw hr has
      refine ⟨r', ?_, hskip⟩
      rw [text, StarSyntax.text, List.cons_append, Import.secondBinding?, hread]
      rfl

end GroupSyntax

/-- What stands before the word `from`: a group, a name, or both with a comma between. -/
inductive BindingSyntax where
  | group (group : GroupSyntax)
  | default (name : Text)
  | both (name gap₁ gap₂ : Text) (group : GroupSyntax)
  deriving DecidableEq, Repr

namespace BindingSyntax

def text : BindingSyntax → Text
  | .group g => g.text
  | .default name => name
  | .both name gap₁ gap₂ g => name ++ (gap₁ ++ (',' :: (gap₂ ++ g.text)))

def Fits (after : Text) : BindingSyntax → Prop
  | .group g => g.Fits after
  | .default name => Specifier.isName name = true ∧ nameEnds after = true
  | .both name gap₁ gap₂ g =>
      (Specifier.isName name = true ∧ nameEnds (gap₁ ++ [',']) = true) ∧
        Spaces gap₁ ∧ Spaces gap₂ ∧ g.Fits after

instance : (d : BindingSyntax) → Decidable (d.Fits after)
  | .group g => inferInstanceAs (Decidable (g.Fits after))
  | .default _ => inferInstanceAs (Decidable (_ ∧ _))
  | .both _ _ _ _ => inferInstanceAs (Decidable ((_ ∧ _) ∧ _ ∧ _ ∧ _))

/-- What is bound. -/
def binding : BindingSyntax → ImportBinding
  | .group g => g.binding
  | .default name => .default name
  | .both name _ _ g => g.bindingAfter name

/-- Where a name starts, the reader of bindings reads it. -/
theorem binding?_of_name {name : Text} (hn : Specifier.isName name = true)
    (hr : nameEnds rest = true) :
    Import.binding? (name ++ rest) =
      match skipSpaces rest with
      | ',' :: s => Import.secondBinding? name (skipSpaces s)
      | _ => some (.default name, rest) := by
  -- the first character decides: it is neither the star nor the brace of the other cases
  obtain ⟨hne, hrun⟩ := isName_iff.mp hn
  have hread : name? (name ++ rest) = some (name, rest) := name?_append hn hr
  obtain ⟨c, name, rfl⟩ := List.exists_cons_of_ne_nil hne
  have hc := (run_cons.mp hrun).1
  unfold Import.binding?
  split
  · next s hs => rw [(List.cons.inj hs).1] at hc; exact absurd hc (by decide)
  · next s hs => rw [(List.cons.inj hs).1] at hc; exact absurd hc (by decide)
  · rw [hread]
    rfl

theorem exists_of_binding? {x : ImportBinding} (h : Import.binding? s = some (x, r)) :
    ∃ (d : BindingSyntax) (w : Text), Spaces w ∧ s = d.text ++ (w ++ r) ∧ d.Fits (w ++ r) ∧
      d.binding = x := by
  unfold Import.binding? at h
  split at h
  · next s =>
      obtain ⟨⟨y, r'⟩, hy, h⟩ := Option.map_eq_some_iff.mp h
      obtain ⟨rfl, rfl⟩ := Prod.mk.inj h
      obtain ⟨d, w, hw, hs, hd, rfl⟩ := StarSyntax.exists_of_starName? hy
      exact ⟨.group (.star d), w, hw, congrArg ('*' :: ·) hs, hd, rfl⟩
  · obtain ⟨⟨y, r'⟩, hy, h⟩ := Option.map_eq_some_iff.mp h
    obtain ⟨rfl, rfl⟩ := Prod.mk.inj h
    obtain ⟨b, hb, rfl, hs⟩ := Specifier.list?_eq_some_iff.mp hy
    exact ⟨.group (.list b), [], run_nil, hs, hb, rfl⟩
  · obtain ⟨⟨name, t⟩, hname, hx⟩ := Option.bind_eq_some_iff.mp h
    obtain ⟨hst, hn, ht⟩ := name?_eq_some_iff.mp hname
    obtain ⟨v, hv, htv⟩ := exists_spaces t
    simp only at hx
    split at hx
    · next u hu =>
        obtain ⟨v', hv', huv⟩ := exists_spaces u
        obtain ⟨g, w, hw, hs, hg, rfl⟩ := GroupSyntax.exists_of_secondBinding? hx
        refine ⟨.both name v v' g, w, hw, ?_, ⟨⟨hn, ?_⟩, hv, hv', hg⟩, rfl⟩
        · rw [hst, htv, hu, huv, hs]
          simp only [text, List.append_assoc, List.cons_append]
        · exact nameEnds_spaces_append hv rfl
    · obtain ⟨rfl, rfl⟩ := Prod.mk.inj (Option.some.inj hx)
      exact ⟨.default name, [], run_nil, hst, ⟨hn, ht⟩, rfl⟩

theorem binding?_text {d : BindingSyntax} (hd : d.Fits (w ++ r)) (hw : Spaces w)
    (hr : Stops isSpace r) (has : word? asWord r = none) (hcomma : ∀ u, r ≠ ',' :: u) :
    ∃ r', Import.binding? (d.text ++ (w ++ r)) = some (d.binding, r') ∧ skipSpaces r' = r := by
  cases d with
  | group g =>
      cases g with
      | list b =>
          refine ⟨w ++ r, ?_, skipSpaces_run hw hr⟩
          have hlist : Specifier.list? (b.text ++ (w ++ r)) = some (b.specifiers, w ++ r) :=
            Specifier.list?_text hd
          rw [text, GroupSyntax.text]
          rw [ListSyntax.text, List.cons_append] at hlist ⊢
          rw [Import.binding?, hlist]
          rfl
      | star d =>
          obtain ⟨r', hread, hskip⟩ := StarSyntax.starName?_tail hd hw hr has
          refine ⟨r', ?_, hskip⟩
          rw [text, GroupSyntax.text, StarSyntax.text, List.cons_append, Import.binding?, hread]
          rfl
  | default name =>
      obtain ⟨hn, hends⟩ := hd
      refine ⟨w ++ r, ?_, skipSpaces_run hw hr⟩
      rw [text, binding?_of_name hn hends, skipSpaces_run hw hr]
      split
      · exact absurd rfl (hcomma _)
      · rfl
  | both name gap₁ gap₂ g =>
      obtain ⟨⟨hn, hends⟩, h₁, h₂, hg⟩ := hd
      obtain ⟨r', hread, hskip⟩ := GroupSyntax.secondBinding?_text name hg hw hr has
      refine ⟨r', ?_, hskip⟩
      have hcomma : Stops isSpace (',' :: (gap₂ ++ (g.text ++ (w ++ r)))) :=
        stops_cons.mpr (by decide)
      have hgroup : Stops isSpace (g.text ++ (w ++ r)) := by
        cases g with
        | list b => exact stops_cons.mpr (by decide)
        | star d => exact stops_cons.mpr (by decide)
      have hends' : nameEnds (gap₁ ++ (',' :: (gap₂ ++ (g.text ++ (w ++ r))))) = true :=
        nameEnds_spaces_append h₁ rfl
      simp only [text, List.append_assoc, List.cons_append]
      rw [binding?_of_name hn hends', skipSpaces_run h₁ hcomma]
      simp only [skipSpaces_run h₂ hgroup]
      exact hread

end BindingSyntax

/-! ## Statements -/

/-- An import statement with the spaces in it. -/
inductive ImportSyntax where
  | effects (gap : Text) (path : PathLiteral)
  | binding (gap : Text) (bound : BindingSyntax) (gap₁ gap₂ : Text) (path : PathLiteral)
  deriving DecidableEq, Repr

namespace ImportSyntax

/-- The word that an import starts with. -/
abbrev keyword : Text := "import".toList

/-- The statement as it is written. -/
def text : ImportSyntax → Text
  | .effects gap path => keyword ++ (gap ++ path.written)
  | .binding gap d gap₁ gap₂ path =>
      keyword ++ (gap ++ (d.text ++ (gap₁ ++ (fromWord ++ (gap₂ ++ path.written)))))

theorem text_effects (gap : Text) (p : PathLiteral) :
    (effects gap p).text = keyword ++ (gap ++ p.written) := rfl

theorem text_binding (gap gap₁ gap₂ : Text) (d : BindingSyntax) (p : PathLiteral) :
    (binding gap d gap₁ gap₂ p).text
      = keyword ++ (gap ++ (d.text ++ (gap₁ ++ (fromWord ++ (gap₂ ++ p.written))))) := rfl

def Fits : ImportSyntax → Prop
  | .effects gap path => (gap ≠ [] ∧ Spaces gap) ∧ path.WellFormed
  | .binding gap d gap₁ gap₂ path =>
      (gap ≠ [] ∧ Spaces gap) ∧ d.Fits (gap₁ ++ fromWord) ∧ Spaces gap₁ ∧ Spaces gap₂ ∧
        path.WellFormed

instance : (d : ImportSyntax) → Decidable d.Fits
  | .effects _ _ => inferInstanceAs (Decidable ((_ ∧ _) ∧ _))
  | .binding _ _ _ _ _ => inferInstanceAs (Decidable ((_ ∧ _) ∧ _ ∧ _ ∧ _ ∧ _))

/-- What the statement says. -/
def meaning : ImportSyntax → Import
  | .effects _ path => ⟨.effects, path⟩
  | .binding _ d _ _ path => ⟨d.binding, path⟩

/-- A statement ends with its path. -/
theorem exists_text_eq (d : ImportSyntax) : ∃ w, d.text = w ++ d.meaning.path.written := by
  cases d with
  | effects gap p => exact ⟨keyword ++ gap, (List.append_assoc _ _ _).symm⟩
  | binding gap d gap₁ gap₂ p =>
      refine ⟨keyword ++ (gap ++ (d.text ++ (gap₁ ++ (fromWord ++ gap₂)))), ?_⟩
      simp only [text_binding, List.append_assoc]
      rfl

end ImportSyntax

namespace StarSyntax

/-- Whether a star fits depends on the first character behind it only. -/
theorem fits_append {d : StarSyntax} (hne : after ≠ []) :
    d.Fits (after ++ rest) ↔ d.Fits after := by
  cases d with
  | bare => rfl
  | named gap₁ gap₂ name => simp only [Fits, nameEnds_iff, stops_append hne]

end StarSyntax

namespace BindingSyntax

theorem fits_append {d : BindingSyntax} (hne : after ≠ []) :
    d.Fits (after ++ rest) ↔ d.Fits after := by
  have hgroup (g : GroupSyntax) : g.Fits (after ++ rest) ↔ g.Fits after := by
    cases g with
    | list b => rfl
    | star d => exact StarSyntax.fits_append hne
  cases d with
  | group g => exact hgroup g
  | default name => simp only [Fits, nameEnds_iff, stops_append hne]
  | both name gap₁ gap₂ g => simp only [Fits, hgroup]

/-- A binding starts neither with a space nor with a quote. -/
theorem text_start {d : BindingSyntax} (rest : Text) (hd : d.Fits after) :
    Stops isSpace (d.text ++ rest) ∧ Stops PathLiteral.isQuote (d.text ++ rest) := by
  have hname {name t : Text} (hn : Specifier.isName name = true) :
      Stops isSpace (name ++ t) ∧ Stops PathLiteral.isQuote (name ++ t) :=
    ⟨stops_isSpace_name hn, stops_name (fun _ => PathLiteral.not_isQuote_of_isNameChar) hn⟩
  cases d with
  | group g =>
      cases g with
      | list b => exact ⟨stops_cons.mpr (by decide), stops_cons.mpr (by decide)⟩
      | star d => exact ⟨stops_cons.mpr (by decide), stops_cons.mpr (by decide)⟩
  | default name => exact hname hd.1
  | both name gap₁ gap₂ g =>
      rw [text, List.append_assoc]
      exact hname hd.1.1

end BindingSyntax

namespace Import

theorem pathAhead_of_stops (h : Stops PathLiteral.isQuote s) : pathAhead s = false := by
  cases s with
  | nil => rfl
  | cons c s => exact h

theorem pathAhead_written {p : PathLiteral} (hp : p.WellFormed) :
    pathAhead (p.written ++ rest) = true := hp.quote

/-- The recognizer accepts what derives, and nothing else. -/
theorem read?_eq_some_iff {i : Import} :
    read? s = some (i, rest) ↔
      ∃ d : ImportSyntax, d.Fits ∧ s = d.text ++ rest ∧ d.meaning = i := by
  constructor
  · intro h
    obtain ⟨t, ht, h₁⟩ := Option.bind_eq_some_iff.mp h
    obtain ⟨u, hu, h₂⟩ := Option.bind_eq_some_iff.mp h₁
    obtain ⟨hst, -⟩ := word?_eq_some_iff.mp ht
    obtain ⟨gap, hne, hgap, -, htu⟩ := spaces?_eq_some_iff.mp hu
    split at h₂
    · obtain ⟨⟨p, r⟩, hp, h₃⟩ := Option.bind_eq_some_iff.mp h₂
      obtain ⟨rfl, rfl⟩ := Prod.mk.inj (Option.some.inj h₃)
      obtain ⟨hwf, hup⟩ := PathLiteral.read?_eq_some_iff.mp hp
      refine ⟨.effects gap p, ⟨⟨hne, hgap⟩, hwf⟩, ?_, rfl⟩
      rw [hst, htu, hup]
      simp only [ImportSyntax.text_effects, List.append_assoc]
    · obtain ⟨⟨x, v⟩, hx, h₃⟩ := Option.bind_eq_some_iff.mp h₂
      obtain ⟨v', hv', h₄⟩ := Option.bind_eq_some_iff.mp h₃
      obtain ⟨⟨p, r⟩, hp, h₅⟩ := Option.bind_eq_some_iff.mp h₄
      obtain ⟨rfl, rfl⟩ := Prod.mk.inj (Option.some.inj h₅)
      obtain ⟨hwf, hvp⟩ := PathLiteral.read?_eq_some_iff.mp hp
      obtain ⟨hvf, -⟩ := word?_eq_some_iff.mp hv'
      obtain ⟨d, w, hw, hud, hd, rfl⟩ := BindingSyntax.exists_of_binding? hx
      obtain ⟨w', hw', hvw'⟩ := exists_spaces v
      obtain ⟨w₂, hw₂, hvw₂⟩ := exists_spaces v'
      -- the binding was read in front of a longer text; only the next character counts
      have hd' : d.Fits (w ++ w' ++ fromWord) := by
        refine (@BindingSyntax.fits_append v' _ _ (append_fromWord_ne_nil _)).mp ?_
        rw [List.append_assoc, List.append_assoc, ← hvf, ← hvw']
        exact hd
      refine ⟨.binding gap d (w ++ w') w₂ p,
        ⟨⟨hne, hgap⟩, hd', run_append.mpr ⟨hw, hw'⟩, hw₂, hwf⟩, ?_, rfl⟩
      rw [hst, htu, hud, hvw', hvf, hvw₂, hvp]
      simp only [ImportSyntax.text_binding, List.append_assoc]
  · rintro ⟨d, hd, rfl, rfl⟩
    cases d with
    | effects gap p =>
        obtain ⟨⟨hne, hgap⟩, hwf⟩ := hd
        simp only [ImportSyntax.text_effects, List.append_assoc]
        refine Option.bind_eq_some_iff.mpr ⟨_, word?_append (nameEnds_gap_append hne hgap), ?_⟩
        refine Option.bind_eq_some_iff.mpr ⟨_, spaces?_eq_some_iff.mpr
          ⟨gap, hne, hgap, hwf.stops_spaces, rfl⟩, ?_⟩
        rw [if_pos (pathAhead_written hwf)]
        exact Option.bind_eq_some_iff.mpr ⟨_, PathLiteral.read?_written hwf, rfl⟩
    | binding gap d gap₁ gap₂ p =>
        obtain ⟨⟨hne, hgap⟩, hd, h₁, h₂, hwf⟩ := hd
        have hd' : d.Fits (gap₁ ++ (fromWord ++ (gap₂ ++ (p.written ++ rest)))) := by
          rw [← List.append_assoc]
          exact (BindingSyntax.fits_append (append_fromWord_ne_nil _)).mpr hd
        have hends : nameEnds (gap₂ ++ (p.written ++ rest)) = true :=
          nameEnds_spaces_append h₂ hwf.nameEnds
        obtain ⟨hstart, hquote⟩ := BindingSyntax.text_start
          (gap₁ ++ (fromWord ++ (gap₂ ++ (p.written ++ rest)))) hd
        -- the word `from` is not taken for `as`, and no comma stands before it
        obtain ⟨r, hread, hskip⟩ := BindingSyntax.binding?_text hd' h₁
          (stops_cons.mpr (by decide)) (word?_cons_eq_none (by decide))
          (fun u hu => absurd (List.cons.inj hu).1 (by decide))
        simp only [ImportSyntax.text_binding, List.append_assoc]
        refine Option.bind_eq_some_iff.mpr ⟨_, word?_append (nameEnds_gap_append hne hgap), ?_⟩
        refine Option.bind_eq_some_iff.mpr ⟨_, spaces?_eq_some_iff.mpr
          ⟨gap, hne, hgap, hstart, rfl⟩, ?_⟩
        rw [if_neg (by rw [pathAhead_of_stops hquote]; exact Bool.false_ne_true)]
        refine Option.bind_eq_some_iff.mpr ⟨_, hread, ?_⟩
        simp only [hskip]
        refine Option.bind_eq_some_iff.mpr ⟨_, word?_append hends, ?_⟩
        rw [skipSpaces_run h₂ hwf.stops_spaces]
        exact Option.bind_eq_some_iff.mpr ⟨_, PathLiteral.read?_written hwf, rfl⟩

theorem consumes_read? : Piece.Consumes read? := by
  intro s i rest h
  obtain ⟨d, -, hs, -⟩ := read?_eq_some_iff.mp h
  refine ⟨d.text, ?_, hs⟩
  cases d <;> exact List.cons_ne_nil _ _

end Import

/-! ## One text, one derivation -/

variable {w' q q' : Text}

/-- Behind a run of spaces, two different characters tell two texts apart. -/
theorem spaces_append_ne {c c' : Char} (hw : Spaces w) (hw' : Spaces w')
    (hc : isSpace c = false) (hc' : isSpace c' = false) (hne : c ≠ c') :
    w ++ c :: q ≠ w' ++ c' :: q' := by
  intro he
  obtain ⟨-, ht⟩ := run_append_unique hw (stops_cons.mpr hc) hw' (stops_cons.mpr hc') he
  exact hne (List.cons.inj ht).1

theorem spaces_from_unique (hw : Spaces w) (hw' : Spaces w')
    (he : w ++ (fromWord ++ q) = w' ++ (fromWord ++ q')) : w = w' ∧ q = q' := by
  obtain ⟨rfl, ht⟩ := run_append_unique hw (stops_fromWord _) hw' (stops_fromWord _) he
  exact ⟨rfl, List.append_cancel_left ht⟩

theorem StarSyntax.tail_append_unique {d d' : StarSyntax} (h : d.Fits (w ++ (fromWord ++ q)))
    (h' : d'.Fits (w' ++ (fromWord ++ q'))) (hw : Spaces w) (hw' : Spaces w')
    (he : d.tail ++ (w ++ (fromWord ++ q)) = d'.tail ++ (w' ++ (fromWord ++ q'))) :
    d = d' ∧ w = w' ∧ q = q' := by
  cases d with
  | bare =>
      cases d' with
      | bare => exact ⟨rfl, spaces_from_unique hw hw' he⟩
      | named gap₁' gap₂' name' =>
          simp only [tail, List.append_assoc] at he
          exact absurd he (spaces_append_ne hw h'.1 (by decide) (by decide) (by decide))
  | named gap₁ gap₂ name =>
      cases d' with
      | bare =>
          simp only [tail, List.append_assoc] at he
          exact absurd he (spaces_append_ne h.1 hw' (by decide) (by decide) (by decide))
      | named gap₁' gap₂' name' =>
          obtain ⟨h₁, h₂, -, hn, hends⟩ := h
          obtain ⟨h₁', h₂', -, hn', hends'⟩ := h'
          simp only [tail, List.append_assoc] at he
          obtain ⟨rfl, he₁⟩ := run_append_unique h₁ (stops_asWord _) h₁' (stops_asWord _) he
          obtain ⟨rfl, he₂⟩ := run_append_unique h₂ (stops_isSpace_name hn) h₂'
            (stops_isSpace_name hn') (List.append_cancel_left he₁)
          obtain ⟨rfl, he₃⟩ := name_append_unique hn hends hn' hends' he₂
          exact ⟨rfl, spaces_from_unique hw hw' he₃⟩

theorem GroupSyntax.text_append_unique {g g' : GroupSyntax}
    (h : g.Fits (w ++ (fromWord ++ q))) (h' : g'.Fits (w' ++ (fromWord ++ q')))
    (hw : Spaces w) (hw' : Spaces w')
    (he : g.text ++ (w ++ (fromWord ++ q)) = g'.text ++ (w' ++ (fromWord ++ q'))) :
    g = g' ∧ w = w' ∧ q = q' := by
  cases g with
  | list b =>
      cases g' with
      | list b' =>
          obtain ⟨rfl, he'⟩ := ListSyntax.text_append_unique h h' he
          exact ⟨rfl, spaces_from_unique hw hw' he'⟩
      | star d' => exact absurd (List.cons.inj he).1 (by decide)
  | star d =>
      cases g' with
      | list b' => exact absurd (List.cons.inj he).1 (by decide)
      | star d' =>
          obtain ⟨rfl, hrest⟩ := StarSyntax.tail_append_unique h h' hw hw' (List.cons.inj he).2
          exact ⟨rfl, hrest⟩

/-- A group does not start like a name. -/
theorem GroupSyntax.text_append_ne_name {g : GroupSyntax} {name t t' : Text}
    (hn : Specifier.isName name = true) : g.text ++ t ≠ name ++ t' := by
  intro he
  obtain ⟨hne, hrun⟩ := isName_iff.mp hn
  obtain ⟨c, name, rfl⟩ := List.exists_cons_of_ne_nil hne
  have hc := (run_cons.mp hrun).1
  cases g with
  | list b => rw [← (List.cons.inj he).1] at hc; exact absurd hc (by decide)
  | star d => rw [← (List.cons.inj he).1] at hc; exact absurd hc (by decide)

theorem GroupSyntax.stops_text (g : GroupSyntax) (t : Text) : Stops isSpace (g.text ++ t) := by
  cases g with
  | list b => exact stops_cons.mpr (by decide)
  | star d => exact stops_cons.mpr (by decide)

/-- The first character behind a name tells a name alone from a name with a group. -/
theorem BindingSyntax.text_append_unique {d d' : BindingSyntax}
    (h : d.Fits (w ++ (fromWord ++ q))) (h' : d'.Fits (w' ++ (fromWord ++ q')))
    (hw : Spaces w) (hw' : Spaces w')
    (he : d.text ++ (w ++ (fromWord ++ q)) = d'.text ++ (w' ++ (fromWord ++ q'))) :
    d = d' ∧ w = w' ∧ q = q' := by
  have hcomma {gap t : Text} (hgap : Spaces gap) : nameEnds (gap ++ ',' :: t) = true :=
    nameEnds_spaces_append hgap rfl
  cases d with
  | group g =>
      cases d' with
      | group g' =>
          obtain ⟨rfl, hrest⟩ := GroupSyntax.text_append_unique h h' hw hw' he
          exact ⟨rfl, hrest⟩
      | default name' => exact absurd he (GroupSyntax.text_append_ne_name h'.1)
      | both name' gap₁' gap₂' g' =>
          rw [text, text, List.append_assoc] at he
          exact absurd he (GroupSyntax.text_append_ne_name h'.1.1)
  | default name =>
      cases d' with
      | group g' => exact absurd he.symm (GroupSyntax.text_append_ne_name h.1)
      | default name' =>
          obtain ⟨rfl, he₁⟩ := name_append_unique h.1 h.2 h'.1 h'.2 he
          exact ⟨rfl, spaces_from_unique hw hw' he₁⟩
      | both name' gap₁' gap₂' g' =>
          simp only [text, List.append_assoc, List.cons_append] at he
          obtain ⟨rfl, he₁⟩ := name_append_unique h.1 h.2 h'.1.1 (hcomma h'.2.1) he
          exact absurd he₁ (spaces_append_ne hw h'.2.1 (by decide) (by decide) (by decide))
  | both name gap₁ gap₂ g =>
      simp only [text, List.append_assoc, List.cons_append] at he
      cases d' with
      | group g' => exact absurd he.symm (GroupSyntax.text_append_ne_name h.1.1)
      | default name' =>
          obtain ⟨rfl, he₁⟩ := name_append_unique h.1.1 (hcomma h.2.1) h'.1 h'.2 he
          exact absurd he₁ (spaces_append_ne h.2.1 hw' (by decide) (by decide) (by decide))
      | both name' gap₁' gap₂' g' =>
          obtain ⟨⟨hn, -⟩, h₁, h₂, hg⟩ := h
          obtain ⟨⟨hn', -⟩, h₁', h₂', hg'⟩ := h'
          simp only [List.append_assoc, List.cons_append] at he
          obtain ⟨rfl, he₁⟩ := name_append_unique hn (hcomma h₁) hn' (hcomma h₁') he
          obtain ⟨rfl, he₂⟩ := run_append_unique h₁ (stops_cons.mpr (by decide)) h₁'
            (stops_cons.mpr (by decide)) he₁
          obtain ⟨rfl, he₃⟩ := run_append_unique h₂ (g.stops_text _) h₂' (g'.stops_text _)
            (List.cons.inj he₂).2
          obtain ⟨rfl, hrest⟩ := GroupSyntax.text_append_unique hg hg' hw hw' he₃
          exact ⟨rfl, hrest⟩

theorem ImportSyntax.effects_append_ne_binding {gap gap' gap₁ gap₂ : Text} {p p' : PathLiteral}
    {d : BindingSyntax} (h : (effects gap p).Fits) (h' : (binding gap' d gap₁ gap₂ p').Fits) :
    (effects gap p).text ++ rest ≠ (binding gap' d gap₁ gap₂ p').text ++ rest' := by
  intro he
  obtain ⟨⟨-, hgap⟩, hp⟩ := h
  obtain ⟨⟨-, hgap'⟩, hd, -⟩ := h'
  obtain ⟨hspace, hquote⟩ := BindingSyntax.text_start
    (gap₁ ++ (fromWord ++ (gap₂ ++ (p'.written ++ rest')))) hd
  simp only [text_effects, text_binding, List.append_assoc] at he
  obtain ⟨-, he₁⟩ := run_append_unique hgap hp.stops_spaces hgap' hspace
    (List.append_cancel_left he)
  rw [← he₁] at hquote
  exact Bool.false_ne_true ((stops_cons.mp hquote).symm.trans hp.quote)

theorem ImportSyntax.text_append_unique {d d' : ImportSyntax} (h : d.Fits) (h' : d'.Fits)
    (he : d.text ++ rest = d'.text ++ rest') : d = d' ∧ rest = rest' := by
  cases d with
  | effects gap p =>
      cases d' with
      | effects gap' p' =>
          obtain ⟨⟨-, hgap⟩, hp⟩ := h
          obtain ⟨⟨-, hgap'⟩, hp'⟩ := h'
          simp only [text_effects, List.append_assoc] at he
          obtain ⟨rfl, he₁⟩ := run_append_unique hgap hp.stops_spaces hgap' hp'.stops_spaces
            (List.append_cancel_left he)
          obtain ⟨rfl, hrest⟩ := PathLiteral.written_append_unique hp hp' he₁
          exact ⟨rfl, hrest⟩
      | binding gap' d' gap₁' gap₂' p' => exact absurd he (effects_append_ne_binding h h')
  | binding gap d gap₁ gap₂ p =>
      cases d' with
      | effects gap' p' => exact absurd he.symm (effects_append_ne_binding h' h)
      | binding gap' d' gap₁' gap₂' p' =>
          obtain ⟨⟨-, hgap⟩, hd, h₁, h₂, hp⟩ := h
          obtain ⟨⟨-, hgap'⟩, hd', h₁', h₂', hp'⟩ := h'
          have hfits {d : BindingSyntax} {u v : Text} (h : d.Fits (u ++ fromWord)) :
              d.Fits (u ++ (fromWord ++ v)) := by
            rw [← List.append_assoc]
            exact (BindingSyntax.fits_append (append_fromWord_ne_nil _)).mpr h
          simp only [text_binding, List.append_assoc] at he
          obtain ⟨rfl, he₁⟩ := run_append_unique hgap (BindingSyntax.text_start _ hd).1 hgap'
            (BindingSyntax.text_start _ hd').1 (List.append_cancel_left he)
          obtain ⟨rfl, rfl, he₂⟩ := BindingSyntax.text_append_unique (hfits hd) (hfits hd') h₁
            h₁' he₁
          obtain ⟨rfl, he₃⟩ := run_append_unique h₂ hp.stops_spaces h₂' hp'.stops_spaces he₂
          obtain ⟨rfl, hrest⟩ := PathLiteral.written_append_unique hp hp' he₃
          exact ⟨rfl, hrest⟩

namespace Import

/-- The text derives an import. -/
def Derives (t : Text) (i : Import) (rest : Text) : Prop :=
  ∃ d : ImportSyntax, d.Fits ∧ t = d.text ++ rest ∧ d.meaning = i

/-- The imports of a source are found by visiting its line starts, where each text has at most
    one derivation. -/
theorem imports_eq_iff_visits (source : Text) (found : List (Located Import)) :
    (find source = found ↔ Visits Derives 0 (lineStarts source) found) ∧
      ∀ (d d' : ImportSyntax) (rest rest' : Text), d.Fits → d'.Fits →
        d.text ++ rest = d'.text ++ rest' → d = d' ∧ rest = rest' :=
  ⟨locate_eq_iff_visits read?_eq_some_iff consumes_read? source found,
    fun _ _ _ _ => ImportSyntax.text_append_unique⟩

end Import

/-! ## Where no import starts -/

/-- A character of the body of a list. -/
def isListChar (c : Char) : Bool := isNameChar c || isBlank c || c = ','

theorem ListSyntax.run_isListChar {b : ListSyntax} (h : b.Fits) : Run isListChar b.body := by
  intro c hc
  rcases mem_body h hc with hc | hc | rfl
  · simp [isListChar, hc]
  · simp [isListChar, hc]
  · decide

theorem run_isListChar_of_spaces (hw : Spaces w) : Run isListChar w :=
  run_mono (fun c hc => by simp [isListChar, isBlank_of_isSpace hc]) hw

theorem run_isListChar_of_isName {name : Text} (hn : Specifier.isName name = true) :
    Run isListChar name :=
  run_mono (fun c hc => by simp [isListChar, hc]) (isName_iff.mp hn).2

theorem PathLiteral.not_isListChar_of_isQuote {c : Char} (h : isQuote c = true) :
    isListChar c = false ∧ c ≠ '\x7d' := by
  simp only [isQuote, Bool.or_eq_true, decide_eq_true_eq] at h
  rcases h with (rfl | rfl) | rfl <;> decide

/-- Going on from the front of an import, the first character that does not stand in lists is a
    brace that opens, a star or a quote. -/
theorem ImportSyntax.exists_stop {d : ImportSyntax} (h : d.Fits) :
    ∃ u c v, d.text = u ++ c :: v ∧ Run isListChar u ∧ isListChar c = false ∧ c ≠ '\x7d' := by
  have hkeyword {u : Text} (hu : Run isListChar u) : Run isListChar (keyword ++ u) :=
    run_append.mpr ⟨by decide, hu⟩
  have hgroup (g : GroupSyntax) :
      ∃ c v, g.text = c :: v ∧ isListChar c = false ∧ c ≠ '\x7d' := by
    cases g with
    | list b => exact ⟨_, _, rfl, by decide, by decide⟩
    | star d => exact ⟨_, _, rfl, by decide, by decide⟩
  cases d with
  | effects gap p =>
      obtain ⟨⟨-, hgap⟩, hp⟩ := h
      obtain ⟨hc, hne⟩ := PathLiteral.not_isListChar_of_isQuote hp.quote
      refine ⟨keyword ++ gap, p.quote, p.value ++ [p.quote], ?_,
        hkeyword (run_isListChar_of_spaces hgap), hc, hne⟩
      rw [text_effects, List.append_assoc]
      rfl
  | binding gap d gap₁ gap₂ p =>
      obtain ⟨⟨-, hgap⟩, hd, h₁, h₂, hp⟩ := h
      have hgap := run_isListChar_of_spaces hgap
      cases d with
      | group g =>
          obtain ⟨c, v, hg, hc, hne⟩ := hgroup g
          refine ⟨keyword ++ gap, c, v ++ (gap₁ ++ (fromWord ++ (gap₂ ++ p.written))), ?_,
            hkeyword hgap, hc, hne⟩
          rw [text_binding, BindingSyntax.text, hg, List.append_assoc, List.cons_append]
      | default name =>
          obtain ⟨hc, hne⟩ := PathLiteral.not_isListChar_of_isQuote hp.quote
          have hname := run_isListChar_of_isName hd.1
          have hfrom : Run isListChar (fromWord ++ gap₂) :=
            run_append.mpr ⟨by decide, run_isListChar_of_spaces h₂⟩
          refine ⟨keyword ++ (gap ++ (name ++ (gap₁ ++ (fromWord ++ gap₂)))), p.quote,
            p.value ++ [p.quote], ?_, hkeyword (run_append.mpr ⟨hgap, run_append.mpr
              ⟨hname, run_append.mpr ⟨run_isListChar_of_spaces h₁, hfrom⟩⟩⟩), hc, hne⟩
          simp only [text_binding, BindingSyntax.text, List.append_assoc]
          rfl
      | both name gap' gap₃ g =>
          obtain ⟨⟨hn, -⟩, h', h₃, -⟩ := hd
          obtain ⟨c, v, hg, hc, hne⟩ := hgroup g
          have hname := run_isListChar_of_isName hn
          have hcomma : Run isListChar (',' :: gap₃) :=
            run_cons.mpr ⟨by decide, run_isListChar_of_spaces h₃⟩
          refine ⟨keyword ++ (gap ++ (name ++ (gap' ++ ',' :: gap₃))), c,
            v ++ (gap₁ ++ (fromWord ++ (gap₂ ++ p.written))), ?_, hkeyword (run_append.mpr
              ⟨hgap, run_append.mpr ⟨hname, run_append.mpr ⟨run_isListChar_of_spaces h',
                hcomma⟩⟩⟩), hc, hne⟩
          simp only [text_binding, BindingSyntax.text, hg, List.append_assoc, List.cons_append]

/-- No import starts in the body of a list: it would have to go on behind the closing brace. -/
theorem Import.read?_eq_none_of_list {u : Text} (hu : Run isListChar u) :
    read? (u ++ '\x7d' :: rest) = none := by
  cases h : read? (u ++ '\x7d' :: rest) with
  | none => rfl
  | some r =>
      obtain ⟨i, rest'⟩ := r
      obtain ⟨d, hd, hs, -⟩ := read?_eq_some_iff.mp h
      obtain ⟨u', c, v, hd, hu', hc, hne⟩ := d.exists_stop hd
      rw [hd, List.append_assoc, List.cons_append] at hs
      obtain ⟨-, hs⟩ := run_append_unique hu (stops_cons.mpr (by decide)) hu'
        (stops_cons.mpr hc) hs
      exact absurd (List.cons.inj hs).1.symm hne

theorem Import.read?_eq_none_of_word? (h : word? ImportSyntax.keyword s = none) :
    read? s = none :=
  congrArg (Option.bind · _) h

end RequireForm
