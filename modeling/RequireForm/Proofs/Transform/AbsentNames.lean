import RequireForm.Proofs.Import.Meaning
import RequireForm.Proofs.Source.Names
import RequireForm.Transform.Basic

/-!
# Absent names — the first pass writes no name with a `$` of its own

    `import $a, { b as $c } from 'm'`      const $a = require('m').default || require('m');
                                           const $c = require('m').b

What the first pass writes are names of the import, its path, and words without a `$`. A name with
a `$` in front that is absent from a source is absent from what the first pass makes of it: what
is left of the statement's line can only go on with the name of a member, behind a dot.

  1. `ImportBinding.bound`: the names that an import binds stand in it.
  2. `Passes`: texts that do not bring an absent name with them.
  3. `absent_importPass`.
-/

namespace RequireForm

open Text

variable {name k t u x rest : Text} {c : Char} {free b : Bool}

/-! ## The names that an import binds -/

/-- The names that a binding binds. -/
def ImportBinding.bound : ImportBinding → List Text
  | .effects => []
  | .default name => [name]
  | .star name? => name?.toList
  | .named items => items.map (·.bound)
  | .defaultAndNamed name items => name :: items.map (·.bound)
  | .defaultAndStar name name? => name :: name?.toList

/-- The names that a line binds. -/
def ImportLine.bound : ImportLine → List Text
  | .load => []
  | .const (.name name) _ => [name]
  | .const (.names names) _ => names

theorem mem_bound_ofList {items : List Specifier} {l : ImportLine}
    (hl : l ∈ (Bound.ofList items).lines) (hk : k ∈ l.bound) : k ∈ items.map (·.bound) := by
  rw [Bound.ofList] at hl
  split at hl
  · obtain rfl := List.mem_singleton.mp hl
    cases hk
  · rcases List.mem_append.mp hl with hl | hl
    · have hplain : k ∈ items.filterMap (·.plainName?) := by
        generalize items.filterMap (·.plainName?) = names at hl
        cases names with
        | nil => cases hl
        | cons name names =>
            obtain rfl := List.mem_singleton.mp hl
            exact hk
      obtain ⟨⟨own, _ | alias_⟩, hitem, hown⟩ := List.mem_filterMap.mp hplain
      · obtain rfl := Option.some.inj hown
        exact List.mem_map.mpr ⟨_, hitem, rfl⟩
      · cases hown
    · obtain ⟨pair, hpair, rfl⟩ := List.mem_map.mp hl
      obtain rfl := List.mem_singleton.mp hk
      obtain ⟨⟨own, _ | alias_⟩, hitem, hown⟩ := List.mem_filterMap.mp hpair
      · cases hown
      · obtain rfl := Option.some.inj hown
        exact List.mem_map.mpr ⟨_, hitem, rfl⟩

theorem mem_bound_ofStar {name? : Option Text} {l : ImportLine}
    (hl : l ∈ (Bound.ofStar name?).lines) (hk : k ∈ l.bound) : k ∈ name?.toList := by
  cases name? with
  | none =>
      obtain rfl := List.mem_singleton.mp hl
      exact nomatch hk
  | some name =>
      obtain rfl := List.mem_singleton.mp hl
      exact hk

/-- What a line of an import binds is bound by the import. -/
theorem ImportBinding.mem_bound {i : ImportBinding} {l : ImportLine} (hl : l ∈ i.meaning.lines)
    (hk : k ∈ l.bound) : k ∈ i.bound := by
  cases i with
  | effects =>
      obtain rfl := List.mem_singleton.mp hl
      exact nomatch hk
  | default name =>
      obtain rfl := List.mem_singleton.mp hl
      exact hk
  | star name? => exact mem_bound_ofStar hl hk
  | named items => exact mem_bound_ofList hl hk
  | defaultAndNamed name items =>
      rcases List.mem_cons.mp hl with rfl | hl
      · exact List.mem_cons.mpr (Or.inl (List.mem_singleton.mp hk))
      · exact List.mem_cons_of_mem _ (mem_bound_ofList hl hk)
  | defaultAndStar name name? =>
      rcases List.mem_cons.mp hl with rfl | hl
      · exact List.mem_cons.mpr (Or.inl (List.mem_singleton.mp hk))
      · exact List.mem_cons_of_mem _ (mem_bound_ofStar hl hk)

/-! ## They stand in it -/

theorem Absent.ne_of_item {d : ItemSyntax} {item : Specifier} (h : Absent name true d.text)
    (hd : d.Fits) (hitem : d.specifier? = some item) : item.bound ≠ name := by
  cases d with
  | empty gap => exact nomatch hitem
  | plain before own after =>
      obtain rfl := Option.some.inj hitem
      obtain ⟨hbefore, hown, hafter⟩ := hd
      have hfront := h.behind
      rw [opensBehind_run (run_opensName_of_blanks hbefore)] at hfront
      exact hfront.ne_of_front hown (nameEnds_blanks hafter)
  | aliased before own gap₁ gap₂ alias_ after =>
      obtain rfl := Option.some.inj hitem
      obtain ⟨-, -, -, ⟨hne, hgap⟩, halias, hafter⟩ := hd
      have hassoc : (ItemSyntax.aliased before own gap₁ gap₂ alias_ after).text
          = before ++ (own ++ (gap₁ ++ asWord)) ++ gap₂ ++ (alias_ ++ after) := by
        simp only [ItemSyntax.text, List.append_assoc]
      rw [hassoc] at h
      have hfront := h.behind
      rw [opensBehind_append, opensBehind_of_ne_nil hne (run_opensName_of_blanks hgap)] at hfront
      exact hfront.ne_of_front halias (nameEnds_blanks hafter)

/-- What is absent from the body of a list is absent from its items, which commas part. -/
theorem Absent.items (hname : name ≠ []) {first : ItemSyntax} {others : List ItemSyntax}
    (h : Absent name true (ListSyntax.body ⟨first, others⟩)) :
    ∀ d ∈ first :: others, Absent name true d.text := by
  induction others generalizing first with
  | nil =>
      intro d hd
      obtain rfl := List.mem_singleton.mp hd
      rw [ListSyntax.body, List.flatMap_nil, List.append_nil] at h
      exact h
  | cons second others ih =>
      have hbody : ListSyntax.body ⟨first, second :: others⟩
          = first.text ++ ',' :: ListSyntax.body ⟨second, others⟩ := by
        simp [ListSyntax.body]
      rw [hbody] at h
      obtain ⟨hfirst, hothers⟩ := (append_mark_iff (by decide) hname).mp h
      exact List.forall_mem_cons.mpr ⟨hfirst, ih hothers⟩

theorem Absent.ne_of_list (hname : name ≠ []) {l : ListSyntax}
    (h : Absent name free (l.text ++ x)) (hl : l.Fits) :
    ∀ k ∈ l.specifiers.map (·.bound), k ≠ name := by
  have hinside : Absent name true (l.body ++ '\x7d' :: x) := by
    have htail : Absent name true (l.body ++ ['\x7d'] ++ x) := h.2
    rwa [List.append_assoc] at htail
  have hitems := ((append_mark_iff (by decide) hname).mp hinside).1.items hname
  intro k hk
  obtain ⟨item, hitem, rfl⟩ := List.mem_map.mp hk
  obtain ⟨d, hd, hspec⟩ := List.mem_filterMap.mp hitem
  exact (hitems d hd).ne_of_item (hl d hd) hspec

theorem Absent.ne_of_star {d : StarSyntax} (h : Absent name free (d.text ++ x)) (hd : d.Fits x) :
    ∀ k ∈ d.name?.toList, k ≠ name := by
  cases d with
  | bare => exact fun _ hk => nomatch hk
  | named gap₁ gap₂ own =>
      obtain ⟨-, hgap, hends, hown, hx⟩ := hd
      rw [← List.append_nil own] at hends
      have hne := gap_ne_nil hends hown
      intro k hk
      obtain rfl := List.mem_singleton.mp hk
      have hassoc : (StarSyntax.named gap₁ gap₂ k).text ++ x
          = '*' :: (gap₁ ++ asWord) ++ gap₂ ++ (k ++ x) := by
        simp only [StarSyntax.text, StarSyntax.tail, List.append_assoc, List.cons_append]
      rw [hassoc] at h
      have hfront := h.behind
      rw [opensBehind_append, opensBehind_of_ne_nil hne (run_opensName_of_spaces hgap)] at hfront
      exact hfront.ne_of_front hown hx

theorem Absent.ne_of_group (hname : name ≠ []) {g : GroupSyntax}
    (h : Absent name free (g.text ++ x)) (hg : g.Fits x) : ∀ k ∈ g.binding.bound, k ≠ name := by
  cases g with
  | list l => exact h.ne_of_list hname hg
  | star d => exact h.ne_of_star hg

/-- A name that is absent from an import is not one of those that it binds. -/
theorem Absent.ne_of_import (hname : name ≠ []) {d : ImportSyntax}
    (h : Absent name free (d.text ++ rest)) (hd : d.Fits) :
    ∀ k ∈ d.meaning.binding.bound, k ≠ name := by
  cases d with
  | effects gap p => exact fun _ hk => nomatch hk
  | binding gap d gap₁ gap₂ p =>
      obtain ⟨⟨hne, hgap⟩, hd, -⟩ := hd
      generalize hx : gap₁ ++ fromWord ++ (gap₂ ++ (p.written ++ rest)) = x
      have hfits : d.Fits x := by
        rw [← hx]
        exact (BindingSyntax.fits_append (append_fromWord_ne_nil gap₁)).mpr hd
      have hassoc : (ImportSyntax.binding gap d gap₁ gap₂ p).text ++ rest
          = ImportSyntax.keyword ++ gap ++ (d.text ++ x) := by
        rw [← hx, ImportSyntax.text_binding]
        simp only [List.append_assoc]
      rw [hassoc] at h
      have hfront := h.behind
      rw [opensBehind_append, opensBehind_of_ne_nil hne (run_opensName_of_spaces hgap)] at hfront
      cases d with
      | group g => exact hfront.ne_of_group hname hfits
      | default own =>
          intro k hk
          obtain rfl := List.mem_singleton.mp hk
          exact hfront.ne_of_front hfits.1 hfits.2
      | both own gap₃ gap₄ g =>
          obtain ⟨⟨hown, hends⟩, hgap₃, hgap₄, hg⟩ := hfits
          have hassoc : (BindingSyntax.both own gap₃ gap₄ g).text ++ x
              = own ++ (gap₃ ++ ',' :: (gap₄ ++ (g.text ++ x))) := by
            simp only [BindingSyntax.text, List.append_assoc, List.cons_append]
          rw [hassoc] at hfront
          have hcomma : nameEnds (gap₃ ++ ',' :: (gap₄ ++ (g.text ++ x))) = true :=
            nameEnds_spaces_append hgap₃ rfl
          have hgroup : Absent name _ (g.text ++ x) := (hfront.behind.behind.2).behind
          have hbound : (BindingSyntax.both own gap₃ gap₄ g).binding.bound
              = own :: g.binding.bound := by
            cases g with
            | list l => rfl
            | star d => rfl
          intro k hk
          have hk : k ∈ own :: g.binding.bound := hbound ▸ hk
          rcases List.mem_cons.mp hk with rfl | hk
          · exact hfront.ne_of_front hown hcomma
          · exact hgroup.ne_of_group hname hg k hk

/-! ## Texts that bring no absent name with them -/

/-- In front of a text from which a name is absent, the text may stand, and the name is still
    absent. -/
def Passes (name t : Text) : Prop := ∀ x, Absent name true x → Absent name true (t ++ x)

namespace Passes

theorem nil : Passes name [] := fun _ h => h

theorem append (ht : Passes name t) (hu : Passes name u) : Passes name (t ++ u) := by
  intro x hx
  rw [List.append_assoc]
  exact ht _ (hu x hx)

theorem join {separator : Text} {ts : List Text} (hs : Passes name separator)
    (h : ∀ t ∈ ts, Passes name t) : Passes name (Text.join separator ts) := by
  induction ts with
  | nil => exact nil
  | cons t ts ih =>
      obtain ⟨ht, hts⟩ := List.forall_mem_cons.mp h
      cases ts with
      | nil => exact ht
      | cons u ts => exact (ht.append hs).append (ih hts)

theorem of_not_mem (hname : name.head? = some c) (hc : c ∉ t) : Passes name t :=
  fun _ hx => .of_not_mem hname hc hx.mono

/-- Another name, with a mark behind it. -/
theorem other (hk : Specifier.isName k = true) (hne : k ≠ name) (hc : isNameChar c = false)
    (h : Passes name (c :: t)) : Passes name (k ++ c :: t) := by
  intro x hx
  rw [List.append_assoc]
  exact .other hk hne (nameEnds_iff.mpr (stops_cons.mpr hc)) (h x hx).mono

/-- The name of a member. -/
theorem member (hname : name ≠ []) (hk : Specifier.isName k = true) : Passes name ('.' :: k) :=
  fun _ hx => ⟨fun _ he => hname he.symm, .member (isName_iff.mp hk).2 hx.mono⟩

/-- Other names with commas between them, and a mark behind the last one. -/
theorem names {ks : List Text} (hname : name.head? = some '$')
    (hks : ∀ k ∈ ks, Specifier.isName k = true ∧ k ≠ name) (hc : isNameChar c = false)
    (h : Passes name (c :: t)) : Passes name (Text.join ", ".toList ks ++ c :: t) := by
  induction ks with
  | nil => exact h
  | cons k ks ih =>
      obtain ⟨⟨hk, hne⟩, hks⟩ := List.forall_mem_cons.mp hks
      cases ks with
      | nil => exact other hk hne hc h
      | cons next ks =>
          have hassoc : Text.join ", ".toList (k :: next :: ks) ++ c :: t
              = k ++ ',' :: ([' '] ++ (Text.join ", ".toList (next :: ks) ++ c :: t)) := by
            show k ++ [',', ' '] ++ _ ++ _ = _
            simp only [List.append_assoc, List.cons_append, List.nil_append]
          rw [hassoc]
          refine other hk hne (by decide) ?_
          exact (of_not_mem (t := [',', ' ']) hname (by decide)).append (ih hks)

/-- A path from whose value the name is absent. -/
theorem written {p : PathLiteral} (hname : name ≠ []) (hp : PathLiteral.isQuote p.quote = true)
    (h : Absent name true p.value) : Passes name p.written := by
  have hquote := PathLiteral.not_isNameChar_of_isQuote hp
  intro x hx
  have hassoc : p.written ++ x = [] ++ p.quote :: (p.value ++ p.quote :: x) := by
    simp [PathLiteral.written, PathLiteral.quoting]
  rw [hassoc]
  refine (Absent.append_mark_iff hquote hname).mpr ⟨trivial, ?_⟩
  exact (Absent.append_mark_iff hquote hname).mpr ⟨h.mono, hx.mono⟩

/-- The call that loads the module of such a path. -/
theorem call {p : PathLiteral} (hname : name.head? = some '$')
    (hp : PathLiteral.isQuote p.quote = true) (h : Absent name true p.value) :
    Passes name (requireCall p.written) := by
  exact ((of_not_mem hname (by decide)).append (written (ne_nil_of_head hname) hp h)).append
    (of_not_mem hname (by decide))

end Passes

theorem opensName_of_isQuote (h : PathLiteral.isQuote c = true) : opensName c = true := by
  have hdot : c ≠ '.' := by
    rintro rfl
    exact absurd h (by decide)
  rw [opensName, PathLiteral.not_isNameChar_of_isQuote h]
  exact decide_eq_true hdot

/-- Behind a path a name may start. -/
theorem opensBehind_written {p : PathLiteral} (hp : PathLiteral.isQuote p.quote = true) :
    opensBehind free (u ++ p.written) = true := by
  have hlast : u ++ p.written = u ++ p.quote :: p.value ++ [p.quote] := by
    simp [PathLiteral.written, PathLiteral.quoting]
  rw [hlast, opensBehind_append]
  exact opensName_of_isQuote hp

/-- A name that is absent from the text of a path is absent from its value. -/
theorem Absent.value {p : PathLiteral} (hname : name ≠ [])
    (hp : PathLiteral.isQuote p.quote = true) (h : Absent name free (u ++ (p.written ++ x))) :
    Absent name true p.value := by
  have hquote := PathLiteral.not_isNameChar_of_isQuote hp
  have hassoc : u ++ (p.written ++ x) = u ++ p.quote :: (p.value ++ p.quote :: x) := by
    simp [PathLiteral.written, PathLiteral.quoting]
  rw [hassoc] at h
  have hvalue := ((append_mark_iff hquote hname).mp h).2
  rw [opensName_of_isQuote hp] at hvalue
  exact ((append_mark_iff hquote hname).mp hvalue).1

/-! ## The first pass -/

theorem Passes.constText (hname : name.head? = some '$') {target : ImportLine.Target}
    (htarget : target.Named) (hbound : ∀ k ∈ (ImportLine.const target .whole).bound, k ≠ name) :
    Passes name (RequireForm.constText target.text) := by
  have hconst : Passes name "const ".toList := .of_not_mem hname (by decide)
  have hequals : Passes name " = ".toList := .of_not_mem hname (by decide)
  cases target with
  | name k =>
      have hassoc : RequireForm.constText k = "const ".toList ++ (k ++ " = ".toList) :=
        List.append_assoc _ _ _
      show Passes name (RequireForm.constText k)
      rw [hassoc]
      exact hconst.append (.other htarget (hbound k List.mem_cons_self) (by decide) hequals)
  | names ks =>
      have hassoc : RequireForm.constText (ImportLine.Target.names ks).text
          = "const ".toList ++
            ("\x7b ".toList ++ (Text.join ", ".toList ks ++ " \x7d = ".toList)) := by
        have hclose : " \x7d = ".toList = " \x7d".toList ++ " = ".toList := by decide
        rw [hclose]
        have htext (t : Text) :
            RequireForm.constText t = "const ".toList ++ t ++ " = ".toList := rfl
        rw [htext]
        simp only [ImportLine.Target.text, List.append_assoc]
      rw [hassoc]
      refine hconst.append (.append (.of_not_mem hname (by decide)) ?_)
      exact .names hname (fun k hk => ⟨htarget.2 k hk, hbound k hk⟩) (by decide)
        (.of_not_mem hname (by decide))

theorem Passes.line {call : Text} (hname : name.head? = some '$') {l : ImportLine}
    (hl : l.Named) (hbound : ∀ k ∈ l.bound, k ≠ name) (hcall : Passes name call) :
    Passes name (l.line.fill call) := by
  cases l with
  | load => exact hcall.append nil
  | const target value =>
      obtain ⟨htarget, hvalue⟩ := hl
      have htext : Passes name (RequireForm.constText target.text) :=
        constText hname htarget (by cases target <;> exact hbound)
      refine htext.append (hcall.append ?_)
      cases value with
      | whole => exact nil
      | member k => exact (member (ne_nil_of_head hname) hvalue).append nil
      | orWhole => exact (of_not_mem hname (by decide)).append (hcall.append nil)

/-- What takes the place of an import brings no name with it that is absent from the import. -/
theorem Passes.require (hname : name.head? = some '$') {d : ImportSyntax} (hd : d.Fits)
    (h : Absent name free (d.text ++ rest)) :
    Passes name (d.meaning.require (.ofOptions {})) := by
  have hne := ne_nil_of_head hname
  have hp := ImportSyntax.path_of_fits hd
  obtain ⟨w, hw⟩ := d.exists_text_eq
  have hvalue : Absent name true d.meaning.path.value := by
    have hwritten := h
    rw [hw, List.append_assoc] at hwritten
    exact hwritten.value hne hp.quote
  have hcall : Passes name ((PathRule.ofOptions {}).call d.meaning.path) :=
    call hname hp.quote hvalue
  rw [Import.require, ImportBinding.require_eq_join]
  refine join (of_not_mem hname (by decide)) fun t ht => ?_
  obtain ⟨l, hl, rfl⟩ := List.mem_map.mp ht
  refine line hname (ImportBinding.named_of_mem_lines (ImportSyntax.named_of_fits hd) hl) ?_ hcall
  exact fun k hk => h.ne_of_import hne hd k (ImportBinding.mem_bound hl hk)

/-- What is absent from a source, and starts with a `$`, is absent from what the first pass makes of
    it. -/
theorem absent_importPass (hname : name.head? = some '$') {s : Text} {ps : List (Piece Import)}
    (hcuts : Piece.Cuts Import.read? b s ps) (h : Absent name free s) :
    Absent name free (importPass (.ofOptions {}) ps) := by
  induction hcuts generalizing free with
  | done => exact h
  | kept _ hcuts ih =>
      refine ⟨fun hfree he => h.1 hfree (Eq.trans ?_ he), ih h.2⟩
      exact (hcuts.takeWhile_kept (by decide) rfl fun _ _ => rfl).symm
  | @statement w rest i ps _ hread _ ih =>
      obtain ⟨d, hd, hs, rfl⟩ := Import.read?_eq_some_iff.mp hread
      obtain rfl := List.append_cancel_right hs
      have hrest := h.behind
      obtain ⟨u, hu⟩ := d.exists_text_eq
      rw [hu, opensBehind_written (ImportSyntax.path_of_fits hd).quote] at hrest
      exact (Passes.require hname hd h _ (ih hrest)).mono

end RequireForm
