import RequireForm.OptionsFile.Load
import RequireForm.Transform.Basic
import RequireForm.Proofs.Rule.Checked
import RequireForm.Proofs.Rule.Expansion

/-!
# Kept paths — rules that leave every path as it is

    pattern     [a-z]+             none, as the options make no rule
    path        lib / x . js       lib/x.js
    replaced    lib / x . js       lib/x.js

A rule has a say in a transform through what it makes of paths and through nothing else, so a
rule that keeps every path is as good as none. Two kinds of options make such a rule: those that
replace each match by itself, whatever is matched, and those that make no rule at all.

  1. `transformBy_congr`: rules that agree on paths agree on sources.
  2. `PathRule.replace_wholeMatch`: what is put together from its own fragments.
  3. `itself_replaced`, `options_checked`: both kinds of options.
-/

namespace RequireForm

/-! ## Rules that agree on paths -/

section Agreeing

variable {r r' : PathRule} {o : Options}

theorem PathRule.call_congr (h : ∀ path, r.apply path = r'.apply path) : r.call = r'.call := by
  funext path
  rw [PathRule.call, PathRule.call, h]

theorem importPass_congr (h : r.call = r'.call) (ps : List (Piece Import)) :
    importPass r ps = importPass r' ps := by
  induction ps with
  | nil => rfl
  | cons piece ps ih =>
      cases piece with
      | kept c => exact congrArg (c :: ·) ih
      | statement w i =>
          show i.binding.require (r.call i.path) ++ importPass r ps = _
          rw [h, ih]
          rfl

theorem exportPass_congr (h : r.call = r'.call) (n : Nat) (ps : List (Piece Export)) :
    exportPass r n ps = exportPass r' n ps := by
  -- the numbers of stars go on in the same way, as they do not depend on paths
  induction ps generalizing n with
  | nil => rfl
  | cons piece ps ih =>
      cases piece with
      | kept c => exact congrArg (c :: ·) (ih n)
      | statement w e =>
          show e.assign n ((e.path?.map r.call).getD []) ++
            exportPass r (if e.isStar then n + 1 else n) ps = _
          rw [h, ih]
          rfl

/-- All that a rule has a say in is what becomes of paths. -/
theorem transformBy_congr (h : ∀ path, r.apply path = r'.apply path) (source : Text) :
    transformBy r source = transformBy r' source := by
  have hcall := PathRule.call_congr h
  -- the second pass goes over the same text, as the first one has written it
  have himports := importPass_congr hcall (Import.pieces source)
  rw [transformBy, transformBy, himports, exportPass_congr hcall]

/-- Options whose rule keeps every path are as good as none. -/
theorem transform_of_kept (h : ∀ path, (PathRule.ofOptions o).apply path = path)
    (source : Text) : transform o source = transform {} source :=
  transformBy_congr h source

end Agreeing

/-! ## Matches that are replaced by themselves -/

namespace PathRule

/-- The template of the whole match. -/
def wholeMatch : Replacement := .template "$&".toList

theorem of_wholeMatch (m : Pattern.Captures) : wholeMatch.of m = m.whole := by
  have hexpand : Template.expand m ['$', '&'] = m.whole ++ Template.expand m [] :=
    Template.expand_placeholder rfl
  rw [Template.expand_nil, List.append_nil] at hexpand
  exact hexpand

/-- Each match gives way to its own text, so what is left is the text of the fragments, whether
    all of them are gone through or those behind the first match are taken as they are. -/
theorem replace_wholeMatch (all : Bool) (fragments : List Pattern.Fragment) :
    replace all wholeMatch fragments = fragments.flatMap (·.text) := by
  induction fragments with
  | nil => rfl
  | cons fragment fragments ih =>
      cases fragment with
      | kept c => exact congrArg (c :: ·) ih
      | found m =>
          show wholeMatch.of m ++ (if all = true then replace all wholeMatch fragments else _)
            = m.whole ++ fragments.flatMap (·.text)
          rw [of_wholeMatch, ih, ite_self]

theorem apply_wholeMatch {r : PathRule} (h : r.replacement? = some wholeMatch) (path : Text) :
    r.apply path = path := by
  obtain ⟨pattern?, all, replacement?⟩ := r
  obtain rfl : replacement? = some wholeMatch := h
  cases pattern? with
  | none => rfl
  | some pattern =>
      rw [apply_eq, replace_wholeMatch, pattern.flatMap_text_fragments, ite_self]

end PathRule

/-- Options that replace matches by themselves change no path, whatever their pattern is, how it
    is to be taken, and whether one match is replaced or all of them. -/
theorem itself_replaced (o : Options) :
    let o := { o with replaceBy? := some (.template "$&".toList) }
    (∀ path, (PathRule.ofOptions o).apply path = path) ∧
      ∀ source, transform o source = transform {} source := by
  intro o
  have hkept : ∀ path, (PathRule.ofOptions o).apply path = path :=
    PathRule.apply_wholeMatch (PathRule.replacement?_ofOptions o)
  exact ⟨hkept, transform_of_kept hkept⟩

/-! ## Options that make no rule -/

/-- A file gives the options that it stands for, as long as they make a rule. -/
theorem OptionsFile.ruleOptions_eq_ok_iff {f : OptionsFile} {o : Options} :
    f.ruleOptions = .ok o ↔ o = f.options ∧ ∃ rule, PathRule.ofOptions? f.options = .ok rule := by
  rw [ruleOptions, checkedOptions]
  cases PathRule.ofOptions? f.options with
  | error e =>
      constructor
      · intro h
        cases h
      · rintro ⟨-, rule, h⟩
        cases h
  | ok rule =>
      constructor
      · intro h
        exact ⟨(Except.ok.inj h).symm, rule, rfl⟩
      · rintro ⟨rfl, -⟩
        rfl

/-- Options are refused for a letter that is no flag, the first one, or else for a pattern that
    does not compile; nothing but the set of their letters counts, and of those `g` asks for all
    matches. Options that are refused, where that is no error, are as good as none. -/
theorem options_checked (o : Options) :
    (∀ e, PathRule.ofOptions? o = .error e ↔ PathRule.Refused o e) ∧
      (∀ rule, PathRule.ofOptions? o = .ok rule →
        (rule.all = true ↔ (∃ text, o.pattern? = some (.source text)) ∧ 'g' ∈ o.letters) ∧
          (∀ flags? : Option Text, (∀ c, c ∈ o.letters ↔ c ∈ flags?.getD []) →
            PathRule.ofOptions? { o with flags? := flags? } = .ok rule) ∧
          PathRule.ofOptions o = rule) ∧
      (∀ e, PathRule.ofOptions? o = .error e →
        (∀ path, (PathRule.ofOptions o).apply path = path) ∧
          ∀ source, transform o source = transform {} source) ∧
      ∀ (f : OptionsFile) (o' : Options), f.ruleOptions = .ok o' ↔
        o' = f.options ∧ ∃ rule, PathRule.ofOptions? f.options = .ok rule := by
  refine ⟨fun e => PathRule.ofOptions?_eq_error_iff, ?_, ?_, fun f o' => f.ruleOptions_eq_ok_iff⟩
  · intro rule hok
    have hmade := PathRule.ofOptions?_eq_ok_iff.mp hok
    refine ⟨hmade.all_iff, ?_, hmade.ofOptions_eq⟩
    intro flags? hsame
    exact (hmade.of_same_letters hsame).ofOptions?_eq
  · intro e herror
    have hkept := (PathRule.ofOptions?_eq_error_iff.mp herror).apply_eq
    exact ⟨hkept, transform_of_kept hkept⟩

/-- A letter that is no flag is the error although the pattern is none either; the pattern alone
    is the error otherwise. A letter that comes twice makes the rule it makes once. -/
theorem options_checked_letters :
    let o (pattern flags : String) : Options :=
      { pattern? := some (.source pattern.toList), flags? := some flags.toList,
        replaceBy? := some (.template "x".toList) }
    PathRule.ofOptions? (o "(" "gqx") = .error (.unknownFlag 'q') ∧
      PathRule.ofOptions? (o "(" "g") = .error .invalid ∧
      (∀ source, transform (o "(" "g") source = transform {} source) ∧
      ∃ rule, PathRule.ofOptions? (o "a|b" "mgm") = .ok rule ∧ rule.all = true ∧
        PathRule.ofOptions? (o "a|b" "gm") = .ok rule := by
  intro o
  have hg : ∀ c ∈ ['g'], c ∈ FlagLetters.known := List.forall_mem_singleton.mpr (by decide)
  have hq : PathRule.Refused (o "(" "gqx") (.unknownFlag 'q') :=
    .unknownFlag rfl (show "gqx".toList = ['g'] ++ 'q' :: ['x'] by decide) hg (by decide)
  have hopen : PathRule.Refused (o "(" "g") .invalid := .invalid rfl hg (by decide +kernel)
  have hunknown := ((options_checked (o "(" "gqx")).1 _).mpr hq
  obtain ⟨hrefused, -, hkept, -⟩ := options_checked (o "(" "g")
  have hinvalid := (hrefused _).mpr hopen
  have hok : PathRule.ofOptions? (o "a|b" "mgm") = .ok (PathRule.ofOptions (o "a|b" "mgm")) :=
    PathRule.ofOptions?_of_isOk (by decide +kernel)
  obtain ⟨hall, hsame, -⟩ := (options_checked (o "a|b" "mgm")).2.1 _ hok
  have hletters (c : Char) : c ∈ (o "a|b" "mgm").letters ↔ c ∈ "gm".toList := by
    show c ∈ ['m', 'g', 'm'] ↔ c ∈ ['g', 'm']
    simp only [List.mem_cons, List.not_mem_nil, or_false]
    rw [or_comm, or_assoc, or_self]
  have hsource : ∃ text, (o "a|b" "mgm").pattern? = some (.source text) := ⟨_, rfl⟩
  have hglobal := hall.mpr ⟨hsource, (hletters 'g').mpr (by decide)⟩
  exact ⟨hunknown, hinvalid, (hkept _ hinvalid).2, _, hok, hglobal, hsame _ hletters⟩

end RequireForm
