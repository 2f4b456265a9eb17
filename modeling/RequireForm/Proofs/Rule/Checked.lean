import RequireForm.Rule.Basic

/-!
# Checked options — which options make a rule, and which rule

    letters   m g q s x     no flags: q is the first letter that is none
    letters   s m g m       flags, and the same ones as  g m s

Letters of flags are read one after another until one of them is no flag. If there is none, all
that counts of them is which letters are there. The pattern is looked at behind the letters,
and only if it is a text.

  1. `FlagLetters.add_eq`: one letter. `read_of_known`, `read_of_unknown`: all of them.
  2. `PathRule.Made`, `PathRule.Refused`: the rule that options make, and why they make none.
  3. `ofOptions?_eq_ok_iff`, `ofOptions?_eq_error_iff`: checking says nothing else.
  4. `Made.ofOptions_eq`, `Refused.apply_eq`: the rule where being refused is no error.
-/

namespace RequireForm

/-! ## Letters -/

namespace FlagLetters

/-- The letters that are flags. -/
def known : Text := "gimsuy".toList

/-- What letters say: that a flag is there, and no more. -/
def said (letters : Text) : FlagLetters where
  flags := { caseless := 'i' ∈ letters, multiline := 'm' ∈ letters, dotAll := 's' ∈ letters }
  all := 'g' ∈ letters

/-- What letters say beside what has been said before. -/
def joined (f : FlagLetters) (letters : Text) : FlagLetters where
  flags := { f.flags with
    caseless := f.flags.caseless || 'i' ∈ letters
    multiline := f.flags.multiline || 'm' ∈ letters
    dotAll := f.flags.dotAll || 's' ∈ letters }
  all := f.all || 'g' ∈ letters

variable {letters letters' before after : Text} {c : Char}

theorem joined_nil (f : FlagLetters) : f.joined [] = f := by simp [joined]

theorem joined_cons (f : FlagLetters) (c : Char) (letters : Text) :
    (f.joined [c]).joined letters = f.joined (c :: letters) := by
  simp [joined, Bool.or_assoc]

/-- A letter is added to what has been said if it is a flag, and is the error if it is none. -/
theorem add_eq (f : FlagLetters) (c : Char) :
    f.add c = if c ∈ known then .ok (f.joined [c]) else .error (.unknownFlag c) := by
  by_cases hc : c ∈ known
  · rw [if_pos hc]
    have hcases : c = 'g' ∨ c = 'i' ∨ c = 'm' ∨ c = 's' ∨ c = 'u' ∨ c = 'y' := by
      simpa [known] using hc
    rcases hcases with rfl | rfl | rfl | rfl | rfl | rfl <;> simp [add, joined]
  · rw [if_neg hc]
    unfold add
    split
    case h_7 => rfl
    all_goals exact absurd (by decide) hc

/-- Flags add up. The induction is on the letters, with what has been said in front of them. -/
theorem foldlM_add (hknown : ∀ c ∈ letters, c ∈ known) (f : FlagLetters) :
    letters.foldlM add f = .ok (f.joined letters) := by
  induction letters generalizing f with
  | nil => exact congrArg Except.ok f.joined_nil.symm
  | cons c letters ih =>
      rw [List.foldlM_cons, add_eq, if_pos (hknown c List.mem_cons_self)]
      show letters.foldlM add (f.joined [c]) = _
      rw [ih (fun d hd => hknown d (List.mem_cons_of_mem c hd)), joined_cons]

theorem read_of_known (hknown : ∀ c ∈ letters, c ∈ known) :
    read letters = .ok (said letters) :=
  foldlM_add hknown {}

/-- The first letter that is no flag is the error, whatever follows it. -/
theorem read_of_unknown (hbefore : ∀ d ∈ before, d ∈ known) (hc : c ∉ known) :
    read (before ++ c :: after) = .error (.unknownFlag c) := by
  rw [read, List.foldlM_append, foldlM_add hbefore]
  show (c :: after).foldlM add (joined {} before) = _
  rw [List.foldlM_cons, add_eq, if_neg hc]
  rfl

/-- Letters are flags, or there is a first one that is none. -/
theorem known_or_exists (letters : Text) :
    (∀ c ∈ letters, c ∈ known) ∨ ∃ before c after, letters = before ++ c :: after ∧
      (∀ d ∈ before, d ∈ known) ∧ c ∉ known := by
  induction letters with
  | nil => exact .inl (List.forall_mem_nil _)
  | cons c letters ih =>
      by_cases hc : c ∈ known
      · rcases ih with hknown | ⟨before, d, after, rfl, hbefore, hd⟩
        · exact .inl (List.forall_mem_cons.mpr ⟨hc, hknown⟩)
        · exact .inr ⟨c :: before, d, after, rfl, List.forall_mem_cons.mpr ⟨hc, hbefore⟩, hd⟩
      · exact .inr ⟨[], c, letters, rfl, List.forall_mem_nil _, hc⟩

/-- Neither the order of letters counts nor how often one is there. -/
theorem said_congr (h : ∀ c, c ∈ letters ↔ c ∈ letters') : said letters = said letters' := by
  simp only [said, h]

end FlagLetters

/-! ## Rules -/

/-- The letters of options; options without flags have none. -/
def Options.letters (o : Options) : Text := o.flags?.getD []

namespace PathRule

open FlagLetters (known said)

variable {o : Options} {rule : PathRule} {e : PatternError}

/-- The rule that options make. Letters have a say in it only where the pattern is a text. -/
inductive Made (o : Options) : PathRule → Prop where
  | source {text : Text} {pattern : Pattern} : o.pattern? = some (.source text) →
      (∀ c ∈ o.letters, c ∈ known) →
      Pattern.compile? (said o.letters).flags
        (if o.escape = true then Pattern.escape text else text) = some pattern →
      Made o ⟨some pattern, 'g' ∈ o.letters, o.replaceBy?⟩
  | compiled {pattern : Pattern} : o.pattern? = some (.compiled pattern) →
      Made o ⟨some pattern, false, o.replaceBy?⟩
  | absent : o.pattern? = none → Made o ⟨none, false, o.replaceBy?⟩

/-- Why options make no rule. A letter that is no flag comes before a pattern that is none. -/
inductive Refused (o : Options) : PatternError → Prop where
  | unknownFlag {text before after : Text} {c : Char} : o.pattern? = some (.source text) →
      o.letters = before ++ c :: after → (∀ d ∈ before, d ∈ known) → c ∉ known →
      Refused o (.unknownFlag c)
  | invalid {text : Text} : o.pattern? = some (.source text) → (∀ c ∈ o.letters, c ∈ known) →
      Pattern.compile? (said o.letters).flags
        (if o.escape = true then Pattern.escape text else text) = none →
      Refused o .invalid

/-- Where all letters are flags, it is up to the pattern whether it compiles. -/
theorem compile_of_known (hknown : ∀ c ∈ o.letters, c ∈ known) (text : Text) :
    compile o text
      = match Pattern.compile? (said o.letters).flags (sourceOf o text) with
        | some pattern => .ok (pattern, 'g' ∈ o.letters)
        | none => .error .invalid := by
  have hread : FlagLetters.read (o.flags?.getD []) = .ok (said o.letters) :=
    FlagLetters.read_of_known hknown
  rw [compile, hread]
  rfl

theorem compile_of_unknown {before after : Text} {c : Char}
    (hletters : o.letters = before ++ c :: after) (hbefore : ∀ d ∈ before, d ∈ known)
    (hc : c ∉ known) (text : Text) : compile o text = .error (.unknownFlag c) := by
  have hread : FlagLetters.read (o.flags?.getD []) = .error (.unknownFlag c) := by
    show FlagLetters.read o.letters = _
    rw [hletters, FlagLetters.read_of_unknown hbefore hc]
  rw [compile, hread]
  rfl

theorem Made.ofOptions?_eq (h : Made o rule) : ofOptions? o = .ok rule := by
  cases h with
  | source hpattern hknown hcompile =>
      rw [ofOptions?, hpattern]
      dsimp only
      rw [compile_of_known hknown, sourceOf, hcompile]
      rfl
  | compiled hpattern => rw [ofOptions?, hpattern]
  | absent hpattern => rw [ofOptions?, hpattern]

theorem Refused.ofOptions?_eq (h : Refused o e) : ofOptions? o = .error e := by
  cases h with
  | unknownFlag hpattern hletters hbefore hc =>
      rw [ofOptions?, hpattern]
      dsimp only
      rw [compile_of_unknown hletters hbefore hc]
      rfl
  | invalid hpattern hknown hcompile =>
      rw [ofOptions?, hpattern]
      dsimp only
      rw [compile_of_known hknown, sourceOf, hcompile]
      rfl

/-- Options make a rule, or they are refused. -/
theorem made_or_refused (o : Options) : (∃ rule, Made o rule) ∨ ∃ e, Refused o e := by
  -- letters and `escape` are looked at only where the pattern is a text, and the letters first
  cases hpattern : o.pattern? with
  | none => exact .inl ⟨_, .absent hpattern⟩
  | some pattern =>
      cases pattern with
      | compiled pattern => exact .inl ⟨_, .compiled hpattern⟩
      | source text =>
          rcases FlagLetters.known_or_exists o.letters with
            hknown | ⟨before, c, after, hletters, hbefore, hc⟩
          · cases hcompile : Pattern.compile? (said o.letters).flags
                (if o.escape = true then Pattern.escape text else text) with
            | some pattern => exact .inl ⟨_, .source hpattern hknown hcompile⟩
            | none => exact .inr ⟨_, .invalid hpattern hknown hcompile⟩
          · exact .inr ⟨_, .unknownFlag hpattern hletters hbefore hc⟩

theorem ofOptions?_eq_ok_iff : ofOptions? o = .ok rule ↔ Made o rule := by
  constructor
  · intro hok
    rcases made_or_refused o with ⟨rule', h⟩ | ⟨e, h⟩
    · rw [h.ofOptions?_eq] at hok
      exact Except.ok.inj hok ▸ h
    · rw [h.ofOptions?_eq] at hok
      cases hok
  · exact Made.ofOptions?_eq

theorem ofOptions?_eq_error_iff : ofOptions? o = .error e ↔ Refused o e := by
  constructor
  · intro herror
    rcases made_or_refused o with ⟨rule, h⟩ | ⟨e', h⟩
    · rw [h.ofOptions?_eq] at herror
      cases herror
    · rw [h.ofOptions?_eq] at herror
      exact Except.error.inj herror ▸ h
  · exact Refused.ofOptions?_eq

namespace Made

/-- All matches are asked for by a `g`, and only where the pattern is a text. -/
theorem all_iff (h : Made o rule) :
    rule.all = true ↔ (∃ text, o.pattern? = some (.source text)) ∧ 'g' ∈ o.letters := by
  cases h with
  | source hpattern hknown hcompile =>
      rw [decide_eq_true_eq]
      exact ⟨fun hg => ⟨⟨_, hpattern⟩, hg⟩, fun hg => hg.2⟩
  | compiled hpattern => simp [hpattern]
  | absent hpattern => simp [hpattern]

theorem replacement?_eq (h : Made o rule) : rule.replacement? = o.replaceBy? := by
  cases h <;> rfl

/-- The same letters, in any order and any number, make the same rule. -/
theorem of_same_letters {flags? : Option Text} (h : Made o rule)
    (hsame : ∀ c, c ∈ o.letters ↔ c ∈ flags?.getD []) :
    Made { o with flags? := flags? } rule := by
  cases h with
  | source hpattern hknown hcompile =>
      have hall : decide ('g' ∈ o.letters) = decide ('g' ∈ flags?.getD []) :=
        decide_eq_decide.mpr (hsame 'g')
      rw [hall]
      refine .source hpattern (fun c hc => hknown c ((hsame c).mpr hc)) ?_
      rw [FlagLetters.said_congr hsame] at hcompile
      exact hcompile
  | compiled hpattern => exact .compiled hpattern
  | absent hpattern => exact .absent hpattern

end Made

/-! ## Rules in any case -/

theorem ofOptions?_of_isOk (h : (ofOptions? o).isOk = true) : ofOptions? o = .ok (ofOptions o) := by
  rw [ofOptions]
  cases hrule : ofOptions? o with
  | ok rule => rfl
  | error e =>
      rw [hrule] at h
      cases h

theorem Made.ofOptions_eq (h : Made o rule) : ofOptions o = rule := by
  rw [ofOptions, h.ofOptions?_eq]

theorem Refused.ofOptions_eq (h : Refused o e) : ofOptions o = ⟨none, false, o.replaceBy?⟩ := by
  rw [ofOptions, h.ofOptions?_eq]

/-- The rule of options in any case replaces as they say. -/
theorem replacement?_ofOptions (o : Options) : (ofOptions o).replacement? = o.replaceBy? := by
  rcases made_or_refused o with ⟨rule, h⟩ | ⟨e, h⟩
  · rw [h.ofOptions_eq]
    exact h.replacement?_eq
  · rw [h.ofOptions_eq]

/-- What a rule with a pattern and a replacement makes of a path. -/
theorem apply_eq (pattern : Pattern) (all : Bool) (r : Replacement) (path : Text) :
    apply ⟨some pattern, all, some r⟩ path
      = if matchesAny (pattern.fragments path) then replace all r (pattern.fragments path)
        else path := by
  show (if matchesAny (pattern.fragments path) then some _ else none).getD path = _
  split <;> rfl

/-- Options that are refused leave paths alone. -/
theorem Refused.apply_eq (h : Refused o e) (path : Text) : (ofOptions o).apply path = path := by
  rw [h.ofOptions_eq]
  rfl

end PathRule

end RequireForm
