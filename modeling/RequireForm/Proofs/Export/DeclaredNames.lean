import RequireForm.Export.Assignment
import RequireForm.Transform.Basic
import RequireForm.Unicode.Property
import RequireForm.Proofs.Export.Grammar
import RequireForm.Proofs.Source.Bytes
import RequireForm.Proofs.Source.Splice

/-!
# Names of declarations

    export class CAFÉ {}        exports.CAF = class CAFÉ {}

A declaration or a variable declares an identifier, in which letters and digits of every script may
stand. The recognizer reads a name up to its first character beyond ASCII, and for a declaration or
a variable nothing looks at what follows: the name under which it is published is the ASCII
beginning of the identifier, and so the whole identifier exactly if this is ASCII.

  1. `isIdentifierChar`: the characters of an identifier.
  2. `Export.Lead`: what stands between a line start and the identifier.
  3. `Export.declared_name_of_find`, and `declared_name_cut`: a name that is not the whole one.
-/

namespace RequireForm

open Text

/-- A letter or a digit of any script. -/
def isLetterOrDigit (c : Char) : Bool :=
  (Category.setOf ["l"]).contains c || Property.digits.contains c

/-- A character of an identifier: `_`, `$`, a letter or a digit. In ASCII these are the characters
    of a name. -/
def isIdentifierChar (c : Char) : Bool :=
  isNameChar c || (decide (128 ≤ c.toNat) && isLetterOrDigit c)

theorem isIdentifierChar_of_isNameChar {c : Char} (h : isNameChar c = true) :
    isIdentifierChar c = true := by
  rw [isIdentifierChar, h, Bool.true_or]

theorem isNameChar_of_ascii {c : Char} (h : isIdentifierChar c = true) (hc : c.toNat < 128) :
    isNameChar c = true := by
  have hlow : decide (128 ≤ c.toNat) = false := decide_eq_false (Nat.not_le.mpr hc)
  rwa [isIdentifierChar, hlow, Bool.false_and, Bool.or_false] at h

namespace Export

variable {t name after rest source : Text} {e : Export}

/-- The name that a declaration or a variable declares. -/
def declaredName? : Export → Option Text
  | .declaration name => some name
  | .binding name => some name
  | _ => none

/-- What stands in front of the identifier that an export declares, from `export` on. -/
inductive Lead : Text → Prop where
  | function {gap gap₁ : Text} :
      gap ≠ [] → Spaces gap → gap₁ ≠ [] → FunctionGap gap₁ →
      Lead ("export".toList ++ (gap ++ ("function".toList ++ gap₁)))
  | asyncFunction {gap gap₁ gap₂ : Text} :
      gap ≠ [] → Spaces gap → gap₁ ≠ [] → Spaces gap₁ → gap₂ ≠ [] → FunctionGap gap₂ →
      Lead ("export".toList ++ (gap ++ ("async".toList ++ (gap₁ ++ ("function".toList ++ gap₂)))))
  | classNamed {gap gap₁ : Text} :
      gap ≠ [] → Spaces gap → gap₁ ≠ [] → Spaces gap₁ →
      Lead ("export".toList ++ (gap ++ ("class".toList ++ gap₁)))
  | variable {gap word gap₁ : Text} :
      gap ≠ [] → Spaces gap → declaresVariable word = true → gap₁ ≠ [] → Spaces gap₁ →
      Lead ("export".toList ++ (gap ++ (word ++ gap₁)))

/-- A text that derives an export with a declared name starts with a lead and the name. -/
theorem Derives.exists_lead (h : Derives t e rest) (hname : e.declaredName? = some name) :
    ∃ lead after, t = lead ++ (name ++ after) ∧ Lead lead ∧ NameThen name after := by
  obtain ⟨gap, body, rfl, -, hgap, -, hclause⟩ := h
  cases hclause with
  | default _ _ _ _ => exact nomatch hname
  | list _ _ => exact nomatch hname
  | listFrom _ _ _ _ => exact nomatch hname
  | star _ _ _ _ => exact nomatch hname
  | worded hne hword =>
      cases hword with
      | identifier _ _ _ => exact nomatch hname
      | @binding word gap₁ name' rest hword hne₁ hgap₁ hthen =>
          obtain rfl := Option.some.inj hname
          exact ⟨"export".toList ++ (gap ++ (word ++ gap₁)), rest,
            by simp only [List.append_assoc], .variable hne hgap hword hne₁ hgap₁, hthen⟩
      | declaration hdeclares =>
          obtain rfl := Option.some.inj hname
          cases hdeclares with
          | @function gap₁ name after hgap₁ hends hthen =>
              exact ⟨"export".toList ++ (gap ++ ("function".toList ++ gap₁)), after,
                by simp only [List.append_assoc],
                .function hne hgap (gap_ne_nil hends hthen.1) hgap₁, hthen⟩
          | @asyncFunction gap₁ gap₂ name after hne₁ hgap₁ hgap₂ hends hthen =>
              exact ⟨"export".toList ++
                  (gap ++ ("async".toList ++ (gap₁ ++ ("function".toList ++ gap₂)))), after,
                by simp only [List.append_assoc],
                .asyncFunction hne hgap hne₁ hgap₁ (gap_ne_nil hends hthen.1) hgap₂, hthen⟩
          | @classNamed gap₁ name after hne₁ hgap₁ hthen =>
              exact ⟨"export".toList ++ (gap ++ ("class".toList ++ gap₁)), after,
                by simp only [List.append_assoc], .classNamed hne hgap hne₁ hgap₁, hthen⟩

/-- The identifier that starts with a name is its ASCII beginning and what more letters and digits
    follow. -/
theorem NameThen.exists_identifier (h : NameThen name after) :
    ∃ identifier rest, name ++ after = identifier ++ rest ∧ Run isIdentifierChar identifier ∧
      Stops isIdentifierChar rest ∧ name = identifier.takeWhile isNameChar ∧
      (name = identifier ↔ ∀ c ∈ identifier, c.toNat < 128) := by
  obtain ⟨hn, hends⟩ := h
  obtain ⟨-, hrun⟩ := isName_iff.mp hn
  obtain ⟨more, rest, rfl, hmore, hrest⟩ := exists_run isIdentifierChar after
  have hstops : Stops isNameChar more := by
    cases more with
    | nil => exact trivial
    | cons c more => exact nameEnds_iff.mp hends
  have hidentifier : Run isIdentifierChar (name ++ more) :=
    run_append.mpr ⟨run_mono (fun _ => isIdentifierChar_of_isNameChar) hrun, hmore⟩
  have htake := takeWhile_append_of_run hrun hstops
  refine ⟨name ++ more, rest, (List.append_assoc _ _ _).symm, hidentifier, hrest, htake.symm, ?_⟩
  constructor
  · intro hwhole c hc
    rw [← hwhole] at hc
    exact ascii_isNameChar c (hrun c hc)
  · intro hascii
    have hall : Run isNameChar (name ++ more) := fun c hc =>
      isNameChar_of_ascii (hidentifier c hc) (hascii c hc)
    exact htake.symm.trans (List.takeWhile_eq_self_iff.mpr hall)

/-- An export with a declared name publishes that name. -/
theorem published_of_declaredName? (hname : e.declaredName? = some name) (r : PathRule) (n : Nat) :
    published name <+: e.require r n := by
  cases e with
  | declaration name' =>
      obtain rfl := Option.some.inj hname
      exact ⟨" = ".toList ++ [], (List.append_assoc _ _ _).symm⟩
  | binding name' =>
      obtain rfl := Option.some.inj hname
      exact List.prefix_rfl
  | default value => exact nomatch hname
  | named items path? => exact nomatch hname
  | star name? path => exact nomatch hname
  | identifier name => exact nomatch hname

/-- A declaration or a variable that is found in a source is published under the ASCII beginning of
    the identifier that is declared there, and under the whole of it exactly if it is ASCII. -/
theorem declared_name_of_find {f : Located Export} (hf : f ∈ find source)
    (hname : f.what.declaredName? = some name) :
    ∃ before lead identifier rest : Text, source = before ++ (lead ++ (identifier ++ rest)) ∧
      f.span.start = before.byteLength ∧ Lead lead ∧ Run isIdentifierChar identifier ∧
      Stops isIdentifierChar rest ∧ name ≠ [] ∧ name = identifier.takeWhile isNameChar ∧
      (name = identifier ↔ ∀ c ∈ identifier, c.toNat < 128) ∧
      ∀ r n, published name <+: f.what.require r n := by
  obtain ⟨before, w, behind, hsource, -, hread, hspan, -⟩ :=
    (Piece.cuts_cut consumes_read?).located [] rfl f hf
  obtain ⟨lead, after, htext, hlead, hthen⟩ :=
    (read?_eq_some_iff.mp hread).exists_lead hname
  obtain ⟨identifier, rest, hidentifier, hrun, hstops, htake, hwhole⟩ := hthen.exists_identifier
  refine ⟨before, lead, identifier, rest, ?_, congrArg Span.start hspan, hlead, hrun, hstops,
    (isName_iff.mp hthen.1).1, htake, hwhole, published_of_declaredName? hname⟩
  calc source = before ++ (w ++ behind) := hsource
    _ = before ++ (lead ++ (name ++ after)) := by rw [htext]
    _ = before ++ (lead ++ (identifier ++ rest)) := by rw [hidentifier]

/-- Of the class `CAFÉ`, what is published is `CAF`. -/
theorem declared_name_of_find_accented :
    let f : Located Export := ⟨⟨0, 7⟩, 1, .declaration "CAF".toList⟩
    f ∈ find "export class CAFÉ \x7b\x7d".toList ∧ f.what.declaredName? = some "CAF".toList ∧
      ∃ before lead identifier rest : Text,
        "export class CAFÉ \x7b\x7d".toList = before ++ (lead ++ (identifier ++ rest)) ∧
        f.span.start = before.byteLength ∧ Lead lead ∧ Run isIdentifierChar identifier ∧
        Stops isIdentifierChar rest ∧ "CAF".toList = identifier.takeWhile isNameChar := by
  intro f
  have hf : f ∈ find "export class CAFÉ \x7b\x7d".toList := by decide +kernel
  obtain ⟨before, lead, identifier, rest, hsource, hstart, hlead, hrun, hstops, -, htake, -⟩ :=
    declared_name_of_find hf rfl
  exact ⟨hf, rfl, before, lead, identifier, rest, hsource, hstart, hlead, hrun, hstops, htake⟩

/-- The name of a declaration is not always the whole identifier. -/
theorem declared_name_cut :
    ¬ ∀ (source name : Text) (f : Located Export), f ∈ find source →
      f.what.declaredName? = some name →
      ∀ before lead rest, source = before ++ (lead ++ (name ++ rest)) →
        f.span.start = before.byteLength → Lead lead → Stops isIdentifierChar rest := by
  intro hwhole
  have hgap : Spaces [' '] := by decide
  have hlead : Lead ("export".toList ++ ([' '] ++ ("class".toList ++ [' ']))) :=
    .classNamed (List.cons_ne_nil _ _) hgap (List.cons_ne_nil _ _) hgap
  have hstops := hwhole "export class CAFÉ \x7b\x7d".toList "CAF".toList
    ⟨⟨0, 7⟩, 1, .declaration "CAF".toList⟩ (by decide +kernel) rfl [] _
    ('É' :: " \x7b\x7d".toList) (by decide) rfl hlead
  have hletter : isIdentifierChar 'É' = true := by decide +kernel
  rw [stops_cons.mp hstops] at hletter
  exact nomatch hletter

end Export

end RequireForm
