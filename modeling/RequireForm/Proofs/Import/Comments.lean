import RequireForm.Proofs.Import.Fence
import RequireForm.Proofs.Source.Splice

/-!
# Imports in comments

    BEFORE /* COMMENT */ BEHIND

The recognizer is tried at every line start and does not know of comments. A comment in front of
which no statement has been read hides an import that follows `/*` or stands further on in a line,
but not one that starts a line: a comment is left alone exactly if an import is read at none of the
line starts in it.

  1. `Located.StartsIn`: where something found starts.
  2. `Piece.found_behind_iff`: nothing is found in a text at whose line starts nothing is read.
  3. `Import.read?_slash`: an import does not reach over a slash without a quote.
  4. `Import.comment_clear_iff`, and `comment_not_clear`: a comment that is not left alone.
-/

namespace RequireForm

open Text

variable {α : Type} {read : Text → Option (α × Text)} {b : Bool} {s t u v rest : Text}
  {offset line : Nat}

/-- Something found starts in a text that stands behind another one. -/
def Located.StartsIn (before inside : Text) (f : Located α) : Prop :=
  before.byteLength ≤ f.span.start ∧ f.span.start < (before ++ inside).byteLength

instance (before inside : Text) (f : Located α) : Decidable (f.StartsIn before inside) :=
  inferInstanceAs (Decidable (_ ∧ _))

namespace Piece

theorem locateFrom_kept_append (t : Text) (ps : List (Piece α)) (offset line : Nat) :
    locateFrom offset line (t.map .kept ++ ps)
      = locateFrom (offset + t.byteLength) (line + t.lineBreaks) ps := by
  induction t generalizing offset line with
  | nil => rfl
  | cons c t ih =>
      rw [List.map_cons, List.cons_append, locateFrom, ih, byteLength_cons, lineBreaks_cons,
        Nat.add_assoc, Nat.add_assoc]

/-- All that is found from the front of a text on is found behind it exactly if nothing is read at
    the line starts in the text. -/
theorem found_behind_iff (hread : Consumes read) (before t : Text) :
    (∀ f ∈ locateFrom offset line (cut read b 0 (t ++ rest)),
        offset + t.byteLength ≤ f.span.start) ↔
      ∀ start ∈ lineStartsFrom b before t, read (start.2 ++ rest) = none := by
  induction t generalizing b offset line before with
  | nil => exact ⟨fun _ _ h => (nomatch h), fun _ _ hf => le_of_mem_locateFrom hf⟩
  | cons c t ih =>
      have hpos := c.utf8Size_pos
      cases hfront : (if b then read (c :: (t ++ rest)) else none) with
      | none =>
          have hkept : b = true → read (c :: (t ++ rest)) = none := by
            intro hb
            rw [← hfront, if_pos hb]
          rw [List.cons_append, cut_kept_char hkept, locateFrom, byteLength_cons, ← Nat.add_assoc,
            ih (before ++ [c]), lineStartsFrom, List.forall_mem_append]
          refine ⟨fun h => ⟨fun start hstart => ?_, h⟩, fun h => h.2⟩
          cases b with
          | false => cases hstart
          | true =>
              rw [List.mem_singleton.mp hstart]
              exact hkept rfl
      | some found =>
          obtain ⟨x, rest'⟩ := found
          cases b with
          | false => cases hfront
          | true =>
              have hx : read (c :: (t ++ rest)) = some (x, rest') := hfront
              obtain ⟨w, hne, hw⟩ := hread hx
              constructor
              · -- the statement is found at the front itself
                intro h
                rw [List.cons_append, hw, cut_statement hne (hw ▸ hx)] at h
                have hle := h _ List.mem_cons_self
                rw [byteLength_cons] at hle
                simp only at hle
                omega
              · intro h
                have hno := h (before, c :: t) List.mem_cons_self
                rw [List.cons_append, hx] at hno
                cases hno

end Piece

namespace Import

/-- Without a quote in front of it, no import reaches over a slash. -/
theorem read?_slash (hv : ∀ x ∈ v, PathLiteral.isQuote x = false ∧ x ≠ '/') :
    read? (v ++ '/' :: rest) = none := by
  cases h : read? (v ++ '/' :: rest) with
  | none => rfl
  | some found =>
      obtain ⟨i, rest'⟩ := found
      obtain ⟨d, hd, hs, -⟩ := read?_eq_some_iff.mp h
      obtain ⟨w, hw, hrun⟩ := ImportSyntax.exists_front_run hd
      have hslash : '/' ∉ w := not_mem_of_run (by decide) hrun
      rw [hw, List.append_assoc] at hs
      -- the slash stands behind the front, so the quote that opens the path stands before it
      obtain ⟨a, rfl, ha⟩ := split_fence hslash hs
      have hp := ImportSyntax.path_of_fits hd
      cases a with
      | nil =>
          have hquote := hp.quote
          rw [← (List.cons.inj ha.symm).1] at hquote
          exact absurd hquote (by decide)
      | cons c a =>
          have hquote := hp.quote
          rw [(List.cons.inj ha).1, (hv c (List.mem_append_right _ List.mem_cons_self)).1] at hquote
          exact nomatch hquote

/-- What opens a comment. -/
def commentOpens : Text := "/*".toList

/-- What closes a comment. -/
def commentCloses : Text := "*/".toList

/-- Without quotes and slashes in front of it, no import is read up to where a comment opens. -/
theorem read?_before_comment (hbefore : ∀ x ∈ before, PathLiteral.isQuote x = false ∧ x ≠ '/')
    (huv : before ++ commentOpens = u ++ v) (hne : v ≠ []) (hends : endsLine true u = true) :
    read? (v ++ rest) = none := by
  have hopens : commentOpens = ['/', '*'] := by decide
  rw [hopens] at huv
  rcases List.append_eq_append_iff.mp huv with ⟨w, rfl, hw⟩ | ⟨w, rfl, rfl⟩
  · cases w with
    | nil =>
        rw [List.nil_append] at hw
        rw [← hw]
        exact read?_slash (v := []) fun x hx => absurd hx List.not_mem_nil
    | cons c w =>
        -- behind the slash no line starts
        obtain ⟨rfl, hstar⟩ := List.cons.inj hw
        cases w with
        | nil =>
            rw [endsLine_append] at hends
            exact nomatch hends
        | cons d w =>
            have hnil : [] = w ++ v := (List.cons.inj hstar).2
            exact absurd (List.append_eq_nil_iff.mp hnil.symm).2 hne
  · rw [List.append_assoc]
    exact read?_slash fun x hx => hbefore x (List.mem_append_right _ hx)

/-- Behind a text without quotes and slashes, no import starts in a comment exactly if none is read
    at the line starts in it. -/
theorem comment_clear_iff {before comment behind : Text}
    (hbefore : ∀ x ∈ before, PathLiteral.isQuote x = false ∧ x ≠ '/') :
    (∀ f ∈ find (before ++ (commentOpens ++ (comment ++ (commentCloses ++ behind)))),
        ¬ f.StartsIn before (commentOpens ++ (comment ++ commentCloses))) ↔
      ∀ start ∈ lineStartsFrom false [] (comment ++ commentCloses),
        read? (start.2 ++ behind) = none := by
  have hcut : Piece.cut read? true 0
        (before ++ commentOpens ++ (comment ++ commentCloses ++ behind))
      = (before ++ commentOpens).map .kept ++ Piece.cut read?
          (endsLine true (before ++ commentOpens)) 0 (comment ++ commentCloses ++ behind) :=
    Piece.cut_kept fun u v huv hne hends => read?_before_comment hbefore huv hne hends
  have hends : endsLine true (before ++ commentOpens) = false := by
    rw [endsLine_append]
    rfl
  have hsource : before ++ (commentOpens ++ (comment ++ (commentCloses ++ behind)))
      = before ++ commentOpens ++ (comment ++ commentCloses ++ behind) := by
    simp only [List.append_assoc]
  have hfind : find (before ++ (commentOpens ++ (comment ++ (commentCloses ++ behind))))
      = Piece.locateFrom (0 + (before ++ commentOpens).byteLength)
          (1 + (before ++ commentOpens).lineBreaks)
          (Piece.cut read? false 0 (comment ++ commentCloses ++ behind)) := by
    rw [hsource, ← Piece.locateFrom_kept_append, ← hends, ← hcut]
    rfl
  rw [hfind, ← Piece.found_behind_iff consumes_read?]
  refine forall₂_congr fun f hf => ?_
  have hle := Piece.le_of_mem_locateFrom hf
  simp only [Located.StartsIn, byteLength_append] at hle ⊢
  omega

/-- The lines of this comment hold the word, but no import; the one behind the comment is found. -/
theorem comment_clear_words :
    let before := "const n = 1 ".toList
    let comment := " what to\n * import\nfrom where ".toList
    let behind := "\nimport a from 'a'".toList
    (∀ x ∈ before, PathLiteral.isQuote x = false ∧ x ≠ '/') ∧
      (find (before ++ (commentOpens ++ (comment ++ (commentCloses ++ behind))))).length = 1 ∧
      ∀ f ∈ find (before ++ (commentOpens ++ (comment ++ (commentCloses ++ behind)))),
        ¬ f.StartsIn before (commentOpens ++ (comment ++ commentCloses)) := by
  intro before comment behind
  have hrun : Run (fun x => !PathLiteral.isQuote x && x ≠ '/') before := by decide +kernel
  have hbefore : ∀ x ∈ before, PathLiteral.isQuote x = false ∧ x ≠ '/' := by
    intro x hx
    have hboth := hrun x hx
    rw [Bool.and_eq_true, Bool.not_eq_true', decide_eq_true_eq] at hboth
    exact hboth
  exact ⟨hbefore, by decide +kernel, (comment_clear_iff hbefore).mpr (by decide)⟩

/-- An import that starts a line of a comment is found there. -/
theorem comment_not_clear :
    ¬ ∀ before comment behind : Text, (∀ x ∈ before, PathLiteral.isQuote x = false ∧ x ≠ '/') →
      ¬ commentCloses <:+: comment →
      ∀ f ∈ find (before ++ (commentOpens ++ (comment ++ (commentCloses ++ behind)))),
        ¬ f.StartsIn before (commentOpens ++ (comment ++ commentCloses)) := by
  intro hclear
  let comment := "\nimport a from 'a'\n".toList
  have hsome : ∃ f ∈ find ([] ++ (commentOpens ++ (comment ++ (commentCloses ++ [])))),
      f.StartsIn [] (commentOpens ++ (comment ++ commentCloses)) := by decide +kernel
  obtain ⟨f, hf, hin⟩ := hsome
  exact hclear [] comment [] (fun _ hx => nomatch hx) (by decide +kernel) f hf hin

end Import

end RequireForm
