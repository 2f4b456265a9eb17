import RequireForm.Proofs.Source.Reading

/-!
# Spans and splices — where statements lie, and what takes their place

    BEFORE  w₁  GAP  w₂  GAP  ...         the source, with statements w₁, w₂, ...
    BEFORE  t₁  GAP  t₂  GAP  ...         what comes out, with a new text for each

Statements are told to the outside by their bytes and lines. Here these numbers are tied to the
text again: a span is a piece of text between two characters, spans come in order and do not
meet, and putting texts for them goes wrong nowhere.

  1. `Text.slice?`: the text between two bytes, if both lie between characters.
  2. `splice`: texts put for spans, with the gaps between them as slices of the source.
  3. `Laid`, `Piece.Cuts.laid`: what holds of the statements found in a source.
  4. `Piece.result`, `splice_edits`: what comes out of pieces is what a splice gives.
-/

namespace RequireForm

open Text

/-! ## Slices -/

namespace Text

variable {t u v w : Text} {n : Nat}

/-- Cut a text in two at a byte; nothing if the byte is inside a character or behind the end. -/
def cutBytes? : Text → Nat → Option (Text × Text)
  | t, 0 => some ([], t)
  | [], _ + 1 => none
  | c :: t, n + 1 =>
      if c.utf8Size ≤ n + 1 then
        (cutBytes? t (n + 1 - c.utf8Size)).map fun (u, v) => (c :: u, v)
      else none

/-- The text between two bytes. -/
def slice? (t : Text) (start stop : Nat) : Option Text :=
  if start ≤ stop then
    (cutBytes? t start).bind fun (_, rest) => (cutBytes? rest (stop - start)).map (·.1)
  else none

theorem cutBytes?_zero (t : Text) : cutBytes? t 0 = some ([], t) := by
  cases t with
  | nil => rfl
  | cons c t => rfl

theorem cutBytes?_eq_some_iff : cutBytes? t n = some (u, v) ↔ t = u ++ v ∧ u.byteLength = n := by
  induction t generalizing n u with
  | nil =>
      cases n with
      | zero =>
          constructor
          · intro h
            obtain ⟨rfl, rfl⟩ := Prod.mk.inj (Option.some.inj h)
            exact ⟨rfl, rfl⟩
          · rintro ⟨ht, -⟩
            obtain ⟨rfl, rfl⟩ := List.append_eq_nil_iff.mp ht.symm
            rfl
      | succ n =>
          constructor
          · exact fun h => nomatch h
          · rintro ⟨ht, hn⟩
            obtain ⟨rfl, -⟩ := List.append_eq_nil_iff.mp ht.symm
            exact nomatch hn
  | cons c t ih =>
      have hpos := c.utf8Size_pos
      cases n with
      | zero =>
          rw [cutBytes?_zero]
          constructor
          · intro h
            obtain ⟨rfl, rfl⟩ := Prod.mk.inj (Option.some.inj h)
            exact ⟨rfl, rfl⟩
          · rintro ⟨ht, hn⟩
            cases u with
            | nil => rw [ht, List.nil_append]
            | cons d u => rw [byteLength_cons] at hn; have := d.utf8Size_pos; omega
      | succ n =>
          rw [cutBytes?]
          split
          · next hle =>
              rw [Option.map_eq_some_iff]
              constructor
              · rintro ⟨⟨u', v'⟩, h, hcons⟩
                obtain ⟨rfl, rfl⟩ := Prod.mk.inj hcons
                obtain ⟨rfl, hn⟩ := ih.mp h
                exact ⟨rfl, by rw [byteLength_cons]; omega⟩
              · rintro ⟨ht, hn⟩
                cases u with
                | nil => exact nomatch hn
                | cons d u =>
                    obtain ⟨rfl, rfl⟩ := List.cons.inj ht
                    rw [byteLength_cons] at hn
                    exact ⟨(u, v), ih.mpr ⟨rfl, by omega⟩, rfl⟩
          · next hlt =>
              constructor
              · exact fun h => nomatch h
              · rintro ⟨ht, hn⟩
                cases u with
                | nil => exact nomatch hn
                | cons d u =>
                    obtain ⟨rfl, rfl⟩ := List.cons.inj ht
                    rw [byteLength_cons] at hn
                    omega

/-- A piece of a text is the slice between its two ends. -/
theorem slice?_append : slice? (u ++ (v ++ w)) u.byteLength (u ++ v).byteLength = some v := by
  have hstart : cutBytes? (u ++ (v ++ w)) u.byteLength = some (u, v ++ w) :=
    cutBytes?_eq_some_iff.mpr ⟨rfl, rfl⟩
  have hstop : cutBytes? (v ++ w) ((u ++ v).byteLength - u.byteLength) = some (v, w) :=
    cutBytes?_eq_some_iff.mpr ⟨rfl, by rw [byteLength_append]; omega⟩
  rw [slice?, if_pos (by rw [byteLength_append]; omega), hstart]
  show (cutBytes? (v ++ w) _).map _ = _
  rw [hstop]
  rfl

end Text

/-! ## Splices -/

/-- Put texts for spans, from the byte `last` of a source on. A gap that is no slice of the source
    spoils the whole. -/
def spliceFrom (source : Text) (last : Nat) : List (Span × Text) → Option Text
  | [] => source.slice? last source.byteLength
  | (span, new) :: edits => do
      let gap ← source.slice? last span.start
      let rest ← spliceFrom source span.stop edits
      return gap ++ (new ++ rest)

/-- Put texts for spans of a source. -/
def splice (source : Text) (edits : List (Span × Text)) : Option Text :=
  spliceFrom source 0 edits

/-! ## Where statements are found -/

variable {α : Type} {read : Text → Option (α × Text)} {word source : Text} {b : Bool}

namespace Located

/-- The same thing found in a source with more bytes and lines in front. -/
def shift (bytes lines : Nat) (f : Located α) : Located α :=
  ⟨⟨bytes + f.span.start, bytes + f.span.stop⟩, lines + f.line, f.what⟩

/-- A statement lies where its span and line say: it starts a line with the whole word of its
    kind, and the span starts and ends between two characters. -/
def Lies (word source : Text) (f : Located α) : Prop :=
  ∃ before tail rest : Text, source = before ++ (word ++ tail ++ rest) ∧
    (before = [] ∨ ∃ b, before = b ++ ['\n']) ∧ nameEnds (tail ++ rest) = true ∧
    f.span = ⟨before.byteLength, (before ++ (word ++ tail)).byteLength⟩ ∧
    f.line = 1 + before.lineBreaks

/-- A byte of a source belongs to one of the statements. -/
def Covers (found : List (Located α)) (n : Nat) : Prop :=
  ∃ f ∈ found, f.span.start ≤ n ∧ n < f.span.stop

end Located

/-- What holds of the statements found in a source: each lies where it says, none is empty, all
    are inside the source, and they come in order and do not meet. -/
structure Laid (word source : Text) (found : List (Located α)) : Prop where
  lies : ∀ f ∈ found, f.Lies word source
  nonempty : ∀ f ∈ found, f.span.start < f.span.stop
  inside : ∀ f ∈ found, f.span.stop ≤ source.byteLength
  ordered : found.Pairwise fun f g =>
    f.span.start < g.span.start ∧ f.span.stop ≤ g.span.start

/-- What a reader takes away starts with a whole word. -/
def StartsWith (word : Text) (read : Text → Option (α × Text)) : Prop :=
  ∀ {s x rest}, read s = some (x, rest) →
    ∃ tail, s = word ++ (tail ++ rest) ∧ nameEnds (tail ++ rest) = true

/-- A line starts behind a text that is empty or ends with a line feed. -/
theorem endsLine_true_iff {t : Text} : endsLine true t = true ↔ t = [] ∨ ∃ u, t = u ++ ['\n'] := by
  rcases List.eq_nil_or_concat t with rfl | ⟨u, c, rfl⟩
  · simp
  · simp [endsLine_append]

namespace Piece

variable {ps : List (Piece α)} {offset line : Nat}

/-- The source text of pieces in a row. -/
def textOf (ps : List (Piece α)) : Text := ps.flatMap text

@[simp] theorem textOf_nil : textOf ([] : List (Piece α)) = [] := rfl

@[simp] theorem textOf_kept (c : Char) (ps : List (Piece α)) :
    textOf (.kept c :: ps) = c :: textOf ps := rfl

@[simp] theorem textOf_statement (w : Text) (x : α) (ps : List (Piece α)) :
    textOf (.statement w x :: ps) = w ++ textOf ps := rfl

@[simp] theorem textOf_append (ps qs : List (Piece α)) :
    textOf (ps ++ qs) = textOf ps ++ textOf qs := List.flatMap_append

theorem locateFrom_append (ps qs : List (Piece α)) (offset line : Nat) :
    locateFrom offset line (ps ++ qs) = locateFrom offset line ps ++
      locateFrom (offset + (textOf ps).byteLength) (line + (textOf ps).lineBreaks) qs := by
  induction ps generalizing offset line with
  | nil => rfl
  | cons piece ps ih =>
      cases piece with
      | kept c =>
          simp only [List.cons_append, locateFrom, ih, textOf_kept, byteLength_cons,
            lineBreaks_cons, Nat.add_assoc]
      | statement w x =>
          simp only [List.cons_append, locateFrom, ih, textOf_statement, byteLength_append,
            lineBreaks_append, Nat.add_assoc]

theorem locateFrom_add (bytes lines : Nat) (ps : List (Piece α)) :
    locateFrom (bytes + offset) (lines + line) ps
      = (locateFrom offset line ps).map (Located.shift bytes lines) := by
  induction ps generalizing offset line with
  | nil => rfl
  | cons piece ps ih =>
      cases piece with
      | kept c =>
          simp only [locateFrom, Nat.add_assoc] at ih ⊢
          exact ih
      | statement w x =>
          simp only [locateFrom, List.map_cons, Located.shift, Nat.add_assoc] at ih ⊢
          rw [ih]

/-- Nothing is found in front of where the search starts. -/
theorem le_of_mem_locateFrom {f : Located α} (h : f ∈ locateFrom offset line ps) :
    offset ≤ f.span.start := by
  induction ps generalizing offset line with
  | nil => exact nomatch h
  | cons piece ps ih =>
      cases piece with
      | kept c => exact Nat.le_trans (Nat.le_add_right _ _) (ih h)
      | statement w x =>
          rcases List.mem_cons.mp h with rfl | h
          · exact Nat.le_refl _
          · exact Nat.le_trans (Nat.le_add_right _ _) (ih h)

/-- A statement of a cut has been read at a line start, where its span says. -/
theorem Cuts.located {s : Text} (h : Cuts read b s ps) (before : Text)
    (hb : endsLine true before = b) :
    ∀ f ∈ locateFrom before.byteLength (1 + before.lineBreaks) ps,
      ∃ front w rest, before ++ s = front ++ (w ++ rest) ∧ endsLine true front = true ∧
        read (w ++ rest) = some (f.what, rest) ∧
        f.span = ⟨front.byteLength, (front ++ w).byteLength⟩ ∧ f.line = 1 + front.lineBreaks := by
  induction h generalizing before with
  | done => exact fun f hf => nomatch hf
  | @kept b c rest ps _ _ ih =>
      intro f hf
      have hrest := ih (before ++ [c]) (by simp) f
        (by simpa [locateFrom, Nat.add_assoc] using hf)
      rwa [List.append_assoc] at hrest
  | @statement w rest x ps hne hreads _ ih =>
      intro f hf
      rcases List.mem_cons.mp hf with rfl | hf
      · exact ⟨before, w, rest, rfl, hb, hreads, by rw [byteLength_append before], rfl⟩
      · have hrest := ih (before ++ w) (by rw [endsLine_append, hb]) f
          (by simpa [Nat.add_assoc] using hf)
        rwa [List.append_assoc] at hrest

/-- The statements of a cut lie behind what stands in front of it. -/
theorem Cuts.lies {s : Text} (hread : StartsWith word read) (h : Cuts read b s ps)
    (before : Text) (hb : endsLine true before = b) :
    ∀ f ∈ locateFrom before.byteLength (1 + before.lineBreaks) ps,
      f.Lies word (before ++ s) := by
  intro f hf
  obtain ⟨front, w, rest, hs, hends, hreads, hspan, hline⟩ := h.located before hb f hf
  obtain ⟨tail, hw, hafter⟩ := hread hreads
  rw [← List.append_assoc] at hw
  obtain rfl := List.append_cancel_right hw
  exact ⟨front, tail, rest, hs, endsLine_true_iff.mp hends, hafter, hspan, hline⟩

theorem Cuts.nonempty {s : Text} (h : Cuts read b s ps) (offset line : Nat) :
    ∀ f ∈ locateFrom offset line ps, f.span.start < f.span.stop := by
  induction h generalizing offset line with
  | done => exact fun f hf => nomatch hf
  | kept _ _ ih => exact fun f hf => ih _ _ f hf
  | @statement w rest x ps hne _ _ ih =>
      intro f hf
      rcases List.mem_cons.mp hf with rfl | hf
      · obtain ⟨c, w, rfl⟩ := List.exists_cons_of_ne_nil hne
        have := c.utf8Size_pos
        show offset < offset + byteLength (c :: w)
        rw [byteLength_cons]
        omega
      · exact ih _ _ f hf

theorem Cuts.ordered {s : Text} (h : Cuts read b s ps) :
    (locateFrom offset line ps).Pairwise fun f g =>
      f.span.start < g.span.start ∧ f.span.stop ≤ g.span.start := by
  induction h generalizing offset line with
  | done => exact List.Pairwise.nil
  | kept _ _ ih => exact ih
  | @statement w rest x ps hne hread htail ih =>
      refine List.pairwise_cons.mpr ⟨fun g hg => ?_, ih⟩
      -- the statement is not empty, and what is found behind it starts behind it
      have hstart := (Cuts.statement hne hread htail).nonempty offset line _ List.mem_cons_self
      have hstop := le_of_mem_locateFrom hg
      exact ⟨Nat.lt_of_lt_of_le hstart hstop, hstop⟩

/-- What is found in a source is laid out in it. -/
theorem Cuts.laid (hread : StartsWith word read) (h : Cuts read true source ps) :
    Laid word source (locate ps) := by
  have hlies := h.lies hread [] rfl
  refine ⟨hlies, h.nonempty 0 1, fun f hf => ?_, h.ordered⟩
  obtain ⟨before, tail, rest, rfl, -, -, hspan, -⟩ := hlies f hf
  rw [hspan]
  simp only [byteLength_append]
  omega

/-- No statement covers a kept character. -/
theorem not_covers_kept {ps qs : List (Piece α)} {c : Char} :
    ¬ Located.Covers (locate (ps ++ .kept c :: qs)) (textOf ps).byteLength := by
  rintro ⟨f, hf, hstart, hstop⟩
  rw [locate, locateFrom_append] at hf
  rcases List.mem_append.mp hf with hf | hf
  · have hle : ∀ (ps : List (Piece α)) (offset line : Nat), f ∈ locateFrom offset line ps →
        f.span.stop ≤ offset + (textOf ps).byteLength := by
      intro ps
      induction ps with
      | nil => exact fun _ _ hf => nomatch hf
      | cons piece ps ih =>
          intro offset line hf
          cases piece with
          | kept d =>
              have hrest := ih _ _ hf
              rw [textOf_kept, byteLength_cons]
              omega
          | statement w x =>
              rw [textOf_statement, byteLength_append]
              rcases List.mem_cons.mp hf with rfl | hf
              · show offset + w.byteLength ≤ _
                omega
              · have hrest := ih _ _ hf
                omega
    have := hle ps 0 1 hf
    omega
  · have hpos := c.utf8Size_pos
    have hbehind : 0 + (textOf ps).byteLength + c.utf8Size ≤ f.span.start :=
      le_of_mem_locateFrom hf
    omega

/-! ## What comes out -/

/-- What comes out when each statement gives way to the text that is held for it. -/
def result : List (Piece Text) → Text
  | [] => []
  | .kept c :: ps => c :: result ps
  | .statement _ new :: ps => new ++ result ps

/-- The spans of the statements with the texts that are held for them. -/
def edits (found : List (Located Text)) : List (Span × Text) :=
  found.map fun f => (f.span, f.what)

theorem result_append (ps qs : List (Piece Text)) : result (ps ++ qs) = result ps ++ result qs := by
  induction ps with
  | nil => rfl
  | cons piece ps ih =>
      cases piece with
      | kept c => exact congrArg (c :: ·) ih
      | statement w new =>
          show new ++ result (ps ++ qs) = _
          rw [ih, ← List.append_assoc]
          rfl

/-- Behind `before`, a splice first gives the gap that has been seen already. -/
theorem spliceFrom_locateFrom {source : Text} {ps : List (Piece Text)} (before gap : Text)
    (line : Nat) (hs : source = before ++ (gap ++ textOf ps)) :
    spliceFrom source before.byteLength (edits (locateFrom (before ++ gap).byteLength line ps))
      = some (gap ++ result ps) := by
  induction ps generalizing before gap line with
  | nil =>
      have hslice := slice?_append (u := before) (v := gap) (w := [])
      rw [textOf_nil, List.append_nil] at hs
      rw [List.append_nil] at hslice
      rw [hs]
      simpa [edits, locateFrom, spliceFrom, result] using hslice
  | cons piece ps ih =>
      cases piece with
      | kept c =>
          -- a kept character is one more of the gap
          have hrest := ih before (gap ++ [c]) (line + if c = '\n' then 1 else 0)
            (by rw [hs, textOf_kept, List.append_assoc]; rfl)
          rw [List.append_assoc] at hrest
          rw [locateFrom]
          simpa [← List.append_assoc, Nat.add_assoc, result] using hrest
      | statement w new =>
          have hrest := ih (before ++ (gap ++ w)) [] (line + w.lineBreaks)
            (by rw [hs, textOf_statement]; simp only [List.append_assoc, List.nil_append])
          have hgap : source.slice? before.byteLength (before ++ gap).byteLength = some gap := by
            rw [hs]
            exact slice?_append
          have hstop : (before ++ gap).byteLength + w.byteLength
              = (before ++ (gap ++ w)).byteLength := by
            simp only [byteLength_append, Nat.add_assoc]
          rw [List.append_nil, List.nil_append] at hrest
          rw [locateFrom, hstop]
          simp only [edits, List.map_cons, spliceFrom] at hrest ⊢
          rw [hgap, hrest]
          rfl

/-- Texts put for the spans of the statements give what comes out of the pieces. -/
theorem splice_edits {source : Text} {ps : List (Piece Text)} (hs : textOf ps = source) :
    splice source (edits (locate ps)) = some (result ps) :=
  spliceFrom_locateFrom [] [] 1 hs.symm

end Piece

end RequireForm
