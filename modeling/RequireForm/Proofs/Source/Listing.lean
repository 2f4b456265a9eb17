import RequireForm.Proofs.Source.Reading
import RequireForm.Proofs.Source.Words

/-!
# Brace lists — their syntax, and what the reader makes of it

    LIST = `{` ITEM (`,` ITEM)* `}`        ITEM = B* | B* NAME B* | B* NAME B+ `as` B+ NAME B*

where B is a blank. An item is kept as a syntax tree with its blanks, so that the text of a
list can be given back from its tree, and a tree from no other text.

  1. `ItemSyntax`, `ListSyntax`: the trees, their texts and what they mean.
  2. `ItemSyntax.text_unique`, `ListSyntax.text_append_unique`: one text, one tree.
  3. `Specifier.list?_eq_some_iff`: the reader finds exactly the lists.
-/

namespace RequireForm

open Text

/-- The word between a name and its alias. -/
abbrev asWord : Text := "as".toList

/-! ## Items -/

/-- An item of a list with the blanks in it: nothing, a name, or a name and an alias. -/
inductive ItemSyntax where
  | empty (gap : Text)
  | plain (before name after : Text)
  | aliased (before name gap₁ gap₂ alias_ after : Text)
  deriving DecidableEq, Repr

namespace ItemSyntax

/-- The item as it is written. -/
def text : ItemSyntax → Text
  | .empty gap => gap
  | .plain before name after => before ++ (name ++ after)
  | .aliased before name gap₁ gap₂ alias_ after =>
      before ++ (name ++ (gap₁ ++ (asWord ++ (gap₂ ++ (alias_ ++ after)))))

/-- The gaps are blank, the names are names, and blanks part the words. -/
def Fits : ItemSyntax → Prop
  | .empty gap => Blanks gap
  | .plain before name after => Blanks before ∧ Specifier.isName name = true ∧ Blanks after
  | .aliased before name gap₁ gap₂ alias_ after =>
      Blanks before ∧ Specifier.isName name = true ∧ (gap₁ ≠ [] ∧ Blanks gap₁) ∧
        (gap₂ ≠ [] ∧ Blanks gap₂) ∧ Specifier.isName alias_ = true ∧ Blanks after

instance : (d : ItemSyntax) → Decidable d.Fits
  | .empty _ => inferInstanceAs (Decidable (Blanks _))
  | .plain _ _ _ => inferInstanceAs (Decidable (_ ∧ _ ∧ _))
  | .aliased _ _ _ _ _ _ => inferInstanceAs (Decidable (_ ∧ _ ∧ (_ ∧ _) ∧ (_ ∧ _) ∧ _ ∧ _))

/-- What the item stands for, if it is not empty. -/
def specifier? : ItemSyntax → Option Specifier
  | .empty _ => none
  | .plain _ name _ => some ⟨name, none⟩
  | .aliased _ name _ _ alias_ _ => some ⟨name, some alias_⟩

/-- The words of the item. -/
def words : ItemSyntax → List Text
  | .empty _ => []
  | .plain _ name _ => [name]
  | .aliased _ name _ _ alias_ _ => [name, asWord, alias_]

theorem run_isInk_of_isName {w : Text} (h : Specifier.isName w = true) : Run isInk w :=
  run_mono (fun _ hc => by simp [not_isBlank_of_isNameChar hc]) (isName_iff.mp h).2

theorem stops_isInk_of_blanks {u t : Text} (hne : u ≠ []) (hu : Blanks u) :
    Stops isInk (u ++ t) := by
  cases u with
  | nil => exact absurd rfl hne
  | cons c u => simp [(run_cons.mp hu).1]

theorem stops_isInk_blanks {u : Text} (hu : Blanks u) : Stops isInk u := by
  cases u with
  | nil => exact stops_nil
  | cons c u => simp [(run_cons.mp hu).1]

theorem words_text {d : ItemSyntax} (h : d.Fits) : Text.words d.text = d.words := by
  cases d with
  | empty gap => exact words_eq_nil_iff.mpr h
  | plain before name after =>
      obtain ⟨hb, hn, ha⟩ := h
      exact words_eq_cons_iff.mpr ⟨before, after, rfl, hb, (isName_iff.mp hn).1,
        run_isInk_of_isName hn, stops_isInk_blanks ha, words_eq_nil_iff.mpr ha⟩
  | aliased before name gap₁ gap₂ alias_ after =>
      obtain ⟨hb, hn, ⟨hne₁, h₁⟩, ⟨hne₂, h₂⟩, hl, ha⟩ := h
      refine words_eq_cons_iff.mpr ⟨before, _, rfl, hb, (isName_iff.mp hn).1,
        run_isInk_of_isName hn, stops_isInk_of_blanks hne₁ h₁, ?_⟩
      refine words_eq_cons_iff.mpr ⟨gap₁, _, rfl, h₁, by decide, by decide,
        stops_isInk_of_blanks hne₂ h₂, ?_⟩
      exact words_eq_cons_iff.mpr ⟨gap₂, after, rfl, h₂, (isName_iff.mp hl).1,
        run_isInk_of_isName hl, stops_isInk_blanks ha, words_eq_nil_iff.mpr ha⟩

theorem ofWords?_words {d : ItemSyntax} (h : d.Fits) :
    Specifier.ofWords? d.words = d.specifier? := by
  cases d with
  | empty gap => rfl
  | plain before name after =>
      obtain ⟨-, hn, -⟩ := h
      simp [words, specifier?, Specifier.ofWords?, hn]
  | aliased before name gap₁ gap₂ alias_ after =>
      obtain ⟨-, hn, -, -, hl, -⟩ := h
      simp [words, specifier?, Specifier.ofWords?, hn, hl, asWord]

/-- A text whose words make an item is the text of an item. -/
theorem exists_of_ofWords? {t : Text} {x : Specifier}
    (h : Specifier.ofWords? (Text.words t) = some x) :
    ∃ d : ItemSyntax, d.Fits ∧ d.text = t ∧ d.specifier? = some x := by
  unfold Specifier.ofWords? at h
  split at h
  · next name hw =>
      split at h
      · next hn =>
          obtain ⟨u, rest, rfl, hu, -, -, -, hr⟩ := words_eq_cons_iff.mp hw
          exact ⟨.plain u name rest, ⟨hu, hn, words_eq_nil_iff.mp hr⟩, rfl, h⟩
      · exact nomatch h
  · next name joint alias_ hw =>
      split at h
      · next hn =>
          simp only [Bool.and_eq_true, decide_eq_true_eq] at hn
          obtain ⟨⟨hn, rfl⟩, hl⟩ := hn
          obtain ⟨u, rest, rfl, hu, -, -, hs, hw⟩ := words_eq_cons_iff.mp hw
          obtain ⟨v, rest, rfl, hv, -, -, hs', hw⟩ := words_eq_cons_iff.mp hw
          obtain ⟨w, rest, rfl, hw, -, hi, -, hr⟩ := words_eq_cons_iff.mp hw
          refine ⟨.aliased u name v w alias_ rest, ⟨hu, hn, ⟨?_, hv⟩, ⟨?_, hw⟩, hl,
            words_eq_nil_iff.mp hr⟩, rfl, h⟩
          -- without a gap the first word would go on into `as`
          · rintro rfl
            exact absurd hs (by simp [isBlank])
          · rintro rfl
            obtain ⟨c, alias_, rfl⟩ := List.exists_cons_of_ne_nil (isName_iff.mp hl).1
            have hc := (run_cons.mp hi).1
            rw [List.nil_append, List.cons_append, stops_cons] at hs'
            rw [hs'] at hc
            exact Bool.noConfusion hc
      · exact nomatch h
  · exact nomatch h

/-- The characters of an item. -/
theorem mem_text {d : ItemSyntax} (h : d.Fits) {c : Char} (hc : c ∈ d.text) :
    isNameChar c = true ∨ isBlank c = true := by
  cases d with
  | empty gap => exact Or.inr (h c hc)
  | plain before name after =>
      obtain ⟨hb, hn, ha⟩ := h
      have hn := (isName_iff.mp hn).2
      simp only [text, List.mem_append] at hc
      rcases hc with hc | hc | hc
      · exact Or.inr (hb c hc)
      · exact Or.inl (hn c hc)
      · exact Or.inr (ha c hc)
  | aliased before name gap₁ gap₂ alias_ after =>
      obtain ⟨hb, hn, ⟨-, h₁⟩, ⟨-, h₂⟩, hl, ha⟩ := h
      have hn := (isName_iff.mp hn).2
      have hl := (isName_iff.mp hl).2
      have hj : Run isNameChar asWord := by decide
      simp only [text, List.mem_append] at hc
      rcases hc with hc | hc | hc | hc | hc | hc | hc
      · exact Or.inr (hb c hc)
      · exact Or.inl (hn c hc)
      · exact Or.inr (h₁ c hc)
      · exact Or.inl (hj c hc)
      · exact Or.inr (h₂ c hc)
      · exact Or.inl (hl c hc)
      · exact Or.inr (ha c hc)

theorem stops_isBlank_of_isName {name t : Text} (h : Specifier.isName name = true) :
    Stops isBlank (name ++ t) :=
  stops_name (fun _ => not_isBlank_of_isNameChar) h

/-- Blanks before a name end where the name starts. -/
theorem blanks_append_unique {u u' name t t' : Text} (hu : Blanks u) (hu' : Blanks u')
    (hn : Specifier.isName name = true) (he : u ++ (name ++ t) = u' ++ (name ++ t')) :
    u = u' ∧ t = t' := by
  obtain ⟨rfl, ht⟩ := run_append_unique hu (stops_isBlank_of_isName hn) hu'
    (stops_isBlank_of_isName hn) he
  exact ⟨rfl, List.append_cancel_left ht⟩

/-- One text, one item: the words tell the shape and the names, and these tell the gaps. -/
theorem text_unique {d d' : ItemSyntax} (h : d.Fits) (h' : d'.Fits) (he : d.text = d'.text) :
    d = d' := by
  have hw : d.words = d'.words := by rw [← words_text h, ← words_text h', he]
  cases d with
  | empty gap =>
      cases d' with
      | empty gap' => rw [show gap = gap' from he]
      | plain _ _ _ => exact nomatch hw
      | aliased _ _ _ _ _ _ => exact nomatch hw
  | plain before name after =>
      cases d' with
      | empty _ => exact nomatch hw
      | plain before' name' after' =>
          obtain rfl : name = name' := (List.cons.inj hw).1
          obtain ⟨rfl, rfl⟩ := blanks_append_unique h.1 h'.1 h.2.1 he
          rfl
      | aliased _ _ _ _ _ _ => exact nomatch hw
  | aliased before name gap₁ gap₂ alias_ after =>
      cases d' with
      | empty _ => exact nomatch hw
      | plain _ _ _ => exact nomatch hw
      | aliased before' name' gap₁' gap₂' alias' after' =>
          obtain ⟨hb, hn, ⟨-, h₁⟩, ⟨-, h₂⟩, hl, -⟩ := h
          obtain ⟨hb', -, ⟨-, h₁'⟩, ⟨-, h₂'⟩, -, -⟩ := h'
          -- the words name both names, and then each gap ends where the next word starts
          obtain rfl : name = name' := (List.cons.inj hw).1
          obtain rfl : alias_ = alias' := by
            simpa [words] using hw
          obtain ⟨rfl, he₁⟩ := blanks_append_unique hb hb' hn he
          have hj : Specifier.isName asWord = true := by decide
          obtain ⟨rfl, he₂⟩ := blanks_append_unique h₁ h₁' hj he₁
          obtain ⟨rfl, rfl⟩ := blanks_append_unique h₂ h₂' hl he₂
          rfl

theorem texts_unique {ds ds' : List ItemSyntax} (h : ∀ d ∈ ds, d.Fits)
    (h' : ∀ d ∈ ds', d.Fits) (he : ds.map (·.text) = ds'.map (·.text)) : ds = ds' := by
  induction ds generalizing ds' with
  | nil => exact (List.map_eq_nil_iff.mp he.symm).symm
  | cons d ds ih =>
      cases ds' with
      | nil => exact nomatch he
      | cons d' ds' =>
          obtain ⟨hd, hds⟩ := List.forall_mem_cons.mp h
          obtain ⟨hd', hds'⟩ := List.forall_mem_cons.mp h'
          obtain ⟨htext, htexts⟩ := List.cons.inj he
          rw [text_unique hd hd' htext, ih hds hds' htexts]

end ItemSyntax

/-! ## Lists -/

/-- A brace list: items with commas between them. A list of no items is written as a list of
    one that is empty. -/
structure ListSyntax where
  first : ItemSyntax
  others : List ItemSyntax
  deriving DecidableEq, Repr

namespace ListSyntax

/-- All items of the list. -/
def items (b : ListSyntax) : List ItemSyntax := b.first :: b.others

/-- Every item is well written. Then none holds a comma, a brace or a `;`. -/
def Fits (b : ListSyntax) : Prop := ∀ d ∈ b.items, d.Fits

instance (b : ListSyntax) : Decidable b.Fits :=
  inferInstanceAs (Decidable (∀ d ∈ b.items, d.Fits))

/-- The text between the braces. -/
def body (b : ListSyntax) : Text :=
  b.first.text ++ b.others.flatMap fun d => ',' :: d.text

/-- The list as it is written. -/
def text (b : ListSyntax) : Text := '\x7b' :: (b.body ++ ['\x7d'])

/-- What the list stands for: its items in order, without the empty ones. -/
def specifiers (b : ListSyntax) : List Specifier := b.items.filterMap (·.specifier?)

/-- A comma parts two items of a list. -/
abbrev isComma (c : Char) : Bool := c = ','

theorem run_not_isComma {d : ItemSyntax} (h : d.Fits) : Run (!isComma ·) d.text := by
  intro c hc
  cases hcomma : isComma c with
  | false => simp [hcomma]
  | true =>
      obtain rfl : c = ',' := of_decide_eq_true hcomma
      exact absurd (ItemSyntax.mem_text h hc) (by decide)

/-- The commas cut the body of a list into its items. -/
theorem cutAt_body {b : ListSyntax} (h : b.Fits) :
    cutAt isComma b.body = b.items.map (·.text) := by
  obtain ⟨first, others⟩ := b
  induction others generalizing first with
  | nil =>
      have hf := h first List.mem_cons_self
      simp only [body, List.flatMap_nil, List.append_nil, items, List.map_cons, List.map_nil]
      exact cutAt_eq_singleton (run_not_isComma hf)
  | cons second others ih =>
      have hf := h first List.mem_cons_self
      have ho : Fits ⟨second, others⟩ := fun d hd => h d (List.mem_cons_of_mem _ hd)
      have he : body ⟨first, second :: others⟩
          = first.text ++ ',' :: body ⟨second, others⟩ := by
        simp [body]
      rw [he, cutAt_append_cons (run_not_isComma hf) (by decide), ih second ho]
      rfl

/-- Commas put back between the pieces of a text give the text. -/
theorem eq_of_cutAt {t u : Text} {us : List Text} (h : cutAt isComma t = u :: us) :
    t = u ++ us.flatMap (',' :: ·) := by
  induction t generalizing u us with
  | nil =>
      obtain ⟨rfl, rfl⟩ := List.cons.inj h
      rfl
  | cons c t ih =>
      obtain ⟨v, vs, ht⟩ := List.exists_cons_of_ne_nil (cutAt_ne_nil isComma t)
      cases hc : isComma c with
      | true =>
          obtain rfl : c = ',' := of_decide_eq_true hc
          rw [cutAt, if_pos hc] at h
          obtain ⟨rfl, rfl⟩ := List.cons.inj h
          rw [ht, List.nil_append, List.flatMap_cons, List.cons_append, ← ih ht]
      | false =>
          rw [cutAt_cons_of_not hc ht] at h
          obtain ⟨rfl, rfl⟩ := List.cons.inj h
          rw [List.cons_append, ← ih ht]

end ListSyntax

namespace Specifier

/-- Read the pieces of a body as items. -/
def ofPieces? (pieces : List Text) : Option (List Specifier) :=
  ((pieces.map trim).filter (· ≠ [])).mapM (ofWords? ∘ words)

theorem listOfBody?_eq (t : Text) : listOfBody? t = ofPieces? (cutAt ListSyntax.isComma t) := rfl

theorem ofPieces?_cons_blank {t : Text} {pieces : List Text} (h : Blanks t) :
    ofPieces? (t :: pieces) = ofPieces? pieces := by
  simp [ofPieces?, trim_eq_nil_iff.mpr h]

theorem ofPieces?_cons {t : Text} {pieces : List Text} (h : ¬ Blanks t) :
    ofPieces? (t :: pieces)
      = (ofWords? (words t)).bind fun x => (ofPieces? pieces).map (x :: ·) := by
  have hne : trim t ≠ [] := fun he => h (trim_eq_nil_iff.mp he)
  simp only [ofPieces?, List.map_cons, List.filter_cons, hne, ne_eq, not_false_eq_true,
    decide_true, if_true, List.mapM_cons, Function.comp_apply, words_trim]
  cases ofWords? (words t) with
  | none => rfl
  | some x => exact Option.map_eq_bind.symm

/-- The pieces that make items are the texts of item trees. -/
theorem ofPieces?_eq_some_iff {pieces : List Text} {xs : List Specifier} :
    ofPieces? pieces = some xs ↔
      ∃ ds : List ItemSyntax, (∀ d ∈ ds, d.Fits) ∧ ds.map (·.text) = pieces ∧
        ds.filterMap (·.specifier?) = xs := by
  constructor
  · intro h
    induction pieces generalizing xs with
    | nil =>
        obtain rfl : [] = xs := Option.some.inj h
        exact ⟨[], List.forall_mem_nil _, rfl, rfl⟩
    | cons t pieces ih =>
        by_cases hb : Blanks t
        · rw [ofPieces?_cons_blank hb] at h
          obtain ⟨ds, hds, rfl, rfl⟩ := ih h
          exact ⟨.empty t :: ds, List.forall_mem_cons.mpr ⟨hb, hds⟩, rfl, rfl⟩
        · rw [ofPieces?_cons hb] at h
          obtain ⟨x, hx, h⟩ := Option.bind_eq_some_iff.mp h
          obtain ⟨xs, hxs, rfl⟩ := Option.map_eq_some_iff.mp h
          obtain ⟨d, hd, rfl, hdx⟩ := ItemSyntax.exists_of_ofWords? hx
          obtain ⟨ds, hds, rfl, rfl⟩ := ih hxs
          refine ⟨d :: ds, List.forall_mem_cons.mpr ⟨hd, hds⟩, rfl, ?_⟩
          rw [List.filterMap_cons_some hdx]
  · rintro ⟨ds, hds, rfl, rfl⟩
    induction ds with
    | nil => rfl
    | cons d ds ih =>
        obtain ⟨hd, hds⟩ := List.forall_mem_cons.mp hds
        have hw := ItemSyntax.ofWords?_words hd
        rw [List.map_cons]
        by_cases hb : Blanks d.text
        · have hn : d.specifier? = none := by
            rw [← hw, ← ItemSyntax.words_text hd, words_eq_nil_iff.mpr hb]
            rfl
          rw [ofPieces?_cons_blank hb, ih hds, List.filterMap_cons_none hn]
        -- an item that is not blank has a specifier
        · cases hx : d.specifier? with
          | none =>
              cases d with
              | empty gap => exact absurd hd hb
              | plain _ _ _ => exact nomatch hx
              | aliased _ _ _ _ _ _ => exact nomatch hx
          | some x =>
              rw [ofPieces?_cons hb, ItemSyntax.words_text hd, hw, hx, ih hds,
                List.filterMap_cons_some hx]
              rfl

theorem listOfBody?_eq_some_iff {t : Text} {xs : List Specifier} :
    listOfBody? t = some xs ↔
      ∃ b : ListSyntax, b.Fits ∧ b.body = t ∧ b.specifiers = xs := by
  rw [listOfBody?_eq, ofPieces?_eq_some_iff]
  constructor
  · rintro ⟨ds, hds, ht, rfl⟩
    cases ds with
    | nil => exact absurd ht.symm (cutAt_ne_nil _ _)
    | cons first others =>
        refine ⟨⟨first, others⟩, hds, ?_, rfl⟩
        -- there is always a first piece, if only an empty one
        rw [ListSyntax.eq_of_cutAt ht.symm, List.flatMap_map]
        rfl
  · rintro ⟨b, hb, rfl, rfl⟩
    exact ⟨b.items, hb, (ListSyntax.cutAt_body hb).symm, rfl⟩

end Specifier

namespace ListSyntax

/-- The characters of a body: names, blanks and commas. -/
theorem mem_body {b : ListSyntax} (h : b.Fits) {c : Char} (hc : c ∈ b.body) :
    isNameChar c = true ∨ isBlank c = true ∨ c = ',' := by
  have hitem : ∀ d ∈ b.items, c ∈ d.text → isNameChar c = true ∨ isBlank c = true ∨ c = ',' := by
    intro d hd hc
    rcases ItemSyntax.mem_text (h d hd) hc with hc | hc
    · exact Or.inl hc
    · exact Or.inr (Or.inl hc)
  rcases List.mem_append.mp hc with hc | hc
  · exact hitem b.first List.mem_cons_self hc
  · obtain ⟨d, hd, hc⟩ := List.mem_flatMap.mp hc
    rcases List.mem_cons.mp hc with hc | hc
    · exact Or.inr (Or.inr hc)
    · exact hitem d (List.mem_cons_of_mem _ hd) hc

theorem run_body {b : ListSyntax} (h : b.Fits) : Run (!Specifier.endsBody ·) b.body := by
  intro c hc
  cases he : Specifier.endsBody c with
  | false => simp [he]
  | true =>
      simp only [Specifier.endsBody, Bool.or_eq_true, decide_eq_true_eq] at he
      rcases he with (rfl | rfl) | rfl <;> exact absurd (mem_body h hc) (by decide)

/-- One text, one list. -/
theorem text_append_unique {b b' : ListSyntax} {rest rest' : Text} (h : b.Fits) (h' : b'.Fits)
    (he : b.text ++ rest = b'.text ++ rest') : b = b' ∧ rest = rest' := by
  have he : b.body ++ '\x7d' :: rest = b'.body ++ '\x7d' :: rest' := by
    simpa [text] using he
  obtain ⟨hbody, hrest⟩ := run_append_unique (run_body h) (stops_cons.mpr (by decide))
    (run_body h') (stops_cons.mpr (by decide)) he
  have hitems : b.items.map (·.text) = b'.items.map (·.text) := by
    rw [← cutAt_body h, ← cutAt_body h', hbody]
  have hb : b.items = b'.items := ItemSyntax.texts_unique h h' hitems
  obtain ⟨first, others⟩ := b
  obtain ⟨first', others'⟩ := b'
  obtain ⟨rfl, rfl⟩ := List.cons.inj hb
  exact ⟨rfl, (List.cons.inj hrest).2⟩

end ListSyntax

namespace Specifier

theorem list?_eq_some_iff {s rest : Text} {xs : List Specifier} :
    list? s = some (xs, rest) ↔
      ∃ b : ListSyntax, b.Fits ∧ b.specifiers = xs ∧ s = b.text ++ rest := by
  constructor
  · intro h
    unfold list? at h
    split at h
    · next s =>
        split at h
        · next rest' hd =>
            obtain ⟨ys, hys, h⟩ := Option.map_eq_some_iff.mp h
            obtain ⟨rfl, rfl⟩ := Prod.mk.inj h
            obtain ⟨b, hb, hbody, hx⟩ := listOfBody?_eq_some_iff.mp hys
            refine ⟨b, hb, hx, ?_⟩
            rw [ListSyntax.text, hbody, List.cons_append, List.append_assoc,
              List.singleton_append, ← hd, List.takeWhile_append_dropWhile]
        · exact nomatch h
    · exact nomatch h
  · rintro ⟨b, hb, rfl, rfl⟩
    have hs : b.text ++ rest = '\x7b' :: (b.body ++ '\x7d' :: rest) := by
      simp [ListSyntax.text]
    have hstop : Stops (!endsBody ·) ('\x7d' :: rest) := stops_cons.mpr (by decide)
    rw [hs, list?, dropWhile_append_of_run (ListSyntax.run_body hb) hstop,
      takeWhile_append_of_run (ListSyntax.run_body hb) hstop,
      listOfBody?_eq_some_iff.mpr ⟨b, hb, rfl, rfl⟩]
    rfl

theorem list?_text {b : ListSyntax} {rest : Text} (hb : b.Fits) :
    list? (b.text ++ rest) = some (b.specifiers, rest) :=
  list?_eq_some_iff.mpr ⟨b, hb, rfl, rfl⟩

end Specifier

end RequireForm
