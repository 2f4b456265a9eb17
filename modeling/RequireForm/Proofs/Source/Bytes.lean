import RequireForm.Proofs.Source.Splice
import RequireForm.Proofs.Source.Visit

/-!
# Bytes — a text as it is stored

    text     e  '        é     \n
    bytes    65 27       c3 a9 0a

A reader that goes by bytes sees an ASCII character as one byte, and of any other character only
bytes that no ASCII character has. So a byte that looks like an ASCII character is one, it starts
where that character does, and the next character starts right behind it. That is why a reader
that steps over such bytes one at a time is never left inside a character.

  1. `Text.bytes`, `byteAt?`: the bytes of a text, and what is at the front of a rest.
  2. `seen`, `seen_lead`: what a byte tells of a character.
  3. `find?`: where the first character of a kind starts.
  4. `lineOffsets`: line starts by their bytes, and `lineOffsets_eq`: they are the line starts.
-/

namespace RequireForm

namespace Text

variable {t u v : Text} {c : Char} {b : UInt8} {p : Char → Bool} {n : Nat}

/-! ## Bytes -/

/-- The UTF-8 bytes of a text. -/
def bytes (t : Text) : List UInt8 := t.flatMap String.utf8EncodeChar

/-- The byte at an offset. -/
def byteAt? (t : Text) (n : Nat) : Option UInt8 := t.bytes[n]?

/-- The first byte of a character. -/
def lead (c : Char) : UInt8 := (String.utf8EncodeChar c).head String.utf8EncodeChar_ne_nil

@[simp] theorem bytes_nil : bytes [] = [] := rfl

theorem bytes_cons (c : Char) (t : Text) : bytes (c :: t) = String.utf8EncodeChar c ++ bytes t :=
  List.flatMap_cons

theorem bytes_append (t u : Text) : bytes (t ++ u) = bytes t ++ bytes u := List.flatMap_append

@[simp] theorem length_bytes (t : Text) : t.bytes.length = t.byteLength := by
  induction t with
  | nil => rfl
  | cons c t ih =>
      rw [bytes_cons, List.length_append, ih, String.length_utf8EncodeChar, byteLength_cons]

theorem lt_of_byteAt? (h : t.byteAt? n = some b) : n < t.byteLength := by
  rw [← length_bytes]
  exact (List.getElem?_eq_some_iff.mp h).1

/-- Behind a text one sees what comes next. -/
theorem byteAt?_append (u v : Text) : (u ++ v).byteAt? u.byteLength = v.byteAt? 0 := by
  rw [byteAt?, bytes_append, List.getElem?_append_right (by rw [length_bytes]), length_bytes,
    Nat.sub_self]
  rfl

theorem byteAt?_cons (c : Char) (t : Text) : byteAt? (c :: t) 0 = some (lead c) := by
  rw [byteAt?, bytes_cons, ← List.head?_eq_getElem?, List.head?_append,
    List.head?_eq_some_head String.utf8EncodeChar_ne_nil]
  rfl

theorem byteAt?_behind (u : Text) (c : Char) (v : Text) :
    (u ++ c :: v).byteAt? u.byteLength = some (lead c) := by
  rw [byteAt?_append, byteAt?_cons]

/-! ## ASCII characters -/

/-- Only ASCII characters are of this kind. -/
def Ascii (p : Char → Bool) : Prop := ∀ c, p c = true → c.toNat < 128

/-- A byte that is an ASCII character of a kind. -/
def seen (p : Char → Bool) (b : UInt8) : Bool := b.toNat < 128 && p (Char.ofNat b.toNat)

theorem ascii_eq {d : Char} (hd : d.toNat < 128) : Ascii (· = d) := by
  intro c hc
  rw [of_decide_eq_true hc]
  exact hd

theorem Ascii.or {q : Char → Bool} (hp : Ascii p) (hq : Ascii q) : Ascii fun c => p c || q c := by
  intro c hc
  rcases Bool.or_eq_true_iff.mp hc with h | h
  · exact hp c h
  · exact hq c h

theorem ascii_isInlineSpace : Ascii isInlineSpace :=
  (ascii_eq (by decide)).or (ascii_eq (by decide))

theorem ascii_isSpace : Ascii isSpace :=
  (ascii_isInlineSpace.or (ascii_eq (by decide))).or (ascii_eq (by decide))

theorem ascii_isQuote : Ascii PathLiteral.isQuote :=
  ((ascii_eq (by decide)).or (ascii_eq (by decide))).or (ascii_eq (by decide))

theorem ascii_isNameChar : Ascii isNameChar := by
  refine (Ascii.or ?_ (ascii_eq (by decide))).or (ascii_eq (by decide))
  intro c hc
  delta Char.isAlphanum Char.isAlpha Char.isUpper Char.isLower Char.isDigit at hc
  simp only [Bool.or_eq_true, Bool.and_eq_true, decide_eq_true_eq, ge_iff_le,
    UInt32.le_iff_toNat_le] at hc
  change ((65 ≤ c.toNat ∧ c.toNat ≤ 90) ∨ (97 ≤ c.toNat ∧ c.toNat ≤ 122)) ∨
    (48 ≤ c.toNat ∧ c.toNat ≤ 57) at hc
  omega

theorem utf8EncodeChar_of_ascii (h : c.toNat < 128) :
    String.utf8EncodeChar c = [UInt8.ofNat c.toNat] := by
  rw [String.utf8EncodeChar]
  exact if_pos (Nat.le_of_lt_succ h)

/-- An ASCII character is one byte. -/
theorem utf8Size_of_ascii (h : c.toNat < 128) : c.utf8Size = 1 := by
  rw [← String.length_utf8EncodeChar, utf8EncodeChar_of_ascii h]
  rfl

theorem byteLength_concat (h : c.toNat < 128) (t : Text) :
    (t ++ [c]).byteLength = t.byteLength + 1 := by
  rw [byteLength_append, byteLength_cons, utf8Size_of_ascii h]
  rfl

/-- The bytes of any other character are those of no ASCII character. -/
theorem le_of_mem_utf8EncodeChar (h : 128 ≤ c.toNat) (hb : b ∈ String.utf8EncodeChar c) :
    128 ≤ b.toNat := by
  have hc : ¬ c.val.toNat ≤ 127 := Nat.not_le.mpr h
  rw [String.utf8EncodeChar] at hb
  simp only [if_neg hc] at hb
  split at hb
  · simp only [List.mem_cons, List.not_mem_nil, or_false] at hb
    rcases hb with rfl | rfl <;> rw [UInt8.toNat_ofNat'] <;> omega
  · split at hb
    · simp only [List.mem_cons, List.not_mem_nil, or_false] at hb
      rcases hb with rfl | rfl | rfl <;> rw [UInt8.toNat_ofNat'] <;> omega
    · simp only [List.mem_cons, List.not_mem_nil, or_false] at hb
      rcases hb with rfl | rfl | rfl | rfl <;> rw [UInt8.toNat_ofNat'] <;> omega

theorem toNat_ofNat_of_ascii (h : c.toNat < 128) : (UInt8.ofNat c.toNat).toNat = c.toNat := by
  rw [UInt8.toNat_ofNat']
  omega

/-- The first byte of an ASCII character is the character. -/
theorem toNat_lead (h : c.toNat < 128) : (lead c).toNat = c.toNat := by
  rw [lead]
  simp only [utf8EncodeChar_of_ascii h, List.head_cons, toNat_ofNat_of_ascii h]

theorem le_toNat_lead (h : 128 ≤ c.toNat) : 128 ≤ (lead c).toNat :=
  le_of_mem_utf8EncodeChar h (List.head_mem _)

theorem seen_ofNat (h : c.toNat < 128) : seen p (UInt8.ofNat c.toNat) = p c := by
  rw [seen, toNat_ofNat_of_ascii h, Char.ofNat_toNat, decide_eq_true h, Bool.true_and]

/-- Of a kind of ASCII characters, the first byte tells whether a character is one. -/
theorem seen_lead (hp : Ascii p) (c : Char) : seen p (lead c) = p c := by
  by_cases hc : c.toNat < 128
  · rw [seen, toNat_lead hc, Char.ofNat_toNat, decide_eq_true hc, Bool.true_and]
  · have hle := le_toNat_lead (Nat.not_lt.mp hc)
    rw [seen, decide_eq_false (Nat.not_lt.mpr hle), Bool.false_and]
    exact (Bool.eq_false_iff.mpr fun h => hc (hp c h)).symm

/-! ## Searching -/

/-- Where the first character of a kind starts, in bytes. -/
def find? (p : Char → Bool) : Text → Option Nat
  | [] => none
  | c :: t => if p c then some 0 else (find? p t).map (c.utf8Size + ·)

theorem find?_eq (p : Char → Bool) (t : Text) :
    find? p t = match t.dropWhile (!p ·) with
      | [] => none
      | _ :: _ => some (byteLength (t.takeWhile (!p ·))) := by
  induction t with
  | nil => rfl
  | cons c t ih =>
      rw [find?]
      cases hc : p c with
      | true => simp [hc]
      | false =>
          rw [if_neg Bool.false_ne_true, ih]
          simp only [hc, Bool.not_false, List.dropWhile_cons_of_pos, List.takeWhile_cons_of_pos]
          cases t.dropWhile (!p ·) with
          | nil => rfl
          | cons d rest => rfl

theorem find?_of_forall (h : ∀ c ∈ t, p c = false) : find? p t = none := by
  induction t with
  | nil => rfl
  | cons c t ih =>
      obtain ⟨hc, ht⟩ := List.forall_mem_cons.mp h
      rw [find?, if_neg (ne_true_of_eq_false hc), ih ht]
      rfl

/-- What is found starts where the characters before it end. -/
theorem find?_append (h : ∀ d ∈ t, p d = false) (hc : p c = true) (rest : Text) :
    find? p (t ++ c :: rest) = some t.byteLength := by
  induction t with
  | nil =>
      rw [List.nil_append, find?, if_pos hc]
      rfl
  | cons d t ih =>
      obtain ⟨hd, ht⟩ := List.forall_mem_cons.mp h
      rw [List.cons_append, find?, if_neg (ne_true_of_eq_false hd), ih ht]
      rfl

/-! ## Line starts -/

/-- Where lines start, in bytes: at the front, and behind each line feed that is not the end. -/
def lineOffsets (t : Text) : List Nat :=
  0 :: ((t.bytes.zipIdx.filter fun x => seen (· = '\n') x.1).map (·.2 + 1)).filter
    (· < t.byteLength)

/-- Behind the line feeds among some bytes, of which the first is at an offset. -/
def behindFeeds (n : Nat) (bs : List UInt8) : List Nat :=
  ((bs.zipIdx n).filter fun x => seen (· = '\n') x.1).map (·.2 + 1)

theorem behindFeeds_append (n : Nat) (bs bs' : List UInt8) :
    behindFeeds n (bs ++ bs') = behindFeeds n bs ++ behindFeeds (n + bs.length) bs' := by
  rw [behindFeeds, List.zipIdx_append, List.filter_append, List.map_append]
  rfl

theorem behindFeeds_char (n : Nat) (c : Char) :
    behindFeeds n (String.utf8EncodeChar c) = if c = '\n' then [n + 1] else [] := by
  by_cases hc : c = '\n'
  · subst hc
    rfl
  · rw [if_neg hc, behindFeeds, List.map_eq_nil_iff, List.filter_eq_nil_iff]
    intro x hx hseen
    have hmem : x.1 ∈ String.utf8EncodeChar c := List.fst_mem_of_mem_zipIdx hx
    by_cases hascii : c.toNat < 128
    · rw [utf8EncodeChar_of_ascii hascii, List.mem_singleton] at hmem
      rw [hmem, seen_ofNat hascii] at hseen
      exact hc (of_decide_eq_true hseen)
    · have hle := le_of_mem_utf8EncodeChar (Nat.not_lt.mp hascii) hmem
      rw [seen, Bool.and_eq_true, decide_eq_true_eq] at hseen
      exact absurd hseen.1 (Nat.not_lt.mpr hle)

end Text

open Text

theorem lineStartsFrom_feed (before t : Text) :
    lineStartsFrom false before ('\n' :: t)
      = (if t = [] then [] else [(before ++ ['\n'], t)])
        ++ lineStartsFrom false (before ++ ['\n']) t := by
  cases t with
  | nil => rfl
  | cons c t => rfl

theorem lineStartsFrom_other {c : Char} (hc : c ≠ '\n') (before t : Text) :
    lineStartsFrom false before (c :: t) = lineStartsFrom false (before ++ [c]) t := by
  rw [lineStartsFrom, decide_eq_false hc]
  rfl

/-- What stands before a line start and behind it is the whole text. -/
theorem append_of_mem_lineStartsFrom {b : Bool} {before t : Text} {start : Text × Text}
    (h : start ∈ lineStartsFrom b before t) : start.1 ++ start.2 = before ++ t := by
  induction t generalizing b before with
  | nil => exact absurd h List.not_mem_nil
  | cons c t ih =>
      rw [lineStartsFrom, List.mem_append] at h
      rcases h with h | h
      · cases b with
        | false => exact absurd h List.not_mem_nil
        | true => rw [List.mem_singleton.mp h]
      · rw [ih h, List.append_assoc]
        rfl

/-- The bytes behind line feeds are those of the line starts. -/
theorem behindFeeds_bytes (before t : Text) :
    (behindFeeds before.byteLength t.bytes).filter (· < (before ++ t).byteLength)
      = (lineStartsFrom false before t).map (·.1.byteLength) := by
  induction t generalizing before with
  | nil => rfl
  | cons c t ih =>
      have hrest := ih (before ++ [c])
      rw [List.append_assoc, List.singleton_append] at hrest
      have hoffset : before.byteLength + (String.utf8EncodeChar c).length
          = (before ++ [c]).byteLength := by
        rw [String.length_utf8EncodeChar]
        simp
      rw [bytes_cons, behindFeeds_append, List.filter_append, hoffset, hrest, behindFeeds_char]
      have hfeed : '\n'.toNat < 128 := by decide
      by_cases hc : c = '\n'
      · subst hc
        rw [lineStartsFrom_feed, List.map_append, if_pos rfl, List.append_left_inj]
        by_cases ht : t = []
        · subst ht
          refine List.filter_cons_of_neg ?_
          rw [byteLength_concat hfeed, decide_eq_true_eq]
          exact Nat.lt_irrefl _
        · have hbehind : before.byteLength + 1 < (before ++ '\n' :: t).byteLength := by
            obtain ⟨d, t, rfl⟩ := List.exists_cons_of_ne_nil ht
            have hd := d.utf8Size_pos
            rw [← List.singleton_append, ← List.append_assoc, byteLength_append,
              byteLength_concat hfeed, byteLength_cons]
            omega
          rw [if_neg ht, List.map_singleton, byteLength_concat hfeed]
          exact List.filter_cons_of_pos (decide_eq_true hbehind)
      · rw [lineStartsFrom_other hc, if_neg hc]
        rfl

/-- Line starts are numbered by the line feeds before them. -/
theorem zipIdx_lineStartsFrom (before t : Text) :
    ((lineStartsFrom false before t).map (·.1.byteLength)).zipIdx (2 + before.lineBreaks)
      = (lineStartsFrom false before t).map fun s => (s.1.byteLength, 1 + s.1.lineBreaks) := by
  induction t generalizing before with
  | nil => rfl
  | cons c t ih =>
      have hrest := ih (before ++ [c])
      by_cases hc : c = '\n'
      · subst hc
        rw [lineStartsFrom_feed]
        by_cases ht : t = []
        · subst ht
          rfl
        · have hline : 2 + before.lineBreaks = 1 + (before ++ ['\n']).lineBreaks := by
            rw [lineBreaks_append, Nat.add_comm before.lineBreaks, ← Nat.add_assoc]
            rfl
          have hnext :
              1 + (before ++ ['\n']).lineBreaks + 1 = 2 + (before ++ ['\n']).lineBreaks := by
            omega
          rw [if_neg ht, List.singleton_append, List.map_cons, List.zipIdx_cons, List.map_cons,
            hline, hnext, hrest]
      · rw [lineStartsFrom_other hc]
        rwa [lineBreaks_append, lineBreaks_cons, if_neg hc] at hrest

/-- The offsets of lines with their numbers are those of the line starts. -/
theorem lineOffsets_eq (s : Text) :
    (lineOffsets s).zipIdx 1
      = (lineStarts s).map fun start => (start.1.byteLength, 1 + start.1.lineBreaks) := by
  have hoffsets : lineOffsets s = 0 :: (lineStartsFrom false [] s).map (·.1.byteLength) :=
    congrArg (0 :: ·) (behindFeeds_bytes [] s)
  rw [hoffsets, List.zipIdx_cons, lineStarts]
  cases s with
  | nil => rfl
  | cons c t =>
      rw [if_neg (List.cons_ne_nil _ _)]
      exact congrArg (_ :: ·) (zipIdx_lineStartsFrom [] (c :: t))

end RequireForm
