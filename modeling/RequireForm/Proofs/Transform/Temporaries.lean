import Mathlib.Data.List.Nodup
import RequireForm.Proofs.Transform.AbsentNames
import RequireForm.Proofs.Transform.NewText
import RequireForm.Proofs.Transform.PathText

/-!
# Temporaries — the names that the second pass declares

    export * from 'm'      const $val0 = require('m');
                           for (const $key0 of Object.keys($val0)) if (...) exports[$key0] = ...

Each star takes the next pair of names, whatever names stand in the source. What else the second
pass writes declares no name that the source does not hold.

  1. `temporaries`, `nodup_temporaries`: the pairs, all of them different.
  2. `declaredFrom_copyAll`: the loop of a star declares its pair, and nothing else but what may
     stand in its path.
  3. `Quiet`: texts that declare nothing in front of a text that is `Calm`; `quiet_require`.
  4. `exportPass_ne`, `calm_exportPass`: where no line starts, the second pass makes calm texts.
  5. `count_exportPass`, `temporaries_sublist_exportPass`: what the second pass declares.
-/

namespace RequireForm

open Text

variable {name k t u x w rest gap : Text} {c : Char} {b free inside : Bool} {n count : Nat}
  {e : Export} {r : PathRule} {ps : List (Piece Export)}

/-! ## The pairs -/

/-- The name of the module that the `n`-th star publishes. -/
def valueName (n : Nat) : Text := "$val".toList ++ Text.ofNat n

/-- The name of its keys. -/
def keyName (n : Nat) : Text := "$key".toList ++ Text.ofNat n

/-- The temporaries of stars in a row, the first one with the number `first`. -/
def temporaries (first count : Nat) : List Text :=
  (List.range' first count).flatMap fun n => [valueName n, keyName n]

theorem temporaries_succ :
    temporaries n (count + 1) = valueName n :: keyName n :: temporaries (n + 1) count := by
  rw [temporaries, List.range'_succ]
  rfl

theorem isName_valueName (n : Nat) : Specifier.isName (valueName n) = true :=
  isName_iff.mpr ⟨List.append_ne_nil_of_left_ne_nil (by decide) _,
    run_append.mpr ⟨by decide, Export.run_ofNat n⟩⟩

theorem isName_keyName (n : Nat) : Specifier.isName (keyName n) = true :=
  isName_iff.mpr ⟨List.append_ne_nil_of_left_ne_nil (by decide) _,
    run_append.mpr ⟨by decide, Export.run_ofNat n⟩⟩

/-- No word that declares starts with a `$`. -/
theorem not_mem_declaringWords (h : k.head? = some '$') : k ∉ declaringWords := by
  have hall : ∀ word ∈ declaringWords, word.head? ≠ some '$' := by decide
  exact fun hk => hall k hk h

/-- Nor does a word that a new line starts with. -/
theorem not_mem_newWords (h : k.head? = some '$') : k ∉ newWords := by
  have hall : ∀ word ∈ newWords, word.head? ≠ some '$' := by decide
  exact fun hk => hall k hk h

/-- A number is read off its digits. -/
theorem ofNat_injective {i j : Nat} (h : Text.ofNat i = Text.ofNat j) : i = j := by
  calc
    i = Nat.ofDigitChars 10 (Text.ofNat i) 0 := Nat.ofDigitChars_ten_toDigits.symm
    _ = Nat.ofDigitChars 10 (Text.ofNat j) 0 := by rw [h]
    _ = j := Nat.ofDigitChars_ten_toDigits

theorem valueName_ne_keyName (i j : Nat) : valueName i ≠ keyName j := by
  intro h
  have hthird := congrArg (·[1]?) h
  exact nomatch hthird

theorem nodup_temporaries (first count : Nat) : (temporaries first count).Nodup := by
  refine List.nodup_flatMap.mpr ⟨fun n _ => ?_, ?_⟩
  · exact List.nodup_cons.mpr
      ⟨fun h => valueName_ne_keyName n n (List.mem_singleton.mp h), List.nodup_singleton _⟩
  · have hlt : (List.range' first count).Pairwise (· < ·) := List.pairwise_lt_range' 1
    refine hlt.imp fun {i j} hij k hi hj => absurd ?_ hij.ne
    rcases List.mem_pair.mp hi with rfl | rfl
    · rcases List.mem_pair.mp hj with h | h
      · exact ofNat_injective (List.append_cancel_left h)
      · exact absurd h (valueName_ne_keyName i j)
    · rcases List.mem_pair.mp hj with h | h
      · exact absurd h.symm (valueName_ne_keyName j i)
      · exact ofNat_injective (List.append_cancel_left h)

/-! ## What the texts of the second pass declare -/

/-- A text that declares nothing, up to a mark that parts no words. -/
theorem declaredFrom_front (ht : declaredFrom inside t = []) (hname : isNameChar c = false)
    (hspace : isSpace c = false) : declaredFrom inside (t ++ c :: x) = declaredFrom false x := by
  rw [declaredFrom_barrier hname hspace, ht, List.nil_append]

theorem declaredFrom_constText (hk : Specifier.isName k = true) (hno : k ∉ declaringWords) :
    declaredFrom false (constText k ++ x) = k :: declaredFrom false x := by
  have hsplit : constText k ++ x = "const ".toList ++ (k ++ ' ' :: '=' :: ' ' :: x) := by
    have hequals : " = ".toList = [' ', '=', ' '] := by decide
    show "const ".toList ++ k ++ " = ".toList ++ x = _
    rw [hequals, List.append_assoc, List.append_assoc]
    rfl
  rw [hsplit, declaredFrom_const hk hno rfl,
    declaredFrom_mark (by decide), declaredFrom_mark (by decide), declaredFrom_mark (by decide)]

theorem declaredFrom_exportsText (hk : Run isNameChar k) :
    declaredFrom false (exportsText k ++ x) = declaredFrom false x := by
  have hsplit : exportsText k ++ x
      = "exports".toList ++ '.' :: (k ++ [' '] ++ '=' :: ' ' :: x) := by
    have hdot : "exports.".toList = "exports".toList ++ ['.'] := by decide
    have hequals : " = ".toList = [' ', '=', ' '] := by decide
    show "exports.".toList ++ k ++ " = ".toList ++ x = _
    rw [hdot, hequals]
    simp only [List.append_assoc, List.cons_append, List.nil_append]
  rw [hsplit, declaredFrom_front (by decide) (by decide) (by decide),
    declaredFrom_front (declaredFrom_run hk (by decide)) (by decide) (by decide),
    declaredFrom_mark (by decide)]

theorem declaredFrom_call {p : PathLiteral} (hp : PathLiteral.isQuote p.quote = true) :
    declaredFrom false (requireCall p.written ++ x)
      = declaredFrom false p.value ++ declaredFrom false x := by
  have hname := PathLiteral.not_isNameChar_of_isQuote hp
  have hspace := PathLiteral.not_isSpace_of_isQuote hp
  have hsplit : requireCall p.written ++ x
      = "require".toList ++ '(' :: p.quote :: (p.value ++ p.quote :: ')' :: x) := by
    have hopen : "require(".toList = "require".toList ++ ['('] := by decide
    have hclose : ")".toList = [')'] := by decide
    show "require(".toList ++ p.written ++ ")".toList ++ x = _
    rw [hopen, hclose]
    simp [PathLiteral.written, PathLiteral.quoting]
  rw [hsplit, declaredFrom_front (by decide) (by decide) (by decide), declaredFrom_mark hname,
    declaredFrom_barrier hname hspace, declaredFrom_mark (by decide)]

theorem copyText_append (n : Nat) (x : Text) :
    Export.copyText n ++ x =
      "for ".toList ++ '(' :: ("const ".toList ++ (keyName n ++ " of Object".toList) ++
        '.' :: ("keys".toList ++ '(' :: (valueName n ++ ')' :: ')' ::
        (" if ".toList ++ '(' :: (keyName n ++ [' '] ++ '!' :: '=' :: '=' :: ' ' :: '\'' ::
        ("default".toList ++ '\'' :: ')' :: (" exports".toList ++ '[' :: (keyName n ++
        ']' :: ' ' :: '=' :: ' ' :: (valueName n ++ '[' :: (keyName n ++ ']' :: x)))))))))) := by
  have hfor : "for (const $key".toList
      = "for ".toList ++ '(' :: ("const ".toList ++ "$key".toList) := by decide
  have hof : " of Object.keys($val".toList
      = " of Object".toList ++ '.' :: ("keys".toList ++ '(' :: "$val".toList) := by decide
  have hif : ")) if ($key".toList = ')' :: ')' :: (" if ".toList ++ '(' :: "$key".toList) := by
    decide
  have hexports : " !== 'default') exports[$key".toList
      = ' ' :: '!' :: '=' :: '=' :: ' ' :: '\'' :: ("default".toList ++ '\'' :: ')' ::
        (" exports".toList ++ '[' :: "$key".toList)) := by decide
  have hvalue : "] = $val".toList = ']' :: ' ' :: '=' :: ' ' :: "$val".toList := by decide
  have hkey : "[$key".toList = '[' :: "$key".toList := by decide
  have hclose : "]".toList = [']'] := by decide
  delta Export.copyText valueName keyName
  rw [hfor, hof, hif, hexports, hvalue, hkey, hclose]
  simp only [List.append_assoc, List.cons_append, List.nil_append]

/-- Of the loop, the constant of its keys is all that is declared. -/
theorem declaredFrom_copyText (n : Nat) :
    declaredFrom false (Export.copyText n ++ x) = keyName n :: declaredFrom false x := by
  have hrun := (isName_iff.mp (isName_keyName n)).2
  have hspaced : declaredFrom false (keyName n ++ [' ']) = [] := declaredFrom_run hrun (by decide)
  have hkey : declaredFrom false (keyName n) = [] := by
    have := declaredFrom_run hrun run_nil
    rwa [List.append_nil] at this
  have hvalue : declaredFrom false (valueName n) = [] := by
    have := declaredFrom_run (isName_iff.mp (isName_valueName n)).2 run_nil
    rwa [List.append_nil] at this
  have hconst : declaredFrom false ("const ".toList ++ (keyName n ++ " of Object".toList))
      = [keyName n] := by
    rw [declaredFrom_const (isName_keyName n) (not_mem_declaringWords rfl) (by decide)]
    exact congrArg (keyName n :: ·) (by decide)
  rw [copyText_append, declaredFrom_front (by decide) (by decide) (by decide),
    declaredFrom_barrier (by decide) (by decide), hconst, List.singleton_append]
  refine congrArg (keyName n :: ·) ?_
  rw [declaredFrom_front (by decide) (by decide) (by decide),
    declaredFrom_front hvalue (by decide) (by decide), declaredFrom_mark (by decide),
    declaredFrom_front (by decide) (by decide) (by decide),
    declaredFrom_front hspaced (by decide) (by decide), declaredFrom_mark (by decide),
    declaredFrom_mark (by decide), declaredFrom_mark (by decide), declaredFrom_mark (by decide),
    declaredFrom_front (by decide) (by decide) (by decide), declaredFrom_mark (by decide),
    declaredFrom_front (by decide) (by decide) (by decide),
    declaredFrom_front hkey (by decide) (by decide), declaredFrom_mark (by decide),
    declaredFrom_mark (by decide), declaredFrom_mark (by decide),
    declaredFrom_front hvalue (by decide) (by decide),
    declaredFrom_front hkey (by decide) (by decide)]

/-- What takes the place of a star declares its pair. -/
theorem declaredFrom_copyAll {p : PathLiteral} (hp : PathLiteral.isQuote p.quote = true) :
    declaredFrom false (Export.copyAll n (requireCall p.written) ++ x)
      = valueName n :: (declaredFrom false p.value ++ keyName n :: declaredFrom false x) := by
  have hsplit : Export.copyAll n (requireCall p.written) ++ x
      = constText (valueName n) ++ (requireCall p.written ++
          ';' :: '\n' :: (Export.copyText n ++ x)) := by
    have hseparator : statementSeparator = [';', '\n'] := rfl
    rw [Export.copyAll_eq, hseparator]
    simp only [List.append_assoc, List.cons_append, List.nil_append]
    rfl
  rw [hsplit, declaredFrom_constText (isName_valueName n) (not_mem_declaringWords rfl),
    declaredFrom_call hp, declaredFrom_mark (by decide), declaredFrom_mark (by decide),
    declaredFrom_copyText]

/-! ## Texts that do not declare a name -/

/-- Whatever word stands in front of the text, it does not declare the name. -/
def Calm (name x : Text) : Prop := ∀ w, Run isNameChar w → declaration? (w ++ x) ≠ some name

/-- In front of any text, the text does not declare the name. -/
def Silent (name t : Text) : Prop :=
  ∀ x, (declaredFrom false (t ++ x)).count name = (declaredFrom false x).count name

/-- In front of a calm text, the text does not declare the name. -/
def Quiet (name t : Text) : Prop :=
  ∀ x, Calm name x →
    (declaredFrom false (t ++ x)).count name = (declaredFrom false x).count name

theorem count_declaration (h : declaration? t ≠ some name) :
    (declaration? t).toList.count name = 0 :=
  List.count_eq_zero.mpr fun hm => h (Option.mem_toList.mp hm)

namespace Calm

/-- A mark that parts no words. -/
theorem mark (hname : isNameChar c = false) (hspace : isSpace c = false) :
    Calm name (c :: x) := by
  intro w hw
  have hnone := declaration?_run hw run_nil
  rw [List.append_nil] at hnone
  rw [declaration?_append_mark hname hspace, hnone]
  exact fun h => nomatch h

theorem count_declaredFrom (h : Calm name x) :
    (declaredFrom true x).count name = (declaredFrom false x).count name := by
  cases x with
  | nil => rfl
  | cons c x =>
      have hfront : declaration? (c :: x) ≠ some name := h [] run_nil
      rw [declaredFrom, declaredFrom, if_pos rfl, if_neg Bool.false_ne_true, List.nil_append,
        List.count_append, count_declaration hfront, Nat.zero_add]

end Calm

namespace Silent

theorem nil : Silent name [] := fun _ => rfl

theorem quiet (h : Silent name t) : Quiet name t := fun x _ => h x

theorem append (ht : Silent name t) (hu : Silent name u) : Silent name (t ++ u) := by
  intro x
  rw [List.append_assoc, ht, hu]

/-- A mark and a text. -/
theorem mark (hc : isNameChar c = false) (h : Silent name t) : Silent name (c :: t) := by
  intro x
  rw [List.cons_append, declaredFrom_mark hc, h]

/-- A text that declares nothing, up to a mark that parts no words. -/
theorem front (ht : declaredFrom false t = []) (hc : isNameChar c = false)
    (hspace : isSpace c = false) : Silent name (t ++ [c]) := by
  intro x
  rw [List.append_assoc, List.singleton_append, declaredFrom_front ht hc hspace]

theorem exportsText (hk : Specifier.isName k = true) :
    Silent name (RequireForm.exportsText k) := by
  intro x
  rw [declaredFrom_exportsText (isName_iff.mp hk).2]

theorem call {p : PathLiteral} (hp : PathLiteral.isQuote p.quote = true)
    (h : Absent name free p.value) : Silent name (requireCall p.written) := by
  intro x
  rw [declaredFrom_call hp, List.count_append, List.count_eq_zero.mpr h.not_mem_declaredFrom,
    Nat.zero_add]

end Silent

namespace Quiet

/-- A name, which is no declaration in front of a calm text. -/
theorem word (hk : Specifier.isName k = true) : Quiet name k := by
  intro x hx
  rw [declaredFrom_word hk, List.count_append, count_declaration (hx k (isName_iff.mp hk).2),
    Nat.zero_add, hx.count_declaredFrom]

theorem behind (ht : Silent name t) (hu : Quiet name u) : Quiet name (t ++ u) := by
  intro x hx
  rw [List.append_assoc, ht, hu x hx]

/-- Quiet texts under each other: the separator calms the text in front of it. -/
theorem join {ts : List Text} (h : ∀ t ∈ ts, Quiet name t) :
    Quiet name (Text.join statementSeparator ts) := by
  induction ts with
  | nil => exact Silent.nil.quiet
  | cons t ts ih =>
      obtain ⟨ht, hts⟩ := List.forall_mem_cons.mp h
      cases ts with
      | nil => exact ht
      | cons u ts =>
          intro x hx
          have hsplit : Text.join statementSeparator (t :: u :: ts) ++ x
              = t ++ ';' :: '\n' :: (Text.join statementSeparator (u :: ts) ++ x) := by
            show t ++ [';', '\n'] ++ _ ++ x = _
            simp only [List.append_assoc, List.cons_append, List.nil_append]
          rw [hsplit, ht _ (Calm.mark (by decide) (by decide)), declaredFrom_mark (by decide),
            declaredFrom_mark (by decide), ih hts x hx]

end Quiet

/-! ## The texts of exports -/

namespace Export

/-- The source goes on behind what is written, with the value or with the declaration. -/
def goesOn : Export → Bool
  | .default _ => true
  | .declaration _ => true
  | _ => false

theorem lines_ne_nil_of_goesOn (h : e.goesOn = true) : e.lines n ≠ [] := by
  cases e with
  | default value => exact List.cons_ne_nil _ _
  | declaration own => exact List.cons_ne_nil _ _
  | named items path? => exact nomatch h
  | star name? p => exact nomatch h
  | binding own => exact nomatch h
  | identifier own => exact nomatch h

/-- The text ends inside of a line, with a character behind which a name may start, or else
    something is written for the export. -/
def Closes (e : Export) (w : Text) : Prop :=
  ∃ u c, w = u ++ [c] ∧ c ≠ '\n' ∧ (opensName c = true ∨ ∀ n, e.lines n ≠ [])

/-- Any other statement ends so: with a brace or a quote, or with a name. -/
theorem Derives.closes (h : Derives (w ++ rest) e rest) (hon : e.goesOn = false) : Closes e w := by
  have hpath {p : PathLiteral} (hp : e.path? = some p) : Closes e w := by
    obtain ⟨hwf, u, rfl⟩ := h.path_suffix hp
    have hopens := opensName_of_isQuote hwf.quote
    refine ⟨u ++ p.quote :: p.value, p.quote, ?_, ?_, Or.inl hopens⟩
    · simp [PathLiteral.written, PathLiteral.quoting]
    · intro hfeed
      have hquote := hwf.quote
      rw [hfeed] at hquote
      cases hquote
  have hown {u own : Text} (hn : Specifier.isName own = true) (hlines : ∀ n, e.lines n ≠ [])
      (he : w ++ rest = u ++ (own ++ rest)) : Closes e w := by
    obtain ⟨hne, hrun⟩ := isName_iff.mp hn
    refine ⟨u ++ own.dropLast, own.getLast hne, ?_, ?_, Or.inr hlines⟩
    · rw [← List.append_assoc] at he
      rw [List.append_cancel_right he, List.append_assoc, List.dropLast_append_getLast hne]
    · intro hfeed
      have hlast := hrun _ (List.getLast_mem hne)
      rw [hfeed] at hlast
      cases hlast
  obtain ⟨gap, body, ht, -, -, -, hclause⟩ := h
  cases hclause with
  | default _ _ _ _ => cases hon
  | @list b _ _ _ =>
      refine ⟨"export".toList ++ (gap ++ '\x7b' :: b.body), '\x7d', ?_, by decide,
        Or.inl (by decide)⟩
      refine List.append_cancel_right (ht.trans ?_)
      show "export".toList ++ (gap ++ ('\x7b' :: (b.body ++ ['\x7d']) ++ rest)) = _
      simp only [List.append_assoc, List.cons_append]
  | listFrom _ _ _ _ => exact hpath rfl
  | star _ _ _ _ => exact hpath rfl
  | worded _ hw =>
      cases hw with
      | declaration _ => cases hon
      | @binding word gap₁ own _ _ _ _ hn =>
          refine hown (u := "export".toList ++ (gap ++ (word ++ gap₁))) hn.1
            (fun _ => List.cons_ne_nil _ _) ?_
          rw [ht]
          simp only [List.append_assoc]
      | identifier hn _ _ =>
          refine hown (u := "export".toList ++ gap) hn.1 (fun _ => List.cons_ne_nil _ _) ?_
          rw [ht]
          simp only [List.append_assoc]

theorem Derives.endsLine (h : Derives (w ++ rest) e rest) (hon : e.goesOn = false) :
    endsLine b w = false := by
  obtain ⟨u, c, rfl, hc, -⟩ := h.closes hon
  rw [endsLine_append]
  exact decide_eq_false hc

/-- Where nothing is written for a statement, a name may start behind it. -/
theorem Derives.opensBehind (h : Derives (w ++ rest) e rest) (hlines : e.lines n = []) :
    opensBehind free w = true := by
  have hon : e.goesOn = false := by
    cases hon : e.goesOn with
    | false => rfl
    | true => exact absurd hlines (lines_ne_nil_of_goesOn hon)
  obtain ⟨u, c, rfl, -, hopens | hne⟩ := h.closes hon
  · rw [opensBehind_append]
    exact hopens
  · exact absurd hlines (hne n)

theorem require_eq_nil (hlines : e.lines n = []) : e.require r n = [] := by
  rw [require, assign_eq_fill, hlines]
  rfl

theorem fenced_require (hlines : e.lines n ≠ []) : Fenced isListChar (e.require r n) := by
  rw [require, assign_eq_fill]
  have hall {call : Text} : ∀ line ∈ e.lines n, Fenced isListChar (line.fill call) :=
    fun _ hline => fenced_of_mem_lines hline
  obtain ⟨line, lines, hcons⟩ := List.exists_cons_of_ne_nil hlines
  rw [hcons] at hall ⊢
  cases lines with
  | nil => exact hall line List.mem_cons_self
  | cons next lines =>
      rw [Line.fillAll_cons (List.cons_ne_nil _ _)]
      exact (hall line List.mem_cons_self).append _

theorem silent_exports : Silent name "exports.".toList := by
  have hdot : "exports.".toList = "exports".toList ++ ['.'] := by decide
  rw [hdot]
  exact .front (by decide) (by decide) (by decide)

theorem silent_moduleExports : Silent name "module.exports = ".toList := by
  have hsplit : "module.exports = ".toList
      = "module".toList ++ ['.'] ++ ("exports ".toList ++ ['='] ++ [' ']) := by decide
  rw [hsplit]
  refine .append (.front (by decide) (by decide) (by decide)) ?_
  exact .append (.front (by decide) (by decide) (by decide)) (.mark (by decide) .nil)

/-- But for stars, the lines of an export are quiet. -/
theorem quiet_of_mem_lines {line : Line} {call : Text} (he : e.Named) (hstar : e.isStar = false)
    (hcall : Silent name call) (h : line ∈ e.lines n) : Quiet name (line.fill call) := by
  cases e with
  | default value =>
      obtain rfl := List.mem_singleton.mp h
      rw [Line.fill_text]
      exact silent_moduleExports.quiet
  | named items path? =>
      cases path? with
      | none =>
          obtain ⟨⟨own, alias?⟩, hitem, hline⟩ := List.mem_filterMap.mp h
          have hbound : Specifier.isName (alias?.getD own) = true := by
            cases alias? with
            | none => exact (he _ hitem).1
            | some alias_ => exact (he _ hitem).2 alias_ rfl
          rw [Specifier.localLine?] at hline
          split at hline
          · cases hline
          · obtain rfl := Option.some.inj hline
            rw [Line.fill_text]
            exact .behind (.exportsText hbound) (.word (he _ hitem).1)
      | some p =>
          obtain ⟨⟨own, _ | alias_⟩, hitem, rfl⟩ := List.mem_map.mp h
          · rw [Specifier.fromLine, Line.fill_text_call]
            exact (Silent.append (.exportsText (he _ hitem).1) hcall).quiet
          · have halias : Silent name (exportsText alias_) :=
              .exportsText ((he _ hitem).2 alias_ rfl)
            rw [Specifier.fromLine]
            split
            · rw [Line.fill_text_call]
              exact (halias.append hcall).quiet
            · rw [Line.fill_text_call_text]
              have hdot : Silent name ".".toList := .mark (t := []) (by decide) .nil
              exact .behind halias (.behind hcall (.behind hdot (.word (he _ hitem).1)))
  | declaration own =>
      obtain rfl := List.mem_singleton.mp h
      rw [Line.fill_text]
      exact (Silent.exportsText he).quiet
  | star name? p => cases hstar
  | binding own =>
      obtain rfl := List.mem_singleton.mp h
      rw [Line.fill_text]
      exact .behind silent_exports (.word he)
  | identifier own =>
      obtain rfl := List.mem_singleton.mp h
      rw [Line.fill_text]
      exact .behind (.exportsText he) (.word he)

/-- A name that is absent from an export is absent from its path. -/
theorem absent_path {p : PathLiteral} (hname : name ≠ []) (h : Derives (w ++ rest) e rest)
    (habsent : Absent name free (w ++ rest)) (hp : e.path? = some p) :
    PathLiteral.isQuote p.quote = true ∧ Absent name true p.value := by
  obtain ⟨hwf, u, v, rfl⟩ := h.path_infix hp
  rw [List.append_assoc, List.append_assoc] at habsent
  exact ⟨hwf.quote, habsent.value hname hwf.quote⟩

/-- But for a star, what takes the place of an export is quiet about absent names. -/
theorem quiet_require (hname : name ≠ []) (h : Derives (w ++ rest) e rest)
    (habsent : Absent name free (w ++ rest)) (hstar : e.isStar = false) :
    Quiet name (e.require (.ofOptions {}) n) := by
  have hcall : Silent name ((e.path?.map (PathRule.ofOptions {}).call).getD []) := by
    cases hp : e.path? with
    | none => exact .nil
    | some p =>
        obtain ⟨hquote, hvalue⟩ := absent_path hname h habsent hp
        exact .call hquote hvalue
  rw [require, assign_eq_fill]
  refine .join fun t ht => ?_
  obtain ⟨line, hline, rfl⟩ := List.mem_map.mp ht
  exact quiet_of_mem_lines h.named hstar hcall hline

theorem require_declaration (own : Text) :
    (declaration own).require r n = exportsText own := by
  rw [require, assign_eq_fill]
  exact Line.fill_text

/-- In front of a value or a declaration, even if no calm text follows. -/
theorem silent_require (he : e.Named) (hon : e.goesOn = true) : Silent name (e.require r n) := by
  cases e with
  | default value => exact silent_moduleExports
  | declaration own =>
      rw [require_declaration]
      exact .exportsText he
  | named items path? => exact nomatch hon
  | star name? p => exact nomatch hon
  | binding own => exact nomatch hon
  | identifier own => exact nomatch hon

/-- What is written there ends with a space. -/
theorem endsInside_require (hon : e.goesOn = true) : endsInside inside (e.require r n) = false := by
  have hspace {t : Text} : endsInside inside (t ++ [' ']) = false := by
    rw [endsInside_append]
    rfl
  cases e with
  | default value => exact hspace (t := "module.exports =".toList)
  | declaration own =>
      have hequals : " = ".toList = " =".toList ++ [' '] := by decide
      rw [require_declaration]
      show endsInside inside ("exports.".toList ++ own ++ " = ".toList) = false
      rw [hequals, ← List.append_assoc]
      exact hspace
  | named items path? => exact nomatch hon
  | star name? p => exact nomatch hon
  | binding own => exact nomatch hon
  | identifier own => exact nomatch hon

end Export

/-! ## What the second pass makes where no line starts -/

/-- A name character ends no line. -/
theorem decide_feed_eq_false (hc : isNameChar c = true) : decide (c = '\n') = false := by
  refine decide_eq_false fun he => ?_
  rw [he] at hc
  exact nomatch hc

/-- And where a line starts, no word goes on. -/
theorem not_isNameChar_of_feed (h : decide (c = '\n') = true) : isNameChar c = false := by
  rw [of_decide_eq_true h]
  decide

/-- A fenced text does not go on, behind spaces, with a name that starts with a `$`. -/
theorem Fenced.ne_name {q : Char → Bool} (h : Fenced q t) (hname : Specifier.isName name = true)
    (hhead : name.head? = some '$') (hgap : Spaces gap) (hrest : nameEnds rest = true) :
    t ≠ gap ++ (name ++ rest) := by
  rintro rfl
  cases gap with
  | nil =>
      have hnone := h.word?_eq_none hname (not_mem_newWords hhead)
      rw [List.nil_append, word?_append hrest] at hnone
      exact nomatch hnone
  | cons c gap =>
      obtain ⟨m, k, d, x, ht, hm, -⟩ := h
      obtain ⟨hne, hrun⟩ := isName_iff.mp (isName_of_mem_newWords hm)
      obtain ⟨c', m, rfl⟩ := List.exists_cons_of_ne_nil hne
      obtain ⟨rfl, -⟩ := List.cons.inj ht
      have hc := not_isNameChar_of_isSpace (run_cons.mp hgap).1
      rw [(run_cons.mp hrun).1] at hc
      exact nomatch hc

/-- What the second pass makes does not go on with an absent name. -/
theorem exportPass_ne (hname : Specifier.isName name = true) (hhead : name.head? = some '$')
    (hcuts : Piece.Cuts Export.read? b t ps) (h : Absent name true t) (hgap : Spaces gap)
    (hrest : nameEnds rest = true) : exportPass r n ps ≠ gap ++ (name ++ rest) := by
  induction hcuts generalizing n gap with
  | done =>
      intro he
      have hnil := (List.append_eq_nil_iff.mp (List.append_eq_nil_iff.mp he.symm).2).1
      exact (isName_iff.mp hname).1 hnil
  | @kept b c t ps _ hcuts ih =>
      intro he
      cases gap with
      | nil =>
          have htake : (c :: exportPass r n ps).takeWhile isNameChar = name :=
            (congrArg (List.takeWhile isNameChar) he).trans
              (takeWhile_append_of_run (isName_iff.mp hname).2 (nameEnds_iff.mp hrest))
          rw [hcuts.takeWhile_kept (by decide) rfl fun _ _ => rfl] at htake
          exact h.1 rfl htake
      | cons d gap =>
          obtain ⟨rfl, hrest'⟩ := List.cons.inj he
          obtain ⟨hc, hgap⟩ := run_cons.mp hgap
          have htail := h.2
          rw [opensName_of_isBlank (isBlank_of_isSpace hc)] at htail
          exact ih htail hgap hrest'
  | @statement w rest' e ps _ hread _ ih =>
      have hd := Export.read?_eq_some_iff.mp hread
      by_cases hlines : e.lines n = []
      · have hbehind := h.behind
        rw [hd.opensBehind hlines] at hbehind
        show e.require r n ++ _ ≠ _
        rw [Export.require_eq_nil hlines]
        exact ih hbehind hgap
      · exact ((Export.fenced_require hlines).append _).ne_name hname hhead hgap hrest

/-- Where no line starts, no statement does before the next line feed. So what the second pass
    makes is calm. -/
theorem calm_exportPass (hhead : name.head? = some '$')
    (hcuts : Piece.Cuts Export.read? false t ps) (h : Absent name free t) :
    Calm name (exportPass r n ps) := by
  induction t generalizing free ps with
  | nil =>
      cases hcuts
      intro w hw
      rw [exportPass, declaration?_run hw run_nil]
      exact fun h => by cases h
  | cons c t ih =>
      cases hcuts with
      | @kept _ _ _ ps _ hcuts =>
          intro w hw hown
          by_cases hc : isNameChar c = true
          · -- the word goes on
            rw [decide_feed_eq_false hc] at hcuts
            refine ih hcuts h.2 (w ++ [c]) (run_append.mpr ⟨hw, run_cons.mpr ⟨hc, run_nil⟩⟩) ?_
            rw [List.append_assoc]
            exact hown
          · -- the word ends, and the name would have to come behind spaces
            obtain ⟨word, gap, rest, hs, hword, hne, hgap, hn, hrest⟩ :=
              declaration?_eq_some_iff.mp hown
            have hc : isNameChar c = false := (Bool.not_eq_true _).mp hc
            obtain ⟨-, hs⟩ := run_append_unique hw
              (show Stops isNameChar (exportPass r n (.kept c :: ps)) from hc)
              (isName_iff.mp (isName_of_mem_declaringWords hword)).2
              (nameEnds_iff.mp (nameEnds_gap_append hne hgap)) hs
            obtain ⟨d, gap, rfl⟩ := List.exists_cons_of_ne_nil hne
            obtain ⟨rfl, htext⟩ := List.cons.inj hs
            obtain ⟨hspace, hgap⟩ := run_cons.mp hgap
            have htail := h.2
            rw [opensName_of_isBlank (isBlank_of_isSpace hspace)] at htail
            exact exportPass_ne hn hhead hcuts htail hgap hrest htext

/-! ## What the second pass declares -/

theorem stars_cons_statement (w : Text) (e : Export) (ps : List (Piece Export)) :
    stars (.statement w e :: ps) = stars ps + if e.isStar then 1 else 0 := by
  rw [stars, Piece.statements_cons_statement, List.countP_cons]
  rfl

theorem exists_of_isStar (h : e.isStar = true) : ∃ name? p, e = .star name? p := by
  cases e with
  | star name? p => exact ⟨name?, p, rfl⟩
  | default value => exact nomatch h
  | named items path? => exact nomatch h
  | declaration own => exact nomatch h
  | binding own => exact nomatch h
  | identifier own => exact nomatch h

theorem exportPass_star {name? : Option Text} {p : PathLiteral} :
    exportPass (.ofOptions {}) n (.statement w (.star name? p) :: ps)
      = Export.copyAll n (requireCall p.written) ++ exportPass (.ofOptions {}) (n + 1) ps := rfl

theorem exportPass_statement (hstar : e.isStar = false) :
    exportPass r n (.statement w e :: ps) = e.require r n ++ exportPass r n ps := by
  rw [exportPass, hstar]
  rfl

/-- A name that is absent from the source, and starts with a `$`, is declared as often as it is
    one of the temporaries. -/
theorem count_exportPass (hhead : name.head? = some '$')
    (hcuts : Piece.Cuts Export.read? b t ps) (h : Absent name free t)
    (hinside : b = true → inside = false) :
    (declaredFrom inside (exportPass (.ofOptions {}) n ps)).count name
      = (temporaries n (stars ps)).count name := by
  have hname := ne_nil_of_head hhead
  induction hcuts generalizing n free inside with
  | done => rfl
  | @kept b c t ps _ hcuts ih =>
      rw [exportPass, declaredFrom, List.count_append, ih h.2 not_isNameChar_of_feed]
      have hfront : (if inside = true then []
          else (declaration? (c :: exportPass (.ofOptions {}) n ps)).toList).count name = 0 := by
        cases inside with
        | true => rfl
        | false =>
            refine count_declaration ?_
            by_cases hc : isNameChar c = true
            · rw [decide_feed_eq_false hc] at hcuts
              exact calm_exportPass hhead hcuts h.2 [c] (run_cons.mpr ⟨hc, run_nil⟩)
            · rw [declaration?_mark ((Bool.not_eq_true _).mp hc)]
              exact fun h => by cases h
      rw [hfront, Nat.zero_add]
      rfl
  | @statement w rest e ps _ hread hcuts ih =>
      have hd := Export.read?_eq_some_iff.mp hread
      rw [hinside rfl, stars_cons_statement]
      cases hstar : e.isStar with
      | false =>
          rw [exportPass_statement hstar]
          show _ = (temporaries n (stars ps)).count name
          rw [← ih h.behind fun _ => rfl]
          cases hon : e.goesOn with
          | true => exact Export.silent_require hd.named hon _
          | false =>
              rw [hd.endsLine hon] at hcuts
              exact Export.quiet_require hname hd h hstar _ (calm_exportPass hhead hcuts h.behind)
      | true =>
          obtain ⟨name?, p, rfl⟩ := exists_of_isStar hstar
          obtain ⟨hquote, hvalue⟩ := Export.absent_path hname hd h rfl
          rw [exportPass_star, declaredFrom_copyAll hquote, if_pos rfl, temporaries_succ,
            List.count_cons, List.count_append, List.count_cons,
            List.count_eq_zero.mpr hvalue.not_mem_declaredFrom, ih h.behind fun _ => rfl,
            Nat.zero_add, List.count_cons, List.count_cons]

/-- The temporaries are declared in order, whatever the source declares. -/
theorem temporaries_sublist_exportPass (hcuts : Piece.Cuts Export.read? b t ps)
    (hinside : b = true → inside = false) :
    (temporaries n (stars ps)).Sublist (declaredFrom inside (exportPass (.ofOptions {}) n ps)) := by
  induction hcuts generalizing n inside with
  | done => exact List.nil_sublist _
  | @kept b c t ps _ _ ih =>
      exact (ih not_isNameChar_of_feed).trans (List.sublist_append_right _ _)
  | @statement w rest e ps _ hread _ ih =>
      have hd := Export.read?_eq_some_iff.mp hread
      rw [hinside rfl, stars_cons_statement]
      cases hstar : e.isStar with
      | false =>
          rw [exportPass_statement hstar]
          refine List.Sublist.trans (ih ?_) (declaredFrom_suffix false (e.require _ n) _).sublist
          intro hline
          cases hon : e.goesOn with
          | true => exact Export.endsInside_require hon
          | false =>
              rw [hd.endsLine hon] at hline
              exact nomatch hline
      | true =>
          obtain ⟨name?, p, rfl⟩ := exists_of_isStar hstar
          rw [exportPass_star, declaredFrom_copyAll (hd.path_infix rfl).1.quote, if_pos rfl,
            temporaries_succ]
          refine .cons_cons _ (.trans (.cons_cons _ (ih fun _ => rfl)) ?_)
          exact List.sublist_append_right _ _

/-- The stars take the pairs in order: what takes the place of the `i`-th one, counted from 0, is
    the loop over the `i`-th pair behind `n`. -/
theorem star_mem_exportEdits {found : List (Located Export)} {i : Nat} {f : Located Export}
    (h : (found.filter (·.what.isStar))[i]? = some f) :
    ∃ p, f.what.path? = some p ∧
      (f.span, Export.copyAll (n + i) (r.call p)) ∈ exportEdits r n found := by
  induction found generalizing n i with
  | nil => exact nomatch h
  | cons first found ih =>
      cases hstar : first.what.isStar with
      | false =>
          rw [List.filter_cons_of_neg (by rw [hstar]; exact Bool.false_ne_true)] at h
          obtain ⟨p, hp, hmem⟩ := ih (n := n) h
          rw [exportEdits, hstar]
          exact ⟨p, hp, List.mem_cons_of_mem _ hmem⟩
      | true =>
          have hfilter : (first :: found).filter (·.what.isStar)
              = first :: found.filter (·.what.isStar) := List.filter_cons_of_pos hstar
          rw [hfilter] at h
          rw [exportEdits, hstar, if_pos rfl]
          cases i with
          | zero =>
              obtain rfl := Option.some.inj h
              obtain ⟨name?, p, hwhat⟩ := exists_of_isStar hstar
              refine ⟨p, by rw [hwhat]; rfl, ?_⟩
              rw [hwhat]
              exact List.mem_cons_self
          | succ i =>
              obtain ⟨p, hp, hmem⟩ := ih (n := n + 1) h
              rw [Nat.add_right_comm] at hmem
              exact ⟨p, hp, List.mem_cons_of_mem _ hmem⟩

/-- The temporaries of a transform are all different. They are put in the places of the stars in
    order, and declared in this order. Of the names that start with a `$` and do not stand in the
    source, the output declares each temporary once, and no other name. -/
theorem transform_temporaries (source : Text) :
    let r := PathRule.ofOptions {}
    let found := Export.find (afterImports r source)
    let result := transform {} source
    let names := temporaries 0 result.report.stars
    (splice (afterImports r source) (exportEdits r 0 found) = some result.output ∧
        result.report.stars = (found.filter (·.what.isStar)).length ∧
        ∀ i f, (found.filter (·.what.isStar))[i]? = some f → ∃ p, f.what.path? = some p ∧
          (f.span, Export.copyAll i (r.call p)) ∈ exportEdits r 0 found) ∧
      (names.Nodup ∧ names.Sublist (declared result.output)) ∧
      ∀ name, name.head? = some '$' → ¬ StandsIn name source →
        (declared result.output).count name = names.count name := by
  intro r found result names
  have hcuts : Piece.Cuts Export.read? true (afterImports r source)
      (Export.pieces (afterImports r source)) := Piece.cuts_cut Export.consumes_read?
  refine ⟨⟨splice_exports r 0 _, ?_, fun i f h => ?_⟩, ⟨nodup_temporaries _ _, ?_⟩, ?_⟩
  · rw [← List.countP_eq_length_filter]
    exact (Export.countP_find _).symm
  · have hmem := star_mem_exportEdits (n := 0) (r := r) h
    rwa [Nat.zero_add] at hmem
  · exact temporaries_sublist_exportPass hcuts fun _ => rfl
  · intro name hhead hnot
    have habsent : Absent name true (afterImports r source) :=
      absent_importPass hhead (Piece.cuts_cut Import.consumes_read?)
        (absent_of_not_standsIn (ne_nil_of_head hhead) hnot)
    exact count_exportPass hhead hcuts habsent fun _ => rfl

theorem transform_temporaries_two :
    let source := "const $a = 1;\nexport * from './a';\nexport * as b from \"./b\";".toList
    ¬ StandsIn (valueName 1) source ∧
      (declared (transform {} source).output).count (valueName 1) = 1 := by
  intro source
  have hnot : ¬ StandsIn (valueName 1) source := by
    rintro ⟨before, after, hs, -⟩
    have hinfix : valueName 1 <:+: source := ⟨before, after, by rw [hs, List.append_assoc]⟩
    exact absurd hinfix (by decide +kernel)
  have hcount := (transform_temporaries source).2.2 (valueName 1) rfl hnot
  exact ⟨hnot, hcount.trans (by decide +kernel)⟩

/-- The names are not compared with those of the source: one that is declared there is taken
    again. -/
theorem temporary_taken :
    let source := "const $val0 = 1;\nexport * from 'm';".toList
    let result := transform {} source
    valueName 0 ∈ temporaries 0 result.report.stars ∧ StandsIn (valueName 0) source ∧
      (declared result.output).count (valueName 0) = 2 := by
  refine ⟨by decide +kernel, ?_, by decide +kernel⟩
  exact ⟨"const ".toList, " = 1;\nexport * from 'm';".toList, by decide +kernel,
    isName_valueName 0, by decide +kernel, by decide +kernel⟩

end RequireForm
