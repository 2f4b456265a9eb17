import Mathlib.Tactic.IntervalCases
import Mathlib.Tactic.SplitIfs
import RequireForm.Json.Value

/-!
# Quoted texts read back

    text       a " \ NUL é
    quoted     "a\"\\\u0000é"

Every character is written as itself or behind a `\`, and the two can be told apart by their first
character: what is written as itself is neither a quote nor a `\` nor a control character. So
each character is read back in front of any rest, and a text up to its closing quote.

  1. `hex_escapeControl`: the number of a control character.
  2. `escapeChar_cases`: the two ways in which a character is written.
  3. `Quoted.read_escaped`: a whole text in front of any rest.
-/

namespace RequireForm

namespace Json

variable {c : Char} {n : Nat} {t s rest : Text}

/-! ## Control characters -/

theorem hexDigit?_hexDigit (n : Nat) : CharSet.hexDigit? (hexDigit n) = some (n % 16) := by
  rw [hexDigit]
  have hlt : n % 16 < 16 := Nat.mod_lt n (by decide)
  generalize n % 16 = d at hlt
  interval_cases d <;> rfl

/-- Two hexadecimal digits behind two zeros are the number that they were made of. -/
theorem hex_escapeControl (h : n < 256) (s : Text) :
    Quoted.hex ('0' :: '0' :: hexDigit (n / 16) :: hexDigit n :: s) = .ok (n, s) := by
  have hzero : CharSet.hexDigit? '0' = some 0 := rfl
  have hdigits : ['0', '0', hexDigit (n / 16), hexDigit n].all
      (fun x => (CharSet.hexDigit? x).isSome) = true := by
    simp only [List.all_cons, List.all_nil, hzero, hexDigit?_hexDigit, Option.isSome_some,
      Bool.and_true]
  have hvalue : CharSet.hexValue ['0', '0', hexDigit (n / 16), hexDigit n] = n := by
    simp only [CharSet.hexValue, List.foldl_cons, List.foldl_nil, hzero, hexDigit?_hexDigit,
      Option.getD_some]
    omega
  rw [Quoted.hex, if_pos hdigits, hvalue]

theorem escaped_escapeControl (h : c.toNat < 32) (s : Text) :
    Quoted.escaped ('u' :: '0' :: '0' :: hexDigit (c.toNat / 16) :: hexDigit c.toNat :: s)
      = .ok (c, s) := by
  have hlow : Quoted.isLow c.toNat = false := by
    rw [Quoted.isLow, Bool.and_eq_false_iff, decide_eq_false_iff_not]
    omega
  have hhigh : Quoted.isHigh c.toNat = false := by
    rw [Quoted.isHigh, Bool.and_eq_false_iff, decide_eq_false_iff_not]
    omega
  rw [Quoted.escaped, Quoted.byNumber, hex_escapeControl (by omega)]
  dsimp only
  rw [hlow, hhigh, if_neg Bool.false_ne_true, if_neg Bool.false_ne_true, Char.ofNat_toNat]

/-! ## Characters and texts -/

/-- A character is written behind a `\` and read back from what follows that, or as itself. -/
theorem escapeChar_cases (c : Char) :
    (∃ w, escapeChar c = '\\' :: w ∧ ∀ s, Quoted.escaped (w ++ s) = .ok (c, s)) ∨
      escapeChar c = [c] ∧ c ≠ '\x22' ∧ c ≠ '\\' ∧ Quoted.isControl c = false := by
  rw [escapeChar]
  split_ifs with hquote hslash hback hfeed hline hreturn htab hcontrol
  · exact .inl ⟨['\x22'], rfl, fun _ => by rw [hquote]; rfl⟩
  · exact .inl ⟨['\\'], rfl, fun _ => by rw [hslash]; rfl⟩
  · exact .inl ⟨['b'], rfl, fun _ => by rw [hback]; rfl⟩
  · exact .inl ⟨['f'], rfl, fun _ => by rw [hfeed]; rfl⟩
  · exact .inl ⟨['n'], rfl, fun _ => by rw [hline]; rfl⟩
  · exact .inl ⟨['r'], rfl, fun _ => by rw [hreturn]; rfl⟩
  · exact .inl ⟨['t'], rfl, fun _ => by rw [htab]; rfl⟩
  · exact .inl ⟨_, rfl, escaped_escapeControl hcontrol⟩
  · exact .inr ⟨rfl, hquote, hslash, decide_eq_false hcontrol⟩

theorem Quoted.read_escape (c : Char) (s : Text) :
    read (escapeChar c ++ s) = (read s).map fun (t, rest) => (c :: t, rest) := by
  rcases escapeChar_cases c with ⟨w, hw, hread⟩ | ⟨hself, hquote, hslash, hcontrol⟩
  · rw [hw, List.cons_append, read, if_neg (by decide), if_pos rfl]
    split
    · next heq =>
      rw [hread] at heq
      cases heq
    · next heq =>
      rw [hread] at heq
      cases heq
      rfl
  · rw [hself, List.singleton_append, read, if_neg hquote, if_neg hslash, hcontrol,
      if_neg Bool.false_ne_true]

/-- A text is read back from between its quotes, whatever stands behind them. -/
theorem Quoted.read_escaped (t rest : Text) :
    read (t.flatMap escapeChar ++ '\x22' :: rest) = .ok (t, rest) := by
  induction t with
  | nil => rw [List.flatMap_nil, List.nil_append, read, if_pos rfl]
  | cons c t ih =>
      rw [List.flatMap_cons, List.append_assoc, read_escape, ih]
      rfl

theorem quoted_append (t rest : Text) :
    quoted t ++ rest = '\x22' :: (t.flatMap escapeChar ++ '\x22' :: rest) := by
  simp [quoted]

/-- A quoted text is read as a value. -/
theorem readText?_quoted (t rest : Text) : readText? (quoted t ++ rest) = .ok (some t, rest) := by
  rw [quoted_append, readText?]
  show (Quoted.read _).map _ = _
  rw [Quoted.read_escaped]
  rfl

end Json

end RequireForm
