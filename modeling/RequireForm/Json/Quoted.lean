import RequireForm.Json.Fault

/-!
# Quoted texts — strings as JSON writes them

  1. `escapeChar`, `quoted`: a text between quotes.
  2. `Quoted.read`: up to the closing quote; escapes are undone, and surrogates have to come in
     pairs.
  3. `Quoted.skip`: up to the closing quote; it does not matter what the escapes stand for.
-/

namespace RequireForm

namespace Json

/-! ## Writing -/

/-- A hexadecimal digit. -/
def hexDigit (n : Nat) : Char := (Nat.toDigits 16 (n % 16)).headD '0'

/-- A control character by its number. -/
def escapeControl (n : Nat) : Text := ['\\', 'u', '0', '0', hexDigit (n / 16), hexDigit n]

/-- A character between quotes. -/
def escapeChar (c : Char) : Text :=
  if c = '\x22' then ['\\', '\x22']
  else if c = '\\' then ['\\', '\\']
  else if c = '\x08' then ['\\', 'b']
  else if c = '\x0c' then ['\\', 'f']
  else if c = '\n' then ['\\', 'n']
  else if c = '\r' then ['\\', 'r']
  else if c = '\t' then ['\\', 't']
  else if c.toNat < 32 then escapeControl c.toNat
  else [c]

/-- A text between quotes. -/
def quoted (t : Text) : Text := ['\x22'] ++ t.flatMap escapeChar ++ ['\x22']

/-! ## Reading -/

namespace Quoted

/-- What a letter behind a `\` stands for. -/
def letter? : Char → Option Char
  | '\x22' => some '\x22'
  | '\\' => some '\\'
  | '/' => some '/'
  | 'b' => some '\x08'
  | 'f' => some '\x0c'
  | 'n' => some '\n'
  | 'r' => some '\r'
  | 't' => some '\t'
  | _ => none

/-- Four hexadecimal digits are wrong, or there are not four bytes left for them. -/
def hexFault (s : Text) : Fault := if 4 ≤ s.byteLength then .invalidEscape else .endInString

/-- Read four hexadecimal digits. -/
def hex (s : Text) : Except Fault (Nat × Text) :=
  match s with
  | a :: b :: c :: d :: rest =>
      if [a, b, c, d].all fun x => (CharSet.hexDigit? x).isSome then
        .ok (CharSet.hexValue [a, b, c, d], rest)
      else .error (hexFault s)
  | _ => .error (hexFault s)

/-- The first half of a pair. -/
def isHigh (n : Nat) : Bool := 0xd800 ≤ n && n ≤ 0xdbff

/-- The second half of a pair. -/
def isLow (n : Nat) : Bool := 0xdc00 ≤ n && n ≤ 0xdfff

/-- Read the second half of a pair whose first half is `high`. -/
def lowHalf (high : Nat) : Text → Except Fault (Char × Text)
  | [] => .error .endInString
  | '\\' :: [] => .error .endInString
  | '\\' :: 'u' :: s =>
      match hex s with
      | .error fault => .error fault
      | .ok (low, rest) =>
          if isLow low then
            .ok (Char.ofNat ((high - 0xd800) * 0x400 + (low - 0xdc00) + 0x10000), rest)
          else .error .loneSurrogate
  | _ => .error .endOfHexEscape

/-- Read the character of an escape by number, behind its `u`. -/
def byNumber (s : Text) : Except Fault (Char × Text) :=
  match hex s with
  | .error fault => .error fault
  | .ok (n, rest) =>
      if isLow n then .error .loneSurrogate
      else if isHigh n then lowHalf n rest
      else .ok (Char.ofNat n, rest)

/-- Read the character of an escape, behind its `\`. -/
def escaped : Text → Except Fault (Char × Text)
  | [] => .error .endInString
  | 'u' :: s => byNumber s
  | c :: s =>
      match letter? c with
      | some d => .ok (d, s)
      | none => .error .invalidEscape

/-! ### An escape is at least one character -/

theorem length_le_of_hex {s rest : Text} {n : Nat} (h : hex s = .ok (n, rest)) :
    rest.length ≤ s.length := by
  unfold hex at h
  split at h
  · split at h
    · obtain ⟨-, rfl⟩ := Prod.mk.inj (Except.ok.inj h)
      simp only [List.length_cons]
      omega
    · cases h
  · cases h

theorem length_le_of_lowHalf {high : Nat} {s rest : Text} {c : Char}
    (h : lowHalf high s = .ok (c, rest)) : rest.length ≤ s.length := by
  unfold lowHalf at h
  split at h
  · cases h
  · cases h
  · split at h
    · cases h
    · next hhex =>
      have := length_le_of_hex hhex
      split at h
      · obtain ⟨-, rfl⟩ := Prod.mk.inj (Except.ok.inj h)
        simp only [List.length_cons]
        omega
      · cases h
  · cases h

theorem length_lt_of_escaped {s rest : Text} {c : Char} (h : escaped s = .ok (c, rest)) :
    rest.length < s.length := by
  unfold escaped at h
  split at h
  · cases h
  · next s =>
    unfold byNumber at h
    split at h
    · cases h
    · next hhex =>
      have := length_le_of_hex hhex
      split at h
      · cases h
      · split at h
        · have := length_le_of_lowHalf h
          simp only [List.length_cons]
          omega
        · obtain ⟨-, rfl⟩ := Prod.mk.inj (Except.ok.inj h)
          simp only [List.length_cons]
          omega
  · split at h
    · obtain ⟨-, rfl⟩ := Prod.mk.inj (Except.ok.inj h)
      exact Nat.lt_succ_self _
    · cases h

/-! ### Whole texts -/

/-- A character that may not stand in a string. -/
def isControl (c : Char) : Bool := c.toNat < 32

/-- Read a text up to its closing quote, behind the opening one. -/
def read (s : Text) : Except Fault (Text × Text) :=
  match s with
  | [] => .error .endInString
  | c :: s =>
      if c = '\x22' then .ok ([], s)
      else if c = '\\' then
        match _h : escaped s with
        | .error fault => .error fault
        | .ok (d, rest) => (read rest).map fun (t, after) => (d :: t, after)
      else if isControl c then .error .controlCharacter
      else (read s).map fun (t, after) => (c :: t, after)
termination_by s.length
decreasing_by
  · exact Nat.lt_succ_of_lt (length_lt_of_escaped (by assumption))
  · exact Nat.lt_succ_self _

/-- Step over a text up to its closing quote, behind the opening one. -/
def skip : Text → Except Fault Text
  | [] => .error .endInString
  | '\x22' :: s => .ok s
  | '\\' :: [] => .error .endInString
  | '\\' :: 'u' :: s =>
      match hex s with
      | .error fault => .error fault
      | .ok _ => skip s
  | '\\' :: c :: s => if (letter? c).isSome then skip s else .error .invalidEscape
  | c :: s => if isControl c then .error .controlCharacter else skip s

end Quoted

end Json

end RequireForm
