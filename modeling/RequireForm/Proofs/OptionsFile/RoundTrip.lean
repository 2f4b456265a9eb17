import RequireForm.OptionsFile.Load
import RequireForm.Proofs.Json.Quoted

/-!
# Options files read back

    file       pattern "^~/"   no flags   replaceBy ""   escape
    written    {"match":"^~/","replaceBy":"","escapeRegExp":true}

A file is written field by field, with a comma behind each text and none behind the truth value,
which is always there and comes last. It is read from comma to comma. So where a field has been
read, what is left is a comma with the next field behind it, and a key that is absent has left no
trace: only an empty text is told by its quotes.

  1. `readFields_field`: one field in front of any rest.
  2. `readFields_text`: a text that may be absent.
  3. `ofText_render`: a whole file.
-/

namespace RequireForm

namespace OptionsFile

open Json

variable {f g : Fields} {key : Key} {value rest : Text} {fuel k : Nat} {fresh : Bool}

/-! ## Fields -/

/-- What stands in front of a field: a comma, unless it is the first one. -/
def lead (fresh : Bool) : Text := if fresh then [] else [',']

theorem ofName?_name (key : Key) : Key.ofName? key.name.toList = some key := by
  cases key <;> rfl

theorem nextField_lead (fresh : Bool) (s : Text) :
    nextField fresh (lead fresh ++ '\x22' :: s) = .ok (true, s) := by
  cases fresh <;> rfl

/-- A field whose value can be read is read, and those behind it are read after it. -/
theorem readFields_field (hkey : f.has key = false)
    (hvalue : f.readValue key (value ++ rest) = .ok (g, rest)) :
    readFields (fuel + 1) fresh f (lead fresh ++ (renderField key value ++ rest))
      = readFields fuel false g rest := by
  have hkeyed : readKeyed f (key.name.toList.flatMap escapeChar ++ '\x22' :: ':' :: (value ++ rest))
      = .ok (g, rest) := by
    rw [readKeyed, Quoted.read_escaped]
    show readField f key.name.toList (':' :: (value ++ rest)) = _
    rw [readField, ofName?_name]
    dsimp only
    rw [hkey, if_neg Bool.false_ne_true]
    exact hvalue
  have hwritten : renderField key value ++ rest
      = '\x22' :: (key.name.toList.flatMap escapeChar ++ '\x22' :: ':' :: (value ++ rest)) := by
    rw [renderField, List.append_assoc, List.append_assoc, quoted_append]
    rfl
  rw [readFields, hwritten, nextField_lead]
  dsimp only
  rw [hkeyed]

/-- Fields with the text of a key, if there is one. -/
def Fields.withText (f : Fields) (t? : Option Text) : Key → Fields
  | .pattern => { f with pattern? := t?.map some }
  | .flags => { f with flags? := t?.map some }
  | .replaceBy => { f with replaceBy? := t?.map some }
  | .escape => f

theorem Fields.withText_none (h : f.has key = false) : f.withText none key = f := by
  obtain ⟨pattern?, flags?, replaceBy?, escape?⟩ := f
  cases key with
  | pattern => cases pattern? <;> trivial
  | flags => cases flags? <;> trivial
  | replaceBy => cases replaceBy? <;> trivial
  | escape => rfl

theorem Fields.readValue_quoted (hkey : key ≠ .escape) (t rest : Text) :
    f.readValue key (quoted t ++ rest) = .ok (f.withText (some t) key, rest) := by
  cases key with
  | escape => exact absurd rfl hkey
  | _ =>
      rw [readValue, readText?_quoted]
      rfl

/-- Behind a text, or where there is none, the next field can be read. -/
theorem readFields_text (fresh : Bool) (f : Fields) (key : Key) (t? : Option Text)
    (hkey : key ≠ .escape) (hno : f.has key = false) (hfuel : k + 1 ≤ fuel) (rest : Text) :
    ∃ fuel' fresh', k ≤ fuel' ∧
      readFields fuel fresh f (lead fresh ++ (renderText key t? ++ rest))
        = readFields fuel' fresh' (f.withText t? key) (lead fresh' ++ rest) := by
  cases t? with
  | none => exact ⟨fuel, fresh, by omega, by rw [Fields.withText_none hno]; rfl⟩
  | some t =>
      obtain ⟨fuel', rfl⟩ : ∃ fuel', fuel = fuel' + 1 := ⟨fuel - 1, by omega⟩
      refine ⟨fuel', false, by omega, ?_⟩
      rw [renderText, List.append_assoc]
      exact readFields_field hno (Fields.readValue_quoted hkey t _)

theorem readBoolean_renderBoolean (b : Bool) (rest : Text) :
    readBoolean (renderBoolean b ++ rest) = .ok (b, rest) := by
  cases b <;> rfl

/-- The truth value ends the object. -/
theorem readFields_escape (hfuel : 2 ≤ fuel) (hkey : f.has .escape = false) (b : Bool) :
    readFields fuel fresh f (lead fresh ++ (renderField .escape (renderBoolean b) ++ ['\x7d']))
      = .ok ({ f with escape? := some b }.file, []) := by
  obtain ⟨fuel', rfl⟩ : ∃ fuel', fuel = fuel' + 1 + 1 := ⟨fuel - 2, by omega⟩
  have hvalue : f.readValue .escape (renderBoolean b ++ ['\x7d'])
      = .ok ({ f with escape? := some b }, ['\x7d']) := by
    rw [Fields.readValue, readBoolean_renderBoolean]
    rfl
  rw [readFields_field hkey hvalue]
  rfl

/-! ## Files -/

/-- What stands behind the opening brace is read back, field by field in the order in which it is
    written. -/
theorem readFields_render (p : OptionsFile) (hfuel : 5 ≤ fuel) :
    readFields fuel true {} (renderText .pattern p.pattern? ++ (renderText .flags p.flags? ++
        (renderText .replaceBy p.replaceBy? ++
          (renderField .escape (renderBoolean p.escape) ++ ['\x7d'])))) = .ok (p, []) := by
  let f₁ : Fields := .withText {} p.pattern? .pattern
  let f₂ : Fields := f₁.withText p.flags? .flags
  obtain ⟨fuel₁, fresh₁, hfuel₁, hpattern⟩ := readFields_text true {} .pattern p.pattern?
    (by decide) rfl hfuel _
  obtain ⟨fuel₂, fresh₂, hfuel₂, hflags⟩ := readFields_text fresh₁ f₁ .flags p.flags?
    (by decide) rfl hfuel₁ _
  obtain ⟨fuel₃, fresh₃, hfuel₃, hreplaceBy⟩ := readFields_text fresh₂ f₂ .replaceBy
    p.replaceBy? (by decide) rfl hfuel₂ _
  refine hpattern.trans (hflags.trans (hreplaceBy.trans
    ((readFields_escape hfuel₃ rfl _).trans ?_)))
  obtain ⟨pattern?, flags?, replaceBy?, escape⟩ := p
  cases pattern? <;> cases flags? <;> cases replaceBy? <;> rfl

/-- A file that is written is read back. -/
theorem read_render (p : OptionsFile) : read p.render = .ok p := by
  have hwritten : p.render = '\x7b' :: (renderText .pattern p.pattern? ++
      (renderText .flags p.flags? ++ (renderText .replaceBy p.replaceBy? ++
        (renderField .escape (renderBoolean p.escape) ++ ['\x7d'])))) := by
    simp only [render, List.append_assoc]
    rfl
  rw [hwritten]
  show (readObject _).bind (fun found => finish found.1 found.2) = _
  rw [readObject, readFields_render p]
  · rfl
  · simp only [List.length_append, renderField, quoted]
    simp only [List.length_cons]
    omega

/-- Whatever a file says, it is read back from its text: also texts that are empty or absent, and
    characters that have to be escaped. So writing a file that has been read, and reading it
    again, changes nothing. -/
theorem ofText_render :
    (∀ p : OptionsFile, ofText p.render = .ok p) ∧
      ∀ t : Text, (ofText t).bind (fun p => ofText p.render) = ofText t := by
  have hread (p : OptionsFile) : ofText p.render = .ok p := by rw [ofText, read_render]
  refine ⟨hread, fun t => ?_⟩
  cases ofText t with
  | error e => rfl
  | ok p => exact hread p

end OptionsFile

end RequireForm
