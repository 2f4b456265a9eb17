import RequireForm.Command.Run
import RequireForm.Proofs.Files.Unread

/-!
# Arguments over an options file — one value for both

    o.json                                  the arguments              a file with one value
    "match": "(", "flags": "q"              --match ~/ --flags g       "match": "~/", "flags": "g"

An argument is put over what the file says before any of it is checked: a run does what it would
do with a file that says all of it and no arguments. What the file says of a setting that an
argument gives is never looked at, valid or not, and each setting is taken by itself: flags from
one side go with a pattern from the other.

  1. `Merged`, and `merged_iff`: the value that is put together.
  2. `TransformArgs.options_eq`: options come from that value only.
  3. `Ended.Parallel`, and `parallel_runTransform`: runs that do not come to the file.
  4. `arguments_over_file`: the two runs.
-/

namespace RequireForm

namespace Command

open FileTree

variable {t t' : FileTree} {o : Options} {a : TransformArgs} {f m : OptionsFile} {p : FilePath}
  {q : FilePlace}

/-! ## Values -/

/-- A setting is what an argument gives, and what the file says where no argument gives it. -/
def Preferred (given? said? value? : Option Text) : Prop :=
  (∀ v, given? = some v → value? = some v) ∧ (given? = none → value? = said?)

/-- The value that arguments and a file make together, setting by setting. -/
structure Merged (a : TransformArgs) (f m : OptionsFile) : Prop where
  pattern : Preferred a.pattern? f.pattern? m.pattern?
  flags : Preferred a.flags? f.flags? m.flags?
  replaceBy : Preferred a.replaceBy? f.replaceBy? m.replaceBy?
  escape : m.escape = true ↔ a.escape = true ∨ f.escape = true

theorem preferred_iff {given? said? value? : Option Text} :
    Preferred given? said? value? ↔ value? = given?.or said? := by
  cases given? with
  | none => simp [Preferred]
  | some v => simp [Preferred]

theorem merged_iff : Merged a f m ↔ m = a.overlay f := by
  obtain ⟨pattern?, flags?, replaceBy?, escape⟩ := m
  constructor
  · intro h
    have hescape : escape = (f.escape || a.escape) := by
      rw [Bool.eq_iff_iff, Bool.or_eq_true, or_comm]
      exact h.escape
    rw [TransformArgs.overlay, ← preferred_iff.mp h.pattern, ← preferred_iff.mp h.flags,
      ← preferred_iff.mp h.replaceBy, ← hescape]
  · rintro ⟨⟩
    exact ⟨preferred_iff.mpr rfl, preferred_iff.mpr rfl, preferred_iff.mpr rfl,
      Bool.or_eq_true_iff.trans or_comm⟩

/-! ## Options -/

/-- The failure of options that make no rule. -/
def checkedFailure (f : OptionsFile) : Except Failure Options :=
  match f.ruleOptions with
  | .ok o => .ok o
  | .error e => .error ⟨e.message, e.causes⟩

namespace TransformArgs

/-- The file that is loaded counts only as part of what is put together. -/
theorem options_eq (hconfig : a.config? = some p) (hload : OptionsFile.load t p = .ok f) :
    a.options t = checkedFailure (a.overlay f) := by
  have hfile : a.file t = .ok f := by
    rw [file, hconfig]
    dsimp only
    rw [hload]
  rw [options, hfile]
  rfl

/-- Arguments that give no setting leave a file as it is. -/
theorem overlay_of_none (input : FilePath) (output? config? : Option FilePath) (m : OptionsFile) :
    overlay { input := input, output? := output?, config? := config? } m = m := by
  simp [overlay]

/-- A run with these arguments reads what is at a place as part of its input. Standard input is
    no place. -/
def Includes (a : TransformArgs) (t : FileTree) (q : FilePlace) : Prop :=
  a.input.text ≠ ['-'] ∧ ∃ place, t.place? a.input = .ok place ∧ FilePlace.Within place q

end TransformArgs

/-! ## Runs side by side -/

/-- Runs that end in the same way, after the same changes. -/
def Ended.Parallel (t t' : FileTree) (e e' : Ended) : Prop :=
  ∃ changes printed failure?, e = ⟨t.putAll changes, printed, failure?⟩ ∧
    e' = ⟨t'.putAll changes, printed, failure?⟩

namespace Ended.Parallel

theorem still (t t' : FileTree) (printed : Text) (failure? : Option Failure) :
    Ended.Parallel t t' ⟨t, printed, failure?⟩ ⟨t', printed, failure?⟩ :=
  ⟨[], printed, failure?, rfl, rfl⟩

end Ended.Parallel

theorem parallel_makeParent (h : SameBut q t t') (p : FilePath) :
    FileTree.Parallel t t' (makeParent t p) (makeParent t' p) := by
  rw [makeParent, makeParent]
  cases p.parent? with
  | none => exact .answer t t' _
  | some parent => exact h.makeDirectories parent

theorem parallel_emit (h : SameBut q t t') (text : Text) (output? : Option FilePath) :
    Ended.Parallel t t' (emit t text output?) (emit t' text output?) := by
  cases output? with
  | none => exact .still t t' _ _
  | some p =>
      obtain ⟨changes, answer, hmade, hmade'⟩ := parallel_makeParent h p
      rw [emit, emit, hmade, hmade']
      cases answer with
      | error e => exact ⟨changes, _, _, rfl, rfl⟩
      | ok u =>
          have hwrite := ((h.putAll changes).write p text).after
          obtain ⟨all, answer, hdone, hdone'⟩ := hwrite
          dsimp only
          rw [hdone, hdone']
          cases answer with
          | error e => exact ⟨all, _, _, rfl, rfl⟩
          | ok u => exact ⟨all, _, _, rfl, rfl⟩

theorem parallel_runInput (h : SameBut q t t') (o : Options) (input : Content)
    (output? : Option FilePath) :
    Ended.Parallel t t' (runInput o t input output?) (runInput o t' input output?) := by
  cases input with
  | text source => exact parallel_emit h _ output?
  | bytes b => exact .still t t' _ _

theorem parallel_runFile (h : SameBut q t t') (o : Options) {source : FilePath}
    (hsource : ∀ place, t.place? source = .ok place → place ≠ q) (output? : Option FilePath) :
    Ended.Parallel t t' (runFile o t source output?) (runFile o t' source output?) := by
  have hfile : transformFile o t' source = transformFile o t source := by
    rw [transformFile, transformFile, h.read_eq hsource]
  rw [runFile, runFile, hfile]
  cases transformFile o t source with
  | error e => exact .still t t' _ _
  | ok text => exact parallel_emit h text output?

theorem parallel_runTree (h : SameBut q t t') (ht : t.WellFormed) (o : Options)
    {source : FilePath}
    (hsource : ∀ place, t.place? source = .ok place → ¬ FilePlace.Within place q)
    (output? : Option FilePath) :
    Ended.Parallel t t' (runTree o t source output?) (runTree o t' source output?) := by
  cases output? with
  | none => exact .still t t' _ _
  | some target =>
      obtain ⟨changes, answer, hdone, hdone'⟩ := h.transformTree o ht hsource target
      rw [runTree, runTree, hdone, hdone']
      cases answer with
      | error e => exact ⟨changes, _, _, rfl, rfl⟩
      | ok r => exact ⟨changes, _, _, rfl, rfl⟩

/-- Runs with the same options, input and output, on trees that differ in a file that is no part
    of the input. -/
theorem parallel_runTransform {b : TransformArgs} (h : SameBut q t t') (ht : t.WellFormed)
    (hinput : b.input = a.input) (houtput : b.output? = a.output?)
    (hoptions : b.options t' = a.options t) (hapart : ¬ a.Includes t q) (input : Content) :
    Ended.Parallel t t' (runTransform a input t) (runTransform b input t') := by
  rw [runTransform, runTransform, hoptions, hinput, houtput, h.leadsToDirectory_eq]
  cases a.options t with
  | error failure => exact .still t t' _ _
  | ok o =>
      dsimp only
      by_cases hdash : a.input.text = ['-']
      · rw [if_pos hdash, if_pos hdash]
        exact parallel_runInput h o input a.output?
      · have hsource : ∀ place, t.place? a.input = .ok place → ¬ FilePlace.Within place q :=
          fun place hplace hwithin => hapart ⟨hdash, place, hplace, hwithin⟩
        rw [if_neg hdash, if_neg hdash]
        split
        · exact parallel_runTree h ht o hsource a.output?
        · refine parallel_runFile h o (fun place hplace hq => hsource place hplace ?_) a.output?
          rw [hq]
          exact .refl

/-! ## The command -/

theorem load_eq_ok {text : Text} (hread : t.read p = .ok text)
    (hfile : (OptionsFile.read text).toOption = some f) : OptionsFile.load t p = .ok f := by
  rw [OptionsFile.load, hread]
  dsimp only
  rw [OptionsFile.ofText]
  cases hresult : OptionsFile.read text with
  | error fault =>
      rw [hresult] at hfile
      cases hfile
  | ok file =>
      rw [hresult] at hfile
      cases hfile
      rfl

/-- What can be loaded is a file. -/
theorem get?_of_load (hplace : t.place? p = .ok q) (hload : OptionsFile.load t p = .ok f) :
    ∃ text, t.get? q = some (.file (.text text)) := by
  rw [OptionsFile.load, FileTree.read, hplace] at hload
  dsimp only at hload
  split at hload
  · cases hload
  · next hread =>
      split at hread
      · next text hget => exact ⟨text, hget⟩
      all_goals cases hread

/-- A run with an options file and arguments put over it does what a run does that has only an
    options file, which holds the two put together: both end in the same way and print the same,
    and make the same changes. The trees may differ in what the first file holds, and the second
    file may be that file or another one; the input does not include the first file. If what is
    put together makes a rule, that rule is taken, whether or not the file makes one alone. -/
theorem arguments_over_file {args args' : List Text} {p' : FilePath} {content : Content}
    (ht : t.WellFormed) (hread : Request.read args = .ok (.transform a))
    (hconfig : a.config? = some p) (hplace : t.place? p = .ok q)
    (hload : OptionsFile.load t p = .ok f)
    (hread' : Request.read args' = .ok (.transform
      { input := a.input, output? := a.output?, config? := some p' }))
    (hload' : OptionsFile.load (t.put q (.file content)) p' = .ok m) (hmerged : Merged a f m)
    (hapart : ¬ a.Includes t q) (input : Content) :
    (∃ changes exit printed error?,
      run args input t = ⟨exit, printed, error?, t.putAll changes⟩ ∧
        run args' input (t.put q (.file content))
          = ⟨exit, printed, error?, (t.put q (.file content)).putAll changes⟩) ∧
      ∀ o, m.ruleOptions = .ok o → a.options t = .ok o := by
  have hoptions : a.options t = checkedFailure m := by
    rw [TransformArgs.options_eq hconfig hload, ← merged_iff.mp hmerged]
  constructor
  · obtain ⟨text, hfile⟩ := get?_of_load hplace hload
    have hsame : SameBut q t (t.put q (.file content)) := .of_put hfile content
    let b : TransformArgs := { input := a.input, output? := a.output?, config? := some p' }
    have hoptions' : b.options (t.put q (.file content)) = a.options t := by
      rw [TransformArgs.options_eq rfl hload', TransformArgs.overlay_of_none, hoptions]
    obtain ⟨changes, printed, failure?, hdone, hdone'⟩ :=
      parallel_runTransform (a := a) (b := b) hsame ht rfl rfl hoptions' hapart input
    refine ⟨changes, if failure?.isSome then 1 else 0, printed, failure?.map Failure.render, ?_, ?_⟩
    · rw [run, hread]
      exact congrArg Ended.outcome hdone
    · rw [run, hread']
      exact congrArg Ended.outcome hdone'
  · intro o hrule
    rw [hoptions, checkedFailure, hrule]

/-- A source below a directory, and a file of options of which neither the pattern nor the flags
    are valid. -/
def refusedTree : FileTree :=
  ⟨[(["src".toList], .directory),
    (["src".toList, "a.js".toList], .file (.text "import a from '~/a'".toList)),
    (["o.json".toList],
      .file (.text "\x7b\"match\": \"(\", \"flags\": \"q\", \"replaceBy\": \"./\"\x7d".toList))]⟩

/-- Arguments give the pattern and the flags, and the file what they are replaced by. -/
theorem arguments_over_file_refused :
    let named (args : List String) : List Text := args.map String.toList
    let merged : Content := .text
      "\x7b\"match\": \"~/\", \"flags\": \"g\", \"replaceBy\": \"./\"\x7d".toList
    let t' := refusedTree.put ["o.json".toList] (.file merged)
    let args := named ["transform", "src", "-o", "out", "-c", "o.json", "--match=~/", "--flags=g"]
    let args' := named ["transform", "-c", "o.json", "-oout", "src"]
    let f : OptionsFile := ⟨some "(".toList, some "q".toList, some "./".toList, false⟩
    OptionsFile.load refusedTree ⟨"o.json".toList⟩ = .ok f ∧ f.ruleOptions.toOption = none ∧
      (run args (.text []) refusedTree).exit = 0 ∧
      ∃ changes exit printed error?,
        run args (.text []) refusedTree = ⟨exit, printed, error?, refusedTree.putAll changes⟩ ∧
          run args' (.text []) t' = ⟨exit, printed, error?, t'.putAll changes⟩ := by
  intro named merged t' args args' f
  let m : OptionsFile := ⟨some "~/".toList, some "g".toList, some "./".toList, false⟩
  have hread : refusedTree.read ⟨"o.json".toList⟩
      = .ok "\x7b\"match\": \"(\", \"flags\": \"q\", \"replaceBy\": \"./\"\x7d".toList := by
    decide +kernel
  have hload : OptionsFile.load refusedTree ⟨"o.json".toList⟩ = .ok f :=
    load_eq_ok hread (by decide +kernel)
  have hread' : t'.read ⟨"o.json".toList⟩
      = .ok "\x7b\"match\": \"~/\", \"flags\": \"g\", \"replaceBy\": \"./\"\x7d".toList := by
    decide +kernel
  have hload' : OptionsFile.load t' ⟨"o.json".toList⟩ = .ok m :=
    load_eq_ok hread' (by decide +kernel)
  have hapart : ¬ TransformArgs.Includes
      { input := ⟨"src".toList⟩, output? := some ⟨"out".toList⟩, pattern? := some "~/".toList,
        flags? := some "g".toList, config? := some ⟨"o.json".toList⟩ }
      refusedTree ["o.json".toList] := by
    rintro ⟨-, place, hplace, hwithin⟩
    obtain rfl : ["src".toList] = place := Except.ok.inj (Eq.trans (by decide +kernel) hplace)
    exact absurd (hwithin.isPrefix (by decide)) (by decide)
  exact ⟨hload, by rfl, by decide +kernel, (arguments_over_file (f := f)
    (m := m) (by decide +kernel) rfl rfl (by decide +kernel) hload rfl hload'
    (merged_iff.mpr rfl) hapart (.text [])).1⟩

end Command

end RequireForm
