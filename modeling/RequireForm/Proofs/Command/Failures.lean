import RequireForm.Command.Run
import RequireForm.Proofs.Files.Access

/-!
# Failures — what a run that fails leaves behind

    transform a.js --flags q        the flags make no rule           nothing has changed
    transform src                   a tree needs an output           nothing has changed
    transform - -o new/sub/..       the output is a directory        new, new/sub  are there

Options are checked before anything is read or written, so nothing can have happened where they
do not hold. Later on a run writes once and at its end: before that it makes directories and no
file, and a text that cannot be written leaves no file either.

  1. `FileTree.KeepsFiles`: the files stay, and none is added.
  2. `Ended.Harmless`, and `harmless_emit`: the one place where a run writes.
  3. `TransformArgs.Unresolved`: the ways in which options do not resolve.
  4. `failed_run_keeps_files`: runs that fail.
-/

namespace RequireForm

/-! ## Trees with the same files -/

namespace FileTree

variable {t t₁ t₂ : FileTree} {p : FilePath} {text : Text} {error : IoError}

/-- The files of a tree stay as they are, and none is added. Directories may be. -/
def KeepsFiles (t t' : FileTree) : Prop :=
  ∀ q content, t'.get? q = some (.file content) ↔ t.get? q = some (.file content)

theorem KeepsFiles.refl (t : FileTree) : KeepsFiles t t := fun _ _ => Iff.rfl

theorem KeepsFiles.trans (h : KeepsFiles t t₁) (h' : KeepsFiles t₁ t₂) : KeepsFiles t t₂ :=
  fun q content => (h' q content).trans (h q content)

/-- A directory where nothing was is no file, and takes the place of none. -/
theorem keepsFiles_put_directory {place : FilePlace} (h : t.get? place = none) :
    KeepsFiles t (t.put place .directory) := by
  have hfixed : FilePlace.isFixed place = false := by
    rw [Bool.eq_false_iff]
    intro hfixed
    rw [get?_of_isFixed hfixed] at h
    cases h
  intro q content
  rw [get?_put t _ q hfixed]
  by_cases hq : q = place
  · subst hq
    simp [h]
  · rw [if_neg hq]

theorem keepsFiles_makeDirectory (t : FileTree) (p : FilePath) :
    KeepsFiles t (t.makeDirectory p).1 := by
  rw [makeDirectory]
  split
  · exact .refl t
  · next place _ =>
      split
      · exact .refl t
      · next hnone => exact keepsFiles_put_directory (by simpa using hnone)

theorem fst_unlessThere (p : FilePath) (made : FileTree × Except IoError Unit) :
    (unlessThere p made).1 = made.1 := by
  obtain ⟨t, error | ⟨⟩⟩ := made <;> rfl

theorem keepsFiles_makeAll (t : FileTree) (ps : List FilePath) :
    KeepsFiles t (t.makeAll ps).1 := by
  -- on the paths: the directories above are made in the same way
  induction ps generalizing t with
  | nil => exact .refl t
  | cons p above ih =>
      have hmade := keepsFiles_makeDirectory t p
      rw [makeAll]
      split
      · next t₁ hnone =>
          rw [hnone] at hmade
          have habove := hmade.trans (ih t₁)
          split
          · next hall => rwa [hall] at habove
          · next hall =>
              rw [hall] at habove
              rw [fst_unlessThere]
              exact habove.trans (keepsFiles_makeDirectory _ _)
      · rw [fst_unlessThere]
        exact hmade

theorem keepsFiles_makeDirectories (t : FileTree) (p : FilePath) :
    KeepsFiles t (t.makeDirectories p).1 := keepsFiles_makeAll t _

/-- What cannot be written leaves the tree as it is. -/
theorem write_eq_of_error (h : (t.write p text).2 = .error error) : (t.write p text).1 = t := by
  rw [write] at h ⊢
  split
  · rfl
  · next place hplace =>
      rw [hplace] at h
      split
      · rfl
      · next hfree =>
          simp only [if_neg hfree] at h
          cases h

end FileTree

namespace Command

open FileTree

variable {t : FileTree} {o : Options} {a : TransformArgs} {args : List Text} {input : Content}

/-! ## Runs that fail -/

/-- If a run has failed, it has printed nothing, and the files are those that were there. -/
def Ended.Harmless (t : FileTree) (e : Ended) : Prop :=
  e.failure?.isSome = true → e.printed = [] ∧ KeepsFiles t e.tree

theorem keepsFiles_makeParent (t : FileTree) (p : FilePath) : KeepsFiles t (makeParent t p).1 := by
  rw [makeParent]
  split
  · exact .refl t
  · exact keepsFiles_makeDirectories t _

/-- A text is printed, or written after its directories have been made. -/
theorem harmless_emit (t : FileTree) (text : Text) (output? : Option FilePath) :
    (emit t text output?).Harmless t := by
  intro hfailure
  cases output? with
  | none => cases hfailure
  | some p =>
      have hparent := keepsFiles_makeParent t p
      rw [emit] at hfailure ⊢
      rcases hmade : makeParent t p with ⟨t₁, error | ⟨⟩⟩
      · rw [hmade] at hparent
        exact ⟨rfl, hparent⟩
      · rw [hmade] at hparent hfailure
        rcases hwrite : t₁.write p text with ⟨t₂, error | ⟨⟩⟩
        · have hsame : t₂ = t₁ := by
            have herror : (t₁.write p text).2 = .error error := congrArg Prod.snd hwrite
            have hfst := write_eq_of_error herror
            rwa [hwrite] at hfst
          dsimp only
          rw [hwrite]
          exact ⟨rfl, hsame ▸ hparent⟩
        · simp only [hwrite] at hfailure
          cases hfailure

theorem harmless_runInput (o : Options) (t : FileTree) (input : Content)
    (output? : Option FilePath) : (runInput o t input output?).Harmless t := by
  cases input with
  | text source => exact harmless_emit t _ output?
  | bytes b => exact fun _ => ⟨rfl, .refl t⟩

theorem harmless_runFile (o : Options) (t : FileTree) (source : FilePath)
    (output? : Option FilePath) : (runFile o t source output?).Harmless t := by
  rw [runFile]
  split
  · exact harmless_emit t _ output?
  · exact fun _ => ⟨rfl, .refl t⟩

/-! ## Options that do not resolve -/

/-- The options of a run do not resolve: their file cannot be read, its text is no options file,
    or what it says together with the arguments makes no rule. -/
inductive TransformArgs.Unresolved (a : TransformArgs) (t : FileTree) : Prop where
  | unread {p : FilePath} {error : IoError} :
      a.config? = some p → t.read p = .error error → Unresolved a t
  | malformed {p : FilePath} {text : Text} {fault : Json.Fault} :
      a.config? = some p → t.read p = .ok text → OptionsFile.read text = .error fault →
      Unresolved a t
  | invalid {file : OptionsFile} {error : PatternError} :
      a.file t = .ok file → PathRule.ofOptions? (a.overlay file).options = .error error →
      Unresolved a t

theorem file_eq_error {p : FilePath} {error : ConfigError} (hconfig : a.config? = some p)
    (hload : OptionsFile.load t p = .error error) : ∃ failure, a.file t = .error failure := by
  refine ⟨.within (Failure.action "failed to load " p) error.message error.causes, ?_⟩
  rw [TransformArgs.file, hconfig]
  dsimp only
  rw [hload]

theorem TransformArgs.Unresolved.options_eq (h : a.Unresolved t) :
    ∃ failure, a.options t = .error failure := by
  have hfile (hno : ∃ failure, a.file t = .error failure) :
      ∃ failure, a.options t = .error failure := by
    obtain ⟨failure, hno⟩ := hno
    exact ⟨failure, by rw [TransformArgs.options, hno]⟩
  cases h with
  | unread hconfig hread =>
      exact hfile (file_eq_error hconfig (by rw [OptionsFile.load, hread]))
  | @malformed p text fault hconfig hread hmalformed =>
      have hload : OptionsFile.load t p = .error (.json fault) := by
        rw [OptionsFile.load, hread]
        dsimp only
        rw [OptionsFile.ofText, hmalformed]
      exact hfile (file_eq_error hconfig hload)
  | @invalid file error hread hrule =>
      refine ⟨⟨error.message, []⟩, ?_⟩
      rw [TransformArgs.options, hread]
      dsimp only
      rw [OptionsFile.ruleOptions, OptionsFile.checkedOptions, hrule]
      rfl

/-! ## The command -/

/-- Where options do not resolve, or a tree has no output, a run fails and changes nothing at
    all. Any run of a file or of standard input that fails prints nothing and leaves the files
    as they were. -/
theorem failed_run_keeps_files (hread : Request.read args = .ok (.transform a)) (input : Content)
    (t : FileTree) :
    (a.Unresolved t ∨
        a.input.text ≠ ['-'] ∧ t.leadsToDirectory a.input = true ∧ a.output? = none →
      ∃ error, run args input t = ⟨1, [], some error, t⟩) ∧
    (a.input.text = ['-'] ∨ t.leadsToDirectory a.input = false →
      (run args input t).exit ≠ 0 →
        (run args input t).printed = [] ∧
          ∀ q content, (run args input t).tree.get? q = some (.file content) ↔
            t.get? q = some (.file content)) := by
  have hrun : run args input t = (runTransform a input t).outcome := by rw [run, hread]; rfl
  rw [hrun]
  cases hoptions : a.options t with
  | error failure =>
      have hfailed : runTransform a input t = { tree := t, failure? := some failure } := by
        rw [runTransform, hoptions]
      rw [hfailed]
      exact ⟨fun _ => ⟨_, rfl⟩, fun _ _ => ⟨rfl, KeepsFiles.refl t⟩⟩
  | ok o =>
      rw [runTransform, hoptions]
      dsimp only
      constructor
      · rintro (hno | ⟨hinput, hdir, hout⟩)
        · obtain ⟨failure, herror⟩ := hno.options_eq
          rw [hoptions] at herror
          cases herror
        · rw [if_neg hinput, if_pos hdir, hout]
          exact ⟨_, rfl⟩
      · intro hinput
        have hharmless : Ended.Harmless t
            (if a.input.text = ['-'] then runInput o t input a.output?
              else if t.leadsToDirectory a.input then runTree o t a.input a.output?
              else runFile o t a.input a.output?) := by
          by_cases hdash : a.input.text = ['-']
          · rw [if_pos hdash]
            exact harmless_runInput o t input a.output?
          · rw [if_neg hdash, hinput.resolve_left hdash]
            exact harmless_runFile o t a.input a.output?
        intro hexit
        refine hharmless ?_
        by_contra hnone
        exact hexit (if_neg hnone)

/-- A flag that there is not, a tree without an output, and an output that is a directory by the
    time it is written. -/
theorem failed_run_keeps_files_output :
    let t : FileTree :=
      ⟨[(["a.js".toList], .file (.text "import 'b'".toList)), (["src".toList], .directory)]⟩
    let input : Content := .text "import 'é'".toList
    let named (args : List String) : List Text := args.map String.toList
    let failed := run (named ["transform", "-", "-o", "new/sub/.."]) input t
    (∃ error, run (named ["transform", "a.js", "--flags", "gq", "--match=b", "-o", "c.js"]) input t
        = ⟨1, [], some error, t⟩) ∧
      (∃ error, run (named ["transform", "src"]) input t = ⟨1, [], some error, t⟩) ∧
      failed.exit ≠ 0 ∧ failed.tree.isDirectory ["new".toList, "sub".toList] = true ∧
      failed.printed = [] ∧
      ∀ q content, failed.tree.get? q = some (.file content) ↔
        t.get? q = some (.file content) := by
  intro t input named failed
  have hflag : PathRule.ofOptions? (TransformArgs.overlay
      { input := ⟨"a.js".toList⟩, output? := some ⟨"c.js".toList⟩, pattern? := some ['b'],
        flags? := some "gq".toList } {}).options = .error (.unknownFlag 'q') := by rfl
  have hexit : failed.exit ≠ 0 := by decide +kernel
  have hdash : FilePath.text ⟨['-']⟩ = ['-'] := rfl
  refine ⟨(failed_run_keeps_files (a := ⟨⟨"a.js".toList⟩, some ⟨"c.js".toList⟩, some ['b'],
      some "gq".toList, none, false, none⟩) rfl input t).1 (.inl (.invalid rfl hflag)),
    (failed_run_keeps_files (a := { input := ⟨"src".toList⟩ }) rfl input t).1
      (.inr ⟨by decide, by decide +kernel, rfl⟩), hexit, by decide +kernel, ?_⟩
  exact (failed_run_keeps_files (a := { input := ⟨['-']⟩, output? := some ⟨"new/sub/..".toList⟩ })
    rfl input t).2 (.inl hdash) hexit

end Command

end RequireForm
