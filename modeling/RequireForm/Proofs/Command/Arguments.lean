import RequireForm.Command.Arguments

/-!
# Options around paths — what arguments ask for, wherever the paths stand among them

    transform  --match ~/  a.js  -v  -o out.js  --flags g
               options     input     output     options

Options are read one after another, each on top of what has been read before. They may stand
in front of the input, between it and the output, and behind both; what they set is the same
as without the paths.

  1. `TransformDraft.withPaths`: a draft with an input and an output.
  2. `Framed`: what is read without setting a path is read in the same way around paths.
  3. `Sets`, `read_around`: the request that a transform with options is.
-/

namespace RequireForm

namespace Command

/-! ## Results -/

theorem exists_of_bind_ok {ε α β : Type} {x : Except ε α} {f : α → Except ε β} {b : β}
    (h : x.bind f = .ok b) : ∃ a, x = .ok a ∧ f a = .ok b := by
  cases x with
  | error e => cases h
  | ok a => exact ⟨a, rfl, h⟩

theorem exists_of_map_ok {ε α β : Type} {x : Except ε α} {f : α → β} {b : β}
    (h : x.map f = .ok b) : ∃ a, x = .ok a ∧ f a = b := by
  cases x with
  | error e => cases h
  | ok a => exact ⟨a, rfl, Except.ok.inj h⟩

namespace TransformDraft

variable {d d' d₁ : TransformDraft} {arg input output value names name : Text}
  {args front middle back rest : List Text} {waiting : Option Setting} {setting : Setting}

/-! ## Drafts with paths -/

/-- A draft with an input and an output. -/
def withPaths (d : TransformDraft) (input? output? : Option FilePath) : TransformDraft :=
  { d with input? := input?, output? := output? }

/-- A path that has been given stays given. -/
structure Kept (d d' : TransformDraft) : Prop where
  input : d'.input? = none → d.input? = none
  output : d'.output? = none → d.output? = none

theorem Kept.trans (h : Kept d d₁) (h' : Kept d₁ d') : Kept d d' :=
  ⟨fun hin => h.input (h'.input hin), fun hout => h.output (h'.output hout)⟩

/-- Where something is read without a path being given, it is read in the same way into a draft
    that has paths. -/
def Framed (read : TransformDraft → Except Stop (TransformDraft × Option Setting)) : Prop :=
  ∀ d d' waiting, read d = .ok (d', waiting) →
    Kept d d' ∧ (d'.input? = none → d'.output? = none →
      ∀ i o, read (d.withPaths i o) = .ok (d'.withPaths i o, waiting))

theorem give_eq_ok_iff {α : Type} {old new : Option α} {v : α} :
    give old v = .ok new ↔ old = none ∧ new = some v := by
  cases old <;> simp [give, eq_comm]

theorem givePath_eq_ok_iff {old new : Option FilePath} :
    givePath old value = .ok new ↔ value ≠ [] ∧ old = none ∧ new = some ⟨value⟩ := by
  by_cases hnil : value = []
  · simp [givePath, hnil]
  · rw [givePath, if_neg hnil, give_eq_ok_iff, and_iff_right hnil]

theorem framed_wait (waiting : Option Setting) : Framed fun d => .ok (d, waiting) := by
  rintro d d' w h
  obtain ⟨rfl, rfl⟩ := Prod.mk.inj (Except.ok.inj h)
  exact ⟨⟨id, id⟩, fun _ _ _ _ => rfl⟩

/-- What is read from other fields than the paths, and set in other fields. -/
theorem framed_of_eq_map {α : Type} {x : TransformDraft → Except Stop α}
    {f : TransformDraft → α → TransformDraft}
    {read : TransformDraft → Except Stop (TransformDraft × Option Setting)}
    (hread : ∀ d, read d = (x d).map fun v => (f d v, none))
    (hx : ∀ d i o, x (d.withPaths i o) = x d)
    (hf : ∀ d v i o, f (d.withPaths i o) v = (f d v).withPaths i o)
    (hinput : ∀ d v, (f d v).input? = d.input?) (houtput : ∀ d v, (f d v).output? = d.output?) :
    Framed read := by
  intro d d' w h
  rw [hread] at h
  obtain ⟨v, hv, heq⟩ := exists_of_map_ok h
  obtain ⟨rfl, rfl⟩ := Prod.mk.inj heq
  refine ⟨⟨fun hin => hinput d v ▸ hin, fun hout => houtput d v ▸ hout⟩, fun _ _ i o => ?_⟩
  rw [hread, hx, hv, ← hf]
  rfl

theorem framed_set (value : Text) (setting : Setting) :
    Framed fun d => (d.set value setting).map (·, none) := by
  have hmap {α β γ : Type} (x : Except Stop α) (f : α → β) (g : β → γ) :
      (x.map f).map g = x.map (g ∘ f) := by
    cases x <;> rfl
  cases setting with
  | output =>
      intro d d' w h
      obtain ⟨d₁, hset, heq⟩ := exists_of_map_ok h
      obtain ⟨rfl, rfl⟩ := Prod.mk.inj heq
      obtain ⟨new, hgive, rfl⟩ := exists_of_map_ok hset
      obtain ⟨-, hold, rfl⟩ := givePath_eq_ok_iff.mp hgive
      exact ⟨⟨id, fun _ => hold⟩, fun _ hout => nomatch hout⟩
  | pattern =>
      exact framed_of_eq_map (fun _ => hmap _ _ _) (fun _ _ _ => rfl) (fun _ _ _ _ => rfl)
        (fun _ _ => rfl) (fun _ _ => rfl)
  | replaceBy =>
      exact framed_of_eq_map (fun _ => hmap _ _ _) (fun _ _ _ => rfl) (fun _ _ _ _ => rfl)
        (fun _ _ => rfl) (fun _ _ => rfl)
  | flags =>
      exact framed_of_eq_map (fun _ => hmap _ _ _) (fun _ _ _ => rfl) (fun _ _ _ _ => rfl)
        (fun _ _ => rfl) (fun _ _ => rfl)
  | config =>
      exact framed_of_eq_map (fun _ => hmap _ _ _) (fun _ _ _ => rfl) (fun _ _ _ _ => rfl)
        (fun _ _ => rfl) (fun _ _ => rfl)

theorem framed_addInput (arg : Text) : Framed fun d => (d.addInput arg).map (·, none) := by
  intro d d' w h
  obtain ⟨d₁, hadd, heq⟩ := exists_of_map_ok h
  obtain ⟨rfl, rfl⟩ := Prod.mk.inj heq
  obtain ⟨new, hgive, rfl⟩ := exists_of_map_ok hadd
  obtain ⟨-, hold, rfl⟩ := givePath_eq_ok_iff.mp hgive
  exact ⟨⟨fun _ => hold, id⟩, fun hin => nomatch hin⟩

/-- A short name of a setting waits for a value, or has it behind it. -/
theorem readShort_of_setting {c : Char} (h : Setting.ofShort? c = some setting) (rest : Text) :
    (∀ d : TransformDraft, d.readShort (c :: rest) = .ok (d, some setting)) ∨
      ∃ value, ∀ d : TransformDraft,
        d.readShort (c :: rest) = (d.set value setting).map (·, none) := by
  cases rest with
  | nil => exact .inl fun d => by simp only [readShort, h]
  | cons e rest =>
      by_cases heq : e = '='
      · subst heq
        exact .inr ⟨rest, fun d => by simp only [readShort, h]⟩
      · exact .inr ⟨e :: rest, fun d => by simp [readShort, h, heq]⟩

theorem framed_readShort (names : Text) : Framed fun d => d.readShort names := by
  induction names with
  | nil => exact framed_wait none
  | cons c rest ih =>
      cases hsetting : Setting.ofShort? c with
      | some setting =>
          rcases readShort_of_setting hsetting rest with hwait | ⟨value, hset⟩
          · simpa only [hwait] using framed_wait (some setting)
          · simpa only [hset] using framed_set value setting
      | none =>
          by_cases hv : c = 'v'
          · subst hv
            have hread (d : TransformDraft) : d.readShort ('v' :: rest)
                = (once d.verbose).bind fun verbose =>
                    readShort { d with verbose := verbose } rest := by
              cases honce : once d.verbose <;> simp [readShort, hsetting, honce, Except.bind]
            intro d d' w h
            dsimp only at h ⊢
            rw [hread] at h
            obtain ⟨verbose, honce, hrest⟩ := exists_of_bind_ok h
            obtain ⟨hkept, hframe⟩ := ih _ _ _ hrest
            refine ⟨⟨hkept.input, hkept.output⟩, fun hin hout i o => ?_⟩
            rw [hread]
            show (once d.verbose).bind _ = _
            rw [honce]
            exact hframe hin hout i o
          · have hread (d : TransformDraft) : d.readShort (c :: rest)
                = .error (if c = 'h' then .help else .wrong) := by
              simp only [readShort, hsetting, if_neg hv]
              split <;> rfl
            intro d d' w h
            dsimp only at h
            rw [hread] at h
            cases h

theorem framed_readLong (name : Text) (value? : Option Text) :
    Framed fun d => d.readLong name value? := by
  cases hsetting : Setting.ofLong? name with
  | some setting =>
      cases value? with
      | none => simpa only [readLong, hsetting] using framed_wait (some setting)
      | some value => simpa only [readLong, hsetting] using framed_set value setting
  | none =>
      by_cases hescape : (name = "escape-regexp".toList && value?.isNone) = true
      · refine framed_of_eq_map (x := fun d => once d.escape)
          (f := fun d v => { d with escape := v }) (fun d => ?_)
          (fun _ _ _ => rfl) (fun _ _ _ _ => rfl) (fun _ _ => rfl) (fun _ _ => rfl)
        simp only [readLong, hsetting]
        exact if_pos hescape
      · refine framed_of_eq_map (x := fun d => Command.readLong false d.verbose name value?)
          (f := fun d v => { d with verbose := v }) (fun d => ?_)
          (fun _ _ _ => rfl) (fun _ _ _ _ => rfl) (fun _ _ => rfl) (fun _ _ => rfl)
        simp only [readLong, hsetting]
        exact if_neg hescape

theorem framed_readArg (arg : Text) : Framed fun d => d.readArg arg := by
  cases hlong : long? arg with
  | some found => simpa only [readArg, hlong] using framed_readLong found.1 found.2
  | none =>
      cases hshort : short? arg with
      | some names => simpa only [readArg, hlong, hshort] using framed_readShort names
      | none => simpa only [readArg, hlong, hshort] using framed_addInput arg

/-- Arguments that give no path are read in the same way into a draft that has paths, and leave
    the arguments behind them as they are. -/
theorem framed_readArgs (hnames : separator ∉ args) (h : d.readArgs waiting args = .ok d') :
    Kept d d' ∧ (d'.input? = none → d'.output? = none → ∀ i o rest,
      (d.withPaths i o).readArgs waiting (args ++ rest)
        = (d'.withPaths i o).readArgs none rest) := by
  induction args generalizing d waiting with
  | nil =>
      cases waiting with
      | some setting => cases h
      | none =>
          obtain rfl : d = d' := Except.ok.inj h
          exact ⟨⟨id, id⟩, fun _ _ _ _ _ => rfl⟩
  | cons arg args ih =>
      obtain ⟨harg, hargs⟩ := not_or.mp fun h => hnames (List.mem_cons.mpr h)
      cases waiting with
      | some setting =>
          rw [readArgs] at h
          split at h
          · next hvalue =>
              obtain ⟨d₁, hset, hrest⟩ := exists_of_bind_ok h
              obtain ⟨hkept, hframe⟩ := ih hargs hrest
              have hset₁ : (d.set arg setting).map (·, (none : Option Setting))
                  = .ok (d₁, none) := by
                rw [hset]
                rfl
              obtain ⟨hkept₁, hframe₁⟩ := framed_set arg setting d d₁ none hset₁
              refine ⟨hkept₁.trans hkept, fun hin hout i o rest => ?_⟩
              obtain ⟨d₂, hset₂, heq⟩ :=
                exists_of_map_ok (hframe₁ (hkept.input hin) (hkept.output hout) i o)
              obtain ⟨rfl, -⟩ := Prod.mk.inj heq
              rw [List.cons_append, readArgs, if_pos hvalue, hset₂]
              exact hframe hin hout i o rest
          · cases h
      | none =>
          rw [readArgs, if_neg (Ne.symm harg)] at h
          obtain ⟨⟨d₁, w⟩, hread, hrest⟩ := exists_of_bind_ok h
          obtain ⟨hkept, hframe⟩ := ih hargs hrest
          obtain ⟨hkept₁, hframe₁⟩ := framed_readArg arg d d₁ w hread
          refine ⟨hkept₁.trans hkept, fun hin hout i o rest => ?_⟩
          have hread₁ := hframe₁ (hkept.input hin) (hkept.output hout) i o
          dsimp only at hread₁
          rw [List.cons_append, readArgs, if_neg (Ne.symm harg), hread₁]
          exact hframe hin hout i o rest

/-! ## Requests -/

/-- Arguments that set options and nothing else, on top of what has been read. -/
structure Sets (d : TransformDraft) (args : List Text) (d' : TransformDraft) : Prop where
  names : separator ∉ args
  read : d.readArgs none args = .ok d'
  input : d'.input? = none
  output : d'.output? = none

theorem Sets.read_append (h : Sets d args d') (i o : Option FilePath) (rest : List Text) :
    (d.withPaths i o).readArgs none (args ++ rest) = (d'.withPaths i o).readArgs none rest :=
  (framed_readArgs h.names h.read).2 h.input h.output i o rest

/-- An argument that can only be a path, or the value of a name. -/
def IsPath (arg : Text) : Prop := arg ≠ [] ∧ arg.head? ≠ some '-'

instance : DecidablePred IsPath := fun _ => inferInstanceAs (Decidable (_ ∧ _))

theorem IsPath.ne_dash (h : IsPath arg) : arg ≠ ['-'] := by
  rintro rfl
  exact h.2 rfl

/-- An input is no name. -/
theorem read_input (h : IsPath input ∨ input = ['-']) (o : Option FilePath) (rest : List Text) :
    (d.withPaths none o).readArgs none (input :: rest)
      = (d.withPaths (some ⟨input⟩) o).readArgs none rest := by
  have hno : input ≠ separator ∧ long? input = none ∧ short? input = none ∧ input ≠ [] := by
    rcases h with ⟨hne, hhead⟩ | rfl
    · obtain ⟨c, s, rfl⟩ := List.exists_cons_of_ne_nil hne
      have hc : c ≠ '-' := fun heq => hhead (congrArg some heq)
      refine ⟨fun heq => hc (List.cons.inj heq).1, ?_, ?_, hne⟩
      · rw [long?]
        exact fun _ _ heq => hc (List.cons.inj heq).1
      · rw [short?]
        exact fun _ _ heq => hc (List.cons.inj heq).1
    · exact ⟨by decide, rfl, rfl, by decide⟩
  obtain ⟨hsep, hlong, hshort, hne⟩ := hno
  have hgive : (d.withPaths none o).addInput input = .ok (d.withPaths (some ⟨input⟩) o) := by
    rw [addInput, givePath, if_neg hne]
    rfl
  rw [readArgs, if_neg hsep, readArg, hlong, hshort]
  dsimp only
  rw [hgive]
  rfl

theorem read_output (h : IsPath output) (i : Option FilePath) (rest : List Text) :
    (d.withPaths i none).readArgs none (['-', 'o'] :: output :: rest)
      = (d.withPaths i (some ⟨output⟩)).readArgs none rest := by
  have hvalue : isValue output = true := by simp [isValue, h.2]
  have hset : (d.withPaths i none).set output .output = .ok (d.withPaths i (some ⟨output⟩)) := by
    rw [set, givePath, if_neg h.1]
    rfl
  have hwait : (d.withPaths i none).readArgs none (['-', 'o'] :: output :: rest)
      = (d.withPaths i none).readArgs (some .output) (output :: rest) := rfl
  rw [hwait, readArgs, if_pos hvalue, hset]
  rfl

/-- The arguments of a transform with what a draft says besides its paths. -/
def toArgs (d : TransformDraft) (input : FilePath) (output? : Option FilePath) : TransformArgs :=
  ⟨input, output?, d.pattern?, d.flags?, d.replaceBy?, d.escape, d.config?⟩

end TransformDraft

/-- An input and an output, if there is one, with options around them. -/
def around (front middle back : List Text) (input : Text) (output? : Option Text) : List Text :=
  "transform".toList :: (front ++ input :: (middle ++
    (match output? with
      | none => back
      | some output => ['-', 'o'] :: output :: back)))

open TransformDraft

/-- Options are read in the same way, whatever the input and the output are. -/
theorem read_around {d₁ d₂ d : TransformDraft} {front middle back : List Text} {input : Text}
    {output? : Option Text} (hfront : Sets {} front d₁) (hmiddle : Sets d₁ middle d₂)
    (hback : Sets d₂ back d) (hinput : IsPath input ∨ input = ['-'])
    (houtput : ∀ output ∈ output?, IsPath output) :
    Request.read (around front middle back input output?)
      = .ok (.transform (d.toArgs ⟨input⟩ (output?.map (⟨·⟩)))) := by
  have hend (i o : Option FilePath) :
      (d₂.withPaths i o).readArgs none back = .ok (d.withPaths i o) := by
    have := hback.read_append i o []
    rwa [List.append_nil] at this
  have hread : ({} : TransformDraft).readArgs none (around front middle back input output?).tail
      = .ok (d.withPaths (some ⟨input⟩) (output?.map (⟨·⟩))) := by
    show (withPaths {} none none).readArgs none (front ++ input :: (middle ++ _)) = _
    rw [hfront.read_append, read_input hinput, hmiddle.read_append]
    cases output? with
    | none => exact hend _ _
    | some output => exact (read_output (houtput output rfl) _ back).trans (hend _ _)
  have hrequest : Request.read (around front middle back input output?)
      = (({} : TransformDraft).readArgs none (around front middle back input output?).tail).bind
          finish := rfl
  rw [hrequest, hread]
  rfl

end Command

end RequireForm
