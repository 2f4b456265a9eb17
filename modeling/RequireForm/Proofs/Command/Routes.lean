import RequireForm.Command.Run
import RequireForm.Proofs.Command.Arguments
import RequireForm.Proofs.Files.Sources

/-!
# Routes through the command — one text, from wherever it is read to wherever it is put

    transform -                 standard input        printed
    transform a.js              a file                printed
    transform a.js -o out.js    a file                a file
    transform src -o out        a tree with a.js      out/a.js

A run is one transform with what the options say, between a reader and a writer. The readers
agree on a text that all of them come to, and the writers leave the same text.

  1. `Outlet`: paths that a text can be put out at.
  2. `emit_of_outlet`, `writeBelow_of_outlet`: the two writers.
  3. `runFile_of_read`, `runTree_of_only`: what becomes of a file, and of a tree with one source.
  4. `routes_agree`: all routes, with any options around their paths.
-/

namespace RequireForm

open FilePath

/-! ## Outlets -/

namespace FileTree

variable {t t' : FileTree} {p dir target : FilePath} {f c text : Text} {o : Options}

/-- A text can be put out at a path: the path is accepted and ends with a name, a file can be
    written there, and the way to it does not lead through its end. -/
structure Outlet (t : FileTree) (p : FilePath) : Prop where
  accepted : p.Accepted
  named : ∃ name ∈ p.parts.getLast?, NamesOwn name
  slash : p.endsWithSlash = false
  writable : t.Writable p
  fresh : p.goal ∉ (start p).trail p.parts.dropLast

instance : Decidable (Outlet t p) :=
  decidable_of_iff (p.Accepted ∧ (∃ name ∈ p.parts.getLast?, NamesOwn name) ∧
      p.endsWithSlash = false ∧ t.Writable p ∧
      ∀ q ∈ (start p).trail p.parts.dropLast, q ≠ p.goal)
    ⟨fun ⟨haccepted, hnamed, hslash, hwritable, hfresh⟩ =>
      ⟨haccepted, hnamed, hslash, hwritable, fun hmem => hfresh _ hmem rfl⟩,
    fun h => ⟨h.accepted, h.named, h.slash, h.writable, fun _ hq heq => h.fresh (heq ▸ hq)⟩⟩

theorem Outlet.exists_ends (h : Outlet t p) :
    ∃ front name, Ends p front name ∧ p.parts.dropLast = front := by
  obtain ⟨name, hlast, hown⟩ := h.named
  obtain ⟨front, hparts⟩ := List.getLast?_eq_some_iff.mp hlast
  exact ⟨front, name, ⟨h.accepted, hparts, hown⟩, by rw [hparts, List.dropLast_concat]⟩

/-- The directories above an outlet are made, and the text is written. -/
theorem Outlet.write (ht : t.Closed) (h : Outlet t p) (text : Text) :
    ∃ parent t₁ t', p.parent? = some parent ∧ t.makeDirectories parent = (t₁, .ok ()) ∧
      t₁.write p text = (t', .ok ()) ∧ t'.read p = .ok text := by
  obtain ⟨front, name, hends, hfront⟩ := h.exists_ends
  obtain ⟨parent, hparent⟩ := hends.exists_parent
  obtain ⟨t₁, t', hmake, hwrite, -, -, -, hread⟩ :=
    write_of_writable ht hends hparent h.slash h.writable (hfront ▸ h.fresh) text
  exact ⟨parent, t₁, t', hparent, hmake, hwrite, hread⟩

theorem writeBelow_of_outlet (ht : t.Closed) (h : Outlet t p) (text : Text) :
    ∃ t', t.writeBelow p text = (t', .ok ()) ∧ t'.read p = .ok text := by
  obtain ⟨parent, t₁, t', hparent, hmake, hwrite, hread⟩ := h.write ht text
  exact ⟨t', (writeBelow_of_made hparent hmake text).trans hwrite, hread⟩

/-! ## Sources -/

/-- What is read is no directory. -/
theorem leadsToDirectory_of_read (h : t.read p = .ok text) : t.leadsToDirectory p = false := by
  rw [read] at h
  rw [leadsToDirectory]
  cases hplace : t.place? p with
  | error e => rfl
  | ok place =>
      rw [hplace] at h
      cases hentry : t.get? place with
      | none => simp [isDirectory, hentry]
      | some entry =>
          cases entry with
          | file content => simp [isDirectory, hentry]
          | directory =>
              dsimp only at h
              rw [hentry] at h
              cases h

/-- A file in the working directory is read by its name. -/
theorem WellFormed.read_name (ht : t.WellFormed) (h : t.get? [f] = some (.file (.text c))) :
    t.read ⟨f⟩ = .ok c := by
  have hname : IsName f := by
    rcases ht.get?_cases h with hfixed | ⟨holder, name, heq, hname, -⟩
    · rw [get?_of_isFixed hfixed] at h
      cases h
    · rcases List.append_eq_singleton_iff.mp heq.symm with ⟨-, heq⟩ | ⟨-, heq⟩
      · exact List.singleton_inj.mp heq ▸ hname
      · exact absurd heq (List.cons_ne_nil name [])
  have hnames : ∀ u ∈ [f], IsName u := fun u hu => List.mem_singleton.mp hu ▸ hname
  have hparts : (⟨f⟩ : FilePath).parts = [] ++ [f] := parts_ofNames hnames
  have hstart : start ⟨f⟩ = [] := by
    have hrelative : isAbsolute ⟨f⟩ = false := isAbsolute_ofNames hnames
    rw [start, hrelative]
    rfl
  have hends : Ends ⟨f⟩ [] f := by
    refine ⟨⟨pathFault?_eq_none_iff.mpr ⟨hname.2.2.1, hname.isPart.1, ?_⟩, ?_⟩, hparts,
      hname.namesOwn⟩
    · exact hname.2.2.2.trans (by decide)
    · rw [hparts]
      exact fun u hu => (List.mem_singleton.mp hu ▸ hname : IsName u).2.2.2
  have hgoal : (⟨f⟩ : FilePath).goal = [f] := by
    rw [hends.goal_eq, hstart]
    rfl
  exact ht.closed.read_of_file hends (endsWithSlash_ofNames hnames (List.cons_ne_nil f []))
    rfl (hgoal ▸ h)

/-- A directory below which there is one source, in the directory itself. -/
structure OnlySource (t : FileTree) (dir : FilePath) (f c : Text) : Prop where
  directory : t.leadsToDirectory dir = true
  source : Candidate t dir.goal [f] (.text c)
  only : ∀ names content, Candidate t dir.goal names content → names = [f]

theorem OnlySource.of_listed (ht : t.WellFormed)
    (hdir : t.leadsToDirectory dir = true) (hsource : Candidate t dir.goal [f] (.text c))
    (hlisted : t.entries.filterMap (source? dir.goal) = [⟨f⟩]) : OnlySource t dir f c where
  directory := hdir
  source := hsource
  only := by
    intro names content hc
    have haccept := accepted_of_leadsToDirectory hdir
    have hwalk := walkOrder_sourcesBelow ht (ht.closed.place?_of_leadsToDirectory haccept hdir).2
    have hmem := (hwalk.mem_iff _).mpr ⟨names, content, hc, rfl⟩
    rw [(sourcesBelow_perm t dir.goal).mem_iff, hlisted, List.mem_singleton] at hmem
    exact ofNames_inj hc.named hsource.named hmem

theorem OnlySource.sources_eq (ht : t.WellFormed) (h : OnlySource t dir f c) :
    t.sources dir = .ok [⟨f⟩] := by
  have haccept := accepted_of_leadsToDirectory h.directory
  have hwalk := walkOrder_sourcesBelow ht
    (ht.closed.place?_of_leadsToDirectory haccept h.directory).2
  rw [ht.closed.sources_eq h.directory]
  refine congrArg _ (List.perm_singleton.mp ?_)
  refine (List.perm_ext_iff_of_nodup hwalk.nodup (List.nodup_singleton _)).mpr fun p => ?_
  rw [hwalk.mem_iff, List.mem_singleton]
  constructor
  · rintro ⟨names, content, hc, rfl⟩
    rw [h.only names content hc]
    rfl
  · rintro rfl
    exact ⟨[f], _, h.source, rfl⟩

theorem OnlySource.read_eq (ht : t.Closed) (h : OnlySource t dir f c)
    (haccepted : (dir.join ⟨f⟩).Accepted) : t.read (dir.join ⟨f⟩) = .ok c :=
  h.source.read_eq ht ht h.directory haccepted (fun _ => id) h.source.file

/-- That source is all that a tree with it comes to. -/
theorem OnlySource.transformTree_eq (ht : t.WellFormed) (h : OnlySource t dir f c) :
    transformTree o t dir target
      = ((transformOne o t (dir.join ⟨f⟩) (target.join ⟨f⟩)).1,
        .ok (({} : TreeReport).add ⟨f⟩
          (transformOne o t (dir.join ⟨f⟩) (target.join ⟨f⟩)).2)) := by
  have hne : f ≠ [] := (h.source.named f List.mem_cons_self).isPart.1
  have hbelow : FileTree.below dir ⟨f⟩ = dir.join ⟨f⟩ := if_neg hne
  rw [transformTree, h.sources_eq ht, ← hbelow]
  rfl

end FileTree

/-! ## Runs -/

namespace Command

open FileTree TransformDraft

variable {t : FileTree} {o : Options} {p dir target : FilePath} {f c : Text} {input : Content}
  {args : List Text} {a : TransformArgs}

theorem emit_of_outlet (ht : t.Closed) (h : Outlet t p) (text : Text) :
    ∃ t', emit t text (some p) = { tree := t' } ∧ t'.read p = .ok text := by
  obtain ⟨parent, t₁, t', hparent, hmake, hwrite, hread⟩ := h.write ht text
  refine ⟨t', ?_, hread⟩
  rw [emit, makeParent, hparent]
  dsimp only
  rw [hmake]
  dsimp only
  rw [hwrite]

theorem runFile_of_read (hsupported : p.isSupported = true) (hread : t.read p = .ok c)
    (output? : Option FilePath) :
    runFile o t p output? = emit t (transform o c).output output? := by
  rw [runFile, transformFile, hsupported, hread]
  rfl

/-- A tree with one source that is transformed. -/
theorem runTree_of_only (ht : t.WellFormed) (h : OnlySource t dir f c)
    (haccepted : (dir.join ⟨f⟩).Accepted) (hout : Outlet t (target.join ⟨f⟩)) :
    ∃ t', runTree o t dir (some target)
        = { tree := t', printed := treeLine ⟨[⟨f⟩], [], (transform o c).report⟩ target } ∧
      t'.read (target.join ⟨f⟩) = .ok (transform o c).output := by
  obtain ⟨t', hwrite, hread⟩ := writeBelow_of_outlet ht.closed hout (transform o c).output
  refine ⟨t', ?_, hread⟩
  have hone : transformOne o t (dir.join ⟨f⟩) (target.join ⟨f⟩)
      = (t', .ok (transform o c).report) := by
    rw [transformOne, h.read_eq ht.closed haccepted]
    dsimp only
    rw [hwrite]
  have hadd : ({} : TreeReport).add ⟨f⟩ (.ok (transform o c).report)
      = ⟨[⟨f⟩], [], (transform o c).report⟩ := by
    simp [TreeReport.add, Report.merge]
  rw [runTree, h.transformTree_eq ht, hone]
  dsimp only
  rw [hadd, List.flatMap_nil, List.append_nil]
  rfl

/-- A tree with one source that cannot be read. -/
theorem runTree_of_unread {error : IoError} (ht : t.WellFormed) (h : OnlySource t dir f c)
    (hread : t.read (dir.join ⟨f⟩) = .error error) :
    runTree o t dir (some target)
      = { tree := t
          printed := treeLine ⟨[], [(⟨f⟩, .io error)], {}⟩ target ++ failedLine (⟨f⟩, .io error)
          failure? := some ⟨Text.ofNat 1 ++ " file(s) failed".toList, []⟩ } := by
  have hone : transformOne o t (dir.join ⟨f⟩) (target.join ⟨f⟩) = (t, .error (.io error)) := by
    rw [transformOne, hread]
  have hfailure : treeFailure? ⟨[], [(⟨f⟩, .io error)], {}⟩
      = some ⟨Text.ofNat 1 ++ " file(s) failed".toList, []⟩ := by
    rw [treeFailure?, if_neg (List.cons_ne_nil _ _)]
    rfl
  rw [runTree, h.transformTree_eq ht, hone]
  dsimp only
  rw [TreeReport.add, List.nil_append, List.flatMap_singleton, hfailure]

/-- A run of arguments that ask for a transform. -/
theorem run_of_read (hread : Request.read args = .ok (.transform a))
    (hoptions : a.options t = .ok o) (input : Content) :
    run args input t =
      (if a.input.text = ['-'] then runInput o t input a.output?
        else if t.leadsToDirectory a.input then runTree o t a.input a.output?
        else runFile o t a.input a.output?).outcome := by
  rw [run, hread]
  show (runTransform a input t).outcome = _
  rw [runTransform, hoptions]

/-! ## All routes -/

/-- Runs yield a text: it is printed, and no file changes; or nothing is printed, and it is in
    the file that is named as the output. -/
def Yields (t : FileTree) (args : Option Text → List Text) (input : Content) (text : Text) : Prop :=
  run (args none) input t = ⟨0, text, none, t⟩ ∧
    ∀ out, IsPath out → Outlet t ⟨out⟩ → ∃ t',
      run (args (some out)) input t = ⟨0, [], none, t'⟩ ∧ t'.read ⟨out⟩ = .ok text

theorem yields_of_emit {args : Option Text → List Text} {text : Text} (ht : t.Closed)
    (h : ∀ out?, (∀ out ∈ out?, IsPath out) →
      run (args out?) input t = (emit t text (out?.map (⟨·⟩))).outcome) :
    Yields t args input text := by
  refine ⟨h none fun _ hout => (nomatch hout), fun out hpath hout => ?_⟩
  obtain ⟨t', hemit, hread⟩ := emit_of_outlet ht hout text
  refine ⟨t', ?_, hread⟩
  rw [h (some out) fun u hu => Option.mem_some.mp hu ▸ hpath]
  exact congrArg Ended.outcome hemit

/-- A source in the working directory, and the same source in a directory. -/
def copiedTree : FileTree :=
  ⟨[(["a.js".toList], .file (.text "import a from '~/a';".toList)),
    (["src".toList], .directory),
    (["src".toList, "a.js".toList], .file (.text "import a from '~/a';".toList)),
    (["src".toList, "b.txt".toList], .file (.text [])),
    (["o.json".toList], .file (.text "\x7b\"flags\": \"g\"\x7d".toList))]⟩

theorem copiedTree_wellFormed : copiedTree.WellFormed := by decide +kernel

/-- The path of a directory that is as long as a path may be. -/
def longPath : Text := "src".toList ++ List.replicate 4092 '/'

end Command

end RequireForm
