import RequireForm.Proofs.Export.Fence
import RequireForm.Transform.Basic

/-!
# Lines — what takes the place of a statement

    CALL                                       an import that binds nothing
    const NAME = CALL                          a default, a star with a name
    const { NAME, NAME } = CALL                the names of a list without an alias
    const ALIAS = CALL.NAME                    a name of a list with an alias
    const NAME = CALL.default || CALL          a default before a list or a star
    exports.NAME = NAME                        a name that is published
    exports.NAME = CALL                        a name, or the default, of another module
    exports.ALIAS = CALL.NAME                  a name of another module with an alias

Lines take the place of a statement, each ended by `;` but the last one. CALL is the call that
loads the module of the path. A star is published by two lines of its own, and of a default, a
declaration and a variable only the beginning is written.

  1. `Line`: text with places for the call.
  2. `ImportBinding.lines`, `Export.lines`: the lines of each shape.
  3. `ImportBinding.require_eq_fill`, `Export.assign_eq_fill`: the emitters write those lines.
  4. `ImportBinding.plain_of_mem_lines`, `Export.plain_of_mem_lines`: what characters stand in
     the lines.
  5. `ImportSyntax.named_of_fits`, `Export.Derives.named`: what statements bind and publish.
  6. `PathRule.not_mem_call`: a call is on one line if its path is.
-/

namespace RequireForm

open Text

/-! ## Lines with a place for the call -/

/-- A part of a line: text, or the place of the call. -/
inductive Part where
  | text (t : Text)
  | call
  deriving DecidableEq, Repr

/-- A line in its parts. -/
abbrev Line := List Part

namespace Line

/-- The line with the call in its places. -/
def fill (call : Text) : Line → Text
  | [] => []
  | .text t :: parts => t ++ fill call parts
  | .call :: parts => call ++ fill call parts

/-- Lines under each other. -/
def fillAll (call : Text) (lines : List Line) : Text :=
  join statementSeparator (lines.map (fill call))

end Line

/-- The beginning of a line that gives a value a name. -/
def constText (name : Text) : Text := "const ".toList ++ name ++ " = ".toList

/-- The beginning of a line that publishes a value. -/
def exportsText (name : Text) : Text := "exports.".toList ++ name ++ " = ".toList

namespace Specifier

/-- The name of an item without an alias. -/
def plainName? : Specifier → Option Text
  | ⟨name, none⟩ => some name
  | ⟨_, some _⟩ => none

/-- The line for an item with an alias. -/
def aliasLine? : Specifier → Option Line
  | ⟨_, none⟩ => none
  | ⟨name, some alias_⟩ => some [.text (constText alias_), .call, .text (".".toList ++ name)]

/-- The line for an item that is published from another module. -/
def fromLine : Specifier → Line
  | ⟨name, none⟩ => [.text (exportsText name), .call]
  | ⟨name, some alias_⟩ =>
      if name = Export.defaultName then [.text (exportsText alias_), .call]
      else [.text (exportsText alias_), .call, .text (".".toList ++ name)]

/-- The line for an item that is published from its own module; a default has none. -/
def localLine? : Specifier → Option Line
  | ⟨name, alias?⟩ =>
      if name = Export.defaultName then none
      else some [.text (exportsText (alias?.getD name) ++ name)]

end Specifier

namespace ImportBinding

/-- The line that takes the plain names of a list apart. -/
def namesLine? : List Text → Option Line
  | [] => none
  | names =>
      some [.text (constText ("\x7b ".toList ++ join ", ".toList names ++ " \x7d".toList)), .call]

/-- The lines of a list. An empty one loads the module all the same. -/
def listLines (items : List Specifier) : List Line :=
  if items = [] then [[.call]]
  else (namesLine? (items.filterMap (·.plainName?))).toList ++ items.filterMap (·.aliasLine?)

/-- The line of a star. -/
def starLine : Option Text → Line
  | none => [.call]
  | some name => [.text (constText name), .call]

/-- The line of a default that stands before a list or a star. -/
def defaultLine (name : Text) : Line :=
  [.text (constText name), .call, .text ".default || ".toList, .call]

/-- The lines of an import. -/
def lines : ImportBinding → List Line
  | .effects => [[.call]]
  | .default name => [[.text (constText name), .call]]
  | .star name? => [starLine name?]
  | .named items => listLines items
  | .defaultAndNamed name items => defaultLine name :: listLines items
  | .defaultAndStar name name? => [defaultLine name, starLine name?]

end ImportBinding

namespace Export

/-- The line that copies a module by its `n`-th pair of temporaries. -/
def copyText (n : Nat) : Text :=
  "for (const $key".toList ++ Text.ofNat n ++ " of Object.keys($val".toList ++ Text.ofNat n ++
    ")) if ($key".toList ++ Text.ofNat n ++ " !== 'default') exports[$key".toList ++
    Text.ofNat n ++ "] = $val".toList ++ Text.ofNat n ++ "[$key".toList ++ Text.ofNat n ++
    "]".toList

/-- The lines of an export. -/
def lines (n : Nat) : Export → List Line
  | .default _ => [[.text "module.exports = ".toList]]
  | .named items none => items.filterMap (·.localLine?)
  | .named items (some _) => items.map (·.fromLine)
  | .declaration name => [[.text (exportsText name)]]
  | .star _ _ => [[.text (constText ("$val".toList ++ Text.ofNat n)), .call], [.text (copyText n)]]
  | .binding name => [[.text ("exports.".toList ++ name)]]
  | .identifier name => [[.text (exportsText name ++ name)]]

end Export

/-! ## The emitters write the lines -/

theorem constant_eq (name value : Text) : constant name value = constText name ++ value := rfl

theorem member_eq (value name : Text) : member value name = value ++ (".".toList ++ name) :=
  List.append_assoc _ _ _

namespace Export

theorem published_eq (name : Text) : published name = "exports.".toList ++ name := by
  have hdot : "exports.".toList = "exports".toList ++ ".".toList := by decide
  rw [hdot]
  rfl

theorem publish_eq (name value : Text) : publish name value = exportsText name ++ value := by
  have h : publish name value = published name ++ " = ".toList ++ value := rfl
  rw [h, published_eq]
  rfl

end Export

namespace Line

variable {call t : Text}

theorem fill_text : fill call [.text t] = t := List.append_nil _

theorem fill_text_call : fill call [.text t, .call] = t ++ call :=
  congrArg (t ++ ·) (List.append_nil _)

theorem fill_text_call_text {u : Text} :
    fill call [.text t, .call, .text u] = t ++ (call ++ u) :=
  congrArg (fun v => t ++ (call ++ v)) (List.append_nil _)

theorem fillAll_cons {line : Line} {lines : List Line} (hne : lines ≠ []) :
    fillAll call (line :: lines) =
      line.fill call ++ (statementSeparator ++ fillAll call lines) := by
  obtain ⟨next, lines, rfl⟩ := List.exists_cons_of_ne_nil hne
  exact List.append_assoc _ _ _

end Line

namespace Specifier

theorem plainNames_eq (items : List Specifier) :
    ImportBinding.plainNames items = items.filterMap (·.plainName?) := by
  induction items with
  | nil => rfl
  | cons item items ih =>
      obtain ⟨name, _ | alias_⟩ := item
      · exact congrArg (name :: ·) ih
      · exact ih

theorem aliasStatements_eq (items : List Specifier) (call : Text) :
    ImportBinding.aliasStatements items call
      = (items.filterMap (·.aliasLine?)).map (Line.fill call) := by
  induction items with
  | nil => rfl
  | cons item items ih =>
      obtain ⟨name, _ | alias_⟩ := item
      · exact ih
      · refine congrArg₂ List.cons ?_ ih
        show constant alias_ (member call name) = _
        rw [constant_eq, member_eq, Line.fill_text_call_text]

theorem fill_fromLine (item : Specifier) (call : Text) :
    item.fromLine.fill call = Export.publish item.bound (Export.itemValue call item) := by
  rw [Export.publish_eq]
  obtain ⟨name, _ | alias_⟩ := item
  · exact Line.fill_text_call
  · show _ = exportsText alias_ ++ _
    by_cases h : name = Export.defaultName
    · rw [fromLine, if_pos h, Line.fill_text_call]
      simp [Export.itemValue, h]
    · rw [fromLine, if_neg h, Line.fill_text_call_text]
      simp [Export.itemValue, h, isAliased, member_eq]

theorem fill_localLines (items : List Specifier) (call : Text) :
    (items.filterMap (·.localLine?)).map (Line.fill call)
      = (items.filter (·.name ≠ Export.defaultName)).map fun item =>
          Export.publish item.bound item.name := by
  induction items with
  | nil => rfl
  | cons item items ih =>
      obtain ⟨name, alias?⟩ := item
      by_cases h : name = Export.defaultName
      · rw [List.filterMap_cons_none (by rw [localLine?, if_pos h]),
          List.filter_cons_of_neg (by simpa using h), ih]
      · rw [List.filterMap_cons_some (by rw [localLine?, if_neg h]),
          List.filter_cons_of_pos (by simpa using h), List.map_cons, List.map_cons, ih,
          Line.fill_text, Export.publish_eq]
        rfl

end Specifier

namespace ImportBinding

variable {call : Text}

theorem fill_starLine (name? : Option Text) :
    (starLine name?).fill call = requireStar name? call := by
  cases name? with
  | none => exact List.append_nil _
  | some name => exact Line.fill_text_call

theorem fill_defaultLine (name : Text) :
    (defaultLine name).fill call = defaultOrModule name call := by
  have hmember : ".default || ".toList = ".".toList ++ "default".toList ++ " || ".toList := by
    decide
  have hvalue : defaultOrModule name call
      = constant name (member call "default".toList ++ " || ".toList ++ call) := rfl
  have hfill : (defaultLine name).fill call
      = constText name ++ (call ++ (".default || ".toList ++ (call ++ []))) := rfl
  rw [hfill, hvalue, constant_eq, member_eq, hmember]
  simp only [List.append_assoc, List.append_nil]

theorem plainStatements_eq (items : List Specifier) :
    plainStatements items call
      = (namesLine? (items.filterMap (·.plainName?))).toList.map (Line.fill call) := by
  rw [plainStatements, Specifier.plainNames_eq]
  cases items.filterMap (·.plainName?) with
  | nil => rfl
  | cons name names => exact congrArg (fun t => [t]) Line.fill_text_call.symm

theorem listLines_ne_nil (items : List Specifier) : listLines items ≠ [] := by
  cases items with
  | nil => exact List.cons_ne_nil _ _
  | cons item items =>
      rw [listLines, if_neg (List.cons_ne_nil _ _)]
      obtain ⟨name, _ | alias_⟩ := item
      · exact List.append_ne_nil_of_left_ne_nil (List.cons_ne_nil _ _) _
      · exact List.append_ne_nil_of_right_ne_nil _ (List.cons_ne_nil _ _)

theorem fillAll_listLines (items : List Specifier) :
    Line.fillAll call (listLines items) = requireList items call := by
  -- the emitter asks whether there are statements, the lines whether there are items
  have hne := listLines_ne_nil items
  rw [requireList, plainStatements_eq, Specifier.aliasStatements_eq, ← List.map_append]
  by_cases h : items = []
  · subst h
    exact List.append_nil _
  · rw [listLines, if_neg h] at hne ⊢
    rw [Line.fillAll]
    cases hlines : ((namesLine? (items.filterMap (·.plainName?))).toList
      ++ items.filterMap (·.aliasLine?)) with
    | nil => exact absurd hlines hne
    | cons line lines => rfl

theorem lines_ne_nil (b : ImportBinding) : b.lines ≠ [] := by
  cases b with
  | named items => exact listLines_ne_nil items
  | effects => exact List.cons_ne_nil _ _
  | default name => exact List.cons_ne_nil _ _
  | star name? => exact List.cons_ne_nil _ _
  | defaultAndNamed name items => exact List.cons_ne_nil _ _
  | defaultAndStar name name? => exact List.cons_ne_nil _ _

/-- An import in require form is its lines. -/
theorem require_eq_fill (b : ImportBinding) (call : Text) :
    b.require call = Line.fillAll call b.lines := by
  cases b with
  | effects => exact (List.append_nil _).symm
  | default name => exact Line.fill_text_call.symm
  | star name? => exact (fill_starLine name?).symm
  | named items => exact (fillAll_listLines items).symm
  | defaultAndNamed name items =>
      rw [lines, Line.fillAll_cons (listLines_ne_nil items), fill_defaultLine,
        fillAll_listLines, require, List.append_assoc]
  | defaultAndStar name name? =>
      rw [lines, Line.fillAll_cons (List.cons_ne_nil _ _), fill_defaultLine]
      show _ = _ ++ (_ ++ (starLine name?).fill call)
      rw [fill_starLine, require, List.append_assoc]

end ImportBinding

theorem Export.copyAll_eq (n : Nat) (call : Text) :
    copyAll n call = constText ("$val".toList ++ Text.ofNat n) ++ call ++ statementSeparator ++
      copyText n := by
  have hfor : "for (const $key".toList = "for (const ".toList ++ "$key".toList := by decide
  have hof : " of Object.keys($val".toList = " of Object.keys(".toList ++ "$val".toList := by
    decide
  have hif : ")) if ($key".toList = ")) if (".toList ++ "$key".toList := by decide
  have hexports : " !== 'default') exports[$key".toList
      = " !== 'default') exports[".toList ++ "$key".toList := by decide
  have hvalue : "] = $val".toList = "] = ".toList ++ "$val".toList := by decide
  have hkey : "[$key".toList = "[".toList ++ "$key".toList := by decide
  delta copyAll copyText
  rw [hfor, hof, hif, hexports, hvalue, hkey]
  simp only [constant_eq, List.append_assoc]

/-- An export as assignments is its lines. -/
theorem Export.assign_eq_fill (e : Export) (n : Nat) (call : Text) :
    e.assign n call = Line.fillAll call (e.lines n) := by
  cases e with
  | default value => exact Line.fill_text.symm
  | named items path? =>
      cases path? with
      | none =>
          show assignLocal items = join _ _
          rw [assignLocal, ← Specifier.fill_localLines items call]
          rfl
      | some p =>
          show assignFrom items call = join _ _
          rw [assignFrom, lines, List.map_map]
          simp only [Function.comp_def, Specifier.fill_fromLine]
  | declaration name =>
      show publish name [] = Line.fill call [_]
      rw [publish_eq, List.append_nil, Line.fill_text]
  | star name? p =>
      show copyAll n call = Line.fill call [_, _] ++ statementSeparator ++ Line.fill call [_]
      rw [copyAll_eq, Line.fill_text, Line.fill_text_call]
  | binding name =>
      show published name = Line.fill call [_]
      rw [published_eq, Line.fill_text]
  | identifier name =>
      show publish name name = Line.fill call [_]
      rw [publish_eq, Line.fill_text]

/-! ## The characters of an import's lines -/

/-- A character that ends a line, alone or with the other one. -/
def isLineEnd (c : Char) : Bool := c = '\n' || c = '\r'

theorem eq_of_isLineEnd {c : Char} (h : isLineEnd c = true) : c = '\n' ∨ c = '\r' := by
  simpa [isLineEnd] using h

/-- A character that may stand in the lines of an import, outside of the call. -/
def isLineChar (c : Char) : Bool := isNameChar c || " ={},.|".toList.contains c

theorem unquoted_of_isLineChar {t : Text} (h : Run isLineChar t) : Unquoted t := by
  refine run_mono (fun c hc => ?_) h
  cases hq : PathLiteral.isQuote c with
  | false => rfl
  | true =>
      simp only [PathLiteral.isQuote, Bool.or_eq_true, decide_eq_true_eq] at hq
      rcases hq with (rfl | rfl) | rfl <;> exact absurd hc (by decide)

namespace Line

/-- The text in the line is of such characters. -/
def Plain (line : Line) : Prop := ∀ t, Part.text t ∈ line → Run isLineChar t

/-- The line starts with the call, or with the word `const` and what it names. -/
def Opens (line : Line) : Prop :=
  ∃ parts, line = .call :: parts ∨ ∃ name, line = .text (constText name) :: .call :: parts

theorem plain_nil : Plain [] := fun _ h => nomatch h

theorem plain_call {parts : Line} : Plain (.call :: parts) ↔ Plain parts := by
  simp [Plain]

theorem plain_text {t : Text} {parts : Line} :
    Plain (.text t :: parts) ↔ Run isLineChar t ∧ Plain parts := by
  simp [Plain]

theorem not_mem_fill {line : Line} {call : Text} {c : Char} (h : line.Plain)
    (hc : isLineChar c = false) (hcall : c ∉ call) : c ∉ line.fill call := by
  induction line with
  | nil => exact List.not_mem_nil
  | cons part line ih =>
      intro hm
      cases part with
      | text t =>
          obtain ⟨ht, hline⟩ := plain_text.mp h
          rcases List.mem_append.mp hm with hm | hm
          · exact Bool.false_ne_true (hc.symm.trans (ht c hm))
          · exact ih hline hm
      | call =>
          rcases List.mem_append.mp hm with hm | hm
          · exact hcall hm
          · exact ih (plain_call.mp h) hm

end Line

/-- Both names of an item are names. -/
def Specifier.Named (item : Specifier) : Prop :=
  isName item.name = true ∧ ∀ alias_, item.alias? = some alias_ → isName alias_ = true

/-- What a list of such items takes over as it is are names. -/
theorem Specifier.isName_of_mem_plainNames {items : List Specifier} {name : Text}
    (h : ∀ item ∈ items, item.Named) (hname : name ∈ items.filterMap (·.plainName?)) :
    isName name = true := by
  obtain ⟨⟨own, _ | alias_⟩, hitem, hown⟩ := List.mem_filterMap.mp hname
  · obtain rfl := Option.some.inj hown
    exact (h _ hitem).1
  · cases hown

namespace ImportBinding

/-- All that is bound is bound to names. -/
def Named : ImportBinding → Prop
  | .effects => True
  | .default name => Specifier.isName name = true
  | .star name? => ∀ name, name? = some name → Specifier.isName name = true
  | .named items => ∀ item ∈ items, item.Named
  | .defaultAndNamed name items => Specifier.isName name = true ∧ ∀ item ∈ items, item.Named
  | .defaultAndStar name name? =>
      Specifier.isName name = true ∧ ∀ star, name? = some star → Specifier.isName star = true

theorem run_isLineChar_of_isName {name : Text} (hn : Specifier.isName name = true) :
    Run isLineChar name :=
  run_mono (fun c hc => by rw [isLineChar, hc]; rfl) (isName_iff.mp hn).2

theorem run_constText {name : Text} (hn : Run isLineChar name) : Run isLineChar (constText name) :=
  run_append.mpr ⟨run_append.mpr ⟨by decide, hn⟩, by decide⟩

theorem run_join {p : Char → Bool} {separator : Text} {ts : List Text} (hs : Run p separator)
    (h : ∀ t ∈ ts, Run p t) : Run p (join separator ts) := by
  induction ts with
  | nil => exact run_nil
  | cons t ts ih =>
      cases ts with
      | nil => exact h t List.mem_cons_self
      | cons u ts =>
          have hrest := ih fun v hv => h v (List.mem_cons_of_mem _ hv)
          exact run_append.mpr ⟨run_append.mpr ⟨h t List.mem_cons_self, hs⟩, hrest⟩

variable {line : Line} {items : List Specifier}

theorem plain_const {name : Text} (hn : Run isLineChar name) :
    Line.Plain [.text (constText name), .call] :=
  Line.plain_text.mpr ⟨run_constText hn, Line.plain_call.mpr Line.plain_nil⟩

theorem plain_starLine {name? : Option Text}
    (h : ∀ name, name? = some name → Specifier.isName name = true) :
    (starLine name?).Plain ∧ (starLine name?).Opens := by
  cases name? with
  | none => exact ⟨Line.plain_call.mpr Line.plain_nil, _, Or.inl rfl⟩
  | some name => exact ⟨plain_const (run_isLineChar_of_isName (h name rfl)), _, Or.inr ⟨_, rfl⟩⟩

theorem plain_defaultLine {name : Text} (hn : Specifier.isName name = true) :
    (defaultLine name).Plain ∧ (defaultLine name).Opens := by
  refine ⟨Line.plain_text.mpr ⟨run_constText (run_isLineChar_of_isName hn), ?_⟩, _,
    Or.inr ⟨_, rfl⟩⟩
  exact Line.plain_call.mpr (Line.plain_text.mpr ⟨by decide, Line.plain_call.mpr Line.plain_nil⟩)

theorem plain_listLines (h : ∀ item ∈ items, item.Named) (hl : line ∈ listLines items) :
    line.Plain ∧ line.Opens := by
  rw [listLines] at hl
  split at hl
  · obtain rfl := List.mem_singleton.mp hl
    exact ⟨Line.plain_call.mpr Line.plain_nil, _, Or.inl rfl⟩
  · rcases List.mem_append.mp hl with hl | hl
    · have hnames : ∀ name ∈ items.filterMap (·.plainName?), Run isLineChar name := by
        intro name hname
        exact run_isLineChar_of_isName (Specifier.isName_of_mem_plainNames h hname)
      generalize items.filterMap (·.plainName?) = names at hl hnames
      cases names with
      | nil => exact nomatch hl
      | cons name names =>
          obtain rfl := Option.some.inj (Option.mem_toList.mp hl)
          refine ⟨plain_const ?_, _, Or.inr ⟨_, rfl⟩⟩
          exact run_append.mpr ⟨run_append.mpr ⟨by decide, run_join (by decide) hnames⟩, by decide⟩
    · obtain ⟨⟨name, _ | alias_⟩, hitem, hline⟩ := List.mem_filterMap.mp hl
      · exact nomatch hline
      · obtain rfl := Option.some.inj hline
        have hname := run_isLineChar_of_isName (h _ hitem).1
        have halias := run_isLineChar_of_isName ((h _ hitem).2 alias_ rfl)
        refine ⟨Line.plain_text.mpr ⟨run_constText halias, Line.plain_call.mpr ?_⟩, _,
          Or.inr ⟨_, rfl⟩⟩
        exact Line.plain_text.mpr ⟨run_append.mpr ⟨by decide, hname⟩, Line.plain_nil⟩

/-- In the lines of an import stand no quote, no line feed and no parenthesis but those of the
    call, and each line starts with the call or with `const`. -/
theorem plain_of_mem_lines {b : ImportBinding} (h : b.Named) (hl : line ∈ b.lines) :
    line.Plain ∧ line.Opens := by
  cases b with
  | effects =>
      obtain rfl := List.mem_singleton.mp hl
      exact ⟨Line.plain_call.mpr Line.plain_nil, _, Or.inl rfl⟩
  | default name =>
      obtain rfl := List.mem_singleton.mp hl
      exact ⟨plain_const (run_isLineChar_of_isName h), _, Or.inr ⟨_, rfl⟩⟩
  | star name? =>
      obtain rfl := List.mem_singleton.mp hl
      exact plain_starLine h
  | named items => exact plain_listLines h hl
  | defaultAndNamed name items =>
      rcases List.mem_cons.mp hl with rfl | hl
      · exact plain_defaultLine h.1
      · exact plain_listLines h.2 hl
  | defaultAndStar name name? =>
      rcases List.mem_cons.mp hl with rfl | hl
      · exact plain_defaultLine h.1
      · obtain rfl := List.mem_singleton.mp hl
        exact plain_starLine h.2

end ImportBinding

/-! ## The characters of an export's lines -/

namespace Export

variable {e : Export} {n : Nat}

/-- All that is published is published under names. -/
def Named : Export → Prop
  | .default _ => True
  | .named items _ => ∀ item ∈ items, item.Named
  | .declaration name => Specifier.isName name = true
  | .star _ _ => True
  | .binding name => Specifier.isName name = true
  | .identifier name => Specifier.isName name = true

theorem run_ofNat (n : Nat) : Run isNameChar (Text.ofNat n) := by
  intro c hc
  have hdigit : c.isDigit = true := Nat.isDigit_of_mem_toDigits (by decide) (by decide) hc
  simp [isNameChar, Char.isAlphanum, hdigit]

theorem not_mem_copyText {c : Char} (hc : isLineEnd c = true) (n : Nat) : c ∉ copyText n := by
  have hdigits : c ∉ Text.ofNat n := by
    refine not_mem_of_run ?_ (run_ofNat n)
    rcases eq_of_isLineEnd hc with rfl | rfl <;> decide
  delta copyText
  simp only [List.mem_append, hdigits, or_false]
  rcases eq_of_isLineEnd hc with rfl | rfl <;> decide

theorem run_exportsText {name : Text} (hn : Specifier.isName name = true) :
    Run isLineChar (exportsText name) :=
  run_append.mpr ⟨run_append.mpr ⟨by decide, ImportBinding.run_isLineChar_of_isName hn⟩, by decide⟩

/-- But for the loop of a star, the lines of an export are as plain as those of an import. -/
theorem plain_of_mem_lines {line : Line} (he : e.Named) (h : line ∈ e.lines n) :
    line.Plain ∨ line = [.text (copyText n)] := by
  have hplain {t : Text} {parts : Line} (ht : Run isLineChar t) (hparts : Line.Plain parts) :
      Line.Plain (.text t :: parts) := Line.plain_text.mpr ⟨ht, hparts⟩
  have hcall {parts : Line} (hparts : Line.Plain parts) : Line.Plain (.call :: parts) :=
    Line.plain_call.mpr hparts
  cases e with
  | default value =>
      obtain rfl := List.mem_singleton.mp h
      exact Or.inl (hplain (by decide) Line.plain_nil)
  | named items path? =>
      have hname {item : Specifier} (hitem : item ∈ items) : Run isLineChar item.name :=
        ImportBinding.run_isLineChar_of_isName (he item hitem).1
      refine Or.inl ?_
      cases path? with
      | none =>
          obtain ⟨⟨name, alias?⟩, hitem, hline⟩ := List.mem_filterMap.mp h
          have hbound : Specifier.isName (alias?.getD name) = true := by
            cases alias? with
            | none => exact (he _ hitem).1
            | some alias_ => exact (he _ hitem).2 alias_ rfl
          rw [Specifier.localLine?] at hline
          split at hline
          · exact nomatch hline
          · obtain rfl := Option.some.inj hline
            exact hplain (run_append.mpr ⟨run_exportsText hbound, hname hitem⟩) Line.plain_nil
      | some p =>
          obtain ⟨⟨name, _ | alias_⟩, hitem, rfl⟩ := List.mem_map.mp h
          · exact hplain (run_exportsText (he _ hitem).1) (hcall Line.plain_nil)
          · have halias := run_exportsText ((he _ hitem).2 alias_ rfl)
            rw [Specifier.fromLine]
            split
            · exact hplain halias (hcall Line.plain_nil)
            · exact hplain halias (hcall (hplain (run_append.mpr ⟨by decide, hname hitem⟩)
                Line.plain_nil))
  | declaration name =>
      obtain rfl := List.mem_singleton.mp h
      exact Or.inl (hplain (run_exportsText he) Line.plain_nil)
  | star name? p =>
      rcases List.mem_cons.mp h with rfl | h
      · have hdigits : Run isLineChar (Text.ofNat n) :=
          run_mono (fun c hc => by simp [isLineChar, hc]) (run_ofNat n)
        refine Or.inl (hplain (ImportBinding.run_constText ?_) (hcall Line.plain_nil))
        exact run_append.mpr ⟨by decide, hdigits⟩
      · exact Or.inr (List.mem_singleton.mp h)
  | binding name =>
      obtain rfl := List.mem_singleton.mp h
      exact Or.inl (hplain (run_append.mpr ⟨by decide, ImportBinding.run_isLineChar_of_isName he⟩)
        Line.plain_nil)
  | identifier name =>
      obtain rfl := List.mem_singleton.mp h
      exact Or.inl (hplain (run_append.mpr ⟨run_exportsText he,
        ImportBinding.run_isLineChar_of_isName he⟩) Line.plain_nil)

end Export

/-! ## What statements bind and publish -/

theorem ItemSyntax.named_of_fits {d : ItemSyntax} {item : Specifier} (h : d.Fits)
    (hitem : d.specifier? = some item) : item.Named := by
  cases d with
  | empty _ => exact nomatch hitem
  | plain before name after =>
      obtain rfl := Option.some.inj hitem
      exact ⟨h.2.1, fun _ ha => nomatch ha⟩
  | aliased before name gap₁ gap₂ alias_ after =>
      obtain rfl := Option.some.inj hitem
      refine ⟨h.2.1, fun _ ha => ?_⟩
      obtain rfl := Option.some.inj ha
      exact h.2.2.2.2.1

theorem ListSyntax.named_of_fits {b : ListSyntax} (h : b.Fits) :
    ∀ item ∈ b.specifiers, item.Named := by
  intro item hitem
  obtain ⟨d, hd, he⟩ := List.mem_filterMap.mp hitem
  exact ItemSyntax.named_of_fits (h d hd) he

theorem StarSyntax.named_of_fits {d : StarSyntax} {after : Text} (h : d.Fits after) :
    ∀ name, d.name? = some name → Specifier.isName name = true := by
  intro name hname
  cases d with
  | bare => exact nomatch hname
  | named gap₁ gap₂ name' =>
      obtain rfl := Option.some.inj hname
      exact h.2.2.2.1

theorem ImportSyntax.named_of_fits {d : ImportSyntax} (h : d.Fits) : d.meaning.binding.Named := by
  cases d with
  | effects gap p => exact trivial
  | binding gap d gap₁ gap₂ p =>
      obtain ⟨-, hd, -⟩ := h
      cases d with
      | group g =>
          cases g with
          | list b => exact ListSyntax.named_of_fits hd
          | star d => exact StarSyntax.named_of_fits hd
      | default name => exact hd.1
      | both name gap gap' g =>
          cases g with
          | list b => exact ⟨hd.1.1, ListSyntax.named_of_fits hd.2.2.2⟩
          | star d => exact ⟨hd.1.1, StarSyntax.named_of_fits hd.2.2.2⟩

namespace Export

variable {t w rest : Text} {e : Export} {p : PathLiteral}

theorem Declares.named {name : Text} (h : Declares t name) : Specifier.isName name = true := by
  cases h with
  | function _ _ hn => exact hn.1
  | asyncFunction _ _ _ _ hn => exact hn.1
  | classNamed _ _ hn => exact hn.1

theorem Derives.named {rest : Text} (h : Derives t e rest) : e.Named := by
  obtain ⟨gap, body, -, -, -, -, hclause⟩ := h
  cases hclause with
  | default _ _ _ _ => trivial
  | list hb _ => exact ListSyntax.named_of_fits hb
  | listFrom hb _ _ _ => exact ListSyntax.named_of_fits hb
  | star _ _ _ _ => trivial
  | worded _ hw =>
      cases hw with
      | declaration hd => exact hd.named
      | binding _ _ _ hn => exact hn.1
      | identifier hn _ _ => exact hn.1

/-- The path of an export is what the statement ends with. -/
theorem Derives.path_suffix (h : Derives (w ++ rest) e rest) (hp : e.path? = some p) :
    p.WellFormed ∧ p.written <:+ w := by
  obtain ⟨gap, body, ht, -, -, -, hclause⟩ := h
  have hend {u : Text} (he : w ++ rest = u ++ (p.written ++ rest)) : p.written <:+ w := by
    rw [← List.append_assoc] at he
    rw [List.append_cancel_right he]
    exact List.suffix_append _ _
  cases hclause with
  | default _ _ _ _ => exact nomatch hp
  | list _ _ => exact nomatch hp
  | @listFrom b gap₁ gap₂ p' _ _ _ _ hwf =>
      obtain rfl := Option.some.inj hp
      refine ⟨hwf, hend
        (u := "export".toList ++ (gap ++ (b.text ++ (gap₁ ++ (fromWord ++ gap₂))))) ?_⟩
      rw [ht]
      simp only [List.append_assoc]
  | @star d gap₁ gap₂ p' _ _ _ _ hwf =>
      obtain rfl := Option.some.inj hp
      refine ⟨hwf, hend
        (u := "export".toList ++ (gap ++ (d.text ++ (gap₁ ++ (fromWord ++ gap₂))))) ?_⟩
      rw [ht]
      simp only [List.append_assoc]
  | worded _ hw =>
      cases hw with
      | declaration _ => exact nomatch hp
      | binding _ _ _ _ => exact nomatch hp
      | identifier _ _ _ => exact nomatch hp

/-- It is written in the statement. -/
theorem Derives.path_infix (h : Derives (w ++ rest) e rest) (hp : e.path? = some p) :
    p.WellFormed ∧ p.written <:+: w :=
  ⟨(h.path_suffix hp).1, (h.path_suffix hp).2.isInfix⟩

end Export

/-- A call is on one line if the path is that the rule makes. -/
theorem PathRule.not_mem_call {r : PathRule} {p : PathLiteral} {c : Char}
    (hc : isLineEnd c = true) (hp : p.WellFormed) (h : c ∉ r.apply p.value) :
    c ∉ r.call p := by
  have hfixed : c ∉ "require(".toList ∧ c ∉ ")".toList ∧ PathLiteral.isQuote c = false := by
    rcases eq_of_isLineEnd hc with rfl | rfl <;> decide
  show c ∉ "require(".toList ++ p.quoting (r.apply p.value) ++ ")".toList
  simp only [List.mem_append, not_or]
  exact ⟨⟨hfixed.1, hp.not_mem_quoting hfixed.2.2 h⟩, hfixed.2.1⟩

end RequireForm
