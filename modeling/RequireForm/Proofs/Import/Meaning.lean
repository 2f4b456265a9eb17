import RequireForm.Proofs.Transform.Lines

/-!
# Meaning — the lines of an import say what it binds, and nothing else

    binding   a, { b, c as d, e }
    lines     const a = CALL.default || CALL
              const { b, e } = CALL
              const d = CALL.c
    meaning   a by default or the module, the members b and e, the member c as d

Two imports are written as the same text just when they bind the same: the order in which plain
names and aliases are mixed is lost, and nothing else is. The text is read back from the left.
Each part of it can be told by what it begins with, up to a place where the reader stops, so
that no part runs into the next one. The call may hold anything, also what looks like a line of
its own: it is known, so it is stepped over as a whole.

  1. `ImportMeaning`: what an import binds.
  2. `ImportLine`: what one line binds. `ImportBinding.lines_eq`: the lines follow the meaning.
  3. `Text.ReadsOff`: texts that are read off the beginning of a text. `ReadsOff.joined`: lists.
  4. `ImportLine.readsOff`: lines are read off.
  5. `ImportMeaning.ofLines_lines`, `ImportBinding.require_eq_iff`: and they say it all.
-/

namespace RequireForm

open Text

/-! ## Meanings -/

/-- What an import binds beside a default that the module stands in for. -/
inductive Bound where
  /-- Nothing: the module is loaded for its effects. -/
  | nothing
  /-- One name for the whole module. -/
  | whole (name : Text)
  /-- Members of the module: those that keep their names, and those that do not, the new name of
      each in front of its own. -/
  | members (plain : List Text) (aliased : List (Text × Text))
  deriving DecidableEq, Repr

/-- What an import binds. -/
structure ImportMeaning where
  /-- The name of the default, or of the module if that has none. -/
  fallback? : Option Text
  bound : Bound
  deriving DecidableEq, Repr

/-- The new name of an item with an alias, and its own. -/
def Specifier.renaming? : Specifier → Option (Text × Text)
  | ⟨_, none⟩ => none
  | ⟨name, some alias_⟩ => some (alias_, name)

namespace Bound

/-- What a list binds. -/
def ofList (items : List Specifier) : Bound :=
  if items = [] then .nothing
  else .members (items.filterMap (·.plainName?)) (items.filterMap (·.renaming?))

/-- What a star binds. -/
def ofStar : Option Text → Bound
  | none => .nothing
  | some name => .whole name

end Bound

/-- What a binding binds, however it is written. -/
def ImportBinding.meaning : ImportBinding → ImportMeaning
  | .effects => ⟨none, .nothing⟩
  | .default name => ⟨none, .whole name⟩
  | .star name? => ⟨none, .ofStar name?⟩
  | .named items => ⟨none, .ofList items⟩
  | .defaultAndNamed name items => ⟨some name, .ofList items⟩
  | .defaultAndStar name name? => ⟨some name, .ofStar name?⟩

/-! ## Lines by what they bind -/

namespace ImportLine

/-- What a line gives a value to. -/
inductive Target where
  | name (name : Text)
  | names (names : List Text)

/-- What a line takes from the module. -/
inductive Value where
  /-- The module as it is. -/
  | whole
  /-- A member. -/
  | member (name : Text)
  /-- The default, or the module if that has none. -/
  | orWhole

/-- A target as it is written. -/
def Target.text : Target → Text
  | name n => n
  | names ns => "\x7b ".toList ++ join ", ".toList ns ++ " \x7d".toList

/-- What is written behind the call to take a value from it. -/
def Value.parts : Value → Line
  | whole => []
  | member name => [.text (".".toList ++ name)]
  | orWhole => [.text ".default || ".toList, .call]

end ImportLine

/-- A line of an import. -/
inductive ImportLine where
  | load
  | const (target : ImportLine.Target) (value : ImportLine.Value)

/-- A line as it is written. -/
def ImportLine.line : ImportLine → Line
  | load => [.call]
  | const target value => .text (constText target.text) :: .call :: value.parts

namespace Bound

/-- The line that takes plain names from the module, if there are any. -/
def plainLine : List Text → List ImportLine
  | [] => []
  | name :: names => [.const (.names (name :: names)) .whole]

/-- The line that gives a member a new name. -/
def aliasLine (pair : Text × Text) : ImportLine := .const (.name pair.1) (.member pair.2)

/-- The lines that bind it. -/
def lines : Bound → List ImportLine
  | nothing => [.load]
  | whole name => [.const (.name name) .whole]
  | members plain aliased => plainLine plain ++ aliased.map aliasLine

end Bound

/-- The lines that bind it. -/
def ImportMeaning.lines (m : ImportMeaning) : List ImportLine :=
  m.fallback?.toList.map (fun name => .const (.name name) .orWhole) ++ m.bound.lines

namespace Bound

theorem map_plainLine (names : List Text) :
    (plainLine names).map (·.line) = (ImportBinding.namesLine? names).toList := by
  cases names with
  | nil => rfl
  | cons name names => rfl

theorem map_aliasLine (items : List Specifier) :
    (items.filterMap (·.renaming?)).map (fun pair => (aliasLine pair).line)
      = items.filterMap (·.aliasLine?) := by
  induction items with
  | nil => rfl
  | cons item items ih =>
      obtain ⟨name, _ | alias_⟩ := item
      · exact ih
      · exact congrArg (_ :: ·) ih

theorem map_lines_ofList (items : List Specifier) :
    (ofList items).lines.map (·.line) = ImportBinding.listLines items := by
  rw [ofList, ImportBinding.listLines]
  split
  · rfl
  · show (plainLine _ ++ (items.filterMap (·.renaming?)).map aliasLine).map _ = _
    rw [List.map_append, map_plainLine, List.map_map]
    exact congrArg (_ ++ ·) (map_aliasLine items)

theorem map_lines_ofStar (name? : Option Text) :
    (ofStar name?).lines.map (·.line) = [ImportBinding.starLine name?] := by
  cases name? with
  | none => rfl
  | some name => rfl

end Bound

/-- The lines of an import are those of its meaning. -/
theorem ImportBinding.lines_eq (b : ImportBinding) : b.lines = b.meaning.lines.map (·.line) := by
  cases b with
  | effects => rfl
  | default name => rfl
  | star name? => exact (Bound.map_lines_ofStar name?).symm
  | named items => exact (Bound.map_lines_ofList items).symm
  | defaultAndNamed name items =>
      exact congrArg (defaultLine name :: ·) (Bound.map_lines_ofList items).symm
  | defaultAndStar name name? =>
      exact congrArg (defaultLine name :: ·) (Bound.map_lines_ofStar name?).symm

/-! ## Reading off -/

namespace Text

variable {α : Type} {p : Char → Bool} {Valid : α → Prop} {written : α → Text}

/-- What is valid is read off the beginning of a text that stops behind it: no two are written
    there, and what follows is settled too. -/
def ReadsOff (p : Char → Bool) (Valid : α → Prop) (written : α → Text) : Prop :=
  ∀ ⦃a a' : α⦄, Valid a → Valid a' → ∀ ⦃rest rest' : Text⦄, Stops p rest → Stops p rest' →
    written a ++ rest = written a' ++ rest' → a = a' ∧ rest = rest'

theorem readsOff_name : ReadsOff isNameChar (fun name => Specifier.isName name = true) id := by
  intro name name' hn hn' rest rest' hr hr' h
  exact name_append_unique hn (nameEnds_iff.mpr hr) hn' (nameEnds_iff.mpr hr') h

theorem join_map_cons (sep : Text) (a : α) (as : List α) :
    join sep ((a :: as).map written) = written a ++ as.flatMap (sep ++ written ·) := by
  induction as generalizing a with
  | nil => exact (List.append_nil _).symm
  | cons b as ih =>
      show written a ++ sep ++ join sep ((b :: as).map written) = _
      rw [ih, List.append_assoc, List.flatMap_cons, List.append_assoc]

variable {c : Char} {sep last last' : Text} {as as' : List α}

theorem stops_separated (hc : p c = false) (hlast : Stops p last) :
    Stops p (as.flatMap ((c :: sep) ++ written ·) ++ last) := by
  cases as with
  | nil => exact hlast
  | cons a as => exact hc

/-- Texts that each have a separator in front are read off one by one, up to a rest that does
    not begin with the separator. The induction is on the texts of one side. -/
theorem ReadsOff.separated (h : ReadsOff p Valid written) (hc : p c = false)
    (hlast : Stops p last) (hlast' : Stops p last')
    (hend : Stops (· = c) last) (hend' : Stops (· = c) last')
    (hv : ∀ a ∈ as, Valid a) (hv' : ∀ a ∈ as', Valid a)
    (heq : as.flatMap ((c :: sep) ++ written ·) ++ last
      = as'.flatMap ((c :: sep) ++ written ·) ++ last') : as = as' ∧ last = last' := by
  induction as generalizing as' with
  | nil =>
      cases as' with
      | nil => exact ⟨rfl, heq⟩
      | cons a' as' =>
          have hbegin : last = c :: _ := heq
          rw [hbegin, stops_cons] at hend
          exact absurd rfl (of_decide_eq_false hend)
  | cons a as ih =>
      cases as' with
      | nil =>
          have hbegin : last' = c :: _ := heq.symm
          rw [hbegin, stops_cons] at hend'
          exact absurd rfl (of_decide_eq_false hend')
      | cons a' as' =>
          obtain ⟨ha, has⟩ := List.forall_mem_cons.mp hv
          obtain ⟨ha', has'⟩ := List.forall_mem_cons.mp hv'
          rw [List.flatMap_cons, List.flatMap_cons] at heq
          simp only [List.append_assoc] at heq
          obtain ⟨rfl, hrest⟩ := h ha ha' (stops_separated hc hlast) (stops_separated hc hlast')
            (List.append_cancel_left heq)
          obtain ⟨rfl, hlasts⟩ := ih has has' hrest
          exact ⟨rfl, hlasts⟩

/-- Texts that are joined are read off as well. -/
theorem ReadsOff.joined (h : ReadsOff p Valid written) (hc : p c = false)
    (hlast : Stops p last) (hlast' : Stops p last')
    (hend : Stops (· = c) last) (hend' : Stops (· = c) last')
    (hne : as ≠ []) (hne' : as' ≠ [])
    (hv : ∀ a ∈ as, Valid a) (hv' : ∀ a ∈ as', Valid a)
    (heq : join (c :: sep) (as.map written) ++ last
      = join (c :: sep) (as'.map written) ++ last') : as = as' ∧ last = last' := by
  obtain ⟨a, as, rfl⟩ := List.exists_cons_of_ne_nil hne
  obtain ⟨a', as', rfl⟩ := List.exists_cons_of_ne_nil hne'
  obtain ⟨ha, has⟩ := List.forall_mem_cons.mp hv
  obtain ⟨ha', has'⟩ := List.forall_mem_cons.mp hv'
  rw [join_map_cons, join_map_cons, List.append_assoc, List.append_assoc] at heq
  obtain ⟨rfl, hrest⟩ := h ha ha' (stops_separated hc hlast) (stops_separated hc hlast') heq
  obtain ⟨rfl, hlasts⟩ := h.separated hc hlast hlast' hend hend' has has' hrest
  exact ⟨rfl, hlasts⟩

end Text

/-! ## Lines are read off -/

namespace ImportLine

/-- All that is bound is bound to names. -/
def Target.Named : Target → Prop
  | name n => Specifier.isName n = true
  | names ns => ns ≠ [] ∧ ∀ n ∈ ns, Specifier.isName n = true

/-- What is taken from the module has a name. -/
def Value.Named : Value → Prop
  | whole => True
  | member name => Specifier.isName name = true
  | orWhole => True

/-- All names in a line are names. -/
def Named : ImportLine → Prop
  | load => True
  | const target value => target.Named ∧ value.Named

variable {call rest rest' : Text}

/-- A name does not begin with a brace. -/
theorem name_ne_names {name u : Text} (hn : Specifier.isName name = true) :
    name ++ rest ≠ '\x7b' :: u := by
  intro h
  obtain ⟨hne, hrun⟩ := isName_iff.mp hn
  obtain ⟨c, name, rfl⟩ := List.exists_cons_of_ne_nil hne
  obtain rfl : c = '\x7b' := (List.cons.inj h).1
  exact absurd (run_cons.mp hrun).1 (by decide)

theorem Target.readsOff : ReadsOff isNameChar Target.Named Target.text := by
  intro target target' ht ht' rest rest' hr hr' h
  cases target with
  | name name =>
      cases target' with
      | name name' =>
          obtain ⟨rfl, hrest⟩ := readsOff_name ht ht' hr hr' h
          exact ⟨rfl, hrest⟩
      | names names' => exact absurd h (name_ne_names ht)
  | names names =>
      cases target' with
      | name name' => exact absurd h.symm (name_ne_names ht')
      | names names' =>
          have hbrace (u : Text) : Stops isNameChar (" \x7d".toList ++ u) :=
            stops_cons.mpr (by decide)
          have hcomma (u : Text) : Stops (· = ',') (" \x7d".toList ++ u) :=
            stops_cons.mpr (by decide)
          simp only [Target.text, List.append_assoc] at h
          have hjoined := List.append_cancel_left h
          rw [← List.map_id names, ← List.map_id names'] at hjoined
          obtain ⟨rfl, hclose⟩ := readsOff_name.joined (by decide) (hbrace rest) (hbrace rest')
            (hcomma rest) (hcomma rest') ht.1 ht'.1 ht.2 ht'.2 hjoined
          exact ⟨rfl, List.append_cancel_left hclose⟩

/-- A dot does not stand where a line stops. -/
theorem ne_dot {u : Text} (hr : Stops (· ≠ ';') rest) : rest ≠ '.' :: u := by
  rintro rfl
  exact absurd (stops_cons.mp hr) (by decide)

theorem stops_of_line (hr : Stops (· ≠ ';') rest) : Stops isNameChar rest := by
  cases rest with
  | nil => trivial
  | cons c rest =>
      obtain rfl : c = ';' := by simpa using hr
      exact stops_cons.mpr (by decide)

/-- A member named `default` is not taken for the default that the module stands in for: the
    name ends with its line. -/
theorem member_ne_orWhole {name u : Text} (hn : Specifier.isName name = true)
    (hr : Stops (· ≠ ';') rest) : name ++ rest ≠ "default".toList ++ (" || ".toList ++ u) := by
  intro h
  have hdefault : Specifier.isName "default".toList = true := by decide
  have hbar : Stops isNameChar (" || ".toList ++ u) := stops_cons.mpr (by decide)
  obtain ⟨-, hrest⟩ := readsOff_name hn hdefault (stops_of_line hr) hbar h
  rw [hrest] at hr
  exact absurd (stops_cons.mp hr) (by decide)

theorem Value.fill_member (name rest : Text) :
    (Value.member name).parts.fill call ++ rest = '.' :: (name ++ rest) := by
  show ".".toList ++ name ++ [] ++ rest = _
  rw [List.append_nil]
  rfl

theorem Value.fill_orWhole (rest : Text) :
    Value.orWhole.parts.fill call ++ rest
      = '.' :: ("default".toList ++ (" || ".toList ++ (call ++ rest))) := by
  have htext : ".default || ".toList = '.' :: ("default".toList ++ " || ".toList) := by decide
  show ".default || ".toList ++ (call ++ []) ++ rest = _
  rw [htext, List.append_nil, List.cons_append, List.cons_append]
  simp only [List.append_assoc]

/-- Values are read off behind the call. -/
theorem Value.readsOff (call : Text) :
    ReadsOff (· ≠ ';') Value.Named (fun value => value.parts.fill call) := by
  -- a dot tells the module from the rest, and the end of the name a member from the default
  intro value value' hv hv' rest rest' hr hr' h
  cases value with
  | whole =>
      cases value' with
      | whole => exact ⟨rfl, h⟩
      | member name' => exact absurd h (ne_dot hr)
      | orWhole => exact absurd h (ne_dot hr)
  | member name =>
      cases value' with
      | whole => exact absurd h.symm (ne_dot hr')
      | member name' =>
          have hdot := (fill_member name rest).symm.trans (h.trans (fill_member name' rest'))
          obtain ⟨rfl, hrest⟩ := readsOff_name hv hv' (stops_of_line hr) (stops_of_line hr')
            (List.cons.inj hdot).2
          exact ⟨rfl, hrest⟩
      | orWhole =>
          have hdot := (fill_member name rest).symm.trans (h.trans (fill_orWhole rest'))
          exact absurd (List.cons.inj hdot).2 (member_ne_orWhole hv hr)
  | orWhole =>
      cases value' with
      | whole => exact absurd h.symm (ne_dot hr')
      | member name' =>
          have hdot := (fill_member name' rest').symm.trans (h.symm.trans (fill_orWhole rest))
          exact absurd (List.cons.inj hdot).2 (member_ne_orWhole hv' hr')
      | orWhole => exact ⟨rfl, List.append_cancel_left h⟩

/-- A line that binds nothing is told from one that does by its first character. -/
theorem load_ne_const {u : Text} (hcall : "require(".toList <+: call) :
    call ++ rest ≠ "const ".toList ++ u := by
  intro h
  obtain ⟨inner, rfl⟩ := hcall
  exact absurd (List.cons.inj h).1 (by decide)

theorem fill_line_load : load.line.fill call = call := List.append_nil _

theorem fill_line_const (target : Target) (value : Value) (rest : Text) :
    (const target value).line.fill call ++ rest = "const ".toList ++
      (target.text ++ (" = ".toList ++ (call ++ (value.parts.fill call ++ rest)))) := by
  show "const ".toList ++ target.text ++ " = ".toList ++ (call ++ value.parts.fill call) ++ rest = _
  simp only [List.append_assoc]

/-- Lines are read off a text up to its end or a `;`. -/
theorem readsOff (hcall : "require(".toList <+: call) :
    ReadsOff (· ≠ ';') Named (fun l => l.line.fill call) := by
  intro l l' hl hl' rest rest' hr hr' h
  dsimp only at h
  cases l with
  | load =>
      cases l' with
      | load => exact ⟨rfl, List.append_cancel_left h⟩
      | const target' value' =>
          rw [fill_line_load, fill_line_const] at h
          exact absurd h (load_ne_const hcall)
  | const target value =>
      cases l' with
      | load =>
          rw [fill_line_load, fill_line_const] at h
          exact absurd h.symm (load_ne_const hcall)
      | const target' value' =>
          have hspace (u : Text) : Stops isNameChar (" = ".toList ++ u) :=
            stops_cons.mpr (by decide)
          rw [fill_line_const, fill_line_const] at h
          obtain ⟨rfl, hassigned⟩ := Target.readsOff hl.1 hl'.1 (hspace _) (hspace _)
            (List.append_cancel_left h)
          -- the call may hold anything, but it is the same on both sides
          have hvalue := List.append_cancel_left (List.append_cancel_left hassigned)
          obtain ⟨rfl, hrest⟩ := Value.readsOff call hl.2 hl'.2 hr hr' hvalue
          exact ⟨rfl, hrest⟩

end ImportLine

/-! ## Lines say it all -/

namespace ImportLine

/-- The plain names that a line takes from the module. -/
def plain : ImportLine → List Text
  | const (.names ns) _ => ns
  | _ => []

/-- The new name that a line gives a member, and its own. -/
def pair? : ImportLine → Option (Text × Text)
  | const (.name n) (.member own) => some (n, own)
  | _ => none

end ImportLine

namespace Bound

/-- What lines bind. -/
def ofLines : List ImportLine → Bound
  | [.load] => .nothing
  | [.const (.name n) .whole] => .whole n
  | lines => .members (lines.flatMap (·.plain)) (lines.filterMap (·.pair?))

theorem flatMap_plain (names : List Text) (pairs : List (Text × Text)) :
    (members names pairs).lines.flatMap (·.plain) = names := by
  have hpairs : (pairs.map aliasLine).flatMap (·.plain) = [] := by
    rw [List.flatMap_map, List.flatMap_eq_nil_iff]
    exact fun _ _ => rfl
  rw [lines, List.flatMap_append, hpairs, List.append_nil]
  cases names with
  | nil => rfl
  | cons name names => exact List.append_nil _

theorem filterMap_pair? (names : List Text) (pairs : List (Text × Text)) :
    (members names pairs).lines.filterMap (·.pair?) = pairs := by
  have hnames : (plainLine names).filterMap (·.pair?) = [] := by
    cases names with
    | nil => rfl
    | cons name names => rfl
  rw [lines, List.filterMap_append, hnames, List.nil_append, List.filterMap_map]
  exact List.filterMap_some

/-- The lines of members begin as no other lines do. -/
theorem members_lines_cases (names : List Text) (pairs : List (Text × Text)) :
    (members names pairs).lines = [] ∨
      (∃ ns lines, (members names pairs).lines = .const (.names ns) .whole :: lines) ∨
      ∃ pair lines, (members names pairs).lines = aliasLine pair :: lines := by
  cases names with
  | cons name names => exact .inr (.inl ⟨_, _, rfl⟩)
  | nil =>
      cases pairs with
      | nil => exact .inl rfl
      | cons pair pairs => exact .inr (.inr ⟨_, _, rfl⟩)

/-- What is bound is read back from its lines. -/
theorem ofLines_lines (b : Bound) : ofLines b.lines = b := by
  cases b with
  | nothing => rfl
  | whole name => rfl
  | members names pairs =>
      have hmembers : ofLines (members names pairs).lines = .members
          ((members names pairs).lines.flatMap (·.plain))
          ((members names pairs).lines.filterMap (·.pair?)) := by
        rcases members_lines_cases names pairs with h | ⟨ns, lines, h⟩ | ⟨pair, lines, h⟩
        · rw [h]
          rfl
        · rw [h]
          rfl
        · rw [h]
          rfl
      rw [hmembers, flatMap_plain, filterMap_pair?]

end Bound

namespace ImportMeaning

/-- What lines bind, the first of them perhaps a default that the module stands in for. -/
def ofLines : List ImportLine → ImportMeaning
  | .const (.name n) .orWhole :: lines => ⟨some n, .ofLines lines⟩
  | lines => ⟨none, .ofLines lines⟩

/-- A meaning is read back from its lines. -/
theorem ofLines_lines (m : ImportMeaning) : ofLines m.lines = m := by
  obtain ⟨fallback?, bound⟩ := m
  cases fallback? with
  | some name => exact congrArg (ImportMeaning.mk (some name)) bound.ofLines_lines
  | none =>
      have hnone : ofLines bound.lines = ⟨none, .ofLines bound.lines⟩ := by
        cases bound with
        | nothing => rfl
        | whole name => rfl
        | members names pairs =>
            rcases Bound.members_lines_cases names pairs with
              h | ⟨ns, lines, h⟩ | ⟨pair, lines, h⟩
            · rw [h]
              rfl
            · rw [h]
              rfl
            · rw [h]
              rfl
      exact hnone.trans (congrArg (ImportMeaning.mk none) bound.ofLines_lines)

end ImportMeaning

namespace ImportBinding

variable {b b' : ImportBinding} {l : ImportLine} {items : List Specifier}

theorem meaning_lines_ne_nil (b : ImportBinding) : b.meaning.lines ≠ [] := by
  intro h
  have hlines := b.lines_eq
  rw [h] at hlines
  exact b.lines_ne_nil hlines

theorem named_of_mem_ofList (h : ∀ item ∈ items, item.Named)
    (hl : l ∈ (Bound.ofList items).lines) : l.Named := by
  rw [Bound.ofList] at hl
  split at hl
  · obtain rfl := List.mem_singleton.mp hl
    trivial
  · rcases List.mem_append.mp hl with hl | hl
    · have hnames : ∀ name ∈ items.filterMap (·.plainName?), Specifier.isName name = true :=
        fun _ => Specifier.isName_of_mem_plainNames h
      generalize items.filterMap (·.plainName?) = names at hl hnames
      cases names with
      | nil => cases hl
      | cons name names =>
          obtain rfl := List.mem_singleton.mp hl
          exact ⟨⟨List.cons_ne_nil _ _, hnames⟩, trivial⟩
    · obtain ⟨pair, hpair, rfl⟩ := List.mem_map.mp hl
      obtain ⟨⟨own, _ | alias_⟩, hitem, hown⟩ := List.mem_filterMap.mp hpair
      · cases hown
      · obtain rfl := Option.some.inj hown
        exact ⟨(h _ hitem).2 alias_ rfl, (h _ hitem).1⟩

theorem named_of_mem_ofStar {name? : Option Text}
    (h : ∀ name, name? = some name → Specifier.isName name = true)
    (hl : l ∈ (Bound.ofStar name?).lines) : l.Named := by
  cases name? with
  | none =>
      obtain rfl := List.mem_singleton.mp hl
      trivial
  | some name =>
      obtain rfl := List.mem_singleton.mp hl
      exact ⟨h name rfl, trivial⟩

/-- What is bound to names by the binding is bound to names by its lines. -/
theorem named_of_mem_lines (hb : b.Named) (hl : l ∈ b.meaning.lines) : l.Named := by
  cases b with
  | effects =>
      obtain rfl := List.mem_singleton.mp hl
      trivial
  | default name =>
      obtain rfl := List.mem_singleton.mp hl
      exact ⟨hb, trivial⟩
  | star name? => exact named_of_mem_ofStar hb hl
  | named items => exact named_of_mem_ofList hb hl
  | defaultAndNamed name items =>
      rcases List.mem_cons.mp hl with rfl | hl
      · exact ⟨hb.1, trivial⟩
      · exact named_of_mem_ofList hb.2 hl
  | defaultAndStar name name? =>
      rcases List.mem_cons.mp hl with rfl | hl
      · exact ⟨hb.1, trivial⟩
      · exact named_of_mem_ofStar hb.2 hl

theorem require_eq_join (b : ImportBinding) (call : Text) :
    b.require call = join statementSeparator (b.meaning.lines.map (·.line.fill call)) := by
  rw [b.require_eq_fill, b.lines_eq, Line.fillAll, List.map_map]
  rfl

/-- Imports are written as the same text just when they bind the same, whatever the rest of the
    call is. -/
theorem require_eq_iff {call : Text} (hcall : "require(".toList <+: call)
    (hb : b.Named) (hb' : b'.Named) :
    b.require call = b'.require call ↔ b.meaning = b'.meaning := by
  constructor
  · intro h
    -- nothing follows the last line
    rw [require_eq_join, require_eq_join, ← List.append_nil (join _ _),
      ← List.append_nil (join _ (b'.meaning.lines.map _))] at h
    obtain ⟨hlines, -⟩ := (ImportLine.readsOff hcall).joined (by decide) stops_nil stops_nil
      stops_nil stops_nil b.meaning_lines_ne_nil b'.meaning_lines_ne_nil
      (fun _ => named_of_mem_lines hb) (fun _ => named_of_mem_lines hb') h
    rw [← b.meaning.ofLines_lines, hlines, ImportMeaning.ofLines_lines]
  · intro h
    rw [require_eq_join, require_eq_join, h]

/-- Lists that mix plain names and aliases in different ways are written as the same text if
    both come in the same order, and not if the plain names change places. -/
theorem require_eq_iff_mixed :
    let call := "require('m')".toList
    let b : Specifier := ⟨"b".toList, none⟩
    let cd : Specifier := ⟨"c".toList, some "d".toList⟩
    let e : Specifier := ⟨"e".toList, none⟩
    let mixed : ImportBinding := .defaultAndNamed "a".toList [b, cd, e]
    let sorted : ImportBinding := .defaultAndNamed "a".toList [b, e, cd]
    let swapped : ImportBinding := .defaultAndNamed "a".toList [e, cd, b]
    "require(".toList <+: call ∧ mixed.Named ∧ sorted.Named ∧ swapped.Named ∧
      mixed.require call = sorted.require call ∧ mixed.require call ≠ swapped.require call := by
  intro call b cd e mixed sorted swapped
  have hcall : "require(".toList <+: call := by decide
  have hb : b.Named := ⟨by decide, fun _ h => by cases h⟩
  have he : e.Named := ⟨by decide, fun _ h => by cases h⟩
  have hcd : cd.Named := ⟨by decide, fun _ h => Option.some.inj h ▸ by decide⟩
  have hmixed : mixed.Named := ⟨by decide, by simp [hb, hcd, he]⟩
  have hsorted : sorted.Named := ⟨by decide, by simp [hb, hcd, he]⟩
  have hswapped : swapped.Named := ⟨by decide, by simp [hb, hcd, he]⟩
  refine ⟨hcall, hmixed, hsorted, hswapped, ?_, ?_⟩
  · exact (require_eq_iff hcall hmixed hsorted).mpr (by decide)
  · intro h
    exact absurd ((require_eq_iff hcall hmixed hswapped).mp h) (by decide)

end ImportBinding

end RequireForm
