import RequireForm.Transform.Basic

/-!
# Events — what a transform tells on its way

  1. `Event`, its level and its message.
  2. `transformEvents`: the events of a transform in order.
-/

namespace RequireForm

/-- Something that happens on the way. -/
inductive Event where
  /-- The options make no rule. -/
  | ruleDisabled
  /-- The imports have been found. -/
  | importPass (count : Nat)
  /-- A path has been matched, and so replaced. -/
  | pathReplaced (source result : Text)
  /-- An import on a line has been put into require form. -/
  | importReplaced (line : Nat)
  /-- The exports have been found. -/
  | exportPass (count stars : Nat)
  /-- An export on a line is being put into require form. -/
  | exportReplaced (line : Nat)
  /-- All is done. -/
  | finished
  deriving DecidableEq, Repr

/-- How much an event matters. -/
inductive Level where
  | warn | debug | trace
  deriving DecidableEq, Repr

namespace Event

def level : Event → Level
  | ruleDisabled => .warn
  | importPass _ => .debug
  | pathReplaced _ _ => .trace
  | importReplaced _ => .trace
  | exportPass _ _ => .debug
  | exportReplaced _ => .trace
  | finished => .debug

def message : Event → String
  | ruleDisabled => "path rewriting disabled"
  | importPass _ => "import pass"
  | pathReplaced _ _ => "rewrote module path"
  | importReplaced _ => "rewriting import"
  | exportPass _ _ => "export pass"
  | exportReplaced _ => "rewriting export"
  | finished => "transform finished"

end Event

/-- The event of a path, if the rule matches it. -/
def PathRule.events (r : PathRule) (path : PathLiteral) : List Event :=
  match r.replaced? path.value with
  | some result => [.pathReplaced path.value result]
  | none => []

/-- The event of the options, if they make no rule. -/
def Options.events (o : Options) : List Event :=
  match PathRule.ofOptions? o with
  | .ok _ => []
  | .error _ => [.ruleDisabled]

/-- The events of the imports of a source: the path of each comes first. -/
def importEvents (r : PathRule) (source : Text) : List Event :=
  let found := Import.find source
  .importPass found.length ::
    found.flatMap fun i => r.events i.what.path ++ [.importReplaced i.line]

/-- The events of the exports of a source: the path of each comes last. -/
def exportEvents (r : PathRule) (source : Text) : List Event :=
  let found := Export.find source
  .exportPass found.length (found.countP (·.what.isStar)) ::
    found.flatMap fun e => .exportReplaced e.line :: e.what.path?.toList.flatMap r.events

/-- The events of a transform. -/
def transformEvents (o : Options) (source : Text) : List Event :=
  let r := PathRule.ofOptions o
  o.events ++ importEvents r source ++ exportEvents r (afterImports r source) ++ [.finished]

end RequireForm
