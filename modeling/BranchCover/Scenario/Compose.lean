import BranchCover.Scenario.Basic

/-! The scenarios of a method, one for each value that drives each of its conditions. Blocks below a
decision are composed anew for every value, before the scenario of the value itself; the values that
earlier scenarios gave to parameters stay in force. -/
namespace BranchCover

/-- The values given to parameters, in the order in which the parameters were first set. -/
abbrev Overrides := List (String × Value)

namespace Overrides

def find? (o : Overrides) (name : String) : Option Value :=
  o.lookup name

/-- Gives a value to a parameter; one that was set before keeps its place. -/
def set : Overrides → String → Value → Overrides
  | [], name, v => [(name, v)]
  | (n, w) :: rest, name, v => if n == name then (n, v) :: rest else (n, w) :: set rest name v

theorem find?_set (o : Overrides) (name other : String) (v : Value) :
    (o.set name v).find? other = if other = name then some v else o.find? other := by
  induction o with
  | nil =>
    by_cases h : other = name
    · simp [set, find?, h]
    · have hb : (other == name) = false := by simpa using h
      simp [set, find?, List.lookup_cons, h, hb]
  | cons p o ih =>
    obtain ⟨n, w⟩ := p
    by_cases hn : n = name
    · subst hn
      by_cases h : other = n
      · simp [set, find?, h]
      · have hb : (other == n) = false := by simpa using h
        simp [set, find?, List.lookup_cons, h, hb]
    · by_cases h : other = n
      · have : other ≠ name := h ▸ hn
        simp_all [set, find?]
      · have hb : (other == n) = false := by simpa using h
        simpa [set, find?, List.lookup_cons, hn, hb] using ih

end Overrides

/-- The arguments of a call: the values in force, and base values where there are none. -/
def baseArguments (params : List Property) (o : Overrides) : List Argument :=
  params.map fun p =>
    let name := p.name.getD ""
    ⟨name, (o.find? name).getD (Value.make p), p.kwOnly⟩

/-- How far the composition of a method has come. The counter numbers the next scenario. -/
structure Composition where
  counter : Nat
  overrides : Overrides
  scenarios : List Scenario
  notes : List Note

namespace Composition

def initial : Composition := ⟨1, [], [], []⟩

end Composition

/-- A step of a composition. A step that fails keeps what was done before. -/
abbrev Compose := ExceptT Unrenderable (StateM Composition)

structure Member where
  method : Method
  owner : Option Class
  options : Options

namespace Member

def ownerName (m : Member) : Option String :=
  m.owner.map Class.name

def receiver (m : Member) : String :=
  match m.owner with
  | some c => if m.method.isStatic then c.name else m.options.targetName
  | none => m.options.targetName

def invocation (m : Member) (o : Overrides) : Invocation :=
  ⟨m.receiver, mangle m.method.name m.ownerName, baseArguments m.method.parameters o,
    m.method.isAsync, m.method.accessor⟩

def isReceiverAccess (m : Member) (n : Node) : Bool :=
  match n with
  | .memberAccess (.identifier id _) _ _ => m.method.receiver == some id
  | _ => false

inductive Route where
  | parameter (name : String)
  | field (name : String)
  /-- A name that is neither a parameter nor a field. -/
  | unrouted (symbol : String)
  | undriven
  deriving DecidableEq

/-- An attribute of the receiver is a field; any other name is a parameter if one is declared under
it, and else a field. -/
def route (m : Member) (c : Condition) : Route :=
  match c.drivingReference? with
  | none => .undriven
  | some n =>
    let symbol := (n.reference?).getD ""
    if !m.isReceiverAccess n && (Property.find? m.method.parameters symbol).isSome then
      .parameter symbol
    else match m.owner with
      | some cls =>
        if (Property.find? cls.properties symbol).isSome then .field (mangle symbol (some cls.name))
        else .unrouted symbol
      | none => .unrouted symbol

/-- Gives a value to what drives a condition, and returns the fields that are to be set. -/
def prepare (m : Member) (c : Condition) (v : Value) : Compose (List FieldAssign) :=
  match m.route c with
  | .parameter name => do
    modify fun s => { s with overrides := s.overrides.set name v }
    pure []
  | .field name => pure [⟨name, v⟩]
  | .unrouted symbol => do
    modify fun s => { s with notes := s.notes ++ [.unrouted m.method.name symbol] }
    pure []
  | .undriven => pure []

def scenarioLabel (m : Member) (n : Nat) : String :=
  s!"{m.method.name} ({n})"

def comment (c : Condition) (valueText : String) : String :=
  s!"Test case: {c.text}, with value {valueText}"

/-- Adds the scenario of a condition and a value. Its number is used up even if the value has no
text. -/
def addScenario (m : Member) (c : Condition) (v : Value) (fields : List FieldAssign) :
    Compose Unit := do
  let n := (← get).counter
  modify fun s => { s with counter := s.counter + 1 }
  let t ← liftM v.sourceText
  modify fun s =>
    { s with scenarios := s.scenarios ++
        [⟨m.scenarioLabel n, m.invocation s.overrides, fields, some (comment c t)⟩] }

/-- Every value of every condition in order, each after the blocks below. -/
def driveAll (m : Member) (below : Compose Unit) (cs : List Condition) : Compose Unit :=
  cs.forM fun c => c.callValues.forM fun v => do
    below
    let fields ← m.prepare c v
    m.addScenario c v fields

mutual

def composeBlock (m : Member) : Block → Compose Unit
  | .mk bs => composeBranches m bs

def composeBranches (m : Member) : List Branch → Compose Unit
  | [] => pure ()
  | b :: bs => do
    composeBranch m b
    composeBranches m bs

def composeBranch (m : Member) : Branch → Compose Unit
  | .ifElse c body orelse =>
    driveAll m (do composeBlock m body; composeOrelse m orelse) [c]
  | .switch arms default =>
    driveAll m (do composeArms m arms; composeOrelse m default) (arms.map Arm.condition)
  | .ternary c => driveAll m (pure ()) [c]

def composeArms (m : Member) : List Arm → Compose Unit
  | [] => pure ()
  | .mk _ body :: arms => do
    composeBlock m body
    composeArms m arms

def composeOrelse (m : Member) : Option Block → Compose Unit
  | none => pure ()
  | some b => composeBlock m b

end

/-- A method without decisions has one scenario, which is not kept. -/
def compose (m : Member) : Compose (List Scenario) :=
  match m.method.body with
  | some (.mk (b :: bs)) => do
    composeBlock m (.mk (b :: bs))
    pure (← get).scenarios
  | _ => do
    pure [⟨m.method.name, m.invocation (← get).overrides, [], none⟩]

/-- The scenarios of a method from the start, or why there are none, with the notes. -/
def scenarios (m : Member) : Except Unrenderable (List Scenario) × List Note :=
  let (r, s) := m.compose.run.run Composition.initial
  (r, s.notes)

end Member
end BranchCover
