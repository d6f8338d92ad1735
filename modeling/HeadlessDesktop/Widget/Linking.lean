import HeadlessDesktop.Widget.Parenting

/-! Links made by several threads at once. A call moves in steps, each of which looks at one
widget or changes one, and the steps of different calls interleave. -/

namespace HeadlessDesktop.Linking

/-- Where a call stands. While it walks up from the parent it knows how many widgets it may
still visit. -/
inductive Point
  | entering
  | foundChild
  | walking (left : Nat) (id : WidgetId)
  | writing
  | linked
  | refused (error : LinkError)
deriving DecidableEq, Repr

structure Call where
  child : WidgetId
  parent : WidgetId
  point : Point := .entering
deriving DecidableEq, Repr

/-- The walk visits one widget. It is over at the top, at the end of its way, and at an id
that names no widget. -/
def stepWalk (registry : Registry) (call : Call) : (left : Nat) → (id : WidgetId) → Point
  | 0, _ => .writing
  | left + 1, id =>
    if id = 0 then .writing
    else if id = call.child then .refused (.cycle call.child call.parent)
    else match registry.lookup? id with
      | some widget => .walking left widget.parent
      | none => .writing

def step? (policy : Policy) (registry : Registry) (call : Call) : Option (Registry × Point) :=
  match call.point with
  | .entering =>
    some (registry,
      if (registry.lookup? call.child).isNone then .refused (.unknownChild call.child)
      else if call.parent = 0 then .writing
      else .foundChild)
  | .foundChild =>
    some (registry,
      if (registry.lookup? call.parent).isNone then .refused (.unknownParent call.parent)
      else match policy with
        | .permissive => .writing
        | .rejectCycles => .walking (registry.size + 1) call.parent)
  | .walking left id => some (registry, stepWalk registry call left id)
  | .writing => some (registry.modify call.child (·.setParent call.parent), .linked)
  | .linked | .refused _ => none

structure System where
  registry : Registry
  calls : List Call := []
deriving Repr

namespace System

inductive Action
  | link (child parent : WidgetId)
  | step (call : Nat)
deriving DecidableEq, Repr

def act? (policy : Policy) (system : System) : Action → Option System
  | .link child parent => some { system with calls := system.calls ++ [{ child, parent }] }
  | .step number => do
    let call ← system.calls[number]?
    let (registry, point) ← step? policy system.registry call
    pure { registry, calls := system.calls.set number { call with point } }

inductive Reachable (policy : Policy) (registry : Registry) : System → Prop
  | initial : Reachable policy registry { registry }
  | act {system next : System} (action : Action) :
    Reachable policy registry system → system.act? policy action = some next →
      Reachable policy registry next

end System

end HeadlessDesktop.Linking
