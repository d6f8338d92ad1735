import HeadlessDesktop.Text.Blank
import HeadlessDesktop.Text.Fold
import HeadlessDesktop.Text.Raw
import HeadlessDesktop.Widget.Registry

/-! Parent links and the policy on cycles. -/

namespace HeadlessDesktop

inductive Policy
  | permissive
  | rejectCycles
deriving DecidableEq, Repr, Inhabited

namespace Policy

def name : Policy → String
  | .permissive => "permissive"
  | .rejectCycles => "reject-cycles"

/-- Blanks around a policy and letter case do not count; no text is permissive. -/
def parse? (text : String) : Option Policy :=
  match Text.lower (Text.trim text) with
  | "" | "permissive" => some .permissive
  | "reject-cycles" => some .rejectCycles
  | _ => none

def unknownMessage (text : Text.Raw) : String := "parenting: unknown policy " ++ text.quoted

end Policy

inductive LinkError
  | unknownChild (child : WidgetId)
  | unknownParent (parent : WidgetId)
  | cycle (child parent : WidgetId)
deriving DecidableEq, Repr

def LinkError.message : LinkError → String
  | .unknownChild child => "parenting: unknown widget: child #" ++ Text.natText child.toNat
  | .unknownParent parent => "parenting: unknown widget: parent #" ++ Text.natText parent.toNat
  | .cycle child parent =>
    "parenting: link would create a cycle: #" ++ Text.natText child.toNat ++
      " under #" ++ Text.natText parent.toNat

namespace Registry

def meets (registry : Registry) (child : WidgetId) : (steps : Nat) → (start : WidgetId) → Bool
  | 0, _ => false
  | steps + 1, id =>
    if id = 0 then false
    else if id = child then true
    else match registry.lookup? id with
      | some widget => registry.meets child steps widget.parent
      | none => false

/-- The walk visits each widget at most once before it repeats, so it is cut off after
one step more than there are widgets. -/
def isAncestorOrSelf (registry : Registry) (child start : WidgetId) : Bool :=
  registry.meets child (registry.size + 1) start

def checkLink (registry : Registry) (policy : Policy) (child parent : WidgetId) :
    Except LinkError Unit :=
  if (registry.lookup? child).isNone then .error (.unknownChild child)
  else if parent = 0 then .ok ()
  else if (registry.lookup? parent).isNone then .error (.unknownParent parent)
  else if policy = .rejectCycles ∧ registry.isAncestorOrSelf child parent then
    .error (.cycle child parent)
  else .ok ()

def setParent (registry : Registry) (policy : Policy) (child parent : WidgetId) :
    Except LinkError Registry := do
  registry.checkLink policy child parent
  pure (registry.modify child (·.setParent parent))

end Registry

end HeadlessDesktop
