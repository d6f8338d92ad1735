import HeadlessDesktop.Widget.Basic

/-! The registry of widgets: ids are handed out densely from one. -/

namespace HeadlessDesktop

structure Registry where
  next : WidgetId := 1
  widgets : Array Widget := #[]
deriving Repr, Inhabited

namespace Registry

def size (registry : Registry) : Nat := registry.widgets.size

def toList (registry : Registry) : List Widget := registry.widgets.toList

/-- What `build` makes is taken if it carries the id it was asked for; otherwise an empty
generic widget takes the id. -/
def allocateWith (registry : Registry) (build : WidgetId → Option Widget) : Registry × Widget :=
  let id := registry.next
  let widget := match build id with
    | some widget => if widget.id = id then widget else { id }
    | none => { id }
  (⟨id + 1, registry.widgets.push widget⟩, widget)

def allocate (registry : Registry) (kind : Kind) : Registry × Widget :=
  registry.allocateWith fun id => some { id, kind }

def lookup? (registry : Registry) (id : WidgetId) : Option Widget :=
  if id = 0 ∨ registry.next ≤ id then none else registry.widgets[(id - 1).toNat]?

def notFoundMessage : String := "registry: widget not found"

def get (registry : Registry) (id : WidgetId) : Except String Widget :=
  match registry.lookup? id with
  | some widget => .ok widget
  | none => .error notFoundMessage

def modify (registry : Registry) (id : WidgetId) (change : Widget → Widget) : Registry :=
  if id = 0 ∨ registry.next ≤ id then registry
  else { registry with widgets := registry.widgets.modify (id - 1).toNat change }

/-- The widgets under `id`, in the order of their ids. A widget that is its own parent is
not its own child. -/
def children (registry : Registry) (id : WidgetId) : List Widget :=
  registry.toList.filter fun widget => widget.parent == id && widget.id != id

end Registry

end HeadlessDesktop
