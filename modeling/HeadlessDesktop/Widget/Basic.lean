import HeadlessDesktop.Text.Raw

/-! Widgets. -/

namespace HeadlessDesktop

open Text (Raw)

/-- Widgets are named by numbers; zero names none. -/
abbrev WidgetId := UInt64

/-- What a widget is. Codes beside the three named ones behave as generic. -/
structure Kind where
  code : UInt8
deriving DecidableEq, Repr, Inhabited

namespace Kind

def generic : Kind := ⟨0⟩
def window : Kind := ⟨1⟩
def button : Kind := ⟨2⟩

def name (kind : Kind) : String :=
  if kind = window then "Window"
  else if kind = button then "Button"
  else "Widget"

def ofName? : String → Option Kind
  | "Window" => some window
  | "Button" => some button
  | "Widget" | "Generic" => some generic
  | _ => none

/-- The kind that remains when it is written by name and read back. -/
def named (kind : Kind) : Kind :=
  if kind = window ∨ kind = button then kind else generic

@[simp] theorem ofName?_name (kind : Kind) : ofName? kind.name = some kind.named := by
  unfold name named
  by_cases hw : kind = window
  · subst hw; rfl
  · by_cases hb : kind = button
    · subst hb; rfl
    · simp [hw, hb, ofName?]

def hasSize (kind : Kind) : Bool := kind == window

def ofBytes? (bytes : Text.Bytes) : Option Kind := ofName? (Text.decodeUtf8 bytes)

end Kind

def unknownKindMessage (quotedName : String) : String := "widget: unknown kind " ++ quotedName

structure Widget where
  id : WidgetId := 0
  kind : Kind := Kind.generic
  title : Raw := ""
  label : Raw := ""
  width : Int64 := 0
  height : Int64 := 0
  parent : WidgetId := 0
deriving DecidableEq, Repr, Inhabited

namespace Widget

def clampSize (size : Int64) : Int64 := if size < 0 then 0 else size

def newWindow (id : WidgetId) (title : Raw) (width height : Int64) : Widget :=
  { id, kind := .window, title, width := clampSize width, height := clampSize height }

def newButton (id : WidgetId) (label : Raw) : Widget := { id, kind := .button, label }

def setTitle (widget : Widget) (title : Raw) : Widget :=
  { widget with title, label := if widget.kind = .button then title else widget.label }

def setLabel (widget : Widget) (label : Raw) : Widget := { widget with label }

def setParent (widget : Widget) (parent : WidgetId) : Widget := { widget with parent }

def describe (widget : Widget) : Raw :=
  "#" ++ Text.natText widget.id.toNat ++ " kind=" ++ widget.kind.name ++
    " title='" ++ widget.title ++ "' label='" ++ widget.label ++
    "' size=" ++ Text.intText widget.width.toInt ++ "x" ++ Text.intText widget.height.toInt ++
    " parent=#" ++ Text.natText widget.parent.toNat

end Widget

end HeadlessDesktop
