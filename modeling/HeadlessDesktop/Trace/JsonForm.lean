import HeadlessDesktop.Json.Reader
import HeadlessDesktop.Text.Fold
import HeadlessDesktop.Time.InstantText
import HeadlessDesktop.Trace.Record

/-! Records and widgets as JSON. -/

namespace HeadlessDesktop

/-- Why bytes are no record. They may end before a piece of it or inside one. A missing time
is a fault of the reader itself. -/
inductive DecodeError
  | malformed
  | ended
  | cut
  | unknownKind (quotedName : String)
  | missingTime
deriving DecidableEq, Repr

def missingTimeMessage : String := "reflect: call of reflect.Value.IsNil on struct Value"

open Text Time

def optionalMember (name : String) (present : Bool) (value : Json) : List (String × Json) :=
  if present then [(name, value)] else []

def Widget.toJson (widget : Widget) : Json :=
  .object ([("id", .int widget.id.toNat), ("kind", .string widget.kind.name),
    ("title", .string widget.title)] ++
    optionalMember "label" (widget.label != "") (.string widget.label) ++
    optionalMember "width" (widget.width != 0) (.int widget.width.toInt) ++
    optionalMember "height" (widget.height != 0) (.int widget.height.toInt) ++
    optionalMember "parent" (widget.parent != 0) (.int widget.parent.toNat))

def Trace.Record.toJson (record : Trace.Record) : Except Unwritable Json := do
  let time ← record.time.write
  pure (.object ([("seq", .int record.seq.toNat), ("time", .string (String.ofList time)),
    ("op", .string record.op)] ++
    (match record.widget with
      | some widget => [("widget", widget.toJson)]
      | none => []) ++
    optionalMember "message" (record.message != "") (.string record.message)))

namespace Json

def integer? (least most : Int) : Json → Option Int
  | .number literal => do
    let value ← match literal with
      | '-' :: digits => (numeral? 10 digits).map fun n => -(n : Int)
      | digits => (numeral? 10 digits).map fun n => (n : Int)
    if least ≤ value ∧ value ≤ most then some value else none
  | _ => none

def unsigned? : Json → Option UInt64
  | .number ('-' :: _) => none
  | value => (value.integer? 0 0xFFFFFFFFFFFFFFFF).map fun n => UInt64.ofNat n.toNat

def signed? (value : Json) : Option Int64 :=
  (value.integer? (-0x8000000000000000) 0x7FFFFFFFFFFFFFFF).map Int64.ofInt

def isNull : Json → Bool
  | .null => true
  | _ => false

end Json

/-- What has been read of a value, and the first thing that was wrong with it. A member that
does not fit is passed over. -/
structure Draft (α : Type) where
  value : α
  fault : Option DecodeError := none
deriving DecidableEq, Repr

namespace Draft

def update {α : Type} (draft : Draft α) (change : α → α) : Draft α :=
  { draft with value := change draft.value }

def blame {α : Type} (draft : Draft α) (fault : DecodeError) : Draft α :=
  { draft with fault := draft.fault <|> some fault }

def assign {α β : Type} (draft : Draft α) (value : Json) (read : Json → Except DecodeError β)
    (set : β → α → α) : Draft α :=
  if value.isNull then draft
  else match read value with
    | .ok field => draft.update (set field)
    | .error fault => draft.blame fault

end Draft

def typed {α : Type} (read : Json → Option α) (value : Json) : Except DecodeError α :=
  match read value with
  | some field => .ok field
  | none => .error .malformed

def Kind.ofJson (value : Json) : Except DecodeError Kind := do
  let name ← typed Json.string? value
  match Kind.ofName? name with
  | some kind => .ok kind
  | none => .error (.unknownKind (Text.quoted name))

def Widget.assignMember (draft : Draft Widget) (name : String) (value : Json) : Draft Widget :=
  if sameWord "id" name then draft.assign value (typed Json.unsigned?) fun id w => { w with id }
  else if sameWord "kind" name then draft.assign value Kind.ofJson fun kind w => { w with kind }
  else if sameWord "title" name then
    draft.assign value (typed Json.string?) fun title w => { w with title }
  else if sameWord "label" name then
    draft.assign value (typed Json.string?) fun label w => { w with label }
  else if sameWord "width" name then
    draft.assign value (typed Json.signed?) fun width w => { w with width }
  else if sameWord "height" name then
    draft.assign value (typed Json.signed?) fun height w => { w with height }
  else if sameWord "parent" name then
    draft.assign value (typed Json.unsigned?) fun parent w => { w with parent }
  else draft

namespace Trace.Record

/-- A second object adds to the first; `null` takes the widget away. -/
def assignWidget (draft : Draft Record) : Json → Draft Record
  | .null => draft.update fun r => { r with widget := none }
  | .object members =>
    let widget := members.foldl (fun w (name, value) => Widget.assignMember w name value)
      { value := draft.value.widget.getD {}, fault := draft.fault }
    { value := { draft.value with widget := some widget.value }, fault := widget.fault }
  | _ => draft.blame .malformed

def timeOfJson? (value : Json) : Option Instant := do Instant.read? (← value.string?).toList

def assignMember (draft : Draft Record) (name : String) (value : Json) : Draft Record :=
  if sameWord "seq" name then
    draft.assign value (typed Json.unsigned?) fun seq r => { r with seq }
  else if sameWord "time" name then
    draft.assign value (typed timeOfJson?) fun time r => { r with time }
  else if sameWord "op" name then draft.assign value (typed Json.string?) fun op r => { r with op }
  else if sameWord "widget" name then assignWidget draft value
  else if sameWord "message" name then
    draft.assign value (typed Json.string?) fun message r => { r with message }
  else draft

/-- Of two members of one name the later wins; `null` is the empty record. -/
def ofJson : Json → Except DecodeError Record
  | .null => .ok {}
  | .object members =>
    let draft := members.foldl (fun r (name, value) => assignMember r name value) { value := {} }
    match draft.fault with
    | some fault => .error fault
    | none => .ok draft.value
  | _ => .error .malformed

end Trace.Record

end HeadlessDesktop
