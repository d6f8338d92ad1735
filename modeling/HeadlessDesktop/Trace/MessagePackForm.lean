import HeadlessDesktop.MessagePack.Wire
import HeadlessDesktop.Trace.JsonForm

/-! Records and widgets as MessagePack. -/

namespace HeadlessDesktop

open Text MessagePack Time

def optionalEntry (key : String) (present : Bool) (value : Bytes) : List (String × Bytes) :=
  if present then [(key, value)] else []

def Widget.toMessagePack (widget : Widget) : Bytes :=
  writeMap ([("id", writeUnsigned widget.id),
    ("kind", writeBinary (encodeUtf8 widget.kind.name)),
    ("title", writeString widget.title)] ++
    optionalEntry "label" (widget.label != "") (writeString widget.label) ++
    optionalEntry "width" (widget.width != 0) (writeSigned widget.width) ++
    optionalEntry "height" (widget.height != 0) (writeSigned widget.height) ++
    optionalEntry "parent" (widget.parent != 0) (writeUnsigned widget.parent))

def timestampType : UInt8 := 0xFF

/-- The shortest of the three timestamp forms. The zone is not written. -/
def Time.Instant.toMessagePack (time : Instant) : Bytes :=
  let seconds := time.seconds.toUInt64.toNat
  let nanos := time.nanos.val
  if seconds / 0x400000000 == 0 then
    let data := nanos * 0x400000000 + seconds
    if data < 0x100000000 then 0xD6 :: timestampType :: bigEndian 4 data
    else 0xD7 :: timestampType :: bigEndian 8 data
  else 0xC7 :: 12 :: timestampType :: (bigEndian 4 nanos ++ bigEndian 8 seconds)

def Trace.Record.toMessagePack (record : Trace.Record) : Bytes :=
  writeMap ([("seq", writeUnsigned record.seq), ("time", record.time.toMessagePack),
    ("op", writeString record.op)] ++
    (match record.widget with
      | some widget => [("widget", widget.toMessagePack)]
      | none => []) ++
    optionalEntry "message" (record.message != "") (writeString record.message))

/-- Nanoseconds beyond a second count as seconds. -/
def Time.Instant.ofParts (seconds nanos : Nat) : Instant :=
  ⟨Int64.ofNat seconds + Int64.ofNat (nanos / nanosPerSecond), nanosOf nanos, 0⟩

def Time.Instant.ofTimestampData? (bytes : Bytes) : Option Instant :=
  match bytes.length with
  | 4 => some (.ofParts (ofBigEndian bytes) 0)
  | 8 => some (.ofParts (ofBigEndian bytes % 0x400000000) (ofBigEndian bytes / 0x400000000))
  | 12 => some (.ofParts (ofBigEndian (bytes.drop 4)) (ofBigEndian (bytes.take 4)))
  | _ => none

def Time.Instant.ofMessagePack : Reader Instant := do
  match Instant.ofTimestampData? (← extension timestampType) with
  | some time => return time
  | none => throw .malformed

def MessagePack.WireError.toDecodeError : WireError → DecodeError
  | .ended => .ended
  | .cut => .cut
  | .malformed => .malformed

abbrev FieldReader (α : Type) := α → Bytes → Except DecodeError (α × Bytes)

def field {α β : Type} (read : Reader β) (set : β → α → α) : FieldReader α :=
  fun target bytes => match read bytes with
    | .ok (value, rest) => .ok (set value target, rest)
    | .error why => .error why.toDecodeError

def unsignedField {α : Type} (set : UInt64 → α → α) : FieldReader α :=
  field integer fun n => set (Int64.ofInt n).toUInt64

def signedField {α : Type} (set : Int64 → α → α) : FieldReader α :=
  field integer fun n => set (Int64.ofInt n)

def timeField : FieldReader Trace.Record
  | _, 0xC0 :: _ => .error .missingTime
  | record, bytes => field Instant.ofMessagePack (fun time r => { r with time }) record bytes

def kindField : FieldReader Widget
  | widget, 0xC0 :: rest => .ok ({ widget with kind := .generic }, rest)
  | widget, bytes => match data bytes with
    | .error why => .error why.toDecodeError
    | .ok (name, rest) => match Kind.ofBytes? name with
      | some kind => .ok ({ widget with kind }, rest)
      | none => .error (.unknownKind (quotedBytes name))

abbrev Fields (α : Type) := List (String × FieldReader α)

def skipField {α : Type} : FieldReader α := fun target bytes =>
  field (skip (bytes.length + 1) 1) (fun _ target => target) target bytes

/-- Entries of a map, unknown keys being passed over. A key may be nil, which is empty.
An entry takes at least one byte, so the bytes bound the entries. -/
def readEntries {α : Type} (fields : Fields α) :
    (fuel entries : Nat) → FieldReader α
  | _, 0, target, bytes => .ok (target, bytes)
  | 0, _ + 1, _, _ => .error .malformed
  | fuel + 1, entries + 1, target, bytes => do
    let (key, rest) ← (data bytes).mapError (·.toDecodeError)
    let read := (fields.lookup (decodeUtf8 key)).getD skipField
    let (target, rest) ← read target rest
    readEntries fields fuel entries target rest

def readItems {α : Type} : Fields α → FieldReader α
  | [], target, bytes => .ok (target, bytes)
  | (_, read) :: fields, target, bytes => do
    let (target, rest) ← read target bytes
    readItems fields target rest

/-- A map by name or an array with all fields; nil and the empty array are `zero`. -/
def readStructure {α : Type} (fields : Fields α) (zero : α) : FieldReader α :=
  fun target bytes => match aggregate bytes with
    | .error why => .error why.toDecodeError
    | .ok (.absent, rest) => .ok (zero, rest)
    | .ok (.map entries, rest) => readEntries fields (rest.length + 1) entries target rest
    | .ok (.array 0, rest) => .ok (zero, rest)
    | .ok (.array items, rest) =>
      if items == fields.length then readItems fields target rest else .error .malformed

def widgetFields : Fields Widget := [
  ("id", unsignedField fun id w => { w with id }),
  ("kind", kindField),
  ("title", field string fun title w => { w with title }),
  ("label", field string fun label w => { w with label }),
  ("width", signedField fun width w => { w with width }),
  ("height", signedField fun height w => { w with height }),
  ("parent", unsignedField fun parent w => { w with parent })]

def widgetField : FieldReader Trace.Record
  | record, 0xC0 :: rest => .ok ({ record with widget := none }, rest)
  | record, bytes => do
    let (widget, rest) ← readStructure widgetFields {} (record.widget.getD {}) bytes
    pure ({ record with widget := some widget }, rest)

def recordFields : Fields Trace.Record := [
  ("seq", unsignedField fun seq r => { r with seq }),
  ("time", timeField),
  ("op", field string fun op r => { r with op }),
  ("widget", widgetField),
  ("message", field string fun message r => { r with message })]

/-- Bytes after the record are not looked at. -/
def Trace.Record.ofMessagePack (bytes : Bytes) : Except DecodeError Trace.Record := do
  let (record, _) ← readStructure recordFields {} {} bytes
  pure record

end HeadlessDesktop
