import HeadlessDesktop.Proofs.WireForms
import HeadlessDesktop.Trace.Codec

/-! Records as MessagePack and back. What is written of a record is read again, whatever
follows it; only the zone is lost, and kinds without a name of their own become generic. -/
namespace HeadlessDesktop

open Text MessagePack Time

/-- From these bytes a field takes a target from one value to another, and leaves the rest. -/
def Fills {α : Type} (read : FieldReader α) (bytes : Bytes) (before after : α) : Prop :=
  ∀ rest, read before (bytes ++ rest) = .ok (after, rest)

inductive FillsAll {α : Type} (fields : Fields α) : List (String × Bytes) → α → α → Prop
  | nil (target : α) : FillsAll fields [] target target
  | cons {key : String} {value : Bytes} {entries : List (String × Bytes)}
    {before between after : α} {read : FieldReader α}
    (hkey : (encodeUtf8 key).length < 0x100000000) (hfield : fields.lookup key = some read)
    (hvalue : Fills read value before between)
    (hentries : FillsAll fields entries between after) :
    FillsAll fields ((key, value) :: entries) before after

theorem MessagePack.Spells.fills {α β : Type} {read : Reader β} {bytes : Bytes} {value : β}
    (h : Spells read bytes value) (set : β → α → α) (target : α) :
    Fills (field read set) bytes target (set value target) := by
  intro rest
  unfold field
  rw [h rest]

namespace FillsAll

variable {α : Type} {fields : Fields α} {before between after : α} {read : FieldReader α}

theorem single {key : String} {value : Bytes} (hkey : (encodeUtf8 key).length < 0x100000000)
    (hfield : fields.lookup key = some read) (hvalue : Fills read value before after) :
    FillsAll fields [(key, value)] before after :=
  .cons hkey hfield hvalue (.nil after)

theorem append {first second : List (String × Bytes)}
    (hfirst : FillsAll fields first before between)
    (hsecond : FillsAll fields second between after) :
    FillsAll fields (first ++ second) before after := by
  induction hfirst with
  | nil => exact hsecond
  | cons hkey hfield hvalue _ ih => exact .cons hkey hfield hvalue (ih hsecond)

theorem optional {key : String} {present : Bool} {value : Bytes}
    (hkey : (encodeUtf8 key).length < 0x100000000) (hfield : fields.lookup key = some read)
    (hvalue : Fills read value before after)
    (habsent : present = false → before = after) :
    FillsAll fields (optionalEntry key present value) before after := by
  unfold optionalEntry
  cases present with
  | true => exact single hkey hfield hvalue
  | false =>
    rw [habsent rfl]
    exact .nil after

theorem readEntries {entries : List (String × Bytes)} (h : FillsAll fields entries before after)
    {fuel : Nat} (hfuel : entries.length ≤ fuel) :
    Fills (readEntries fields fuel entries.length)
      (entries.flatMap fun (key, value) => writeString key ++ value) before after := by
  induction h generalizing fuel with
  | nil target =>
    intro rest
    cases fuel <;> rfl
  | @cons key value entries before between after read hkey hfield hvalue _ ih =>
    cases fuel with
    | zero => exact absurd hfuel (by simp)
    | succ fuel =>
      intro rest
      have hdata := spells_data hkey
      have hwritten : writeString key =
          writeStringHeader (encodeUtf8 key).length ++ encodeUtf8 key := by
        rw [writeString, Raw.bytes_text]
      rw [List.flatMap_cons, List.append_assoc, List.append_assoc]
      simp only [List.length_cons, HeadlessDesktop.readEntries]
      rw [hwritten, hdata]
      change ((fields.lookup (decodeUtf8 (encodeUtf8 key))).getD skipField before _ >>= _) = _
      rw [decodeUtf8_encodeUtf8, hfield, Option.getD_some, hvalue]
      exact ih (Nat.le_of_succ_le_succ hfuel) rest

end FillsAll

theorem length_le_flatMap (entries : List (String × Bytes)) :
    entries.length ≤ (entries.flatMap fun (key, value) => writeString key ++ value).length := by
  induction entries with
  | nil => exact Nat.le_refl 0
  | cons entry entries ih =>
    have hkey := length_writeString_pos entry.1
    simp only [List.flatMap_cons, List.length_cons, List.length_append] at ih ⊢
    omega

theorem FillsAll.readStructure {α : Type} {fields : Fields α} {entries : List (String × Bytes)}
    {before after : α} (h : FillsAll fields entries before after)
    (hshort : entries.length < 0x10) (zero : α) :
    Fills (readStructure fields zero) (writeMap entries) before after := by
  intro rest
  have haggregate := spells_aggregate_map hshort
    ((entries.flatMap fun (key, value) => writeString key ++ value) ++ rest)
  have hlength := length_le_flatMap entries
  have hentries := h.readEntries (Nat.le_succ_of_le (Nat.le_trans hlength
    (Nat.le_add_right _ rest.length))) rest
  unfold HeadlessDesktop.readStructure writeMap
  rw [List.cons_append, ← List.singleton_append, haggregate]
  simp only [List.length_append]
  exact hentries

/-! ### Fields -/

theorem fills_unsigned {α : Type} (set : UInt64 → α → α) (value : UInt64) (target : α) :
    Fills (unsignedField set) (writeUnsigned value) target (set value target) := by
  have h := (spells_integer_unsigned value).fills
    (fun n => set (Int64.ofInt n).toUInt64) target
  have hvalue : (Int64.ofInt (value.toNat : Int)).toUInt64 = value := by
    apply UInt64.toBitVec_inj.mp
    simp
  rwa [hvalue] at h

theorem fills_signed {α : Type} (set : Int64 → α → α) (value : Int64) (target : α) :
    Fills (signedField set) (writeSigned value) target (set value target) := by
  have h := (spells_integer_signed value).fills (fun n => set (Int64.ofInt n)) target
  rwa [Int64.ofInt_toInt] at h

theorem fills_kind (widget : Widget) (kind : Kind) :
    Fills kindField (writeBinary (encodeUtf8 kind.name)) widget
      { widget with kind := kind.named } := by
  have hlength : (encodeUtf8 kind.name).length < 0x100 := by
    unfold Kind.name
    repeat' split
    all_goals decide
  intro rest
  have hdata := spells_data_binary hlength rest
  have hkind : Kind.ofBytes? (encodeUtf8 kind.name) = some kind.named := by
    unfold Kind.ofBytes?
    rw [decodeUtf8_encodeUtf8, Kind.ofName?_name]
  unfold kindField
  split
  · rename_i hnil
    simp [writeBinary] at hnil
  · simp only [hdata, hkind]

theorem ofParts_seconds (time : Instant) :
    Instant.ofParts time.seconds.toUInt64.toNat time.nanos.val = { time with offset := 0 } := by
  have hnanos : time.nanos.val / nanosPerSecond = 0 := Nat.div_eq_of_lt time.nanos.isLt
  have hfin : nanosOf time.nanos.val = time.nanos := Fin.ofNat_val_eq_self time.nanos
  have hseconds : Int64.ofNat time.seconds.toUInt64.toNat + Int64.ofNat 0 = time.seconds := by
    apply Int64.toBitVec_inj.mp
    simp
  unfold Instant.ofParts
  rw [hnanos, hfin, hseconds]

theorem spells_instant {code : UInt8} {header bytes : Bytes} {time : Instant}
    (hlength : Spells (extensionLength code.toNat) header bytes.length)
    (htime : Instant.ofTimestampData? bytes = some time) :
    Spells Instant.ofMessagePack (code :: (header ++ timestampType :: bytes)) time := by
  apply (spells_extension hlength).andThen
  rw [htime]
  exact Spells.pure time

theorem ofTimestampData?_four {value : Nat} (h : value < 256 ^ 4) :
    Instant.ofTimestampData? (bigEndian 4 value) = some (.ofParts value 0) := by
  unfold Instant.ofTimestampData?
  rw [length_bigEndian, ofBigEndian_bigEndian h]
  rfl

theorem ofTimestampData?_eight {value : Nat} (h : value < 256 ^ 8) :
    Instant.ofTimestampData? (bigEndian 8 value) =
      some (.ofParts (value % 0x400000000) (value / 0x400000000)) := by
  unfold Instant.ofTimestampData?
  rw [length_bigEndian, ofBigEndian_bigEndian h]
  rfl

theorem ofTimestampData?_twelve {seconds nanos : Nat} (hseconds : seconds < 256 ^ 8)
    (hnanos : nanos < 256 ^ 4) :
    Instant.ofTimestampData? (bigEndian 4 nanos ++ bigEndian 8 seconds) =
      some (.ofParts seconds nanos) := by
  unfold Instant.ofTimestampData?
  rw [List.length_append, length_bigEndian, length_bigEndian]
  change some (Instant.ofParts (ofBigEndian (List.drop 4 _)) (ofBigEndian (List.take 4 _))) = _
  rw [List.drop_left' (length_bigEndian 4 nanos), List.take_left' (length_bigEndian 4 nanos),
    ofBigEndian_bigEndian hseconds, ofBigEndian_bigEndian hnanos]

theorem spells_time (time : Instant) :
    Spells Instant.ofMessagePack time.toMessagePack { time with offset := 0 } := by
  have hnanos : time.nanos.val < 1000000000 := time.nanos.isLt
  have hseconds := time.seconds.toUInt64.toNat_lt
  have hparts := ofParts_seconds time
  unfold Instant.toMessagePack
  dsimp only
  generalize time.seconds.toUInt64.toNat = seconds at hseconds hparts
  generalize time.nanos.val = nanos at hnanos hparts
  split
  · rename_i hsmall
    have hsmall : seconds < 0x400000000 := by simpa using hsmall
    split
    · -- So small a number has no nanoseconds in it.
      rename_i hshort
      have hzero : nanos = 0 := by omega
      have hdata : nanos * 0x400000000 + seconds = seconds := by omega
      rw [hzero] at hparts
      rw [hdata] at hshort ⊢
      refine @spells_instant 0xD6 [] _ _ (Spells.pure 4) ?_
      rw [ofTimestampData?_four hshort, hparts]
    · have hdata : nanos * 0x400000000 + seconds < 256 ^ 8 := by omega
      refine @spells_instant 0xD7 [] _ _ (Spells.pure 8) ?_
      rw [ofTimestampData?_eight hdata, ← hparts]
      congr 2 <;> omega
  · refine @spells_instant 0xC7 [12] _ _ (@spells_unsignedOf 1 12 (by decide)) ?_
    rw [ofTimestampData?_twelve hseconds (by omega), hparts]

theorem fills_time (record : Trace.Record) (time : Instant) :
    Fills timeField time.toMessagePack record
      { record with time := { time with offset := 0 } } := by
  have hfills := (spells_time time).fills
    (fun time (record : Trace.Record) => { record with time }) record
  intro rest
  rw [← hfills rest]
  unfold Instant.toMessagePack
  dsimp only
  repeat' split
  all_goals rfl

/-! ### Widgets and records -/

theorem length_optionalEntry_le (key : String) (present : Bool) (value : Bytes) :
    (optionalEntry key present value).length ≤ 1 := by
  cases present with
  | true => exact Nat.le_refl 1
  | false => exact Nat.zero_le 1

theorem Widget.fillsAll {widget : Widget} (htitle : widget.title.bytes.length < 0x100000000)
    (hlabel : widget.label.bytes.length < 0x100000000) :
    ∃ entries, widget.toMessagePack = writeMap entries ∧ entries.length < 0x10 ∧
      FillsAll widgetFields entries {} { widget with kind := widget.kind.named } := by
  obtain ⟨id, kind, title, label, width, height, parent⟩ := widget
  have hfixed : FillsAll widgetFields
      [("id", writeUnsigned id), ("kind", writeBinary (encodeUtf8 kind.name)),
        ("title", writeString title)] {} { id, kind := kind.named, title } :=
    .cons (by decide) rfl (fills_unsigned _ id _) <|
    .cons (by decide) rfl (fills_kind _ kind) <|
    .single (by decide) rfl ((spells_string htitle).fills _ _)
  have hlabel : FillsAll widgetFields (optionalEntry "label" (label != "") (writeString label))
      { id, kind := kind.named, title } { id, kind := kind.named, title, label } := by
    refine .optional (by decide) rfl ((spells_string hlabel).fills _ _) fun h => ?_
    rw [show label = "" by simpa using h]
  have hwidth : FillsAll widgetFields (optionalEntry "width" (width != 0) (writeSigned width))
      { id, kind := kind.named, title, label } { id, kind := kind.named, title, label, width } := by
    refine .optional (by decide) rfl (fills_signed _ width _) fun h => ?_
    rw [show width = 0 by simpa using h]
  have hheight : FillsAll widgetFields (optionalEntry "height" (height != 0) (writeSigned height))
      { id, kind := kind.named, title, label, width }
      { id, kind := kind.named, title, label, width, height } := by
    refine .optional (by decide) rfl (fills_signed _ height _) fun h => ?_
    rw [show height = 0 by simpa using h]
  have hparent : FillsAll widgetFields
      (optionalEntry "parent" (parent != 0) (writeUnsigned parent))
      { id, kind := kind.named, title, label, width, height }
      { id, kind := kind.named, title, label, width, height, parent } := by
    refine .optional (by decide) rfl (fills_unsigned _ parent _) fun h => ?_
    rw [show parent = 0 by simpa using h]
  refine ⟨_, rfl, ?_, (((hfixed.append hlabel).append hwidth).append hheight).append hparent⟩
  have h1 := length_optionalEntry_le "label" (label != "") (writeString label)
  have h2 := length_optionalEntry_le "width" (width != 0) (writeSigned width)
  have h3 := length_optionalEntry_le "height" (height != 0) (writeSigned height)
  have h4 := length_optionalEntry_le "parent" (parent != 0) (writeUnsigned parent)
  simp only [List.length_append, List.length_cons, List.length_nil]
  omega

theorem fills_widgetField {widget : Widget} {record : Trace.Record} (hnone : record.widget = none)
    (htitle : widget.title.bytes.length < 0x100000000)
    (hlabel : widget.label.bytes.length < 0x100000000) :
    Fills widgetField widget.toMessagePack record
      { record with widget := some { widget with kind := widget.kind.named } } := by
  obtain ⟨entries, hbytes, hshort, hfills⟩ := Widget.fillsAll htitle hlabel
  intro rest
  have hwidget := hfills.readStructure hshort {} rest
  rw [hbytes]
  unfold widgetField
  split
  · -- A map does not begin with the code of nil.
    rename_i heq
    have hcode : UInt8.ofNat (0x80 + entries.length) = 0xC0 := (List.cons.inj heq).1
    have hnat := congrArg UInt8.toNat hcode
    rw [toNat_ofNat_byte (by omega)] at hnat
    change 0x80 + entries.length = 0xC0 at hnat
    omega
  · rw [hnone, Option.getD_none, hwidget]
    rfl

namespace Trace

theorem Record.fillsAll {record : Record}
    (htexts : ∀ text ∈ record.texts, text.bytes.length < 0x100000000) :
    ∃ entries, record.toMessagePack = writeMap entries ∧ entries.length < 0x10 ∧
      FillsAll recordFields entries {}
        { record with
          time := { record.time with offset := 0 }
          widget := record.widget.map fun widget =>
            { widget with kind := widget.kind.named } } := by
  obtain ⟨seq, time, op, widget, message⟩ := record
  have hop : op.bytes.length < 0x100000000 := htexts op (by simp [texts])
  have hmessage : message.bytes.length < 0x100000000 := htexts message (by simp [texts])
  have hfixed : FillsAll recordFields
      [("seq", writeUnsigned seq), ("time", time.toMessagePack), ("op", writeString op)] {}
      { seq, time := { time with offset := 0 }, op } :=
    .cons (by decide) rfl (fills_unsigned _ seq _) <|
    .cons (by decide) rfl (fills_time _ time) <|
    .single (by decide) rfl ((spells_string hop).fills _ _)
  have hlast (shown : Option Widget) : FillsAll recordFields
      (optionalEntry "message" (message != "") (writeString message))
      { seq, time := { time with offset := 0 }, op, widget := shown }
      { seq, time := { time with offset := 0 }, op, widget := shown, message } := by
    refine .optional (by decide) rfl ((spells_string hmessage).fills _ _) fun h => ?_
    rw [show message = "" by simpa using h]
  have hlength := length_optionalEntry_le "message" (message != "") (writeString message)
  cases widget with
  | none =>
    refine ⟨_, rfl, ?_, (hfixed.append (.nil _)).append (hlast none)⟩
    simp only [List.length_append, List.length_cons, List.length_nil]
    omega
  | some widget =>
    have hwidget := @fills_widgetField widget { seq, time := { time with offset := 0 }, op } rfl
      (htexts widget.title (by simp [texts])) (htexts widget.label (by simp [texts]))
    refine ⟨_, rfl, ?_, (hfixed.append (.single (by decide) rfl hwidget)).append (hlast _)⟩
    simp only [List.length_append, List.length_cons, List.length_nil]
    omega

/-- Every record is written as MessagePack and read back, whatever bytes follow it: all is the
same but for the zone, which becomes UTC, and for kinds without a name of their own. -/
theorem messagePack_decode_encode (record : Record) (trailing : Bytes)
    (htexts : ∀ text ∈ record.texts, text.bytes.length < 2 ^ 32) :
    ∃ bytes, Codec.messagePack.encode record = .ok bytes ∧
      Codec.messagePack.decode (bytes ++ trailing) =
        .ok { record with
          time := { record.time with offset := 0 }
          widget := record.widget.map fun widget =>
            { widget with kind := widget.kind.named } } := by
  obtain ⟨entries, hbytes, hshort, hfills⟩ := Record.fillsAll htexts
  refine ⟨record.toMessagePack, rfl, ?_⟩
  change Record.ofMessagePack (record.toMessagePack ++ trailing) = _
  unfold Record.ofMessagePack
  rw [hbytes, hfills.readStructure hshort {} trailing]
  rfl

/-- A record with the earliest second there is, an odd zone, an operation whose byte is part of no
character, a kind without a name, sizes of the widest and of a negative form, and bytes behind
it. -/
theorem messagePack_decode_encode_edge :
    ∃ bytes, Codec.messagePack.encode
        { seq := 0xFFFFFFFFFFFFFFFF
          time := ⟨-0x8000000000000000, 999999999, 5025⟩
          op := ⟨[0xFF]⟩
          widget := some
            { id := 7, kind := ⟨9⟩, title := "ü", width := -129, height := 0x7FFFFFFFFFFFFFFF } } =
        .ok bytes ∧
      Codec.messagePack.decode (bytes ++ [0xC1, 0]) =
        .ok
          { seq := 0xFFFFFFFFFFFFFFFF
            time := ⟨-0x8000000000000000, 999999999, 0⟩
            op := ⟨[0xFF]⟩
            widget := some
              { id := 7
                kind := .generic
                title := "ü"
                width := -129
                height := 0x7FFFFFFFFFFFFFFF } } :=
  messagePack_decode_encode _ _ (by decide +kernel)

end Trace

end HeadlessDesktop
