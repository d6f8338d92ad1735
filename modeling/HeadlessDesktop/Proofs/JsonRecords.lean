import HeadlessDesktop.Proofs.InstantReading
import HeadlessDesktop.Proofs.JsonText
import HeadlessDesktop.Proofs.Utf8Pieces
import HeadlessDesktop.Trace.Codec

/-! Records as JSON and back. A record whose time has a text is written and read again; its zone
keeps whole minutes, and kinds without a name of their own become generic. -/
namespace HeadlessDesktop

open Text Time

/-! ### Fields -/

theorem Json.integer?_int {least most value : Int} (hleast : least ≤ value)
    (hmost : value ≤ most) : (Json.int value).integer? least most = some value := by
  cases value with
  | ofNat n =>
    have hvalue : numeral? 10 (decimal n) = some n := numeral?_toDigits (by decide) (by decide) n
    change integer? least most (.number (decimal n)) = _
    unfold integer?
    dsimp only
    split
    · rename_i digits hsplit
      exact absurd hsplit (decimal_ne_minus n digits)
    · rw [hvalue]
      exact if_pos ⟨hleast, hmost⟩
  | negSucc n =>
    have hvalue : numeral? 10 (decimal (n + 1)) = some (n + 1) :=
      numeral?_toDigits (by decide) (by decide) (n + 1)
    change ((numeral? 10 (decimal (n + 1))).map fun n => -(n : Int)).bind (fun value =>
      if least ≤ value ∧ value ≤ most then some value else none) = _
    rw [hvalue]
    exact if_pos ⟨hleast, hmost⟩

theorem typed_unsigned (value : UInt64) :
    typed Json.unsigned? (.int value.toNat) = .ok value := by
  have hlt := value.toNat_lt
  have hinteger : (Json.int value.toNat).integer? 0 0xFFFFFFFFFFFFFFFF = some (value.toNat : Int) :=
    Json.integer?_int (by omega) (by omega)
  have hread : (Json.int value.toNat).unsigned? = some value := by
    unfold Json.unsigned?
    split
    · rename_i digits hsplit
      have hdigits : decimal value.toNat = '-' :: digits := Json.number.inj hsplit
      exact absurd hdigits (decimal_ne_minus value.toNat digits)
    · rw [hinteger]
      simp
  unfold typed
  rw [hread]

theorem typed_signed (value : Int64) : typed Json.signed? (.int value.toInt) = .ok value := by
  have hread : (Json.int value.toInt).signed? = some value := by
    have hleast := value.le_toInt
    have hmost := value.toInt_lt
    unfold Json.signed?
    rw [Json.integer?_int (by omega) (by omega), Option.map_some, Int64.ofInt_toInt]
  unfold typed
  rw [hread]

theorem typed_string (text : Raw) : typed Json.string? (.string text) = .ok text.shown := by
  unfold typed
  rw [Json.string?_string]

theorem ofJson_name (kind : Kind) : Kind.ofJson (.string kind.name) = .ok kind.named := by
  simp [Kind.ofJson, typed_string, bind, Except.bind]

theorem typed_time {time : Instant} {text : List Char} (h : time.HasText)
    (htext : time.write = .ok text) :
    typed Trace.Record.timeOfJson? (.string (String.ofList text)) = .ok time.inMinutes := by
  have hread : Trace.Record.timeOfJson? (.string (String.ofList text)) = some time.inMinutes := by
    unfold Trace.Record.timeOfJson?
    rw [Json.string?_string, Raw.shown_text, Option.bind_eq_bind, Option.bind_some,
      String.toList_ofList]
    exact Instant.read?_write h htext
  unfold typed
  rw [hread]

/-! ### Members -/

/-- Members that can be written, nested no deeper than `depth`, and that take a target from one
value to another when they are read. -/
structure Restores {α : Type} (assign : Draft α → String → Json → Draft α) (depth : Nat)
    (members : List (String × Json)) (before after : α) : Prop where
  written : ∀ member ∈ members, Json.Written depth member.2
  assigns : members.foldl (fun draft (name, value) => assign draft name value)
    { value := before } = { value := after }

namespace Restores

variable {α β : Type} {assign : Draft α → String → Json → Draft α} {depth : Nat}
  {before between after : α}

theorem nil (target : α) : Restores assign depth [] target target where
  written := fun _ h => absurd h List.not_mem_nil
  assigns := rfl

theorem append {first second : List (String × Json)}
    (hfirst : Restores assign depth first before between)
    (hsecond : Restores assign depth second between after) :
    Restores assign depth (first ++ second) before after where
  written := by
    intro member h
    rcases List.mem_append.mp h with h | h
    · exact hfirst.written member h
    · exact hsecond.written member h
  assigns := by rw [List.foldl_append, hfirst.assigns, hsecond.assigns]

theorem single {name : String} {value : Json} (hwritten : Json.Written depth value)
    (hassign : assign { value := before } name value = { value := after }) :
    Restores assign depth [(name, value)] before after where
  written := by
    intro member h
    rw [List.mem_singleton.mp h]
    exact hwritten
  assigns := hassign

theorem field {name : String} {value : Json} {read : Json → Except DecodeError β} {content : β}
    (set : β → α → α) (hread : read value = .ok content) (hnull : value.isNull = false)
    (hwritten : Json.Written depth value)
    (hassign : ∀ draft value, assign draft name value = draft.assign value read set) :
    Restores assign depth [(name, value)] before (set content before) := by
  apply single hwritten
  rw [hassign]
  unfold Draft.assign
  rw [hnull, hread]
  rfl

theorem optional {name : String} {present : Bool} {value : Json}
    (h : Restores assign depth [(name, value)] before after)
    (habsent : present = false → before = after) :
    Restores assign depth (optionalMember name present value) before after := by
  unfold optionalMember
  cases present with
  | true => exact h
  | false =>
    rw [habsent rfl]
    exact nil after

end Restores

/-! ### Widgets and records -/

/-- Bytes that are part of no character are replaced in each text. -/
def Widget.legible (widget : Widget) : Widget :=
  { widget with title := widget.title.shown, label := widget.label.shown }

def Trace.Record.legible (record : Trace.Record) : Trace.Record :=
  { record with
    op := record.op.shown
    widget := record.widget.map Widget.legible
    message := record.message.shown }

theorem Widget.legible_eq_self {widget : Widget} (htitle : widget.title.text?.isSome)
    (hlabel : widget.label.text?.isSome) : widget.legible = widget := by
  unfold legible
  rw [Raw.text_shown htitle, Raw.text_shown hlabel]

theorem Trace.Record.legible_eq_self {record : Trace.Record}
    (h : ∀ text ∈ record.texts, text.text?.isSome) : record.legible = record := by
  have hwidget : record.widget.map Widget.legible = record.widget := by
    cases hsome : record.widget with
    | none => rfl
    | some widget =>
      have htitle := h widget.title (by simp [texts, hsome])
      have hlabel := h widget.label (by simp [texts, hsome])
      rw [Option.map_some, Widget.legible_eq_self htitle hlabel]
  have hop := h record.op (by simp [texts])
  have hmessage := h record.message (by simp [texts])
  unfold legible
  rw [hwidget, Raw.text_shown hop, Raw.text_shown hmessage]

theorem Widget.restores (widget : Widget) (depth : Nat) :
    ∃ members, widget.toJson = .object members ∧
      Restores Widget.assignMember depth members {}
        { widget.legible with kind := widget.kind.named } := by
  obtain ⟨id, kind, title, label, width, height, parent⟩ := widget
  have hid : Restores Widget.assignMember depth [("id", .int id.toNat)] {} { id } :=
    .field (fun id (w : Widget) => { w with id }) (typed_unsigned id) rfl
      (.int _) fun _ _ => rfl
  have hkind : Restores Widget.assignMember depth [("kind", .string kind.name)]
      { id } { id, kind := kind.named } :=
    .field (fun kind (w : Widget) => { w with kind }) (ofJson_name kind) rfl
      (.string _) fun _ _ => rfl
  have htitle : Restores Widget.assignMember depth [("title", .string title)]
      { id, kind := kind.named } { id, kind := kind.named, title := title.shown } :=
    .field (fun (title : String) (w : Widget) => { w with title }) (typed_string title) rfl
      (.string _) fun _ _ => rfl
  have hlabel : Restores Widget.assignMember depth
      (optionalMember "label" (label != "") (.string label))
      { id, kind := kind.named, title := title.shown }
      { id, kind := kind.named, title := title.shown, label := label.shown } := by
    refine .optional (.field (fun (label : String) (w : Widget) => { w with label })
      (typed_string label) rfl (.string _) fun _ _ => rfl) fun h => ?_
    rw [show label = "" by simpa using h, Raw.shown_text]
  have hwidth : Restores Widget.assignMember depth
      (optionalMember "width" (width != 0) (.int width.toInt))
      { id, kind := kind.named, title := title.shown, label := label.shown }
      { id, kind := kind.named, title := title.shown, label := label.shown, width } := by
    refine .optional (.field (fun width (w : Widget) => { w with width }) (typed_signed width)
      rfl (.int _) fun _ _ => rfl) fun h => ?_
    rw [show width = 0 by simpa using h]
  have hheight : Restores Widget.assignMember depth
      (optionalMember "height" (height != 0) (.int height.toInt))
      { id, kind := kind.named, title := title.shown, label := label.shown, width }
      { id, kind := kind.named, title := title.shown, label := label.shown, width, height } := by
    refine .optional (.field (fun height (w : Widget) => { w with height }) (typed_signed height)
      rfl (.int _) fun _ _ => rfl) fun h => ?_
    rw [show height = 0 by simpa using h]
  have hparent : Restores Widget.assignMember depth
      (optionalMember "parent" (parent != 0) (.int parent.toNat))
      { id, kind := kind.named, title := title.shown, label := label.shown, width, height }
      { id, kind := kind.named, title := title.shown, label := label.shown, width, height,
        parent } := by
    refine .optional (.field (fun parent (w : Widget) => { w with parent }) (typed_unsigned parent)
      rfl (.int _) fun _ _ => rfl) fun h => ?_
    rw [show parent = 0 by simpa using h]
  have hfixed := (hid.append hkind).append htitle
  exact ⟨_, rfl, (((hfixed.append hlabel).append hwidth).append hheight).append hparent⟩

namespace Trace

theorem Record.restores_widget (widget : Widget) {record : Record} (hnone : record.widget = none)
    (depth : Nat) : Restores Record.assignMember (depth + 1) [("widget", widget.toJson)] record
      { record with widget := some { widget.legible with kind := widget.kind.named } } := by
  obtain ⟨members, hjson, hmembers⟩ := widget.restores depth
  rw [hjson]
  apply Restores.single (.object hmembers.written)
  change Record.assignWidget { value := record } (.object members) = _
  unfold Record.assignWidget
  dsimp only
  rw [hnone, Option.getD_none, hmembers.assigns]

theorem Record.restores {record : Record} {text : List Char} (h : record.time.HasText)
    (htext : record.time.write = .ok text) (depth : Nat) :
    ∃ members, record.toJson = .ok (.object members) ∧
      Restores Record.assignMember (depth + 1) members {}
        { record.legible with
          time := record.time.inMinutes
          widget := record.legible.widget.map fun widget =>
            { widget with kind := widget.kind.named } } := by
  obtain ⟨seq, time, op, widget, message⟩ := record
  have hseq : Restores Record.assignMember (depth + 1) [("seq", .int seq.toNat)] {} { seq } :=
    .field (fun seq (r : Record) => { r with seq }) (typed_unsigned seq) rfl
      (.int _) fun _ _ => rfl
  have htime : Restores Record.assignMember (depth + 1)
      [("time", .string (String.ofList text))] { seq } { seq, time := time.inMinutes } :=
    .field (fun time (r : Record) => { r with time }) (typed_time h htext) rfl
      (.string _) fun _ _ => rfl
  have hop : Restores Record.assignMember (depth + 1) [("op", .string op)]
      { seq, time := time.inMinutes } { seq, time := time.inMinutes, op := op.shown } :=
    .field (fun (op : String) (r : Record) => { r with op }) (typed_string op) rfl
      (.string _) fun _ _ => rfl
  have hmessage (shown : Option Widget) : Restores Record.assignMember (depth + 1)
      (optionalMember "message" (message != "") (.string message))
      { seq, time := time.inMinutes, op := op.shown, widget := shown }
      { seq, time := time.inMinutes, op := op.shown, widget := shown,
        message := message.shown } := by
    refine .optional (.field (fun (message : String) (r : Record) => { r with message })
      (typed_string message) rfl (.string _) fun _ _ => rfl) fun h => ?_
    rw [show message = "" by simpa using h, Raw.shown_text]
  have hfixed := (hseq.append htime).append hop
  unfold Record.toJson
  dsimp only at htext
  rw [htext]
  cases widget with
  | none => exact ⟨_, rfl, (hfixed.append (.nil _)).append (hmessage none)⟩
  | some widget =>
    have hwidget := Record.restores_widget widget
      (show ({ seq, time := time.inMinutes, op := op.shown } : Record).widget = none from rfl) depth
    exact ⟨_, rfl, (hfixed.append hwidget).append (hmessage _)⟩

theorem encode_error_iff (record : Record) :
    (∃ why, Codec.json.encode record = .error why) ↔ ¬ record.time.HasText := by
  constructor
  · rintro ⟨why, hwhy⟩ h
    obtain ⟨members, hjson, -⟩ := Record.restores h (Instant.write_of_hasText h) 0
    unfold Codec.encode at hwhy
    rw [hjson] at hwhy
    cases hwhy
  · intro h
    obtain ⟨why, hwhy⟩ := Instant.write_of_not_hasText h
    refine ⟨why, ?_⟩
    unfold Codec.encode Record.toJson
    rw [hwhy]
    rfl

theorem decode_encode_json {record : Record} (h : record.time.HasText) :
    ∃ bytes, Codec.json.encode record = .ok bytes ∧
      Codec.json.decode bytes =
        .ok { record.legible with
          time := record.time.inMinutes
          widget := record.legible.widget.map fun widget =>
            { widget with kind := widget.kind.named } } := by
  obtain ⟨members, hjson, hmembers⟩ := Record.restores h (Instant.write_of_hasText h) 9998
  have hread : Json.read? (Json.object members).write = some (.object members) :=
    Json.read?_write (.object hmembers.written)
  refine ⟨encodeUtf8 (Json.object members).text, ?_, ?_⟩
  · unfold Codec.encode
    rw [hjson]
    rfl
  · unfold Codec.decode Json.text
    rw [decodeUtf8_encodeUtf8, String.toList_ofList, hread]
    change Record.ofJson (.object members) = _
    unfold Record.ofJson
    dsimp only
    rw [hmembers.assigns]

/-- A record is refused by the writer exactly if its local year has not four digits or its zone
is a day or more. Every other record is written and read back: all is the same but for kinds
without a name of their own and for bytes that are part of no character, and the clock on the wall
is, in a zone cut to whole minutes. -/
theorem json_decode_encode (record : Record) :
    ((∃ why, Codec.json.encode record = .error why) ↔
      record.time.localYear < 0 ∨ 9999 < record.time.localYear ∨
        24 * 60 * 60 ≤ record.time.offset.natAbs) ∧
    (0 ≤ record.time.localYear → record.time.localYear ≤ 9999 →
      record.time.offset.natAbs < 24 * 60 * 60 →
      ∃ bytes time, Codec.json.encode record = .ok bytes ∧
        Codec.json.decode bytes =
          .ok { record.legible with
            time
            widget := record.legible.widget.map fun widget =>
              { widget with kind := widget.kind.named } } ∧
        ((∀ text ∈ record.texts, text.text?.isSome) → record.legible = record) ∧
        time.localSeconds = record.time.localSeconds ∧
        time.nanos = record.time.nanos ∧
        time.offset = record.time.offset.tdiv 60 * 60 ∧
        (record.time.offset % 60 = 0 → time = record.time)) := by
  constructor
  · rw [encode_error_iff]
    unfold Instant.HasText
    omega
  · intro hlow hhigh hzone
    have htext : record.time.HasText := ⟨hlow, hhigh, hzone⟩
    obtain ⟨bytes, hencode, hdecode⟩ := decode_encode_json htext
    exact ⟨bytes, record.time.inMinutes, hencode, hdecode, Record.legible_eq_self,
      Instant.localSeconds_inMinutes htext, rfl, rfl, Instant.inMinutes_eq_self htext⟩

def Record.yearZero : Record where
  seq := 0xFFFFFFFFFFFFFFFF
  time := ⟨-62167213770, nanosOf 1, -5430⟩
  op := "<\u2028\"\\"
  widget := some
    { id := 7
      kind := ⟨9⟩
      title := "ü"
      width := -0x8000000000000000
      height := 0x7FFFFFFFFFFFFFFF }

theorem json_decode_encode_yearZero :
    ∃ bytes time, Codec.json.encode .yearZero = .ok bytes ∧
      Codec.json.decode bytes =
        .ok { Record.yearZero with
          time
          widget := Record.yearZero.widget.map fun widget => { widget with kind := .generic } } ∧
      time.localSeconds = -62167219200 ∧ time.nanos = 1 ∧ time.offset = -5400 := by
  obtain ⟨bytes, time, hencode, hdecode, hlegible, hlocal, hnanos, hoffset, -⟩ :=
    (json_decode_encode .yearZero).2 (by decide) (by decide) (by decide)
  rw [hlegible (by decide +kernel)] at hdecode
  exact ⟨bytes, time, hencode, hdecode, hlocal, hnanos, hoffset⟩

end Trace

end HeadlessDesktop
