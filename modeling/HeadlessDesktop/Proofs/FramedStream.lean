import HeadlessDesktop.Proofs.JsonRecords
import HeadlessDesktop.Proofs.MessagePackRecords
import HeadlessDesktop.Trace.Sink

/-! Streams of framed records. A frame is read back whatever follows it, so that a stream that
was cut off anywhere gives the records of the frames before the cut. -/
namespace HeadlessDesktop.Trace

open Text MessagePack

def frame (body : Bytes) : Bytes := frameHeader body ++ body

@[simp] theorem length_frameHeader (body : Bytes) : (frameHeader body).length = 4 :=
  length_bigEndian 4 body.length

@[simp] theorem length_frame (body : Bytes) : (frame body).length = 4 + body.length := by
  simp [frame]

theorem ofBigEndian_frameHeader {body : Bytes} (hshort : body.length < 2 ^ 32) :
    ofBigEndian (frameHeader body) = body.length :=
  ofBigEndian_bigEndian (by simpa using hshort)

/-! ### Bodies -/

/-- A body that its header can announce and that holds a record. -/
structure Framable (codec : Codec) (body : Bytes) : Prop where
  short : body.length < 2 ^ 32
  decodes : ∃ record, codec.decode body = .ok record

theorem length_le_writeMap {entries : List (String × Bytes)} (key : String) {value : Bytes}
    (h : (key, value) ∈ entries) : value.length ≤ (writeMap entries).length := by
  have hpart : writeString key ++ value ∈ entries.map fun entry => writeString entry.1 ++ entry.2 :=
    List.mem_map.mpr ⟨(key, value), h, rfl⟩
  have hlength := (List.sublist_flatten_of_mem hpart).length_le
  rw [List.length_append] at hlength
  simp only [writeMap, List.length_cons, List.flatMap_def]
  omega

theorem length_bytes_le (text : Raw) : text.bytes.length ≤ (writeString text).length := by
  simp [writeString]

theorem length_le_optional {text : Raw} {entries : List (String × Bytes)} (key : String)
    (h : ∀ entry ∈ optionalEntry key (text != "") (writeString text), entry ∈ entries) :
    text.bytes.length ≤ (writeMap entries).length := by
  by_cases hempty : text = ""
  · subst hempty
    rw [Raw.bytes_text]
    exact Nat.zero_le _
  · have hentry : (key, writeString text) ∈ entries := by
      apply h
      simp [optionalEntry, hempty]
    exact (length_bytes_le text).trans (length_le_writeMap key hentry)

theorem length_widgetText_le (widget : Widget) :
    ∀ text ∈ [widget.title, widget.label],
      text.bytes.length ≤ widget.toMessagePack.length := by
  intro text h
  rcases List.mem_cons.mp h with rfl | h
  · apply (length_bytes_le widget.title).trans
    apply length_le_writeMap "title"
    simp
  · rw [List.mem_singleton.mp h]
    apply length_le_optional "label"
    intro entry hentry
    simp [hentry]

theorem length_recordText_le (record : Record) :
    ∀ text ∈ record.texts, text.bytes.length ≤ record.toMessagePack.length := by
  intro text h
  unfold Record.texts at h
  rcases List.mem_cons.mp h with rfl | h
  · apply (length_bytes_le record.op).trans
    apply length_le_writeMap "op"
    simp
  rcases List.mem_cons.mp h with rfl | h
  · apply length_le_optional "message"
    intro entry hentry
    simp [hentry]
  · cases hwidget : record.widget with
    | none => simp [hwidget] at h
    | some widget =>
      rw [hwidget] at h
      apply (length_widgetText_le widget text h).trans
      apply length_le_writeMap "widget"
      simp [hwidget]

theorem Framable.of_encode {codec : Codec} {record : Record} {body : Bytes}
    (hencode : codec.encode record = .ok body) (hshort : body.length < 2 ^ 32) :
    Framable codec body where
  short := hshort
  decodes := by
    cases codec with
    | json =>
      have htext : record.time.HasText := by
        by_contra h
        obtain ⟨why, hwhy⟩ := (encode_error_iff record).mpr h
        rw [hencode] at hwhy
        cases hwhy
      obtain ⟨bytes, hbytes, hdecode⟩ := decode_encode_json htext
      rw [hencode] at hbytes
      cases hbytes
      exact ⟨_, hdecode⟩
    | messagePack =>
      cases hencode
      have htexts : ∀ text ∈ record.texts, text.bytes.length < 0x100000000 :=
        fun text h => Nat.lt_of_le_of_lt (length_recordText_le record text h) hshort
      obtain ⟨entries, hbytes, hfew, hfills⟩ := Record.fillsAll htexts
      have hread := hfills.readStructure hfew {} []
      rw [List.append_nil, ← hbytes] at hread
      exact ⟨_, by simp [Codec.decode, Record.ofMessagePack, hread, bind, Except.bind]; rfl⟩

theorem Framable.ne_nil {codec : Codec} {body : Bytes} (h : Framable codec body) :
    body ≠ [] := by
  rintro rfl
  obtain ⟨record, hrecord⟩ := h.decodes
  cases codec with
  | json => cases hrecord
  | messagePack => cases hrecord

/-! ### Reading -/

theorem readExactly_append (bytes rest : Bytes) :
    readExactly bytes.length (bytes ++ rest) = (.ok bytes, rest) := by
  simp [readExactly]

theorem readExactly_of_lt {count : Nat} {stream : Bytes} (h : stream.length < count) :
    readExactly count stream = (.error (if stream = [] then .ended else .cut), []) := by
  simp [readExactly, h]

theorem readFrame_header {body : Bytes} (hshort : body.length < 2 ^ 32) (codec : Codec)
    (rest : Bytes) :
    readFrame codec (frameHeader body ++ rest) =
      match readExactly body.length rest with
      | (.error why, rest) => (.error why, rest)
      | (.ok body, rest) => ((codec.decode body).mapError .ofDecodeError, rest) := by
  have hheader := readExactly_append (frameHeader body) rest
  rw [length_frameHeader] at hheader
  rcases hread : readExactly body.length rest with ⟨why | read, left⟩ <;>
    simp [readFrame, hheader, ofBigEndian_frameHeader hshort, hread]

theorem readFrame_frame {body : Bytes} (hshort : body.length < 2 ^ 32) (codec : Codec)
    (rest : Bytes) :
    readFrame codec (frame body ++ rest) =
      ((codec.decode body).mapError .ofDecodeError, rest) := by
  unfold frame
  rw [List.append_assoc, readFrame_header hshort, readExactly_append]

theorem length_readExactly {count : Nat} {stream bytes rest : Bytes}
    (h : readExactly count stream = (.ok bytes, rest)) : stream.length = count + rest.length := by
  unfold readExactly at h
  split at h
  · obtain ⟨-, rfl⟩ := Prod.mk.inj h
    rw [List.length_drop]
    omega
  · cases h

theorem length_readFrame {codec : Codec} {stream rest : Bytes} {record : Record}
    (h : readFrame codec stream = (.ok record, rest)) : rest.length < stream.length := by
  unfold readFrame at h
  split at h
  · cases h
  · rename_i header behind hheader
    split at h
    · cases h
    · rename_i body left hbody
      obtain ⟨-, rfl⟩ := Prod.mk.inj h
      have hfirst := length_readExactly hheader
      have hsecond := length_readExactly hbody
      omega

theorem replayWithin_of_lt {codec : Codec} {fuel more : Nat} {stream : Bytes}
    (hfuel : stream.length < fuel) (hmore : stream.length < more) :
    replayWithin codec fuel stream = replayWithin codec more stream := by
  induction fuel generalizing more stream with
  | zero => omega
  | succ fuel ih =>
    cases more with
    | zero => omega
    | succ more =>
      unfold replayWithin
      split
      · rfl
      · rename_i record rest hread
        have hlength := length_readFrame hread
        rw [@ih more rest (by omega) (by omega)]

theorem replay_of_error {codec : Codec} {stream rest : Bytes} {why : StreamEnd}
    (h : readFrame codec stream = (.error why, rest)) : replay codec stream = ⟨[], why, rest⟩ := by
  unfold replay replayWithin
  rw [h]

theorem replay_of_ok {codec : Codec} {stream rest : Bytes} {record : Record}
    (h : readFrame codec stream = (.ok record, rest)) :
    replay codec stream =
      { replay codec rest with records := record :: (replay codec rest).records } := by
  have hlength := length_readFrame h
  unfold replay
  rw [@replayWithin_of_lt codec (rest.length + 1) stream.length rest (by omega) hlength]
  conv_lhs => unfold replayWithin
  rw [h]

@[simp] theorem replay_nil (codec : Codec) : replay codec [] = ⟨[], .ended, []⟩ :=
  replay_of_error rfl

theorem replay_frame {codec : Codec} {body : Bytes} {record : Record}
    (hshort : body.length < 2 ^ 32) (hdecode : codec.decode body = .ok record) (rest : Bytes) :
    replay codec (frame body ++ rest) =
      { replay codec rest with records := record :: (replay codec rest).records } := by
  apply replay_of_ok
  rw [readFrame_frame hshort, hdecode]
  rfl

theorem replay_take_frame {body : Bytes} {count : Nat} (hshort : body.length < 2 ^ 32)
    (hcut : count < 4 + body.length) (codec : Codec) :
    replay codec ((frame body).take count) =
      ⟨[], if count = 0 ∨ count = 4 then .ended else .cut, []⟩ := by
  apply replay_of_error
  by_cases hheader : count < 4
  · -- Not even the header is there.
    have hlength : ((frame body).take count).length = count := by simp; omega
    have hread := @readExactly_of_lt 4 ((frame body).take count) (by omega)
    unfold readFrame
    rw [hread]
    simp only [← List.length_eq_zero_iff, hlength]
    simp [show count ≠ 4 by omega]
  · have hlength : (body.take (count - 4)).length = count - 4 := by simp; omega
    have hread := @readExactly_of_lt body.length (body.take (count - 4)) (by omega)
    unfold frame
    rw [List.take_append, length_frameHeader, List.take_of_length_le (by simp; omega),
      readFrame_header hshort, hread]
    simp only [← List.length_eq_zero_iff, hlength]
    simp [show count ≠ 0 by omega, show count - 4 = 0 ↔ count = 4 by omega]

/-! ### Streams that are cut -/

def frameEnds : (start : Nat) → List Bytes → List (Bytes × Nat)
  | _, [] => []
  | start, body :: rest =>
    let stop := start + (frame body).length
    (body, stop) :: frameEnds stop rest

def boundaries (start : Nat) (bodies : List Bytes) : List Nat :=
  start :: (frameEnds start bodies).map Prod.snd

/-- At a boundary, and behind a header, nothing of what comes next is there. -/
def EndsAt (start : Nat) (bodies : List Bytes) (place : Nat) : Prop :=
  ∃ boundary ∈ boundaries start bodies, place = boundary ∨ place = boundary + 4

instance (start : Nat) (bodies : List Bytes) (place : Nat) :
    Decidable (EndsAt start bodies place) :=
  inferInstanceAs (Decidable (∃ boundary ∈ boundaries start bodies,
    place = boundary ∨ place = boundary + 4))

theorem boundaries_cons (start : Nat) (body : Bytes) (rest : List Bytes) :
    boundaries start (body :: rest) = start :: boundaries (start + (frame body).length) rest :=
  rfl

theorem le_of_mem_boundaries {start place : Nat} {bodies : List Bytes}
    (h : place ∈ boundaries start bodies) : start ≤ place := by
  induction bodies generalizing start with
  | nil =>
    rw [List.mem_singleton.mp h]
  | cons body rest ih =>
    rw [boundaries_cons] at h
    rcases List.mem_cons.mp h with rfl | h
    · exact Nat.le_refl _
    · exact (Nat.le_add_right _ _).trans (ih h)

theorem endsAt_cons_of_lt {start place : Nat} {body : Bytes} {rest : List Bytes}
    (h : place < start + (frame body).length) :
    EndsAt start (body :: rest) place ↔ place = start ∨ place = start + 4 := by
  unfold EndsAt
  rw [boundaries_cons]
  constructor
  · rintro ⟨boundary, hboundary, hplace⟩
    rcases List.mem_cons.mp hboundary with rfl | hlater
    · exact hplace
    · have := le_of_mem_boundaries hlater
      omega
  · intro hplace
    exact ⟨start, List.mem_cons_self, hplace⟩

theorem endsAt_cons_of_le {start place : Nat} {body : Bytes} {rest : List Bytes}
    (hbody : body ≠ []) (h : start + (frame body).length ≤ place) :
    EndsAt start (body :: rest) place ↔ EndsAt (start + (frame body).length) rest place := by
  have hlength := List.length_pos_iff.mpr hbody
  rw [length_frame] at h
  unfold EndsAt
  rw [boundaries_cons]
  constructor
  · rintro ⟨boundary, hboundary, hplace⟩
    rcases List.mem_cons.mp hboundary with rfl | hlater
    · omega
    · exact ⟨boundary, hlater, hplace⟩
  · rintro ⟨boundary, hboundary, hplace⟩
    exact ⟨boundary, List.mem_cons_of_mem _ hboundary, hplace⟩

theorem filter_frameEnds_of_lt {start place : Nat} {body : Bytes} {rest : List Bytes}
    (h : place < start + (frame body).length) :
    ((frameEnds start (body :: rest)).filter fun (_, stop) => stop ≤ place) = [] := by
  rw [List.filter_eq_nil_iff]
  intro entry hentry
  have hboundary : entry.2 ∈ boundaries (start + (frame body).length) rest :=
    List.mem_map_of_mem hentry
  have := le_of_mem_boundaries hboundary
  simp only [decide_eq_true_eq]
  omega

/-- What the first bytes of a stream of frames give: the frames that end within them, and
no byte is left. -/
theorem replay_take_frames {codec : Codec} {bodies : List Bytes}
    (hbodies : ∀ body ∈ bodies, Framable codec body) (start count : Nat)
    (hcount : count ≤ (bodies.flatMap frame).length) :
    let read := replay codec ((bodies.flatMap frame).take count)
    read.records.map .ok =
        ((frameEnds start bodies).filter fun (_, stop) => stop ≤ start + count).map
          (fun (body, _) => codec.decode body) ∧
      (read.stop = .ended ↔ EndsAt start bodies (start + count)) ∧
      (read.stop = .cut ↔ ¬ EndsAt start bodies (start + count)) ∧
      read.left = [] := by
  induction bodies generalizing start count with
  | nil =>
    have hzero : count = 0 := by simpa using hcount
    subst hzero
    simp [frameEnds, EndsAt, boundaries]
  | cons body rest ih =>
    have hbody := hbodies body List.mem_cons_self
    rw [List.flatMap_cons, List.length_append] at hcount
    rw [List.flatMap_cons]
    by_cases hcut : count < (frame body).length
    · rw [List.take_append_of_le_length hcut.le,
        replay_take_frame hbody.short (by simpa using hcut), filter_frameEnds_of_lt (by omega),
        endsAt_cons_of_lt (by omega)]
      by_cases hend : count = 0 ∨ count = 4
      · simp [hend]
      · simp [hend]
    · obtain ⟨record, hrecord⟩ := hbody.decodes
      have hlater := ih (fun body h => hbodies body (List.mem_cons_of_mem _ h))
        (start + (frame body).length) (count - (frame body).length) (by omega)
      have hplace : start + (frame body).length + (count - (frame body).length) =
          start + count := by omega
      rw [hplace] at hlater
      obtain ⟨hrecords, hended, hcutoff, hleft⟩ := hlater
      rw [List.take_append, List.take_of_length_le (by omega),
        replay_frame hbody.short hrecord, endsAt_cons_of_le hbody.ne_nil (by omega)]
      refine ⟨?_, hended, hcutoff, hleft⟩
      simp only [frameEnds, List.map_cons, hrecords, List.filter_cons]
      rw [if_pos (decide_eq_true (by omega)), List.map_cons, hrecord]

/-! ### Writing -/

/-- What is stored of a frame: nothing, its header alone, or all of it. -/
inductive Deposit
  | nothing
  | header (body : Bytes)
  | whole (body : Bytes)
deriving DecidableEq, Repr

namespace Deposit

def bytes : Deposit → Bytes
  | .nothing => []
  | .header body => frameHeader body
  | .whole body => frame body

def body? : Deposit → Option Bytes
  | .whole body => some body
  | _ => none

end Deposit

def Writer.deposit (writer : Writer) (body : Bytes) : Deposit :=
  if writer.accepting (frameHeader body) then
    if (writer.write (frameHeader body)).accepting body then .whole body else .header body
  else .nothing

@[simp] theorem accepts_write (writer : Writer) (chunk : Bytes) :
    (writer.write chunk).accepts = writer.accepts := rfl

theorem accepts_writeFrame (writer : Writer) (body : Bytes) :
    (writeFrame writer body).accepts = writer.accepts := by
  unfold writeFrame
  split <;> simp

theorem stored_writeFrame (writer : Writer) (body : Bytes) :
    (writeFrame writer body).stored = writer.stored ++ (writer.deposit body).bytes := by
  unfold writeFrame Writer.deposit
  by_cases hheader : writer.accepting (frameHeader body)
  · have hstored : (writer.write (frameHeader body)).stored =
        writer.stored ++ frameHeader body := by
      simp [Writer.write, hheader]
    rw [if_pos hheader, if_pos hheader]
    by_cases hbody : (writer.write (frameHeader body)).accepting body
    · simp only [Writer.write.eq_def (writer.write (frameHeader body)), hbody, if_true, hstored,
        Deposit.bytes, frame, List.append_assoc]
    · simp only [Writer.write.eq_def (writer.write (frameHeader body)), hbody, if_false, hstored,
        Deposit.bytes, Bool.false_eq_true]
  · simp [hheader, Writer.write, Deposit.bytes]

def Sink.emitAll (sink : Sink) : List Record → Sink × List Report
  | [] => (sink, [])
  | record :: rest =>
    let (sink, reports) := sink.emit record
    let (sink, more) := sink.emitAll rest
    (sink, reports ++ more)

theorem Sink.emitAll_append (sink : Sink) (first second : List Record) :
    (sink.emitAll (first ++ second)).1 = ((sink.emitAll first).1.emitAll second).1 := by
  induction first generalizing sink with
  | nil => rfl
  | cons record rest ih => exact ih (sink.emit record).1

namespace Codec

def bodies (codec : Codec) (records : List Record) : List Bytes :=
  records.filterMap fun record => (codec.encode record).toOption

def complaints (codec : Codec) (records : List Record) : List Report :=
  records.filterMap fun record => match codec.encode record with
    | .ok _ => none
    | .error why => some (unencodableReport codec why)

end Codec

def deposits : Writer → List Bytes → List Deposit
  | _, [] => []
  | writer, body :: rest => writer.deposit body :: deposits (writeFrame writer body) rest

theorem emitAll_framed (codec : Codec) (writer : Writer) (records : List Record) :
    ∃ after, (Sink.framed codec writer).emitAll records =
        (.framed codec after, codec.complaints records) ∧
      after.stored =
        writer.stored ++ (deposits writer (codec.bodies records)).flatMap Deposit.bytes := by
  induction records generalizing writer with
  | nil => exact ⟨writer, rfl, (List.append_nil _).symm⟩
  | cons record rest ih =>
    cases hencode : codec.encode record with
    | error why =>
      obtain ⟨after, hemit, hstored⟩ := ih writer
      refine ⟨after, ?_, ?_⟩
      · simp [Sink.emitAll, Sink.emit, hencode, hemit, Codec.complaints]
      · simp [Codec.bodies, hencode, hstored, Except.toOption]
    | ok body =>
      obtain ⟨after, hemit, hstored⟩ := ih (writeFrame writer body)
      refine ⟨after, ?_, ?_⟩
      · simp [Sink.emitAll, Sink.emit, hencode, hemit, Codec.complaints]
      · rw [hstored, stored_writeFrame]
        simp [Codec.bodies, hencode, Except.toOption, deposits]

def Writer.Reliable (writer : Writer) : Prop :=
  ∀ attempts stored chunk, writer.accepts attempts stored chunk = true

theorem Writer.Reliable.deposits {writer : Writer} (reliable : writer.Reliable)
    (bodies : List Bytes) : deposits writer bodies = bodies.map .whole := by
  induction bodies generalizing writer with
  | nil => rfl
  | cons body rest ih =>
    have hwhole : writer.deposit body = .whole body := by
      simp [Writer.deposit, Writer.accepting, reliable _ _ _]
    have hlater : (writeFrame writer body).Reliable := by
      unfold Writer.Reliable
      rw [accepts_writeFrame]
      exact reliable
    simp [Trace.deposits, hwhole, ih hlater]

theorem framable_bodies {codec : Codec} {records : List Record}
    (hshort : ∀ body ∈ codec.bodies records, body.length < 2 ^ 32) :
    ∀ body ∈ codec.bodies records, Framable codec body := by
  intro body hbody
  obtain ⟨record, -, hencode⟩ := List.mem_filterMap.mp hbody
  apply Framable.of_encode _ (hshort body hbody)
  · exact record
  · cases h : codec.encode record with
    | error why => simp [h, Except.toOption] at hencode
    | ok bytes => simpa [h, Except.toOption] using hencode

/-- Records are emitted to a writer that takes everything. Those that cannot be written leave
no byte and one report each. Of the first bytes of the stream, however many they are, each
frame that lies within them is read back, in order and nothing else; no byte of them is left,
and the stream has ended if they stop between two frames or right behind a header, and is cut
anywhere else. -/
theorem replay_of_cut_stream (codec : Codec) (writer : Writer) (records : List Record)
    (reliable : writer.Reliable) (fresh : writer.stored = [])
    (short : ∀ body ∈ codec.bodies records, body.length < 2 ^ 32) :
    ∃ after, (Sink.framed codec writer).emitAll records =
        (.framed codec after, codec.complaints records) ∧
      after.stored = (codec.bodies records).flatMap frame ∧
      ∀ count ≤ after.stored.length,
        let read := replay codec (after.stored.take count)
        read.records.map .ok =
            ((frameEnds 0 (codec.bodies records)).filter fun (_, stop) => stop ≤ count).map
              (fun (body, _) => codec.decode body) ∧
          read.left = [] ∧
          (read.stop = .ended ↔ EndsAt 0 (codec.bodies records) count) ∧
          (read.stop = .cut ↔ ¬ EndsAt 0 (codec.bodies records) count) := by
  obtain ⟨after, hemit, hstored⟩ := emitAll_framed codec writer records
  have hframes : after.stored = (codec.bodies records).flatMap frame := by
    rw [hstored, fresh, reliable.deposits, List.flatMap_map]
    rfl
  refine ⟨after, hemit, hframes, ?_⟩
  intro count hcount
  rw [hframes] at hcount ⊢
  obtain ⟨hrecords, hended, hcut, hleft⟩ :=
    replay_take_frames (framable_bodies short) 0 count hcount
  rw [Nat.zero_add] at hrecords hended hcut
  exact ⟨hrecords, hleft, hended, hcut⟩

theorem replay_of_cut_stream_behind_header :
    let records : List Record :=
      [{ time := ⟨253402300800, 0, 0⟩, op := "init" },
        { seq := 1, time := .epoch, op := "main" }, { seq := 2, time := .epoch, op := "main" }]
    (∀ body ∈ Codec.json.bodies records, body.length < 2 ^ 32) ∧
      ∃ after, (Sink.framed .json {}).emitAll records =
          (.framed .json after, [unencodableReport .json .year]) ∧
        after.stored.length = 110 ∧
        (replay .json (after.stored.take 59)).records.length = 1 ∧
        (replay .json (after.stored.take 59)).left = [] ∧
        (replay .json (after.stored.take 59)).stop = .ended ∧
        (replay .json (after.stored.take 60)).stop = .cut := by
  intro records
  have hlengths : (Codec.json.bodies records).map List.length = [51, 51] := by decide +kernel
  obtain ⟨first, second, hbodies, hfirst, hsecond⟩ : ∃ first second,
      Codec.json.bodies records = [first, second] ∧ first.length = 51 ∧ second.length = 51 := by
    obtain ⟨first, rest, hbodies, hfirst, hrest⟩ := List.map_eq_cons_iff.mp hlengths
    obtain ⟨second, none, rfl, hsecond, hnone⟩ := List.map_eq_cons_iff.mp hrest
    rw [List.map_eq_nil_iff] at hnone
    exact ⟨first, second, by rw [hbodies, hnone], hfirst, hsecond⟩
  have hshort : ∀ body ∈ Codec.json.bodies records, body.length < 2 ^ 32 := by
    simp [hbodies, hfirst, hsecond]
  obtain ⟨after, hemit, hstored, hread⟩ :=
    replay_of_cut_stream .json {} records (fun _ _ _ => rfl) rfl hshort
  have hlength : after.stored.length = 110 := by
    simp [hstored, hbodies, hfirst, hsecond]
  obtain ⟨hrecords, hleft, hended, -⟩ := hread 59 (by omega)
  obtain ⟨-, -, -, hcut⟩ := hread 60 (by omega)
  have hcount := congrArg List.length hrecords
  rw [List.length_map, List.length_map] at hcount
  refine ⟨hshort, after, hemit, hlength, hcount.trans ?_, hleft, hended.mpr ?_, hcut.mpr ?_⟩
  · simp [hbodies, frameEnds, hfirst, hsecond]
  · simp [EndsAt, boundaries, hbodies, frameEnds, hfirst, hsecond]
  · simp [EndsAt, boundaries, hbodies, frameEnds, hfirst, hsecond]

end HeadlessDesktop.Trace
