import HeadlessDesktop.Proofs.FramedStream
import HeadlessDesktop.Trace.Tracer
import Mathlib.Data.List.TakeWhile

/-! Frames on a writer that refuses some of its writes. A refused header leaves no trace, but a
header whose body is refused stays behind, and what is stored after it is read as that body. -/
namespace HeadlessDesktop.Trace

open Text MessagePack

namespace Deposit

/-- A header whose body was refused. -/
def isOrphan : Deposit → Bool
  | .header _ => true
  | _ => false

/-- What is stored before the first header that stands alone. -/
def beforeOrphan (trail : List Deposit) : List Deposit := trail.takeWhile (!·.isOrphan)

def fromOrphan (trail : List Deposit) : List Deposit := trail.dropWhile (!·.isOrphan)

theorem beforeOrphan_append_fromOrphan (trail : List Deposit) :
    beforeOrphan trail ++ fromOrphan trail = trail :=
  List.takeWhile_append_dropWhile

theorem not_isOrphan_of_mem {trail : List Deposit} {deposit : Deposit}
    (h : deposit ∈ beforeOrphan trail) : deposit.isOrphan = false := by
  simpa using List.all_eq_true.mp List.all_takeWhile deposit h

theorem fromOrphan_eq (trail : List Deposit) :
    fromOrphan trail = [] ∨ ∃ body later, fromOrphan trail = .header body :: later := by
  have hfirst := List.head?_dropWhile_not (!·.isOrphan) trail
  unfold fromOrphan
  cases hrest : trail.dropWhile (!·.isOrphan) with
  | nil => exact Or.inl rfl
  | cons deposit later =>
    rw [hrest] at hfirst
    cases deposit with
    | header body => exact Or.inr ⟨body, later, rfl⟩
    | nothing => simp [isOrphan] at hfirst
    | whole body => simp [isOrphan] at hfirst

theorem flatMap_bytes_of_not_isOrphan {trail : List Deposit}
    (h : ∀ deposit ∈ trail, deposit.isOrphan = false) :
    trail.flatMap bytes = (trail.filterMap body?).flatMap frame := by
  induction trail with
  | nil => rfl
  | cons deposit rest ih =>
    have hrest := ih fun deposit hmem => h deposit (List.mem_cons_of_mem _ hmem)
    cases deposit with
    | nothing => exact hrest
    | whole body => simpa [bytes, body?] using hrest
    | header body => exact absurd (h (.header body) List.mem_cons_self) (by simp [isOrphan])

theorem flatMap_bytes_eq (trail : List Deposit) :
    trail.flatMap bytes = [] ∨
      ∃ body rest, (.header body ∈ trail ∨ .whole body ∈ trail) ∧
        trail.flatMap bytes = frameHeader body ++ rest := by
  induction trail with
  | nil => exact Or.inl rfl
  | cons deposit later ih =>
    rw [List.flatMap_cons]
    cases deposit with
    | nothing =>
      rcases ih with hnone | ⟨body, rest, hmem, hbytes⟩
      · exact Or.inl hnone
      · refine Or.inr ⟨body, rest, ?_, hbytes⟩
        exact hmem.imp (List.mem_cons_of_mem _) (List.mem_cons_of_mem _)
    | header body => exact Or.inr ⟨body, _, Or.inl List.mem_cons_self, rfl⟩
    | whole body =>
      refine Or.inr ⟨body, body ++ later.flatMap bytes, Or.inr List.mem_cons_self, ?_⟩
      simp [bytes, frame]

end Deposit

theorem mem_of_mem_deposits {writer : Writer} {bodies : List Bytes} {body : Bytes}
    (h : .header body ∈ deposits writer bodies ∨ .whole body ∈ deposits writer bodies) :
    body ∈ bodies := by
  induction bodies generalizing writer with
  | nil => simp [deposits] at h
  | cons first rest ih =>
    have hfirst : ∀ deposit, deposit = .header body ∨ deposit = .whole body →
        deposit = writer.deposit first → body = first := by
      rintro deposit hdeposit rfl
      unfold Writer.deposit at hdeposit
      split at hdeposit
      · split at hdeposit <;> simp at hdeposit <;> exact hdeposit.symm
      · simp at hdeposit
    unfold deposits at h
    rcases h with h | h
    · rcases List.mem_cons.mp h with heq | hlater
      · exact hfirst _ (Or.inl rfl) heq ▸ List.mem_cons_self
      · exact List.mem_cons_of_mem _ (ih (Or.inl hlater))
    · rcases List.mem_cons.mp h with heq | hlater
      · exact hfirst _ (Or.inr rfl) heq ▸ List.mem_cons_self
      · exact List.mem_cons_of_mem _ (ih (Or.inr hlater))

theorem replay_frames {codec : Codec} {bodies : List Bytes}
    (hbodies : ∀ body ∈ bodies, Framable codec body) (rest : Bytes) :
    (replay codec (bodies.flatMap frame ++ rest)).records.map .ok =
      bodies.map codec.decode ++ (replay codec rest).records.map .ok := by
  induction bodies with
  | nil => rfl
  | cons body later ih =>
    have hbody := hbodies body List.mem_cons_self
    obtain ⟨record, hrecord⟩ := hbody.decodes
    rw [List.flatMap_cons, List.append_assoc, replay_frame hbody.short hrecord, List.map_cons,
      ih fun body hmem => hbodies body (List.mem_cons_of_mem _ hmem), List.map_cons, hrecord]
    rfl

theorem decode_zero (codec : Codec) (rest : Bytes) :
    codec.decode (0 :: rest) = .error .malformed := by
  cases codec with
  | json =>
    have hpieces : pieces (0 :: rest) = .char (Char.ofNat 0) :: pieces rest := by
      rw [pieces_cons]
      rfl
    have htext : (decodeUtf8 (0 :: rest)).toList =
        Char.ofNat 0 :: (pieces rest).map Piece.toChar := by
      unfold decodeUtf8
      rw [hpieces, String.toList_ofList]
      rfl
    unfold Codec.decode
    dsimp only
    rw [htext]
    rfl
  | messagePack => rfl

theorem frameHeader_of_lt {body : Bytes} (h : body.length < 2 ^ 24) :
    ∃ rest, frameHeader body = 0 :: rest := by
  have hzero : body.length / Nat.pow 256 3 = 0 := Nat.div_eq_of_lt h
  refine ⟨bigEndian 3 body.length, ?_⟩
  unfold frameHeader bigEndian
  rw [hzero]
  rfl

theorem replay_orphan {codec : Codec} {body : Bytes} (hbody : Framable codec body)
    {trail : List Deposit}
    (hsmall : ∀ body, .header body ∈ trail ∨ .whole body ∈ trail → body.length < 2 ^ 24) :
    (replay codec (frameHeader body ++ trail.flatMap Deposit.bytes)).records = [] := by
  have hread := readFrame_header hbody.short codec (trail.flatMap Deposit.bytes)
  by_cases hlength : (trail.flatMap Deposit.bytes).length < body.length
  · rw [readExactly_of_lt hlength] at hread
    rw [replay_of_error hread]
  · have hnonempty := List.length_pos_iff.mpr hbody.ne_nil
    rcases Deposit.flatMap_bytes_eq trail with hnone | ⟨next, rest, hmem, hbytes⟩
    · rw [hnone] at hlength
      exact absurd hnonempty (by simpa using hlength)
    · obtain ⟨more, hheader⟩ := frameHeader_of_lt (hsmall next hmem)
      obtain ⟨size, hsize⟩ : ∃ size, body.length = size + 1 := ⟨body.length - 1, by omega⟩
      have htaken : readExactly body.length (trail.flatMap Deposit.bytes) =
          (.ok (0 :: (more ++ rest).take size), (more ++ rest).drop size) := by
        unfold readExactly
        rw [if_pos (by omega), hbytes, hheader, hsize]
        rfl
      rw [htaken] at hread
      dsimp only at hread
      rw [decode_zero] at hread
      rw [replay_of_error hread]

theorem replay_trail {codec : Codec} {trail : List Deposit}
    (hframable : ∀ body, .header body ∈ trail ∨ .whole body ∈ trail → Framable codec body) :
    (replay codec (trail.flatMap Deposit.bytes)).records.map .ok =
      ((Deposit.beforeOrphan trail).filterMap Deposit.body?).map codec.decode ++
        (replay codec ((Deposit.fromOrphan trail).flatMap Deposit.bytes)).records.map .ok := by
  have hbodies : ∀ body ∈ (Deposit.beforeOrphan trail).filterMap Deposit.body?,
      Framable codec body := by
    intro body hbody
    obtain ⟨deposit, hmem, hdeposit⟩ := List.mem_filterMap.mp hbody
    have hwhole : deposit = .whole body := by
      cases deposit <;> simp_all [Deposit.body?]
    apply hframable body
    rw [← Deposit.beforeOrphan_append_fromOrphan trail, ← hwhole]
    exact Or.inr (List.mem_append_left _ hmem)
  have hbytes : trail.flatMap Deposit.bytes =
      ((Deposit.beforeOrphan trail).filterMap Deposit.body?).flatMap frame ++
        (Deposit.fromOrphan trail).flatMap Deposit.bytes := by
    rw [← Deposit.flatMap_bytes_of_not_isOrphan fun _ => Deposit.not_isOrphan_of_mem,
      ← List.flatMap_append, Deposit.beforeOrphan_append_fromOrphan]
  rw [hbytes, replay_frames hbodies]

/-- Behind a header that stands alone nothing is found, as long as no body is so long that its
header could begin a body. -/
theorem replay_fromOrphan {codec : Codec} {trail : List Deposit}
    (hframable : ∀ body, .header body ∈ trail ∨ .whole body ∈ trail → Framable codec body)
    (hsmall : ∀ body, .header body ∈ trail ∨ .whole body ∈ trail → body.length < 2 ^ 24) :
    (replay codec ((Deposit.fromOrphan trail).flatMap Deposit.bytes)).records = [] := by
  rcases Deposit.fromOrphan_eq trail with hnone | ⟨body, later, hrest⟩
  · rw [hnone]
    simp
  · have hmem : ∀ deposit ∈ .header body :: later, deposit ∈ trail := by
      intro deposit h
      rw [← Deposit.beforeOrphan_append_fromOrphan trail, hrest]
      exact List.mem_append_right _ h
    rw [hrest, List.flatMap_cons]
    apply replay_orphan (hframable body (Or.inl (hmem _ List.mem_cons_self)))
    intro body hlater
    apply hsmall body
    exact hlater.imp (fun h => hmem _ (List.mem_cons_of_mem _ h))
      fun h => hmem _ (List.mem_cons_of_mem _ h)

/-- A writer may refuse any write. What is stored before the first header whose body was refused
is always read back, and if there is no such header this is all that was stored as a whole. With
one, every record that was stored as a whole is read back, and nothing else, exactly if there is
none behind it; for this last part bodies are shorter than sixteen megabytes, since a header with
a larger length might be taken for the beginning of a body. -/
theorem replay_of_refused_writes (codec : Codec) (writer : Writer) (records : List Record)
    (fresh : writer.stored = [])
    (short : ∀ body ∈ codec.bodies records, body.length < 2 ^ 32) :
    ∃ after, (Sink.framed codec writer).emitAll records =
        (.framed codec after, codec.complaints records) ∧
      let trail := deposits writer (codec.bodies records)
      let read : List (Except DecodeError Record) := (replay codec after.stored).records.map .ok
      ((Deposit.beforeOrphan trail).filterMap Deposit.body?).map codec.decode <+: read ∧
        ((∀ deposit ∈ trail, deposit.isOrphan = false) →
          read = (trail.filterMap Deposit.body?).map codec.decode) ∧
        ((∀ body ∈ codec.bodies records, body.length < 2 ^ 24) →
          (read = (trail.filterMap Deposit.body?).map codec.decode ↔
            ∀ deposit ∈ Deposit.fromOrphan trail, deposit.body? = none)) := by
  obtain ⟨after, hemit, hstored⟩ := emitAll_framed codec writer records
  rw [fresh, List.nil_append] at hstored
  refine ⟨after, hemit, ?_⟩
  intro trail read
  have hframable : ∀ body, .header body ∈ trail ∨ .whole body ∈ trail → Framable codec body :=
    fun body h => framable_bodies short body (mem_of_mem_deposits h)
  have hread := replay_trail hframable
  rw [← hstored] at hread
  have hwhole : trail.filterMap Deposit.body? =
      (Deposit.beforeOrphan trail).filterMap Deposit.body? ++
        (Deposit.fromOrphan trail).filterMap Deposit.body? := by
    rw [← List.filterMap_append, Deposit.beforeOrphan_append_fromOrphan]
  refine ⟨⟨_, hread.symm⟩, ?_, ?_⟩
  · intro hnone
    have hrest : Deposit.fromOrphan trail = [] :=
      List.dropWhile_eq_nil_iff.mpr fun deposit h => by simp [hnone deposit h]
    change List.map _ _ = _
    rw [hread, hwhole, hrest]
    simp
  · intro hsmall
    have hnothing := replay_fromOrphan hframable fun body h => hsmall body (mem_of_mem_deposits h)
    change List.map _ _ = _ ↔ _
    rw [hread, hnothing, hwhole]
    simp [List.filterMap_eq_nil_iff]

theorem replay_of_refused_writes_header :
    let writer : Writer := { accepts := fun attempts _ _ => attempts != 2 }
    let records : List Record := [{ op := "a" }, { op := "b" }, { op := "c" }]
    (∀ body ∈ Codec.messagePack.bodies records, body.length < 2 ^ 32) ∧
      ∃ after, (Sink.framed .messagePack writer).emitAll records =
          (.framed .messagePack after, []) ∧
        (replay .messagePack after.stored).records.map .ok =
          [Codec.messagePack.decode (Record.toMessagePack { op := "a" }),
            Codec.messagePack.decode (Record.toMessagePack { op := "c" })] := by
  intro writer records
  have hshort : ∀ body ∈ Codec.messagePack.bodies records, body.length < 2 ^ 32 := by
    decide +kernel
  have hstored : deposits writer (Codec.messagePack.bodies records) =
      [.whole (Record.toMessagePack { op := "a" }), .nothing,
        .whole (Record.toMessagePack { op := "c" })] := rfl
  obtain ⟨after, hemit, -, hread, -⟩ :=
    replay_of_refused_writes .messagePack writer records rfl hshort
  rw [hstored] at hread
  exact ⟨hshort, after, hemit, hread (by simp [Deposit.isOrphan])⟩

/-- There is room for the header of the first frame but not for its body, and then for all of the
second frame. It is stored and yet not found. -/
theorem refused_body_hides_record :
    let writer := Writer.bounded 40
    let first : Record :=
      { seq := 1
        time := fakeClockStart
        op := "a"
        message := "a message that is longer than the frame behind it" }
    let second : Record := { seq := 2, time := fakeClockStart, op := "b" }
    ∃ after, (Sink.framed .messagePack writer).emitAll [first, second] =
        (.framed .messagePack after, []) ∧
      deposits writer (Codec.messagePack.bodies [first, second]) =
        [.header first.toMessagePack, .whole second.toMessagePack] ∧
      (replay .messagePack after.stored).records = [] := by
  intro writer first second
  obtain ⟨after, hemit, hstored⟩ := emitAll_framed .messagePack writer [first, second]
  refine ⟨after, hemit, ?_, ?_⟩
  · decide +kernel
  · rw [hstored]
    decide +kernel

end HeadlessDesktop.Trace
