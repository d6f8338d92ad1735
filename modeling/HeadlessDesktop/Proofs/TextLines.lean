import HeadlessDesktop.Proofs.DescribedWidget
import HeadlessDesktop.Proofs.FramedStream
import Mathlib.Algebra.Order.BigOperators.Group.List

/-! The lines of a text trace. Each record ends its line with a newline, and what it shows is
written as it is, so there is a newline more for each that its texts contain. Without any of these
the text is divided into lines in one way only; with them one record can pass for several. -/
namespace HeadlessDesktop

namespace Text

def newlineByte : UInt8 := 0x0A

def newlines (text : Raw) : Nat := text.bytes.count newlineByte

@[simp] theorem newlines_append (first second : Raw) :
    newlines (first ++ second) = newlines first + newlines second := by
  simp [newlines]

theorem newlines_eq_zero {text : Raw} : newlines text = 0 ↔ newlineByte ∉ text.bytes :=
  List.count_eq_zero

@[simp] theorem newlines_natText (n : Nat) : newlines (natText n) = 0 :=
  newlines_eq_zero.mpr (not_mem_natText (c := '\n') (by decide) rfl n)

@[simp] theorem newlines_intText (i : Int) : newlines (intText i) = 0 :=
  newlines_eq_zero.mpr (not_mem_intText (c := '\n') (by decide) rfl (by decide) i)

@[simp] theorem newlines_name (kind : Kind) : newlines kind.name = 0 :=
  newlines_eq_zero.mpr (Kind.not_mem_name (c := '\n') (by decide) rfl kind)

end Text

open Text

@[simp] theorem Widget.newlines_describe (widget : Widget) :
    newlines widget.describe = newlines widget.title + newlines widget.label := by
  have hid : newlines "#" = 0 := rfl
  have hkind : newlines " kind=" = 0 := rfl
  have htitle : newlines " title='" = 0 := rfl
  have hlabel : newlines "' label='" = 0 := rfl
  have hsize : newlines "' size=" = 0 := rfl
  have hby : newlines "x" = 0 := rfl
  have hparent : newlines " parent=#" = 0 := rfl
  unfold describe
  simp only [newlines_append, newlines_natText, newlines_intText, newlines_name, hid, hkind,
    htitle, hlabel, hsize, hby, hparent]
  omega

namespace Trace

def Record.shown (record : Record) : List Raw :=
  record.op :: match record.widget with
    | some widget => [widget.title, widget.label]
    | none => [record.message]

/-- The newlines in a line beside the one that ends it. -/
def Record.breaks (record : Record) (lead : Raw) : Nat :=
  ((lead :: record.shown).map newlines).sum

/-- No text that the line shows contains a newline. -/
def Record.IsPlain (record : Record) (lead : Raw) : Prop :=
  ∀ text ∈ lead :: record.shown, newlineByte ∉ text.bytes

namespace Record

theorem newlines_line (record : Record) (lead : Raw) :
    newlines (record.line lead) = record.breaks lead + 1 := by
  have hblank : newlines " " = 0 := rfl
  have hcolon : newlines ": " = 0 := rfl
  have hend : newlines "\n" = 1 := rfl
  have hempty : newlines "" = 0 := rfl
  unfold line breaks shown
  cases record.widget with
  | some widget =>
    simp only [newlines_append, Widget.newlines_describe, hblank, hend, List.map_cons,
      List.map_nil, List.sum_cons, List.sum_nil]
    omega
  | none =>
    dsimp only
    split
    · rename_i hmessage
      simp only [newlines_append, hblank, hend, hmessage, hempty, List.map_cons,
        List.map_nil, List.sum_cons, List.sum_nil]
      omega
    · simp only [newlines_append, hblank, hcolon, hend, List.map_cons,
        List.map_nil, List.sum_cons, List.sum_nil]
      omega

theorem breaks_eq_zero_iff {record : Record} {lead : Raw} :
    record.breaks lead = 0 ↔ record.IsPlain lead := by
  unfold breaks IsPlain
  rw [List.sum_eq_zero_iff, List.forall_mem_map]
  simp only [newlines_eq_zero]

theorem sum_breaks_eq_zero_iff {records : List Record} {lead : Raw} :
    (records.map (·.breaks lead)).sum = 0 ↔ ∀ record ∈ records, record.IsPlain lead := by
  rw [List.sum_eq_zero_iff, List.forall_mem_map]
  simp only [breaks_eq_zero_iff]

theorem exists_line_eq (record : Record) (lead : Raw) :
    ∃ body : Raw, record.line lead = body ++ "\n" := by
  unfold line
  split
  · exact ⟨_, rfl⟩
  · split
    · exact ⟨_, rfl⟩
    · exact ⟨_, rfl⟩

theorem IsPlain.exists_bytes_line_eq {record : Record} {lead : Raw} (plain : record.IsPlain lead) :
    ∃ body, newlineByte ∉ body ∧ (record.line lead).bytes = body ++ [newlineByte] := by
  obtain ⟨body, hbody⟩ := record.exists_line_eq lead
  have hcount := record.newlines_line lead
  have hend : newlines "\n" = 1 := rfl
  rw [breaks_eq_zero_iff.mpr plain, hbody, newlines_append, hend] at hcount
  refine ⟨body.bytes, newlines_eq_zero.mp (by omega), ?_⟩
  rw [hbody, Raw.bytes_append]
  rfl

end Record

def transcript (lead : Raw) (records : List Record) : Bytes :=
  records.flatMap fun record => (record.line lead).bytes

theorem count_transcript (lead : Raw) (records : List Record) :
    (transcript lead records).count newlineByte =
      records.length + (records.map (·.breaks lead)).sum := by
  unfold transcript
  induction records with
  | nil => rfl
  | cons record rest ih =>
    have hline : (record.line lead).bytes.count newlineByte = record.breaks lead + 1 :=
      record.newlines_line lead
    rw [List.flatMap_cons, List.count_append, hline, ih, List.length_cons, List.map_cons,
      List.sum_cons]
    omega

theorem map_line_eq_of_transcript_eq {lead : Raw} {records others : List Record}
    (hrecords : ∀ record ∈ records, record.IsPlain lead)
    (hothers : ∀ record ∈ others, record.IsPlain lead)
    (h : transcript lead records = transcript lead others) :
    records.map (·.line lead) = others.map (·.line lead) := by
  unfold transcript at h
  induction records generalizing others with
  | nil =>
    cases others with
    | nil => rfl
    | cons other more =>
      obtain ⟨body, -, hbody⟩ := (hothers other List.mem_cons_self).exists_bytes_line_eq
      simp [hbody] at h
  | cons record rest ih =>
    obtain ⟨body, hplain, hbody⟩ := (hrecords record List.mem_cons_self).exists_bytes_line_eq
    cases others with
    | nil => simp [hbody] at h
    | cons other more =>
      obtain ⟨body', hplain', hbody'⟩ := (hothers other List.mem_cons_self).exists_bytes_line_eq
      rw [List.flatMap_cons, List.flatMap_cons, hbody, hbody', List.append_assoc,
        List.append_assoc, List.singleton_append, List.singleton_append,
        append_cons_inj_of_first hplain hplain'] at h
      have hline : record.line lead = other.line lead := by
        rw [Raw.ext_iff, hbody, hbody', h.1]
      have hlater := ih (fun record hmem => hrecords record (List.mem_cons_of_mem _ hmem))
        (fun record hmem => hothers record (List.mem_cons_of_mem _ hmem)) h.2
      rw [List.map_cons, List.map_cons, hline, hlater]

def Sink.stored : Sink → Bytes
  | .text _ writer | .framed _ writer => writer.stored
  | .memory _ => []

theorem stored_emitAll_text {writer : Writer} (reliable : writer.Reliable) (lead : Raw)
    (records : List Record) :
    ((Sink.text lead writer).emitAll records).1.stored =
      writer.stored ++ transcript lead records := by
  induction records generalizing writer with
  | nil => exact (List.append_nil _).symm
  | cons record rest ih =>
    have hstored : (writer.write (record.line lead).bytes).stored =
        writer.stored ++ (record.line lead).bytes := by
      simp [Writer.write, Writer.accepting, reliable _ _ _]
    have hlater : (writer.write (record.line lead).bytes).Reliable := reliable
    change ((Sink.text lead (writer.write (record.line lead).bytes)).emitAll rest).1.stored =
      writer.stored ++ transcript lead (record :: rest)
    rw [ih hlater, hstored, List.append_assoc]
    rfl

/-- A text trace on a writer that takes everything has one newline for each record and one for
each that is in what the records show, the start of the line included. So it has as many as there
are records exactly if all of them are plain. The text of plain records is that of other records
only if these are fewer, by as many as they show newlines; if they are plain too, both have the
same lines. -/
theorem newlines_of_records (chosen : Raw) (writer : Writer) (reliable : writer.Reliable)
    (fresh : writer.stored = []) (records : List Record) :
    let lead := leadOf chosen
    let text (records : List Record) := ((Sink.text lead writer).emitAll records).1.stored
    (text records).count newlineByte = records.length + (records.map (·.breaks lead)).sum ∧
      ((text records).count newlineByte = records.length ↔
        ∀ record ∈ records, record.IsPlain lead) ∧
      ∀ others, (∀ record ∈ records, record.IsPlain lead) → text records = text others →
        records.length = others.length + (others.map (·.breaks lead)).sum ∧
        ((∀ record ∈ others, record.IsPlain lead) →
          records.map (·.line lead) = others.map (·.line lead)) := by
  intro lead text
  have htext (records : List Record) : text records = transcript lead records := by
    change ((Sink.text lead writer).emitAll records).1.stored = _
    rw [stored_emitAll_text reliable, fresh, List.nil_append]
  simp only [htext, count_transcript]
  refine ⟨trivial, ?_, ?_⟩
  · rw [← Record.sum_breaks_eq_zero_iff]
    omega
  · intro others hrecords hsame
    have hcount := congrArg (List.count newlineByte) hsame
    rw [count_transcript, count_transcript, Record.sum_breaks_eq_zero_iff.mpr hrecords] at hcount
    exact ⟨hcount, fun hothers => map_line_eq_of_transcript_eq hrecords hothers hsame⟩

def retitled : List Record :=
  [{ op := "show", widget := some (.newWindow 1 "a" 3 4) },
    { op := "set_title", widget := some (.newWindow 1 "b\r\tc" 3 4) }]

/-- The title of this window ends the line early and begins another one. -/
def forged : Record :=
  { op := "show"
    widget := some (.newWindow 1
      "a' label='' size=3x4 parent=#0\n[Stub] set_title #1 kind=Window title='b\r\tc" 3 4) }

theorem transcript_forged : transcript (leadOf "") [forged] = transcript (leadOf "") retitled := by
  decide +kernel

theorem newlines_of_records_retitled :
    let text (records : List Record) := ((Sink.text (leadOf "") {}).emitAll records).1.stored
    (∀ record ∈ retitled, record.IsPlain (leadOf "")) ∧
      (text retitled).count newlineByte = retitled.length ∧ text retitled = text [forged] ∧
      retitled.length = [forged].length + ([forged].map (·.breaks (leadOf ""))).sum := by
  intro text
  have reliable : ({} : Writer).Reliable := fun _ _ _ => rfl
  have hplain : ∀ record ∈ retitled, record.IsPlain (leadOf "") := by
    unfold Record.IsPlain
    decide
  have hsame : text retitled = text [forged] := by
    change Sink.stored _ = Sink.stored _
    rw [stored_emitAll_text reliable, stored_emitAll_text reliable, transcript_forged]
  obtain ⟨-, hcount, hothers⟩ := newlines_of_records "" {} reliable rfl retitled
  exact ⟨hplain, hcount.mpr hplain, hsame, (hothers [forged] hplain hsame).1⟩

/-- One record with the text of two. -/
theorem title_passes_for_record :
    let text (records : List Record) := ((Sink.text (leadOf "") {}).emitAll records).1.stored
    (text [forged]).count newlineByte ≠ [forged].length ∧
      text [forged] = text retitled ∧ [forged].length ≠ retitled.length := by
  intro text
  have reliable : ({} : Writer).Reliable := fun _ _ _ => rfl
  have htext (records : List Record) : text records = transcript (leadOf "") records :=
    stored_emitAll_text reliable (leadOf "") records
  rw [htext, htext, count_transcript]
  exact ⟨by decide, transcript_forged, by decide⟩

end Trace

end HeadlessDesktop
