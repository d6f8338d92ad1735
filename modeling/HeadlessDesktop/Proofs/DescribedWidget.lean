import HeadlessDesktop.Proofs.Numerals
import HeadlessDesktop.Proofs.Utf8Pieces
import HeadlessDesktop.Widget.Basic

/-! What the line about a widget tells of it. Title and label stand in the line as they are and
may look like any other part of it, so no reading from left to right finds all parts. What stands
before them ends at the first separator and what stands behind them begins at the last one; this
leaves the title and the label in one piece, which the first quote divides if no title has one. -/
namespace HeadlessDesktop

namespace Text

variable {α : Type} {separator : α} {first second rest others : List α}

theorem append_cons_inj_of_first (hfirst : separator ∉ first) (hsecond : separator ∉ second) :
    first ++ separator :: rest = second ++ separator :: others ↔
      first = second ∧ rest = others := by
  induction first generalizing second with
  | nil =>
    cases second with
    | nil => simp
    | cons head tail =>
      have hne : separator ≠ head := fun h => hsecond (h ▸ List.mem_cons_self)
      simp [hne]
  | cons head tail ih =>
    cases second with
    | nil =>
      have hne : head ≠ separator := fun h => hfirst (h ▸ List.mem_cons_self)
      simp [hne]
    | cons other more =>
      have htail := ih (fun h => hfirst (List.mem_cons_of_mem _ h))
        (fun h => hsecond (List.mem_cons_of_mem _ h))
      rw [List.cons_append, List.cons_append, List.cons.injEq, htail, List.cons.injEq, and_assoc]

theorem append_cons_inj_of_last (hrest : separator ∉ rest) (hothers : separator ∉ others) :
    first ++ separator :: rest = second ++ separator :: others ↔
      first = second ∧ rest = others := by
  have hreverse : rest.reverse ++ separator :: first.reverse =
        others.reverse ++ separator :: second.reverse ↔
      rest.reverse = others.reverse ∧ first.reverse = second.reverse :=
    append_cons_inj_of_first (mt List.mem_reverse.mp hrest) (mt List.mem_reverse.mp hothers)
  rw [List.reverse_inj, List.reverse_inj] at hreverse
  rw [← List.reverse_inj, and_comm, ← hreverse]
  simp

theorem not_mem_natText {c : Char} (hbyte : c.toNat < 0x80) (h : digitValue? c = none) (n : Nat) :
    c.toUInt8 ∉ encodeUtf8 (natText n) := by
  rw [mem_encodeUtf8_iff hbyte, natText, String.toList_ofList]
  exact not_mem_decimal h n

theorem not_mem_intText {c : Char} (hbyte : c.toNat < 0x80) (h : digitValue? c = none)
    (hminus : c ≠ '-') (i : Int) : c.toUInt8 ∉ encodeUtf8 (intText i) := by
  rw [mem_encodeUtf8_iff hbyte, intText, String.toList_ofList]
  exact not_mem_signedDecimal h hminus i

theorem natText_injective : Function.Injective natText :=
  fun _ _ h => decimal_injective (String.ofList_injective h)

theorem intText_injective : Function.Injective intText :=
  fun _ _ h => signedDecimal_injective (String.ofList_injective h)

end Text

open Text

theorem Kind.isAlpha_of_mem_name {kind : Kind} {c : Char} (h : c ∈ kind.name.toList) :
    c.isAlpha = true := by
  have hname : kind.name.toList.all Char.isAlpha = true := by
    unfold Kind.name
    split
    · rfl
    · split
      · rfl
      · rfl
  exact List.all_eq_true.mp hname c h

theorem Kind.not_mem_name {c : Char} (hbyte : c.toNat < 0x80) (h : c.isAlpha = false)
    (kind : Kind) : c.toUInt8 ∉ encodeUtf8 kind.name := by
  rw [mem_encodeUtf8_iff hbyte]
  intro hmem
  rw [isAlpha_of_mem_name hmem] at h
  contradiction

namespace Widget

/-- Title and label as they stand in the line, and what stands between them. -/
def caption (widget : Widget) : Bytes :=
  widget.title.bytes ++ '\''.toUInt8 :: (encodeUtf8 " label='" ++ widget.label.bytes)

theorem bytes_describe (widget : Widget) :
    widget.describe.bytes =
      '#'.toUInt8 :: (encodeUtf8 (natText widget.id.toNat) ++ ' '.toUInt8 ::
        (encodeUtf8 "kind=" ++ (encodeUtf8 widget.kind.name ++ ' '.toUInt8 ::
          (encodeUtf8 "title='" ++
            (((widget.caption ++ encodeUtf8 "' size" ++
                '='.toUInt8 :: encodeUtf8 (intText widget.width.toInt)) ++
              'x'.toUInt8 :: encodeUtf8 (intText widget.height.toInt)) ++
                encodeUtf8 " parent=" ++
                  '#'.toUInt8 :: encodeUtf8 (natText widget.parent.toNat)))))) := by
  -- Each separator is cut at the byte by which the line is divided.
  have hid : encodeUtf8 "#" = ['#'.toUInt8] := rfl
  have hkind : encodeUtf8 " kind=" = ' '.toUInt8 :: encodeUtf8 "kind=" := rfl
  have htitle : encodeUtf8 " title='" = ' '.toUInt8 :: encodeUtf8 "title='" := rfl
  have hlabel : encodeUtf8 "' label='" = '\''.toUInt8 :: encodeUtf8 " label='" := rfl
  have hsize : encodeUtf8 "' size=" = encodeUtf8 "' size" ++ ['='.toUInt8] := rfl
  have hby : encodeUtf8 "x" = ['x'.toUInt8] := rfl
  have hparent : encodeUtf8 " parent=#" = encodeUtf8 " parent=" ++ ['#'.toUInt8] := rfl
  unfold describe caption
  simp only [Raw.bytes_append, Raw.bytes_text, hid, hkind, htitle, hlabel, hsize, hby, hparent,
    List.append_assoc, List.cons_append, List.nil_append]

theorem describe_eq_iff (first second : Widget) :
    first.describe = second.describe ↔
      first.id = second.id ∧ first.kind.name = second.kind.name ∧
        first.caption = second.caption ∧ first.width = second.width ∧
        first.height = second.height ∧ first.parent = second.parent := by
  have hname := Kind.not_mem_name (c := ' ') (by decide) rfl
  have hblank := not_mem_natText (c := ' ') (by decide) rfl
  have hhash := not_mem_natText (c := '#') (by decide) rfl
  have hby := not_mem_intText (c := 'x') (by decide) rfl (by decide)
  have hequals := not_mem_intText (c := '=') (by decide) rfl (by decide)
  rw [Raw.ext_iff, bytes_describe, bytes_describe, List.cons_inj_right,
    append_cons_inj_of_first (hblank _) (hblank _), List.append_right_inj,
    append_cons_inj_of_first (hname _) (hname _), List.append_right_inj,
    append_cons_inj_of_last (hhash _) (hhash _), List.append_left_inj,
    append_cons_inj_of_last (hby _) (hby _), append_cons_inj_of_last (hequals _) (hequals _),
    List.append_left_inj]
  simp only [encodeUtf8_injective.eq_iff, natText_injective.eq_iff, intText_injective.eq_iff,
    UInt64.toNat_inj, Int64.toInt_inj, and_assoc]

theorem caption_eq_iff {first second : Widget} (hfirst : '\''.toUInt8 ∉ first.title.bytes)
    (hsecond : '\''.toUInt8 ∉ second.title.bytes) :
    first.caption = second.caption ↔
      first.title = second.title ∧ first.label = second.label := by
  unfold caption
  rw [append_cons_inj_of_first hfirst hsecond, List.append_right_inj, ← Raw.ext_iff,
    ← Raw.ext_iff]

/-- Widgets that are described alike have one id, the same size and parent, and kinds of one
name, whatever their titles and labels contain. They have the same title and label if no title
contains a quote. -/
theorem described_alike (first second : Widget) (alike : first.describe = second.describe) :
    first.id = second.id ∧ first.kind.name = second.kind.name ∧ first.width = second.width ∧
      first.height = second.height ∧ first.parent = second.parent ∧
      ('\''.toUInt8 ∉ first.title.bytes → '\''.toUInt8 ∉ second.title.bytes →
        first.title = second.title ∧ first.label = second.label) := by
  obtain ⟨hid, hkind, hcaption, hwidth, hheight, hparent⟩ := (describe_eq_iff _ _).mp alike
  refine ⟨hid, hkind, hwidth, hheight, hparent, ?_⟩
  intro hfirst hsecond
  exact (caption_eq_iff hfirst hsecond).mp hcaption

/-- A title can imitate what follows it, and then neither it nor the label is known. Two kinds of
one name are not told apart either, and a quote in a label does no harm. -/
theorem described_alike_imitation :
    let imitating : Widget := { title := "a' label='' size=1x1 parent=#2", label := "b" }
    let imitated : Widget := { title := "a", label := "' size=1x1 parent=#2' label='b" }
    let unnamed : Widget :=
      { id := 2, kind := ⟨7⟩, title := ⟨[0xFF]⟩, label := "don't", height := -3 }
    let generic : Widget := { unnamed with kind := .generic }
    (imitating.describe = imitated.describe ∧ imitating.title ≠ imitated.title ∧
        imitating.parent = imitated.parent) ∧
      unnamed.describe = generic.describe ∧ unnamed.kind ≠ generic.kind ∧
      '\''.toUInt8 ∉ unnamed.title.bytes ∧ unnamed.title = generic.title ∧
      unnamed.label = generic.label := by
  intro imitating imitated unnamed generic
  have himitates : imitating.describe = imitated.describe := by decide +kernel
  have halike : unnamed.describe = generic.describe := by decide +kernel
  have hquote : '\''.toUInt8 ∉ unnamed.title.bytes := by decide
  have hparent := (described_alike imitating imitated himitates).2.2.2.2.1
  have htexts := (described_alike unnamed generic halike).2.2.2.2.2 hquote hquote
  exact ⟨⟨himitates, by decide +kernel, hparent⟩, halike, by decide, hquote, htexts⟩

end Widget

end HeadlessDesktop
