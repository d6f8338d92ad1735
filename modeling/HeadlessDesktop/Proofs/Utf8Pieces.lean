import HeadlessDesktop.Text.Raw

/-! Text and the bytes that spell it. Each character is the front piece of its own bytes,
whatever follows, so text is read back from its bytes. -/
namespace HeadlessDesktop.Text

theorem toNat_ofNat_byte {n : Nat} (h : n < 256) : (UInt8.ofNat n).toNat = n := by
  rw [UInt8.toNat_ofNat']
  exact Nat.mod_eq_of_lt h

theorem continuation?_eq {bytes : Bytes} {index bits : Nat} (hbits : bits < 64)
    (h : bytes[index]? = some (UInt8.ofNat (bits + 128))) :
    continuation? bytes index = some bits := by
  unfold continuation?
  rw [h, Option.bind_eq_bind, Option.bind_some, toNat_ofNat_byte (by omega)]
  simp
  omega

theorem scalarFrom?_toNat {least code : Nat} {c : Char} (hleast : least ≤ c.toNat)
    (hcode : code = c.toNat) : scalarFrom? least code = some c := by
  have hvalid : c.toNat.isValidChar := c.valid
  simp [scalarFrom?, hcode, hleast, hvalid, Char.ofNat_toNat]

theorem toNat_lt (c : Char) : c.toNat < 0x110000 := by
  have hvalid : c.toNat.isValidChar := c.valid
  unfold Nat.isValidChar at hvalid
  omega

theorem frontChar?_one {n : Nat} (h : n < 0x80) (more : Bytes) :
    frontChar? (UInt8.ofNat n) more = some (Char.ofNat n, 0) := by
  unfold frontChar?
  rw [toNat_ofNat_byte (by omega)]
  exact if_pos h

theorem frontChar?_two {c : Char} {a b : Nat} (ha : a < 32) (hb : b < 64)
    (hleast : 0x80 ≤ c.toNat) (hcode : a * 64 + b = c.toNat) (more : Bytes) :
    frontChar? (UInt8.ofNat (a + 192)) (UInt8.ofNat (b + 128) :: more) = some (c, 1) := by
  unfold frontChar?
  rw [toNat_ofNat_byte (by omega)]
  simp only [show ¬ a + 192 < 0x80 by omega, show ¬ a + 192 < 0xC0 by omega,
    show a + 192 < 0xE0 by omega, ↓reduceIte, Nat.add_sub_cancel]
  rw [continuation?_eq hb (by rfl), Option.bind_eq_bind, Option.bind_some,
    scalarFrom?_toNat hleast hcode]
  rfl

theorem frontChar?_three {c : Char} {a b d : Nat} (ha : a < 16) (hb : b < 64) (hd : d < 64)
    (hleast : 0x800 ≤ c.toNat) (hcode : (a * 64 + b) * 64 + d = c.toNat) (more : Bytes) :
    frontChar? (UInt8.ofNat (a + 224)) (UInt8.ofNat (b + 128) :: UInt8.ofNat (d + 128) :: more) =
      some (c, 2) := by
  unfold frontChar?
  rw [toNat_ofNat_byte (by omega)]
  simp only [show ¬ a + 224 < 0x80 by omega, show ¬ a + 224 < 0xC0 by omega,
    show ¬ a + 224 < 0xE0 by omega, show a + 224 < 0xF0 by omega, ↓reduceIte,
    Nat.add_sub_cancel]
  rw [continuation?_eq hb (by rfl), continuation?_eq hd (by rfl)]
  simp only [Option.bind_eq_bind, Option.bind_some]
  rw [scalarFrom?_toNat hleast hcode]
  rfl

theorem frontChar?_four {c : Char} {a b d e : Nat} (ha : a < 8) (hb : b < 64) (hd : d < 64)
    (he : e < 64) (hleast : 0x10000 ≤ c.toNat)
    (hcode : ((a * 64 + b) * 64 + d) * 64 + e = c.toNat) (more : Bytes) :
    frontChar? (UInt8.ofNat (a + 240))
        (UInt8.ofNat (b + 128) :: UInt8.ofNat (d + 128) :: UInt8.ofNat (e + 128) :: more) =
      some (c, 3) := by
  unfold frontChar?
  rw [toNat_ofNat_byte (by omega)]
  simp only [show ¬ a + 240 < 0x80 by omega, show ¬ a + 240 < 0xC0 by omega,
    show ¬ a + 240 < 0xE0 by omega, show ¬ a + 240 < 0xF0 by omega,
    show a + 240 < 0xF8 by omega, ↓reduceIte, Nat.add_sub_cancel]
  rw [continuation?_eq hb (by rfl), continuation?_eq hd (by rfl), continuation?_eq he (by rfl)]
  simp only [Option.bind_eq_bind, Option.bind_some]
  rw [scalarFrom?_toNat hleast hcode]
  rfl

/-- The bytes of a character are not empty, and the character is read from their front. -/
theorem frontChar?_utf8EncodeChar (c : Char) :
    ∃ first rest, String.utf8EncodeChar c = first :: rest ∧
      ∀ more, frontChar? first (rest ++ more) = some (c, rest.length) := by
  have hlt := toNat_lt c
  have hval : c.val.toNat = c.toNat := rfl
  rw [String.utf8EncodeChar.eq_1]
  simp only [hval]
  split
  · refine ⟨_, [], rfl, fun more => ?_⟩
    have hfront := frontChar?_one (show c.toNat < 0x80 by omega) more
    rwa [Char.ofNat_toNat] at hfront
  · split
    · refine ⟨_, [_], rfl, fun more => ?_⟩
      exact frontChar?_two (by omega) (by omega) (by omega) (by omega) more
    · split
      · refine ⟨_, [_, _], rfl, fun more => ?_⟩
        exact frontChar?_three (by omega) (by omega) (by omega) (by omega) (by omega) more
      · refine ⟨_, [_, _, _], rfl, fun more => ?_⟩
        exact frontChar?_four (by omega) (by omega) (by omega) (by omega) (by omega) (by omega) more

theorem piecesFrom_eq (taken : Nat) (bytes : Bytes) :
    piecesFrom taken bytes = pieces (bytes.drop taken) := by
  induction bytes generalizing taken with
  | nil => cases taken <;> rfl
  | cons first rest ih =>
    cases taken with
    | zero => rfl
    | succ taken => exact ih taken

theorem pieces_cons (first : UInt8) (rest : Bytes) :
    pieces (first :: rest) =
      match frontChar? first rest with
      | some (c, more) => .char c :: pieces (rest.drop more)
      | none => .stray first :: pieces rest := by
  unfold pieces
  rw [piecesFrom]
  cases frontChar? first rest with
  | none => rfl
  | some front => exact congrArg (Piece.char front.1 :: ·) (piecesFrom_eq front.2 rest)

theorem pieces_utf8EncodeChar (c : Char) (more : Bytes) :
    pieces (String.utf8EncodeChar c ++ more) = .char c :: pieces more := by
  obtain ⟨first, rest, hbytes, hfront⟩ := frontChar?_utf8EncodeChar c
  rw [hbytes, List.cons_append, pieces_cons, hfront more]
  simp only [List.drop_left]

theorem pieces_flatMap (chars : List Char) (more : Bytes) :
    pieces (chars.flatMap String.utf8EncodeChar ++ more) =
      chars.map Piece.char ++ pieces more := by
  induction chars with
  | nil => rfl
  | cons c chars ih =>
    rw [List.flatMap_cons, List.append_assoc, pieces_utf8EncodeChar, ih]
    rfl

@[simp] theorem pieces_encodeUtf8 (text : String) :
    pieces (encodeUtf8 text) = text.toList.map Piece.char := by
  have hpieces := pieces_flatMap text.toList []
  rwa [List.append_nil, show pieces [] = [] from rfl, List.append_nil] at hpieces

@[simp] theorem decodeUtf8_encodeUtf8 (text : String) :
    decodeUtf8 (encodeUtf8 text) = text := by
  unfold decodeUtf8
  rw [pieces_encodeUtf8, List.map_map]
  have hchars : (Piece.toChar ∘ Piece.char) = id := rfl
  rw [hchars, List.map_id, String.ofList_toList]

theorem encodeUtf8_injective : Function.Injective encodeUtf8 :=
  Function.LeftInverse.injective decodeUtf8_encodeUtf8

theorem mem_utf8EncodeChar_iff {c d : Char} (h : c.toNat < 0x80) :
    c.toUInt8 ∈ String.utf8EncodeChar d ↔ c = d := by
  have hlt := toNat_lt d
  have hval : d.val.toNat = d.toNat := rfl
  have hbyte : c.toUInt8.toNat = c.toNat := toNat_ofNat_byte (show c.toNat < 256 by omega)
  rw [String.utf8EncodeChar.eq_1, hval, ← Char.toNat_inj]
  repeat' split
  all_goals
    simp only [List.mem_cons, List.not_mem_nil, ← UInt8.toNat_inj, hbyte, UInt8.toNat_ofNat',
      or_false]
    generalize c.toNat = m at *
    generalize d.toNat = n at *
    omega

theorem mem_encodeUtf8_iff {c : Char} (h : c.toNat < 0x80) {text : String} :
    c.toUInt8 ∈ encodeUtf8 text ↔ c ∈ text.toList := by
  simp only [encodeUtf8, List.mem_flatMap, mem_utf8EncodeChar_iff h, exists_eq_right']

namespace Raw

@[simp] theorem shown_text (value : String) : (text value).shown = value := by
  rw [shown, bytes_text, decodeUtf8_encodeUtf8]

@[simp] theorem text_inj {first second : String} : text first = text second ↔ first = second := by
  refine ⟨fun h => ?_, congrArg text⟩
  rw [← shown_text first, h, shown_text]

@[simp] theorem text?_text (value : String) : (text value).text? = some value := by
  rw [text?, shown_text, if_pos rfl]

theorem text?_eq_some_iff {raw : Raw} {value : String} :
    raw.text? = some value ↔ raw = text value := by
  constructor
  · intro h
    unfold text? at h
    split at h
    · rename_i hspelled
      rw [hspelled, Option.some.inj h]
    · cases h
  · rintro rfl
    exact text?_text value

@[simp] theorem isBlank_text (value : String) : (text value).isBlank = allBlank value := by
  rw [isBlank, text?_text, Option.any_some]

theorem text_shown {raw : Raw} (h : raw.text?.isSome) : text raw.shown = raw := by
  obtain ⟨value, hvalue⟩ := Option.isSome_iff_exists.mp h
  rw [text?_eq_some_iff.mp hvalue, shown_text]

end Raw

end HeadlessDesktop.Text
