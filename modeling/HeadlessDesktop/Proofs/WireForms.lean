import HeadlessDesktop.MessagePack.Wire
import HeadlessDesktop.Proofs.Utf8Pieces
import Mathlib.Algebra.Group.Nat.Defs

/-! The wire forms of MessagePack. Bytes spell a value for a reader when the reader takes that
value from them and leaves whatever follows. Every writer spells what it was given. -/
namespace HeadlessDesktop.MessagePack

open Text (Bytes encodeUtf8)

def Spells {α : Type} (read : Reader α) (bytes : Bytes) (value : α) : Prop :=
  ∀ rest, read (bytes ++ rest) = .ok (value, rest)

namespace Spells

variable {α β : Type} {read : Reader α} {first second bytes : Bytes} {value : α}

theorem pure (value : α) : Spells (Pure.pure value : Reader α) [] value :=
  fun _ => rfl

theorem bind {next : α → Reader β} {result : β} (hread : Spells read first value)
    (hnext : Spells (next value) second result) :
    Spells (read >>= next) (first ++ second) result := by
  intro rest
  rw [List.append_assoc]
  change (read (first ++ (second ++ rest)) >>= fun (value, left) => next value left) = _
  rw [hread]
  exact hnext rest

theorem andThen {next : α → Reader β} {result : β} (hread : Spells read bytes value)
    (hnext : Spells (next value) [] result) : Spells (read >>= next) bytes result := by
  have h := hread.bind hnext
  rwa [List.append_nil] at h

theorem map {f : α → β} (hread : Spells read bytes value) :
    Spells (do return f (← read)) bytes (f value) :=
  hread.andThen (pure (f value))

end Spells

theorem Spells.byte {β : Type} {next : UInt8 → Reader β} {code : UInt8} {bytes : Bytes}
    {result : β} (hnext : Spells (next code) bytes result) :
    Spells (MessagePack.byte >>= next) (code :: bytes) result :=
  hnext

theorem spells_take {bytes : Bytes} {count : Nat} (hcount : bytes.length = count) :
    Spells (take count) bytes bytes := by
  intro rest
  subst hcount
  simp [take]

/-! ### Numbers -/

@[simp] theorem length_bigEndian (count value : Nat) : (bigEndian count value).length = count := by
  induction count with
  | zero => rfl
  | succ count ih => simp [bigEndian, ih]

theorem foldl_bigEndian (count value start : Nat) :
    (bigEndian count value).foldl (fun value byte => value * 256 + byte.toNat) start =
      start * 256 ^ count + value % 256 ^ count := by
  induction count generalizing start with
  | zero => simp [bigEndian, Nat.mod_one]
  | succ count ih =>
    have hbyte : (UInt8.ofNat (value / 256 ^ count)).toNat = value / 256 ^ count % 256 :=
      UInt8.toNat_ofNat'
    simp only [bigEndian, List.foldl_cons, ih, Nat.pow_eq, hbyte]
    rw [@Nat.mod_pow_succ value 256 count, Nat.pow_succ, Nat.add_mul, Nat.mul_assoc,
      Nat.mul_comm 256, Nat.mul_comm (_ % 256)]
    omega

theorem ofBigEndian_bigEndian {count value : Nat} (h : value < 256 ^ count) :
    ofBigEndian (bigEndian count value) = value := by
  unfold ofBigEndian
  rw [foldl_bigEndian, Nat.mod_eq_of_lt h]
  omega

theorem spells_unsignedOf {count value : Nat} (h : value < 256 ^ count) :
    Spells (unsignedOf count) (bigEndian count value) value := by
  have hbytes := (spells_take (length_bigEndian count value)).map (f := ofBigEndian)
  rwa [ofBigEndian_bigEndian h] at hbytes

theorem spells_natural {count value : Nat} (h : value < 256 ^ count) :
    Spells (natural count) (bigEndian count value) (value : Int) :=
  (spells_unsignedOf h).map (f := fun value : Nat => (value : Int))

theorem spells_signedOf {count : Nat} {value : Int}
    (hlow : -((256 ^ count / 2 : Nat) : Int) ≤ value) (hhigh : value < 0)
    (heven : 256 ^ count / 2 * 2 = 256 ^ count) :
    Spells (signedOf count) (bigEndian count (value + (256 ^ count : Nat)).toNat) value := by
  have hlt : (value + (256 ^ count : Nat)).toNat < 256 ^ count := by omega
  have h := (spells_unsignedOf hlt).map (f := fun stored : Nat =>
    if stored < Nat.pow 256 count / 2 then (stored : Int) else stored - (Nat.pow 256 count : Nat))
  simp only [Nat.pow_eq] at h
  rw [if_neg (by omega)] at h
  have hvalue : ((value + (256 ^ count : Nat)).toNat : Int) - (256 ^ count : Nat) = value := by
    omega
  rw [hvalue] at h
  exact h

theorem spells_integer_unsigned (value : UInt64) :
    Spells integer (writeUnsigned value) (value.toNat : Int) :=
  Spells.byte (spells_natural value.toNat_lt)

theorem spells_integer_small {n : Nat} (h : n < 0x80) :
    Spells integer [UInt8.ofNat n] (n : Int) := by
  apply Spells.byte
  rw [Text.toNat_ofNat_byte (by omega)]
  -- The codes of longer forms are all beyond 0x80.
  split <;> try omega
  rw [if_pos h]
  exact Spells.pure _

theorem spells_integer_negative {n : Int} (hlow : -0x20 ≤ n) (hhigh : n < 0) :
    Spells integer [UInt8.ofNat (n + 0x100).toNat] n := by
  have hcode : 0xE0 ≤ (n + 0x100).toNat := by omega
  have hvalue : ((n + 0x100).toNat : Int) - 0x100 = n := by omega
  apply Spells.byte
  rw [Text.toNat_ofNat_byte (by omega)]
  generalize (n + 0x100).toNat = code at hcode hvalue
  -- The codes of longer forms are all below 0xE0.
  split <;> try omega
  have hlarge : ¬ code < 0x80 := Nat.not_lt.mpr (Nat.le_trans (by decide) hcode)
  rw [if_neg hlarge, if_pos hcode, hvalue]
  exact Spells.pure _

theorem spells_integer_signed (value : Int64) :
    Spells integer (writeSigned value) value.toInt := by
  have hlow := value.le_toInt
  have hhigh := value.toInt_lt
  unfold writeSigned
  dsimp only
  split
  · rename_i hpositive
    have hvalue : (value.toInt.toNat : Int) = value.toInt := Int.toNat_of_nonneg hpositive
    rw [← hvalue]
    simp only [Int.toNat_natCast]
    split
    · exact spells_integer_small (by omega)
    · split
      · exact Spells.byte (spells_natural (by omega))
      · split
        · exact Spells.byte (spells_natural (by omega))
        · split
          · exact Spells.byte (spells_natural (by omega))
          · exact Spells.byte (spells_natural (by omega))
  · split
    · exact spells_integer_negative (by omega) (by omega)
    · split
      · exact Spells.byte (spells_signedOf (by omega) (by omega) (by decide))
      · split
        · exact Spells.byte (spells_signedOf (by omega) (by omega) (by decide))
        · split
          · exact Spells.byte (spells_signedOf (by omega) (by omega) (by decide))
          · exact Spells.byte (spells_signedOf (by omega) (by omega) (by decide))

/-! ### Text, binary data and extensions -/

theorem spells_data_header {length : Nat} (h : length < 0x100000000) :
    ∃ code tail, writeStringHeader length = code :: tail ∧
      Spells (dataLength code.toNat) tail length := by
  unfold writeStringHeader
  split
  · refine ⟨_, [], rfl, ?_⟩
    rw [Text.toNat_ofNat_byte (by omega)]
    unfold dataLength
    split <;> try omega
    rw [if_pos (by simp; omega), Nat.add_sub_cancel_left]
    exact Spells.pure _
  · split
    · exact ⟨0xD9, _, rfl, spells_unsignedOf (by omega)⟩
    · split
      · exact ⟨0xDA, _, rfl, spells_unsignedOf (by omega)⟩
      · exact ⟨0xDB, _, rfl, spells_unsignedOf (by omega)⟩

theorem length_writeString_pos (text : Text.Raw) : 0 < (writeString text).length := by
  have hheader : writeStringHeader text.bytes.length ≠ [] := by
    unfold writeStringHeader
    repeat' split
    all_goals simp
  unfold writeString
  rw [List.length_append]
  exact Nat.add_pos_left (List.length_pos_iff.mpr hheader) _

theorem spells_data {bytes : Bytes} (h : bytes.length < 0x100000000) :
    Spells data (writeStringHeader bytes.length ++ bytes) bytes := by
  obtain ⟨code, tail, hheader, hlength⟩ := spells_data_header h
  rw [hheader, List.cons_append]
  exact Spells.byte (hlength.bind (spells_take rfl))

theorem spells_data_binary {bytes : Bytes} (h : bytes.length < 0x100) :
    Spells data (writeBinary bytes) bytes :=
  Spells.byte ((spells_unsignedOf h).bind (spells_take rfl))

theorem spells_string {text : Text.Raw} (h : text.bytes.length < 0x100000000) :
    Spells string (writeString text) text :=
  (spells_data h).map

theorem spells_extension {code wanted : UInt8} {header bytes : Bytes}
    (hheader : Spells (extensionLength code.toNat) header bytes.length) :
    Spells (extension wanted) (code :: (header ++ wanted :: bytes)) bytes := by
  apply Spells.byte
  apply hheader.bind
  apply Spells.byte
  rw [bne_self_eq_false]
  exact spells_take rfl

theorem spells_aggregate_map {entries : Nat} (h : entries < 0x10) :
    Spells aggregate [UInt8.ofNat (0x80 + entries)] (.map entries) := by
  have hcode : (UInt8.ofNat (0x80 + entries)).toNat = 0x80 + entries :=
    Text.toNat_ofNat_byte (by omega)
  have hlength : Spells (mapLength (0x80 + entries)) [] entries := by
    unfold mapLength
    split <;> try omega
    rw [if_pos (by simp; omega), Nat.add_sub_cancel_left]
    exact Spells.pure _
  have harray : isArray (0x80 + entries) = false := by
    simp [isArray]
    omega
  apply Spells.byte
  simp only [hcode, harray, if_neg (show ¬ 0x80 + entries = 0xC0 by omega)]
  exact hlength.map

end HeadlessDesktop.MessagePack
