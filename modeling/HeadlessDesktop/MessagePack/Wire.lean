import HeadlessDesktop.Text.Raw

/-! The pieces of MessagePack that records need. -/

namespace HeadlessDesktop.MessagePack

open Text (Bytes Raw)

def bigEndian : (count : Nat) → (value : Nat) → Bytes
  | 0, _ => []
  | count + 1, value => UInt8.ofNat (value / Nat.pow 256 count) :: bigEndian count value

def ofBigEndian (bytes : Bytes) : Nat := bytes.foldl (fun value byte => value * 256 + byte.toNat) 0

def writeUnsigned (value : UInt64) : Bytes := 0xCF :: bigEndian 8 value.toNat

def writeSigned (value : Int64) : Bytes :=
  let n := value.toInt
  if 0 ≤ n then
    let n := n.toNat
    if n < 0x80 then [UInt8.ofNat n]
    else if n < 0x100 then 0xCC :: bigEndian 1 n
    else if n < 0x10000 then 0xCD :: bigEndian 2 n
    else if n < 0x100000000 then 0xCE :: bigEndian 4 n
    else 0xCF :: bigEndian 8 n
  else
    -- two's complement in as many bytes as are written
    if -0x20 ≤ n then [UInt8.ofNat (n + 0x100).toNat]
    else if -0x80 ≤ n then 0xD0 :: bigEndian 1 (n + 0x100).toNat
    else if -0x8000 ≤ n then 0xD1 :: bigEndian 2 (n + 0x10000).toNat
    else if -0x80000000 ≤ n then 0xD2 :: bigEndian 4 (n + 0x100000000).toNat
    else 0xD3 :: bigEndian 8 (n + 0x10000000000000000).toNat

def writeStringHeader (length : Nat) : Bytes :=
  if length < 0x20 then [UInt8.ofNat (0xA0 + length)]
  else if length < 0x100 then 0xD9 :: bigEndian 1 length
  else if length < 0x10000 then 0xDA :: bigEndian 2 length
  else 0xDB :: bigEndian 4 length

def writeString (text : Raw) : Bytes := writeStringHeader text.bytes.length ++ text.bytes

def writeBinary (bytes : Bytes) : Bytes := 0xC4 :: bigEndian 1 bytes.length ++ bytes

def writeMap (entries : List (String × Bytes)) : Bytes :=
  UInt8.ofNat (0x80 + entries.length) ::
    entries.flatMap fun (key, value) => writeString key ++ value

/-- Why nothing can be read: the bytes have ended before it or inside it, or they are none of
this format. -/
inductive WireError
  | ended
  | cut
  | malformed
deriving DecidableEq, Repr

abbrev Reader (α : Type) := StateT Bytes (Except WireError) α

def take (count : Nat) : Reader Bytes := fun bytes =>
  if count ≤ bytes.length then .ok (bytes.take count, bytes.drop count)
  else .error (if bytes.isEmpty then .ended else .cut)

def byte : Reader UInt8
  | [] => .error .ended
  | first :: rest => .ok (first, rest)

def unsignedOf (count : Nat) : Reader Nat := do return ofBigEndian (← take count)

def signedOf (count : Nat) : Reader Int := do
  let value ← unsignedOf count
  let modulus := Nat.pow 256 count
  return if value < modulus / 2 then (value : Int) else value - modulus

def natural (count : Nat) : Reader Int := do return (← unsignedOf count : Nat)

def integer : Reader Int := do
  match (← byte).toNat with
  | 0xC0 => return 0
  | 0xCC => natural 1
  | 0xCD => natural 2
  | 0xCE => natural 4
  | 0xCF => natural 8
  | 0xD0 => signedOf 1
  | 0xD1 => signedOf 2
  | 0xD2 => signedOf 4
  | 0xD3 => signedOf 8
  | n =>
    if n < 0x80 then return (n : Int)
    else if 0xE0 ≤ n then return (n : Int) - 0x100
    else throw .malformed

def dataLength (code : Nat) : Reader Nat :=
  match code with
  | 0xC0 => return 0
  | 0xC4 | 0xD9 => unsignedOf 1
  | 0xC5 | 0xDA => unsignedOf 2
  | 0xC6 | 0xDB => unsignedOf 4
  | n => if 0xA0 ≤ n && n < 0xC0 then return n - 0xA0 else throw .malformed

def data : Reader Bytes := do
  let code ← byte
  take (← dataLength code.toNat)

/-- The bytes as they are, whether or not they spell a text. -/
def string : Reader Raw := do return ⟨← data⟩

def mapLength (code : Nat) : Reader Nat :=
  match code with
  | 0xDE => unsignedOf 2
  | 0xDF => unsignedOf 4
  | n => if 0x80 ≤ n && n < 0x90 then return n - 0x80 else throw .malformed

def arrayLength (code : Nat) : Reader Nat :=
  match code with
  | 0xDC => unsignedOf 2
  | 0xDD => unsignedOf 4
  | n => if 0x90 ≤ n && n < 0xA0 then return n - 0x90 else throw .malformed

def isArray (code : Nat) : Bool := code == 0xDC || code == 0xDD || (0x90 ≤ code && code < 0xA0)

inductive Aggregate
  | absent
  | map (entries : Nat)
  | array (items : Nat)
deriving DecidableEq, Repr

/-- A map or an array. An array whose length is cut off counts as malformed. -/
def aggregate : Reader Aggregate := do
  let code := (← byte).toNat
  if code = 0xC0 then return .absent
  else if isArray code then
    try return .array (← arrayLength code)
    catch _ => throw .malformed
  else return .map (← mapLength code)

def extensionLength (code : Nat) : Reader Nat :=
  match code with
  | 0xD4 => return 1
  | 0xD5 => return 2
  | 0xD6 => return 4
  | 0xD7 => return 8
  | 0xD8 => return 16
  | 0xC7 => unsignedOf 1
  | 0xC8 => unsignedOf 2
  | 0xC9 => unsignedOf 4
  | _ => throw .malformed

def extension (wanted : UInt8) : Reader Bytes := do
  let code ← byte
  let length ← extensionLength code.toNat
  if (← byte) != wanted then throw .malformed
  take length

inductive Tail
  | bytes (count : Nat)
  | values (count : Nat)

def plainWidth? (code : Nat) : Option Nat :=
  if code < 0x80 || 0xE0 ≤ code then some 0
  else match code with
    | 0xC0 | 0xC2 | 0xC3 => some 0
    | 0xCC | 0xD0 => some 1
    | 0xCD | 0xD1 => some 2
    | 0xCE | 0xD2 | 0xCA => some 4
    | 0xCF | 0xD3 | 0xCB => some 8
    | _ => none

def tail (code : Nat) : Reader Tail :=
  match plainWidth? code with
  | some width => return .bytes width
  | none =>
    if isArray code then return .values (← arrayLength code)
    else if (0x80 ≤ code && code < 0x90) || code == 0xDE || code == 0xDF then
      return .values (2 * (← mapLength code))
    else if (0xC7 ≤ code && code ≤ 0xC9) || (0xD4 ≤ code && code ≤ 0xD8) then do
      let length ← extensionLength code
      let _ ← byte
      return .bytes length
    else return .bytes (← dataLength code)

/-- Passes over `count` values. `fuel` bounds the number of values, nested ones included. -/
def skip : (fuel count : Nat) → Reader Unit
  | _, 0 => return ()
  | 0, _ + 1 => throw .malformed
  | fuel + 1, count + 1 => do
    let code ← byte
    match ← tail code.toNat with
    | .bytes width =>
      let _ ← take width
      skip fuel count
    | .values more => skip fuel (count + more)

end HeadlessDesktop.MessagePack
