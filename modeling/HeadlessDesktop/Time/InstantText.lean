import HeadlessDesktop.Text.Scan
import HeadlessDesktop.Time.Instant

/-! Instants as text: `2024-01-01T00:00:00.5+01:00`. -/

namespace HeadlessDesktop.Time

open Text

inductive Unwritable
  | year
  | zone
deriving DecidableEq, Repr

def Unwritable.message : Unwritable → String
  | .year => "year outside of range [0,9999]"
  | .zone => "timezone hour outside of range [0,23]"

def fractionText (nanos : Nat) : List Char :=
  if nanos == 0 then []
  else '.' :: ((paddedDecimal 9 nanos).reverse.dropWhile (· == '0')).reverse

/-- The zone in whole minutes, seconds being cut off; UTC is written `Z`. -/
def zoneText (offset : Int) : List Char :=
  if offset == 0 then ['Z']
  else
    let minutes := Int.tdiv offset 60
    (if minutes < 0 then '-' else '+') ::
      paddedDecimal 2 (minutes.natAbs / 60) ++ ':' :: paddedDecimal 2 (minutes.natAbs % 60)

def clockText (secondOfDay : Nat) : List Char :=
  paddedDecimal 2 (secondOfDay / 3600) ++ ':' :: paddedDecimal 2 (secondOfDay / 60 % 60) ++
    ':' :: paddedDecimal 2 (secondOfDay % 60)

def dateText (date : Date) : List Char :=
  paddedDecimal 4 date.year.toNat ++ '-' :: paddedDecimal 2 date.month ++
    '-' :: paddedDecimal 2 date.day

def Instant.write (time : Instant) : Except Unwritable (List Char) :=
  let date := Date.ofDays (time.localSeconds / 86400)
  if date.year < 0 || 9999 < date.year then .error .year
  else if 86400 ≤ time.offset.natAbs then .error .zone
  else .ok (dateText date ++ 'T' :: clockText (time.localSeconds % 86400).toNat ++
    fractionText time.nanos ++ zoneText time.offset)

/-- The part of a second: a point or comma and at least one digit, of which the first
nine count. Where none stands the part is zero. -/
def scanFraction (text : List Char) : Nat × List Char :=
  match text with
  | c :: rest =>
    let (digits, after) := Scan.digitRun rest
    if (c == '.' || c == ',') && !digits.isEmpty then
      (((numeral? 10 (digits.take 9 ++ List.replicate (9 - digits.length) '0')).getD 0), after)
    else (0, text)
  | [] => (0, [])

def scanZone : Scan.Step Int
  | 'Z' :: rest => some (0, rest)
  | sign :: rest => do
    let (hours, rest) ← Scan.within 0 24 (Scan.digits 2) rest
    let rest ← Scan.mark ':' rest
    let (minutes, rest) ← Scan.within 0 60 (Scan.digits 2) rest
    let offset : Int := (hours * 60 + minutes) * 60
    if sign == '+' then some (offset, rest)
    else if sign == '-' then some (-offset, rest)
    else none
  | [] => none

structure Layout where
  month : Scan.Step Nat
  day : Scan.Step Nat
  hour : Scan.Step Nat
  minute : Scan.Step Nat
  second : Scan.Step Nat

def Layout.full : Layout where
  month := Scan.digits 2
  day := Scan.digits 2
  hour := Scan.oneOrTwoDigits
  minute := Scan.digits 2
  second := Scan.digits 2

def Layout.short : Layout where
  month := Scan.oneOrTwoDigits
  day := Scan.oneOrTwoDigits
  hour := Scan.oneOrTwoDigits
  minute := Scan.oneOrTwoDigits
  second := Scan.oneOrTwoDigits

def Layout.scanDate (layout : Layout) : Scan.Step Date := fun text => do
  let (year, rest) ← Scan.digits 4 text
  let rest ← Scan.mark '-' rest
  let (month, rest) ← layout.month rest
  let rest ← Scan.mark '-' rest
  let (day, rest) ← layout.day rest
  let date : Date := ⟨year, month, day⟩
  if date.Valid then some (date, rest) else none

def Layout.scanClock (layout : Layout) : Scan.Step (Nat × Nat) := fun text => do
  let (hour, rest) ← Scan.within 0 23 layout.hour text
  let rest ← Scan.mark ':' rest
  let (minute, rest) ← Scan.within 0 59 layout.minute rest
  let rest ← Scan.mark ':' rest
  let (second, rest) ← Scan.within 0 59 layout.second rest
  let (nanos, rest) := scanFraction rest
  pure ((hour * 3600 + minute * 60 + second, nanos), rest)

def Instant.ofLocal (date : Date) (secondOfDay nanos : Nat) (offset : Int) : Instant :=
  ⟨Int64.ofInt (date.toDays * 86400 + secondOfDay - offset), nanosOf nanos, offset⟩

def Instant.read? (text : List Char) : Option Instant := do
  let (date, rest) ← Layout.full.scanDate text
  let rest ← Scan.mark 'T' rest
  let ((secondOfDay, nanos), rest) ← Layout.full.scanClock rest
  let (offset, rest) ← scanZone rest
  if rest.isEmpty then some (Instant.ofLocal date secondOfDay nanos offset) else none

/-- A date alone, or a date and a clock, divided by `T` or `t` and followed by a zone, or
divided by spaces. All fields may be short. -/
def isTimestamp (text : List Char) : Bool :=
  match Layout.short.scanDate text with
  | none => false
  | some (_, []) => true
  | some (_, divider :: rest) =>
    if divider == 'T' || divider == 't' then
      match Layout.short.scanClock rest with
      | some (_, rest) => match scanZone rest with
        | some (_, []) => true
        | _ => false
      | none => false
    else if divider == ' ' then
      match Layout.short.scanClock (rest.dropWhile (· == ' ')) with
      | some (_, []) => true
      | _ => false
    else false

end HeadlessDesktop.Time
