import HeadlessDesktop.Proofs.CalendarDays
import HeadlessDesktop.Proofs.Numerals
import HeadlessDesktop.Time.InstantText

/-! Instants are read from their text. Date, clock and fraction come back as they were; of the
zone whole minutes remain, so that the clock on the wall is the same. -/
namespace HeadlessDesktop.Time

open Text

theorem mark_cons (c : Char) (rest : List Char) : Scan.mark c (c :: rest) = some rest := by
  unfold Scan.mark
  simp

theorem scanDate_dateText {date : Date} (hlow : 0 ≤ date.year) (hhigh : date.year ≤ 9999)
    (hvalid : date.Valid) (rest : List Char) :
    Layout.full.scanDate (dateText date ++ rest) = some (date, rest) := by
  obtain ⟨year, month, day⟩ := date
  have hday : day ≤ 31 := by
    have hdays : daysInMonth year month ≤ 31 := by
      unfold daysInMonth
      repeat' split
      all_goals decide
    exact Nat.le_trans hvalid.2.2.2 hdays
  have hmonth : month ≤ 12 := hvalid.2.1
  have hyear : ((year.toNat : Nat) : Int) = year := Int.toNat_of_nonneg hlow
  have hlt : year.toNat < 10 ^ 4 := by
    dsimp only at hhigh
    omega
  unfold dateText Layout.scanDate Layout.full
  dsimp only
  simp only [List.append_assoc, List.cons_append]
  rw [scan_paddedDecimal (by decide) hlt]
  simp only [Option.bind_eq_bind, Option.bind_some, mark_cons]
  rw [scan_paddedDecimal (by decide) (by omega)]
  simp only [Option.bind_some, mark_cons]
  rw [scan_paddedDecimal (by decide) (by omega)]
  simp only [Option.bind_some, hyear]
  rw [if_pos hvalid]

/-! ### The part of a second -/

def trimZeros (digits : List Char) : List Char := (digits.reverse.dropWhile (· == '0')).reverse

theorem trimZeros_append (digits : List Char) :
    ∃ count, trimZeros digits ++ List.replicate count '0' = digits := by
  have hzeros : digits.reverse.takeWhile (· == '0') =
      List.replicate (digits.reverse.takeWhile (· == '0')).length '0' := by
    apply List.eq_replicate_of_mem
    intro c hc
    have hall := List.all_eq_true.mp (List.all_takeWhile (p := (· == '0')) (l := digits.reverse))
    simpa using hall c hc
  refine ⟨(digits.reverse.takeWhile (· == '0')).length, ?_⟩
  calc trimZeros digits ++ List.replicate (digits.reverse.takeWhile (· == '0')).length '0'
      = trimZeros digits ++ (digits.reverse.takeWhile (· == '0')).reverse := by
        conv_rhs => rw [hzeros, List.reverse_replicate]
    _ = (digits.reverse.takeWhile (· == '0') ++ digits.reverse.dropWhile (· == '0')).reverse := by
        rw [List.reverse_append]
        rfl
    _ = digits := by rw [List.takeWhile_append_dropWhile, List.reverse_reverse]

def EndsClock (rest : List Char) : Prop :=
  ∃ c tail, rest = c :: tail ∧ (digitValue? c).isSome = false ∧ c ≠ '.' ∧ c ≠ ','

theorem EndsClock.head?_not_digit {rest : List Char} (h : EndsClock rest) :
    ∀ c ∈ rest.head?, (digitValue? c).isSome = false := by
  obtain ⟨c, tail, rfl, hc, -, -⟩ := h
  simpa using hc

theorem digitValue?_of_mem_paddedDecimal {width n : Nat} {c : Char}
    (h : c ∈ paddedDecimal width n) : (digitValue? c).isSome = true := by
  rcases List.mem_append.mp h with h | h
  · rw [List.eq_of_mem_replicate h]
    rfl
  · exact isSome_digitValue? h

theorem scanFraction_fractionText {nanos : Nat} (h : nanos < 10 ^ 9) {rest : List Char}
    (hrest : EndsClock rest) : scanFraction (fractionText nanos ++ rest) = (nanos, rest) := by
  unfold fractionText
  split
  · rename_i hzero
    obtain ⟨c, tail, rfl, hc, hpoint, hcomma⟩ := hrest
    have hnanos : nanos = 0 := by simpa using hzero
    simp [scanFraction, hpoint, hcomma, hnanos]
  · rename_i hsome
    have hnanos : nanos ≠ 0 := by simpa using hsome
    change scanFraction ('.' :: (trimZeros (paddedDecimal 9 nanos) ++ rest)) = _
    obtain ⟨count, hcount⟩ := trimZeros_append (paddedDecimal 9 nanos)
    have hlength : (trimZeros (paddedDecimal 9 nanos)).length + count = 9 := by
      have hall := congrArg List.length hcount
      rw [List.length_append, List.length_replicate] at hall
      rw [hall]
      exact length_zeroFill (by decide) (by decide) h
    have hvalue : numeral? 10 (paddedDecimal 9 nanos) = some nanos :=
      numeral?_zeroFill (by decide) (by decide) 9 nanos
    -- Nothing but zeros would be the number zero.
    have hnonempty : trimZeros (paddedDecimal 9 nanos) ≠ [] := by
      intro hnil
      rw [hnil, List.nil_append] at hcount
      rw [← hcount, numeral?_eq (by rw [hcount]; simp [paddedDecimal, zeroFill, decimal]),
        foldlM_replicate_zero (by decide)] at hvalue
      exact hnanos (Option.some.inj hvalue).symm
    have hdigits (c : Char) (hc : c ∈ trimZeros (paddedDecimal 9 nanos)) :
        (digitValue? c).isSome = true := by
      have hmem : c ∈ paddedDecimal 9 nanos := by
        rw [← hcount]
        exact List.mem_append_left _ hc
      exact digitValue?_of_mem_paddedDecimal hmem
    have hrun := digitRun_append hdigits hrest.head?_not_digit
    have hfill : (trimZeros (paddedDecimal 9 nanos)).take 9 ++
        List.replicate (9 - (trimZeros (paddedDecimal 9 nanos)).length) '0' =
          paddedDecimal 9 nanos := by
      have hzeros : 9 - (trimZeros (paddedDecimal 9 nanos)).length = count := by omega
      rw [List.take_of_length_le (by omega), hzeros, hcount]
    unfold scanFraction
    dsimp only
    rw [hrun]
    simp [hnonempty, hfill, hvalue]

/-! ### Clock and zone -/

theorem scanClock_clockText {second nanos : Nat} (hsecond : second < 86400)
    (hnanos : nanos < 10 ^ 9) {rest : List Char} (hrest : EndsClock rest) :
    Layout.full.scanClock (clockText second ++ (fractionText nanos ++ rest)) =
      some ((second, nanos), rest) := by
  unfold clockText Layout.scanClock Layout.full
  dsimp only
  simp only [List.append_assoc, List.cons_append]
  rw [scan_within (scan_oneOrTwoDigits (by omega) _) (Nat.zero_le _) (by omega)]
  simp only [Option.bind_eq_bind, Option.bind_some, mark_cons]
  rw [scan_within (scan_paddedDecimal (by decide) (by omega) _) (Nat.zero_le _) (by omega)]
  simp only [Option.bind_some, mark_cons]
  rw [scan_within (scan_paddedDecimal (by decide) (by omega) _) (Nat.zero_le _) (by omega)]
  simp only [Option.bind_some, scanFraction_fractionText hnanos hrest]
  have hsum : second / 3600 * 3600 + second / 60 % 60 * 60 + second % 60 = second := by omega
  rw [hsum]
  rfl

theorem endsClock_zoneText (offset : Int) : EndsClock (zoneText offset) := by
  unfold zoneText
  split
  · exact ⟨'Z', [], rfl, rfl, by decide, by decide⟩
  · dsimp only
    split
    · exact ⟨'-', _, rfl, rfl, by decide, by decide⟩
    · exact ⟨'+', _, rfl, rfl, by decide, by decide⟩

theorem scanZone_signed {sign : Char} (hsign : sign = '+' ∨ sign = '-') {minutes : Nat}
    (h : minutes < 1440) :
    scanZone (sign :: (paddedDecimal 2 (minutes / 60) ++
        ':' :: paddedDecimal 2 (minutes % 60))) =
      some (if sign = '+' then (minutes : Int) * 60 else -((minutes : Int) * 60), []) := by
  have hhours := scan_within (scan_paddedDecimal (by decide)
    (show minutes / 60 < 10 ^ 2 by omega) (':' :: paddedDecimal 2 (minutes % 60)))
    (Nat.zero_le _) (show minutes / 60 ≤ 24 by omega)
  have hrest := scan_within (scan_paddedDecimal (by decide)
    (show minutes % 60 < 10 ^ 2 by omega) []) (Nat.zero_le _)
    (show minutes % 60 ≤ 60 by omega)
  rw [List.append_nil] at hrest
  have hoffset : ((minutes / 60 : Nat) * 60 + (minutes % 60 : Nat)) * 60 =
      (minutes : Int) * 60 := by omega
  have hletter : sign ≠ 'Z' := by
    rcases hsign with rfl | rfl <;> decide
  rw [scanZone.eq_2 _ _ (by simpa using hletter)]
  simp only [hhours, Option.bind_eq_bind, Option.bind_some, mark_cons, hrest, hoffset]
  rcases hsign with rfl | rfl <;> rfl

theorem scanZone_zoneText {offset : Int} (h : offset.natAbs < 86400) :
    scanZone (zoneText offset) = some (offset.tdiv 60 * 60, []) := by
  unfold zoneText
  split
  · rename_i hzero
    have hoffset : offset = 0 := by simpa using hzero
    rw [hoffset]
    rfl
  · have hbound : (offset.tdiv 60).natAbs < 1440 := by
      rw [Int.natAbs_tdiv]
      exact Nat.div_lt_of_lt_mul h
    generalize offset.tdiv 60 = minutes at hbound
    dsimp only
    split
    · rw [List.cons_append, scanZone_signed (Or.inr rfl) hbound, if_neg (by decide)]
      have hvalue : -((minutes.natAbs : Int) * 60) = minutes * 60 := by omega
      rw [hvalue]
    · rw [List.cons_append, scanZone_signed (Or.inl rfl) hbound, if_pos rfl]
      have hvalue : (minutes.natAbs : Int) * 60 = minutes * 60 := by omega
      rw [hvalue]

/-! ### Instants -/

/-- Whether an instant has a text: a year of four digits and a zone of less than a day. -/
def Instant.HasText (time : Instant) : Prop :=
  0 ≤ time.localYear ∧ time.localYear ≤ 9999 ∧ time.offset.natAbs < 86400

theorem Instant.write_of_hasText {time : Instant} (h : time.HasText) :
    time.write = .ok (dateText (Date.ofDays (time.localSeconds / 86400)) ++
      'T' :: clockText (time.localSeconds % 86400).toNat ++ fractionText time.nanos ++
        zoneText time.offset) := by
  obtain ⟨hlow, hhigh, hzone⟩ := h
  unfold localYear at hlow hhigh
  unfold write
  simp only [Bool.or_eq_true, decide_eq_true_eq]
  rw [if_neg (by omega), if_neg (by omega)]

theorem Instant.write_of_not_hasText {time : Instant} (h : ¬ time.HasText) :
    ∃ why, time.write = .error why := by
  unfold HasText localYear at h
  unfold write
  simp only [Bool.or_eq_true, decide_eq_true_eq]
  split
  · exact ⟨_, rfl⟩
  · split
    · exact ⟨_, rfl⟩
    · exact absurd (by omega) h

/-- The same clock on the wall, in a zone of whole minutes. -/
def Instant.inMinutes (time : Instant) : Instant where
  seconds := Int64.ofInt (time.localSeconds - time.offset.tdiv 60 * 60)
  nanos := time.nanos
  offset := time.offset.tdiv 60 * 60

theorem Instant.read?_write {time : Instant} (h : time.HasText) {text : List Char}
    (htext : time.write = .ok text) : Instant.read? text = some time.inMinutes := by
  rw [write_of_hasText h] at htext
  cases htext
  obtain ⟨hlow, hhigh, hzone⟩ := h
  have hdate := scanDate_dateText hlow hhigh (Date.valid_ofDays (time.localSeconds / 86400))
  have hsecond : (time.localSeconds % 86400).toNat < 86400 := by omega
  have hclock := scanClock_clockText hsecond time.nanos.isLt (endsClock_zoneText time.offset)
  have hnanos : nanosOf time.nanos.val = time.nanos := Fin.ofNat_val_eq_self time.nanos
  have hseconds : time.localSeconds / 86400 * 86400 + (time.localSeconds % 86400).toNat =
      time.localSeconds := by omega
  unfold Instant.read?
  simp only [List.append_assoc, List.cons_append, hdate, Option.bind_eq_bind, Option.bind_some,
    mark_cons, hclock, scanZone_zoneText hzone]
  unfold ofLocal inMinutes
  rw [Date.toDays_ofDays, hseconds, hnanos]
  rfl

theorem Instant.localSeconds_inMinutes {time : Instant} (h : time.HasText) :
    time.inMinutes.localSeconds = time.localSeconds := by
  obtain ⟨hlow, hhigh, hzone⟩ := h
  have hdays := Date.days_bounds hlow hhigh
  have hminutes : (time.offset.tdiv 60).natAbs < 1440 := by
    rw [Int.natAbs_tdiv]
    exact Nat.div_lt_of_lt_mul hzone
  have hseconds : (Int64.ofInt (time.localSeconds - time.offset.tdiv 60 * 60)).toInt =
      time.localSeconds - time.offset.tdiv 60 * 60 := by
    apply Int64.toInt_ofInt_of_le
    · norm_num
      omega
    · norm_num
      omega
  change (Int64.ofInt (time.localSeconds - time.offset.tdiv 60 * 60)).toInt +
    time.offset.tdiv 60 * 60 = _
  rw [hseconds]
  omega

theorem Instant.inMinutes_eq_self {time : Instant} (h : time.HasText)
    (hwhole : time.offset % 60 = 0) : time.inMinutes = time := by
  have hoffset : time.offset.tdiv 60 * 60 = time.offset :=
    Int.tdiv_mul_cancel (Int.dvd_of_emod_eq_zero hwhole)
  have hlocal := localSeconds_inMinutes h
  have hseconds : time.inMinutes.seconds = time.seconds := by
    apply Int64.toInt_inj.mp
    unfold localSeconds at hlocal
    have hsame : time.inMinutes.offset = time.offset := hoffset
    omega
  calc time.inMinutes
      = ⟨time.inMinutes.seconds, time.nanos, time.offset.tdiv 60 * 60⟩ := rfl
    _ = ⟨time.seconds, time.nanos, time.offset⟩ := by rw [hseconds, hoffset]

end HeadlessDesktop.Time
