import HeadlessDesktop.Text.Scan
import Mathlib.Algebra.Group.Nat.Defs

/-! Numerals. A number is read from its digits, with or without zeros in front, and a numeral
of fixed width is as wide as it should be. -/
namespace HeadlessDesktop.Text

theorem hexValue?_digitChar {d : Nat} (h : d < 16) : hexValue? d.digitChar = some d := by
  revert d
  decide

theorem digitValue?_digitChar {d : Nat} (h : d < 10) : digitValue? d.digitChar = some d := by
  revert d
  decide

def appendDigit (base value : Nat) (c : Char) : Option Nat := do
  let d ← hexValue? c
  if d < base then some (value * base + d) else none

theorem numeral?_eq {base : Nat} {digits : List Char} (h : digits ≠ []) :
    numeral? base digits = digits.foldlM (appendDigit base) 0 := by
  have hempty : digits.isEmpty = false := by simpa using h
  unfold numeral?
  rw [hempty]
  rfl

theorem appendDigit_digitChar {base d : Nat} (value : Nat) (hbase : base ≤ 16) (h : d < base) :
    appendDigit base value d.digitChar = some (value * base + d) := by
  unfold appendDigit
  rw [hexValue?_digitChar (Nat.lt_of_lt_of_le h hbase), Option.bind_eq_bind, Option.bind_some,
    if_pos h]

theorem foldlM_toDigits {base : Nat} (hlow : 1 < base) (hhigh : base ≤ 16) (n : Nat) :
    (Nat.toDigits base n).foldlM (appendDigit base) 0 = some n := by
  induction n using Nat.strongRecOn with
  | _ n ih =>
    rw [Nat.toDigits_eq_if hlow]
    split
    · rename_i hsmall
      rw [List.foldlM_cons, appendDigit_digitChar 0 hhigh hsmall]
      simp
    · have hless : n / base < n := Nat.div_lt_self (by omega) hlow
      rw [List.foldlM_append, ih _ hless]
      have hdigit := appendDigit_digitChar (n / base) hhigh (Nat.mod_lt n (by omega))
      simp only [Option.bind_eq_bind, Option.bind_some, List.foldlM_cons, hdigit,
        List.foldlM_nil]
      rw [Nat.div_add_mod' n base]
      rfl

theorem foldlM_replicate_zero {base : Nat} (hlow : 1 < base) (count : Nat) :
    (List.replicate count '0').foldlM (appendDigit base) 0 = some 0 := by
  have hzero : appendDigit base 0 '0' = some 0 := by
    change (if 0 < base then some (0 * base + 0) else none) = _
    rw [if_pos (by omega), Nat.zero_mul]
  induction count with
  | zero => rfl
  | succ count ih =>
    rw [List.replicate_succ, List.foldlM_cons, hzero]
    exact ih

theorem numeral?_toDigits {base : Nat} (hlow : 1 < base) (hhigh : base ≤ 16) (n : Nat) :
    numeral? base (Nat.toDigits base n) = some n := by
  rw [numeral?_eq Nat.toDigits_ne_nil, foldlM_toDigits hlow hhigh]

theorem numeral?_decimal (n : Nat) : numeral? 10 (decimal n) = some n :=
  numeral?_toDigits (by decide) (by decide) n

theorem decimal_injective : Function.Injective decimal := by
  intro m n h
  have hm := numeral?_decimal m
  rw [h, numeral?_decimal] at hm
  exact (Option.some.inj hm).symm

theorem numeral?_zeroFill {base : Nat} (hlow : 1 < base) (hhigh : base ≤ 16) (width n : Nat) :
    numeral? base (zeroFill width (Nat.toDigits base n)) = some n := by
  unfold zeroFill
  rw [numeral?_eq (by simp [Nat.toDigits_ne_nil]), List.foldlM_append,
    foldlM_replicate_zero hlow]
  exact foldlM_toDigits hlow hhigh n

theorem zeroFill_succ {base : Nat} (hlow : 1 < base) {width : Nat} (hwidth : 0 < width) (n : Nat) :
    zeroFill (width + 1) (Nat.toDigits base n) =
      zeroFill width (Nat.toDigits base (n / base)) ++ [(n % base).digitChar] := by
  unfold zeroFill
  by_cases hsmall : n < base
  · rw [Nat.toDigits_of_lt_base hsmall, Nat.div_eq_of_lt hsmall, Nat.mod_eq_of_lt hsmall,
      Nat.toDigits_zero]
    obtain ⟨less, rfl⟩ : ∃ less, width = less + 1 := ⟨width - 1, by omega⟩
    simp [List.replicate_succ']
  · rw [Nat.toDigits_of_base_le hlow (by omega), List.length_append, List.length_singleton,
      Nat.add_sub_add_right, List.append_assoc]

theorem zeroFill_one {base n : Nat} (h : n < base) :
    zeroFill 1 (Nat.toDigits base n) = [n.digitChar] := by
  rw [Nat.toDigits_of_lt_base h]
  rfl

theorem length_zeroFill {base : Nat} (hlow : 1 < base) {width n : Nat} (hwidth : 0 < width)
    (h : n < base ^ width) : (zeroFill width (Nat.toDigits base n)).length = width := by
  have hdigits := (Nat.length_toDigits_le_iff hlow hwidth).mpr h
  unfold zeroFill
  rw [List.length_append, List.length_replicate]
  omega

theorem digitRun_append {digits rest : List Char}
    (hdigits : ∀ c ∈ digits, (digitValue? c).isSome = true)
    (hrest : ∀ c ∈ rest.head?, (digitValue? c).isSome = false) :
    Scan.digitRun (digits ++ rest) = (digits, rest) := by
  unfold Scan.digitRun
  rw [List.takeWhile_append_of_pos hdigits, List.dropWhile_append_of_pos hdigits]
  cases rest with
  | nil => simp
  | cons c tail => simp [hrest c (by simp)]

theorem scan_digit {d : Nat} (h : d < 10) (rest : List Char) :
    Scan.digit (d.digitChar :: rest) = some (d, rest) := by
  change (digitValue? d.digitChar).map (·, rest) = _
  rw [digitValue?_digitChar h]
  rfl

theorem scan_paddedDecimal {width n : Nat} (hwidth : 0 < width) (h : n < 10 ^ width)
    (rest : List Char) : Scan.digits width (paddedDecimal width n ++ rest) = some (n, rest) := by
  induction width generalizing n rest with
  | zero => exact absurd hwidth (by decide)
  | succ width ih =>
    unfold paddedDecimal decimal
    by_cases hone : width = 0
    · subst hone
      rw [zeroFill_one (by simpa using h), List.singleton_append]
      simp only [Scan.digits, Option.bind_eq_bind, Option.bind_some]
      rw [scan_digit (by simpa using h)]
      simp
    · have hless : n / 10 < 10 ^ width := by
        rw [Nat.pow_succ] at h
        exact Nat.div_lt_of_lt_mul (by rwa [Nat.mul_comm])
      have hdigits := ih (Nat.pos_of_ne_zero hone) hless ((n % 10).digitChar :: rest)
      rw [zeroFill_succ (by decide) (Nat.pos_of_ne_zero hone), List.append_assoc,
        List.singleton_append]
      unfold Scan.digits
      unfold paddedDecimal decimal at hdigits
      rw [hdigits, Option.bind_eq_bind, Option.bind_some]
      dsimp only
      rw [scan_digit (Nat.mod_lt n (by decide)), Option.bind_some]
      dsimp only
      rw [Nat.div_add_mod' n 10]
      rfl

theorem scan_oneOrTwoDigits {n : Nat} (h : n < 100) (rest : List Char) :
    Scan.oneOrTwoDigits (paddedDecimal 2 n ++ rest) = some (n, rest) := by
  unfold Scan.oneOrTwoDigits
  rw [scan_paddedDecimal (by decide) h]
  rfl

theorem scan_within {least most n : Nat} {step : Scan.Step Nat} {text rest : List Char}
    (hstep : step text = some (n, rest)) (hleast : least ≤ n) (hmost : n ≤ most) :
    Scan.within least most step text = some (n, rest) := by
  unfold Scan.within
  simp [hstep, hleast, hmost]

theorem exists_of_mem_toDigits {base : Nat} (hlow : 1 < base) {n : Nat} {c : Char}
    (h : c ∈ Nat.toDigits base n) : ∃ d < base, c = d.digitChar := by
  induction n using Nat.strongRecOn with
  | _ n ih =>
    rw [Nat.toDigits_eq_if hlow] at h
    split at h
    · rename_i hsmall
      exact ⟨n, hsmall, List.mem_singleton.mp h⟩
    · rcases List.mem_append.mp h with h | h
      · exact ih _ (Nat.div_lt_self (by omega) hlow) h
      · exact ⟨n % base, Nat.mod_lt n (by omega), List.mem_singleton.mp h⟩

theorem isSome_digitValue? {n : Nat} {c : Char} (h : c ∈ decimal n) :
    (digitValue? c).isSome = true := by
  obtain ⟨d, hd, rfl⟩ := exists_of_mem_toDigits (by decide) h
  rw [digitValue?_digitChar hd]
  rfl

theorem head_decimal {n : Nat} (h : 0 < n) :
    ∃ d rest, decimal n = Nat.digitChar d :: rest ∧ 0 < d ∧ d < 10 := by
  unfold decimal
  induction n using Nat.strongRecOn with
  | _ n ih =>
    rw [Nat.toDigits_eq_if (by decide)]
    split
    · rename_i hsmall
      exact ⟨n, [], rfl, h, hsmall⟩
    · obtain ⟨d, rest, heq, hpos, hlt⟩ := ih (n / 10) (by omega) (by omega)
      exact ⟨d, rest ++ [(n % 10).digitChar], by rw [heq]; rfl, hpos, hlt⟩

theorem head_decimal_digit (n : Nat) :
    ∃ d tail, decimal n = Nat.digitChar d :: tail ∧ d < 10 := by
  rcases Nat.eq_zero_or_pos n with rfl | hpos
  · exact ⟨0, [], rfl, by decide⟩
  · obtain ⟨d, tail, heq, -, hten⟩ := head_decimal hpos
    exact ⟨d, tail, heq, hten⟩

theorem digitChar_ne_minus {d : Nat} (h : d < 10) : d.digitChar ≠ '-' := by
  revert d
  decide

theorem decimal_append_ne_minus (n : Nat) (rest tail : List Char) :
    decimal n ++ rest ≠ '-' :: tail := by
  intro h
  obtain ⟨d, more, heq, hten⟩ := head_decimal_digit n
  rw [heq, List.cons_append] at h
  exact digitChar_ne_minus hten (List.cons.inj h).1

theorem decimal_ne_minus (n : Nat) (tail : List Char) : decimal n ≠ '-' :: tail := by
  have h := decimal_append_ne_minus n [] tail
  rwa [List.append_nil] at h

theorem not_mem_decimal {c : Char} (h : digitValue? c = none) (n : Nat) : c ∉ decimal n := by
  intro hmem
  have hdigit := isSome_digitValue? hmem
  rw [h] at hdigit
  contradiction

theorem not_mem_signedDecimal {c : Char} (h : digitValue? c = none) (hminus : c ≠ '-') (i : Int) :
    c ∉ signedDecimal i := by
  cases i with
  | ofNat n => exact not_mem_decimal h n
  | negSucc n =>
    unfold signedDecimal
    rw [List.mem_cons, not_or]
    exact ⟨hminus, not_mem_decimal h (n + 1)⟩

theorem signedDecimal_injective : Function.Injective signedDecimal := by
  intro i j h
  cases i with
  | ofNat m =>
    cases j with
    | ofNat n => exact congrArg Int.ofNat (decimal_injective h)
    | negSucc n => exact absurd h (decimal_ne_minus m _)
  | negSucc m =>
    cases j with
    | ofNat n => exact absurd h.symm (decimal_ne_minus n _)
    | negSucc n =>
      have hnext := decimal_injective (List.cons.inj h).2
      exact congrArg Int.negSucc (Nat.succ.inj hnext)

end HeadlessDesktop.Text
