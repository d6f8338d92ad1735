import HeadlessDesktop.Proofs.Numerals
import HeadlessDesktop.Proofs.SettledConfig
import Mathlib.Data.List.Induction

/-! The texts of semantic versions, and which of them a configuration may name as its interface.
Versions are read exactly from the texts of a grammar: one to three numbers, and behind three of
them the identifiers of a pre-release and of a build. Of these the major version one is accepted
up to its first release. -/
namespace HeadlessDesktop

open Text

namespace Version

def IsNumber (digits : List Char) : Prop :=
  digits ≠ [] ∧ (∀ c ∈ digits, c.isDigit = true) ∧ (digits.head? = some '0' → digits = ['0'])

instance (digits : List Char) : Decidable (IsNumber digits) :=
  letI := List.decidableBAll (fun c : Char => c.isDigit = true) digits
  inferInstanceAs (Decidable (_ ∧ _ ∧ _))

def IsWord (word : List Char) : Prop :=
  word ≠ [] ∧ ∀ c ∈ word, c.isAlphanum = true ∨ c = '-'

instance (word : List Char) : Decidable (IsWord word) :=
  letI := List.decidableBAll (fun c : Char => c.isAlphanum = true ∨ c = '-') word
  inferInstanceAs (Decidable (_ ∧ _))

def IsPrereleaseWord (word : List Char) : Prop :=
  IsWord word ∧ ((∀ c ∈ word, c.isDigit = true) → IsNumber word)

instance (word : List Char) : Decidable (IsPrereleaseWord word) :=
  letI := List.decidableBAll (fun c : Char => c.isDigit = true) word
  inferInstanceAs (Decidable (_ ∧ _))

def IsPart (lead : Char) (isWord : List Char → Prop) (text : List Char) : Prop :=
  text = [] ∨ ∃ words, words ≠ [] ∧ (∀ word ∈ words, isWord word) ∧
    text = lead :: ['.'].intercalate words

def IsPrereleasePart : List Char → Prop := IsPart '-' IsPrereleaseWord

def IsBuildPart : List Char → Prop := IsPart '+' IsWord

def IsSuffix (text : List Char) : Prop :=
  ∃ prerelease build, IsPrereleasePart prerelease ∧ IsBuildPart build ∧ text = prerelease ++ build

/-- The texts of versions and the numbers in them; numbers that are left out are zero. -/
inductive Spelled : (text major minor patch : List Char) → Prop
  | major {major : List Char} (hmajor : IsNumber major) :
    Spelled ('v' :: major) major ['0'] ['0']
  | minor {major minor : List Char} (hmajor : IsNumber major) (hminor : IsNumber minor) :
    Spelled ('v' :: (major ++ '.' :: minor)) major minor ['0']
  | patch {major minor patch suffix : List Char} (hmajor : IsNumber major)
    (hminor : IsNumber minor) (hpatch : IsNumber patch) (hsuffix : IsSuffix suffix) :
    Spelled ('v' :: (major ++ '.' :: (minor ++ '.' :: (patch ++ suffix)))) major minor patch

def IsVersion (text major : List Char) : Prop := ∃ minor patch, Spelled text major minor patch

/-! ### Characters -/

theorem isSome_digitValue?_eq (c : Char) : (digitValue? c).isSome = c.isDigit := by
  unfold digitValue?
  rw [Bool.eq_iff_iff, Option.isSome_ite]
  rfl

theorem exists_digitChar {c : Char} (h : c.isDigit = true) : ∃ d < 10, c = d.digitChar := by
  have hchar : ∀ d < 10, Char.ofNat (48 + d) = d.digitChar := by decide
  unfold Char.isDigit at h
  rw [Bool.and_eq_true, decide_eq_true_eq, decide_eq_true_eq, ge_iff_le, UInt32.le_iff_toNat_le,
    UInt32.le_iff_toNat_le] at h
  change 48 ≤ c.toNat ∧ c.toNat ≤ 57 at h
  refine ⟨c.toNat - 48, by omega, ?_⟩
  rw [← hchar _ (by omega), Nat.add_sub_cancel' h.1, Char.ofNat_toNat]

theorem isIdentifierChar_iff (c : Char) :
    isIdentifierChar c = true ↔ c.isAlphanum = true ∨ c = '-' := by
  unfold isIdentifierChar Char.isAlphanum Char.isAlpha Char.isUpper Char.isLower
  simp only [Bool.or_eq_true, Bool.and_eq_true, decide_eq_true_eq, beq_iff_eq,
    isSome_digitValue?_eq, Char.le_def, UInt32.le_iff_toNat_le, ge_iff_le]
  grind

/-! ### Numbers -/

theorem isNumber_iff {digits : List Char} (hne : digits ≠ [])
    (hdigits : ∀ c ∈ digits, c.isDigit = true) :
    IsNumber digits ↔ (decide (digits.length > 1) && digits.head? == some '0') = false := by
  obtain ⟨c, rest, rfl⟩ := List.exists_cons_of_ne_nil hne
  unfold IsNumber
  rw [and_iff_right hne, and_iff_right hdigits]
  cases rest <;> simp

theorem isNumber_decimal (n : Nat) : IsNumber (decimal n) := by
  have hdigits (c : Char) (hc : c ∈ decimal n) : c.isDigit = true := by
    rw [← isSome_digitValue?_eq, isSome_digitValue? hc]
  refine ⟨Nat.toDigits_ne_nil, hdigits, ?_⟩
  intro hzero
  rcases Nat.eq_zero_or_pos n with rfl | hpos
  · rfl
  · obtain ⟨d, rest, heq, hd, hten⟩ := head_decimal hpos
    rw [heq, List.head?_cons, Option.some.injEq] at hzero
    have hdigit : ∀ d < 10, 0 < d → d.digitChar ≠ '0' := by decide
    exact absurd hzero (hdigit d hten hd)

theorem IsNumber.exists_decimal {digits : List Char} (h : IsNumber digits) :
    ∃ n, digits = decimal n := by
  induction digits using List.reverseRecOn with
  | nil => exact absurd rfl h.1
  | append_singleton front last ih =>
    obtain ⟨-, hdigits, hzero⟩ := h
    obtain ⟨d, hd, rfl⟩ := exists_digitChar (hdigits last (by simp))
    have hlast : decimal d = [d.digitChar] := Nat.toDigits_of_lt_base hd
    by_cases hfront : front = []
    · exact ⟨d, by rw [hfront, List.nil_append, hlast]⟩
    · obtain ⟨c, tail, rfl⟩ := List.exists_cons_of_ne_nil hfront
      have hc : c ≠ '0' := by
        rintro rfl
        simpa using hzero rfl
      obtain ⟨n, hn⟩ := ih ⟨hfront, fun c hc => hdigits c (List.mem_append_left _ hc), by simp [hc]⟩
      -- Only zero starts with a zero, so there is a digit of higher place.
      have hpos : 0 < n := by
        apply Nat.pos_of_ne_zero
        rintro rfl
        exact hc (List.cons.inj hn).1
      refine ⟨10 * n + d, ?_⟩
      rw [hn, ← hlast]
      exact Nat.toDigits_append_toDigits (by decide) hpos hd

theorem number?_append (n : Nat) {rest : List Char} (hrest : ∀ c ∈ rest.head?, c.isDigit = false) :
    number? (decimal n ++ rest) = some (n, rest) := by
  obtain ⟨hne, hdigits, -⟩ := isNumber_decimal n
  have hrun : Scan.digitRun (decimal n ++ rest) = (decimal n, rest) :=
    digitRun_append (fun c hc => by rw [isSome_digitValue?_eq, hdigits c hc])
      fun c hc => by rw [isSome_digitValue?_eq, hrest c hc]
  unfold number?
  rw [hrun]
  dsimp only
  rw [(isNumber_iff hne hdigits).mp (isNumber_decimal n), numeral?_decimal]
  rfl

theorem eq_append_of_number? {text rest : List Char} {n : Nat} (h : number? text = some (n, rest)) :
    text = decimal n ++ rest := by
  unfold number? Scan.digitRun at h
  dsimp only at h
  split at h
  · contradiction
  · rename_i hzero
    simp only [Option.map_eq_some_iff, Prod.mk.injEq] at h
    obtain ⟨value, hvalue, rfl, rfl⟩ := h
    have hne : (text.takeWhile fun c => (digitValue? c).isSome) ≠ [] := by
      intro hnil
      rw [hnil] at hvalue
      contradiction
    have hdigits (c) (hc : c ∈ text.takeWhile fun c => (digitValue? c).isSome) :
        c.isDigit = true := by
      rw [← isSome_digitValue?_eq]
      exact List.mem_takeWhile_imp (p := fun c => (digitValue? c).isSome) hc
    -- The digits that were taken are a number, and its numeral has the value that was read.
    obtain ⟨n, hn⟩ := ((isNumber_iff hne hdigits).mpr (by simpa using hzero)).exists_decimal
    rw [hn, numeral?_decimal, Option.some.injEq] at hvalue
    rw [← hvalue, ← hn, List.takeWhile_append_dropWhile]

/-! ### Words -/

theorem splitAtChar_eq (separator : Char) (text : List Char) :
    splitAtChar separator text = text.splitOn separator := by
  induction text with
  | nil => rfl
  | cons c rest ih =>
    unfold splitAtChar List.splitOn
    rw [List.splitOnP_cons_eq_if_modifyHead, ih]
    split
    · rfl
    · change _ = List.modifyHead _ (rest.splitOn separator)
      split
      · rename_i heq
        rw [heq]
        rfl
      · rename_i heq
        exact absurd heq (List.splitOn_ne_nil _ _)

theorem isIdentifier_iff (word : List Char) : isIdentifier word = true ↔ IsWord word := by
  unfold isIdentifier IsWord
  simp only [Bool.and_eq_true, Bool.not_eq_true', List.isEmpty_eq_false_iff, List.all_eq_true,
    isIdentifierChar_iff]

theorem isNumeric_iff (word : List Char) :
    isNumeric word = true ↔ ∀ c ∈ word, c.isDigit = true := by
  unfold isNumeric
  simp only [List.all_eq_true, isSome_digitValue?_eq]

theorem isPrereleaseIdentifier_iff (word : List Char) :
    isPrereleaseIdentifier word = true ↔ IsPrereleaseWord word := by
  unfold isPrereleaseIdentifier IsPrereleaseWord
  rw [Bool.and_eq_true, isIdentifier_iff]
  refine and_congr_right fun hword => ?_
  rw [Bool.not_eq_true', Bool.and_assoc, Bool.and_eq_false_imp, isNumeric_iff]
  exact forall_congr' fun hdigits => (isNumber_iff hword.1 hdigits).symm

theorem IsWord.dot_not_mem {word : List Char} (h : IsWord word) : '.' ∉ word := by
  intro hdot
  have hchar := h.2 '.' hdot
  revert hchar
  decide

theorem identifiers?_isSome {accepts : List Char → Bool} {isWord : List Char → Prop}
    (haccepts : ∀ word, accepts word = true ↔ isWord word)
    (hword : ∀ word, isWord word → '.' ∉ word) (text : List Char) :
    (identifiers? accepts text).isSome = true ↔
      ∃ words, words ≠ [] ∧ (∀ word ∈ words, isWord word) ∧ text = ['.'].intercalate words := by
  unfold identifiers?
  rw [splitAtChar_eq, Option.isSome_ite, List.all_eq_true]
  simp only [haccepts]
  constructor
  · intro hall
    exact ⟨text.splitOn '.', List.splitOn_ne_nil _ _, hall, (List.intercalate_splitOn _).symm⟩
  · rintro ⟨words, hwords, hall, rfl⟩
    rwa [List.splitOn_intercalate _ (fun word hmem => hword word (hall word hmem)) hwords]

theorem part?_isSome {lead : Char} {accepts : List Char → Bool} {isWord : List Char → Prop}
    (haccepts : ∀ word, accepts word = true ↔ isWord word)
    (hword : ∀ word, isWord word → '.' ∉ word) (text : List Char) :
    (part? lead accepts text).isSome = true ↔ IsPart lead isWord text := by
  unfold IsPart
  cases text with
  | nil => exact iff_of_true rfl (.inl rfl)
  | cons c rest =>
    rw [part?]
    split
    · rename_i hlead
      rw [identifiers?_isSome haccepts hword, beq_iff_eq.mp hlead]
      simp
    · rename_i hlead
      have hne : c ≠ lead := by simpa using hlead
      simp [hne]

/-! ### Suffixes -/

theorem mem_intercalate {words : List (List Char)} {c : Char}
    (h : c ∈ ['.'].intercalate words) : c = '.' ∨ ∃ word ∈ words, c ∈ word := by
  induction words with
  | nil => exact absurd h List.not_mem_nil
  | cons word rest ih =>
    by_cases hrest : rest = []
    · rw [hrest, List.intercalate_singleton] at h
      exact .inr ⟨word, List.mem_cons_self, h⟩
    · rw [List.intercalate_cons_of_ne_nil hrest, List.append_assoc, List.mem_append,
        List.singleton_append, List.mem_cons] at h
      rcases h with h | h | h
      · exact .inr ⟨word, List.mem_cons_self, h⟩
      · exact .inl h
      · exact (ih h).imp_right fun ⟨later, hmem, hc⟩ => ⟨later, List.mem_cons_of_mem _ hmem, hc⟩

theorem IsPrereleasePart.plus_not_mem {text : List Char} (h : IsPrereleasePart text) :
    '+' ∉ text := by
  rcases h with rfl | ⟨words, -, hwords, rfl⟩
  · exact List.not_mem_nil
  · intro hplus
    rcases List.mem_cons.mp hplus with hplus | hplus
    · revert hplus
      decide
    · rcases mem_intercalate hplus with hplus | ⟨word, hmem, hplus⟩
      · revert hplus
        decide
      · have hchar := (hwords word hmem).1.2 '+' hplus
        revert hchar
        decide

theorem isSuffix_iff (text : List Char) :
    IsSuffix text ↔ IsPrereleasePart (text.takeWhile (· != '+')) ∧
      IsBuildPart (text.dropWhile (· != '+')) := by
  constructor
  · rintro ⟨prerelease, build, hprerelease, hbuild, rfl⟩
    have hfront : ∀ c ∈ prerelease, (c != '+') = true := by
      intro c hc
      rw [bne_iff_ne]
      rintro rfl
      exact hprerelease.plus_not_mem hc
    -- A build is empty or starts with the plus at which the front ends.
    rw [List.takeWhile_append_of_pos hfront, List.dropWhile_append_of_pos hfront]
    rcases hbuild with rfl | ⟨words, hne, hwords, rfl⟩
    · exact ⟨by simpa using hprerelease, .inl rfl⟩
    · exact ⟨by simpa using hprerelease, .inr ⟨words, hne, hwords, rfl⟩⟩
  · rintro ⟨hprerelease, hbuild⟩
    exact ⟨_, _, hprerelease, hbuild, List.takeWhile_append_dropWhile.symm⟩

theorem suffix?_isSome (version : Version) (text : List Char) :
    (suffix? version text).isSome = true ↔ IsSuffix text := by
  unfold suffix?
  rw [isSuffix_iff, IsPrereleasePart, IsBuildPart,
    ← part?_isSome isPrereleaseIdentifier_iff fun word h => h.1.dot_not_mem,
    ← part?_isSome isIdentifier_iff fun word h => h.dot_not_mem]
  simp only [Option.isSome_iff_exists, Option.bind_eq_bind, Option.bind_eq_some_iff]
  constructor
  · rintro ⟨_, prerelease, hprerelease, build, hbuild, -⟩
    exact ⟨⟨prerelease, hprerelease⟩, build, hbuild⟩
  · rintro ⟨⟨prerelease, hprerelease⟩, build, hbuild⟩
    exact ⟨_, prerelease, hprerelease, build, hbuild, rfl⟩

theorem numbers_suffix? {version result : Version} {text : List Char}
    (h : suffix? version text = some result) :
    result.major = version.major ∧ result.minor = version.minor ∧ result.patch = version.patch := by
  unfold suffix? at h
  simp only [Option.bind_eq_bind, Option.bind_eq_some_iff, Option.pure_def, Option.some.injEq] at h
  obtain ⟨prerelease, -, build, -, rfl⟩ := h
  exact ⟨rfl, rfl, rfl⟩

/-! ### Versions -/

theorem mark_eq_some {c : Char} {text rest : List Char} :
    Scan.mark c text = some rest ↔ text = c :: rest := by
  unfold Scan.mark
  cases text with
  | nil => simp
  | cons d tail => simp

theorem head?_suffix {text : List Char} (h : IsSuffix text) :
    ∀ c ∈ text.head?, c.isDigit = false := by
  obtain ⟨prerelease, build, hprerelease, hbuild, rfl⟩ := h
  rcases hprerelease with rfl | ⟨words, -, -, rfl⟩
  · rcases hbuild with rfl | ⟨words, -, -, rfl⟩
    · simp
    · simp
  · simp

theorem decimal_zero : decimal 0 = ['0'] := rfl

theorem decimal_one : decimal 1 = ['1'] := rfl

theorem Spelled.parse? {text major minor patch : List Char} (h : Spelled text major minor patch) :
    ∃ version, Version.parse? (String.ofList text) = some version ∧ decimal version.major = major ∧
      decimal version.minor = minor ∧ decimal version.patch = patch := by
  have hend (n : Nat) : number? (decimal n) = some (n, []) := by
    rw [← List.append_nil (decimal n), number?_append n (by simp)]
  have hdot (n : Nat) (rest : List Char) :
      number? (decimal n ++ '.' :: rest) = some (n, '.' :: rest) :=
    number?_append n (by simp)
  unfold Version.parse?
  rw [String.toList_ofList]
  cases h with
  | major hmajor =>
    obtain ⟨n, rfl⟩ := hmajor.exists_decimal
    exact ⟨{ major := n }, by simp [Scan.mark, hend], rfl, decimal_zero, decimal_zero⟩
  | minor hmajor hminor =>
    obtain ⟨n, rfl⟩ := hmajor.exists_decimal
    obtain ⟨m, rfl⟩ := hminor.exists_decimal
    exact ⟨{ major := n, minor := m }, by simp [Scan.mark, hend, hdot], rfl, rfl, decimal_zero⟩
  | patch hmajor hminor hpatch hsuffix =>
    obtain ⟨n, rfl⟩ := hmajor.exists_decimal
    obtain ⟨m, rfl⟩ := hminor.exists_decimal
    obtain ⟨k, rfl⟩ := hpatch.exists_decimal
    obtain ⟨version, hversion⟩ := Option.isSome_iff_exists.mp
      ((suffix?_isSome { major := n, minor := m, patch := k } _).mpr hsuffix)
    obtain ⟨hmajor, hminor, hpatch⟩ := numbers_suffix? hversion
    refine ⟨version, ?_, ?_⟩
    · simp [Scan.mark, hdot, number?_append k (head?_suffix hsuffix), hversion]
    · rw [hmajor, hminor, hpatch]
      exact ⟨rfl, rfl, rfl⟩

theorem spelled_of_parse? {text : String} {version : Version} (h : parse? text = some version) :
    Spelled text.toList (decimal version.major) (decimal version.minor)
      (decimal version.patch) := by
  unfold parse? at h
  simp only [Option.bind_eq_bind, Option.bind_eq_some_iff, Option.pure_def, mark_eq_some,
    Prod.exists] at h
  obtain ⟨_, htext, major, rest, hmajor, h⟩ := h
  rw [htext, eq_append_of_number? hmajor]
  split at h
  · rename_i hend
    rw [List.isEmpty_iff] at hend
    obtain rfl := Option.some.inj h
    rw [hend, List.append_nil, decimal_zero]
    exact .major (isNumber_decimal major)
  · simp only [Option.bind_eq_some_iff, mark_eq_some, Prod.exists] at h
    obtain ⟨_, rfl, minor, rest, hminor, h⟩ := h
    rw [eq_append_of_number? hminor]
    split at h
    · rename_i hend
      rw [List.isEmpty_iff] at hend
      obtain rfl := Option.some.inj h
      rw [hend, List.append_nil, decimal_zero]
      exact .minor (isNumber_decimal major) (isNumber_decimal minor)
    · simp only [Option.bind_eq_some_iff, mark_eq_some, Prod.exists] at h
      obtain ⟨_, rfl, patch, rest, hpatch, h⟩ := h
      rw [eq_append_of_number? hpatch]
      obtain ⟨hmajor, hminor, hpatch⟩ := numbers_suffix? h
      rw [hmajor, hminor, hpatch]
      exact .patch (isNumber_decimal major) (isNumber_decimal minor) (isNumber_decimal patch)
        ((suffix?_isSome _ rest).mp (by rw [h]; rfl))

theorem parse?_eq_none {text : String} :
    parse? text = none ↔ ¬∃ major, IsVersion text.toList major := by
  constructor
  · rintro hnone ⟨major, minor, patch, h⟩
    obtain ⟨version, hversion, -⟩ := h.parse?
    rw [String.ofList_toList, hnone] at hversion
    contradiction
  · intro h
    cases hparse : parse? text with
    | none => rfl
    | some version => exact absurd ⟨_, _, _, spelled_of_parse? hparse⟩ h

theorem spelled_iff {text : String} {version : Version} (h : parse? text = some version)
    (major minor patch : List Char) :
    Spelled text.toList major minor patch ↔
      decimal version.major = major ∧ decimal version.minor = minor ∧
        decimal version.patch = patch := by
  constructor
  · intro hspelled
    obtain ⟨other, hother, hnumbers⟩ := hspelled.parse?
    rw [String.ofList_toList, h, Option.some.injEq] at hother
    rwa [hother]
  · rintro ⟨rfl, rfl, rfl⟩
    exact spelled_of_parse? h

theorem isVersion_iff {text : String} {version : Version} (h : parse? text = some version)
    (major : List Char) : IsVersion text.toList major ↔ decimal version.major = major := by
  unfold IsVersion
  simp [spelled_iff h]

theorem comparePrereleases_ne_gt (prerelease : List (List Char)) :
    comparePrereleases prerelease [] ≠ .gt := by
  cases prerelease <;> exact nofun

theorem precedence_abiVersion {version : Version} (h : version.major = 1) :
    version.precedence Config.abiVersion = .gt ↔ ¬(version.minor = 0 ∧ version.patch = 0) := by
  unfold precedence Config.abiVersion
  simp only [Ordering.then_eq_gt, Nat.compare_eq_gt, Nat.compare_eq_eq, h,
    comparePrereleases_ne_gt, and_false, or_false, Nat.lt_irrefl, false_or, true_and]
  omega

end Version

namespace Config

open Text Version

/-- The texts of the first release of the first major version, and of what precedes it. -/
def IsSupported (abi : String) : Prop :=
  abi = "" ∨ abi = "v1" ∨ abi = "v1.0" ∨
    ∃ prerelease build, IsPrereleasePart prerelease ∧ IsBuildPart build ∧
      abi.toList = "v1.0.0".toList ++ prerelease ++ build

theorem isSupported_iff_spelled {abi : String} (h : abi ≠ "") :
    IsSupported abi ↔ Spelled abi.toList ['1'] ['0'] ['0'] := by
  have hone : IsNumber ['1'] := isNumber_decimal 1
  have hzero : IsNumber ['0'] := isNumber_decimal 0
  constructor
  · rintro (rfl | rfl | rfl | ⟨prerelease, build, hprerelease, hbuild, habi⟩)
    · exact absurd rfl h
    · exact .major hone
    · exact .minor hone hzero
    · rw [habi, List.append_assoc]
      exact .patch hone hzero hzero ⟨prerelease, build, hprerelease, hbuild, rfl⟩
  · intro hspelled
    generalize htext : abi.toList = text at hspelled
    cases hspelled with
    | major => exact .inr (.inl (String.toList_inj.mp htext))
    | minor => exact .inr (.inr (.inl (String.toList_inj.mp htext)))
    | patch _ _ _ hsuffix =>
      obtain ⟨prerelease, build, hprerelease, hbuild, rfl⟩ := hsuffix
      exact .inr (.inr (.inr ⟨prerelease, build, hprerelease, hbuild, htext⟩))

theorem isSupported_iff {abi : String} {version : Version} (h : parse? abi = some version) :
    IsSupported abi ↔ version.major = 1 ∧ version.minor = 0 ∧ version.patch = 0 := by
  have hne : abi ≠ "" := by
    rintro rfl
    contradiction
  rw [isSupported_iff_spelled hne, spelled_iff h, ← decimal_one, ← decimal_zero]
  simp only [decimal_injective.eq_iff]

theorem isSupported_iff_of_none {abi : String} (h : parse? abi = none) :
    IsSupported abi ↔ abi = "" := by
  constructor
  · intro hsupported
    by_contra hne
    exact parse?_eq_none.mp h ⟨_, _, _, (isSupported_iff_spelled hne).mp hsupported⟩
  · exact .inl

theorem checkAbi_of_bytes {abi : Raw} (h : abi.text? = none) :
    checkAbi abi = .error (.abiText abi) := by
  have hne : abi ≠ "" := by
    rintro rfl
    rw [Raw.text?_text] at h
    contradiction
  unfold checkAbi
  rw [if_neg hne, h]
  rfl

theorem checkAbi_of_none {abi : String} (h : parse? abi = none) :
    checkAbi abi = if abi = "" then .ok () else .error (.abiText abi) := by
  unfold checkAbi
  rw [Raw.text?_text, Option.bind_some, h]
  simp only [Raw.text_inj]

theorem checkAbi_of_some {abi : String} {version : Version} (h : parse? abi = some version) :
    checkAbi abi =
      if version.major = 1 then
        if version.minor = 0 ∧ version.patch = 0 then .ok () else .error (.abiNewer abi)
      else .error (.abiMajor abi) := by
  have hne : Raw.text abi ≠ "" := by
    intro hempty
    rw [Raw.text_inj.mp hempty] at h
    contradiction
  unfold checkAbi
  rw [if_neg hne, Raw.text?_text, Option.bind_some, h]
  have hown : abiVersion.major = 1 := rfl
  simp only [ne_eq, ite_not, hown]
  by_cases hmajor : version.major = 1
  · rw [if_pos hmajor, if_pos hmajor]
    simp only [precedence_abiVersion hmajor, ite_not]
  · rw [if_neg hmajor, if_neg hmajor]

theorem validate_eq_checkAbi {config : Config} {other : Raw}
    (h : { config with abi := other }.validate = .ok ()) (abi : Raw) :
    { config with abi }.validate = checkAbi abi := by
  cases hcheck : checkAbi abi with
  | ok => exact validate_eq_ok.mpr ⟨hcheck, (validate_eq_ok.mp h).2⟩
  | error why =>
    unfold validate
    dsimp only
    rw [hcheck]
    rfl

/-- Which interface a configuration may name if nothing else is wrong with it: none, or a text of
the first release or of what precedes it. Any other version is refused for its major number or as
newer, and any other text, or bytes that spell none, as no version. -/
theorem abi_verdict (config : Config)
    (hvalid : ∃ other, { config with abi := other }.validate = .ok ()) :
    (∀ abi : Raw, abi.text? = none → { config with abi }.validate = .error (.abiText abi)) ∧
    ∀ abi : String,
      let verdict := { config with abi := .text abi }.validate
      (verdict = .ok () ↔ IsSupported abi) ∧
      (verdict = .error (.abiMajor abi) ↔ ∃ major, IsVersion abi.toList major ∧ major ≠ ['1']) ∧
      (verdict = .error (.abiNewer abi) ↔ IsVersion abi.toList ['1'] ∧ ¬IsSupported abi) ∧
      (verdict = .error (.abiText abi) ↔
        ¬IsSupported abi ∧ ¬∃ major, IsVersion abi.toList major) := by
  obtain ⟨other, hother⟩ := hvalid
  refine ⟨fun abi habi => (validate_eq_checkAbi hother abi).trans (checkAbi_of_bytes habi), ?_⟩
  intro abi verdict
  have hverdict : verdict = checkAbi (.text abi) := validate_eq_checkAbi hother _
  rw [hverdict]
  cases hparse : parse? abi with
  | none =>
    have hnone := parse?_eq_none.mp hparse
    rw [checkAbi_of_none hparse, isSupported_iff_of_none hparse]
    by_cases hempty : abi = ""
    · rw [if_pos hempty]
      grind
    · rw [if_neg hempty]
      grind
  | some version =>
    have hmajor : decimal version.major = ['1'] ↔ version.major = 1 := by
      rw [← decimal_one, decimal_injective.eq_iff]
    rw [checkAbi_of_some hparse, isSupported_iff hparse]
    simp only [isVersion_iff hparse]
    split
    · split
      · grind
      · grind
    · grind

theorem abi_verdict_builtIn :
    builtIn.validate = .ok () ∧
    { builtIn with abi := "v1.0.0-rc.1+b.007" }.validate = .ok () ∧
    IsVersion "v1.0.1-rc.1".toList ['1'] ∧ ¬IsSupported "v1.0.1-rc.1" ∧
    ¬∃ major, IsVersion "v1.0.0-rc.01".toList major := by
  have hvalid : builtIn.validate = .ok () := by decide
  have hverdict := (abi_verdict builtIn ⟨builtIn.abi, hvalid⟩).2
  have hsupported : IsSupported "v1.0.0-rc.1+b.007" := by
    refine .inr (.inr (.inr ⟨"-rc.1".toList, "+b.007".toList, ?_, ?_, rfl⟩))
    · exact .inr ⟨[['r', 'c'], ['1']], by decide, by decide, rfl⟩
    · exact .inr ⟨[['b'], ['0', '0', '7']], by decide, by decide, rfl⟩
  have hnewer : { builtIn with abi := "v1.0.1-rc.1" }.validate =
      .error (.abiNewer "v1.0.1-rc.1") := by
    decide
  have htext : { builtIn with abi := "v1.0.0-rc.01" }.validate =
      .error (.abiText "v1.0.0-rc.01") := by
    decide
  obtain ⟨hversion, hnot⟩ := (hverdict "v1.0.1-rc.1").2.2.1.mp hnewer
  exact ⟨hvalid, (hverdict _).1.mpr hsupported, hversion, hnot, ((hverdict _).2.2.2.mp htext).2⟩

end Config

end HeadlessDesktop
