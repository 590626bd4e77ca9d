import DeclScan.Proofs.Rounding.Numeral
import DeclScan.Proofs.ScannerRun

/-!
Scanning floating-point numbers.

## Main results

`Scanner.scan_hexDouble_rounds_once`: a hexadecimal numeral is scanned to the double nearest to the
exact number, ties to even; a numeral that is too large is not scanned.
`Scanner.scan_hexFloat_rounds_once`: the same in single precision, although a double comes first.
`Scanner.scansRounded_decimal`: a decimal numeral is scanned to the nearest number of either precision,
and what counts is the number as it is written, whatever the length of its digits and of its exponent.

## Proof strategy

A scan for a number reads a numeral and rounds it. What it returns depends on the rounding of the
exact number alone (`Scanner.scansRounded`), and the modules on rounding say what that is.
-/

namespace DeclScan

open Binary

namespace Numeral

theorem toNumber?_of_hexadecimal {format : Format} {numeral : Numeral}
    (radix : numeral.radix = .hexadecimal) :
    numeral.toNumber? format =
      (numeral.hexMagnitude.toFormat? format).map fun magnitude => ⟨numeral.negative, magnitude⟩ := by
  rw [toNumber?, radix]

theorem toNumber?_of_decimal {format : Format} {numeral : Numeral}
    (radix : numeral.radix = .decimal) :
    numeral.toNumber? format = (format.round? (numeral.decimalMagnitude format)).map fun magnitude =>
      ⟨numeral.negative, magnitude⟩ := by
  rw [toNumber?, radix]

end Numeral

namespace Scanner

/-- A scan for a number of `format` that meets `numeral` gives `x` rounded, with the sign of the
numeral, and ends behind the numeral. It finds nothing if the rounded number is too large. -/
structure ScansRounded (scanner : Scanner) (radix : Radix) (format : Format) (numeral : Numeral)
    (x : ℚ) : Prop where
  too_large : format.bound ≤ format.nearest x →
    scanner.scan (.number radix format) = (none, scanner)
  rounded : format.nearest x < format.bound → ∃ number,
    scanner.scan (.number radix format) =
        (some number, { scanner with cursor := scanner.start.advance numeral.width }) ∧
      format.decode (format.bits number) = some (numeral.negative, format.nearest x)

theorem scansRounded {scanner : Scanner} {radix : Radix} {format : Format} {numeral : Numeral}
    {x : ℚ} {result : Option Scaled} (regular : format.Regular)
    (found : Numeral.read? radix scanner.start.after = some numeral)
    (signed : numeral.toNumber? format = result.map fun magnitude => ⟨numeral.negative, magnitude⟩)
    (near : format.IsNearest x result) : scanner.ScansRounded radix format numeral x := by
  have read : (Probe.number radix format).read? scanner.caseSensitive scanner.start.after =
      (result.map fun magnitude => ⟨numeral.negative, magnitude⟩).map fun number =>
        ⟨number, numeral.width⟩ := by
    rw [Probe.read?, found, Option.bind_some, signed]
  cases result with
  | none =>
    constructor
    · intro _
      exact scan_of_none read
    · intro small
      exact absurd near small.not_ge
  | some magnitude =>
    obtain ⟨holds, value⟩ := near
    constructor
    · intro large
      exact absurd holds.lt_bound (large.trans_eq value.symm).not_gt
    · intro _
      refine ⟨⟨numeral.negative, magnitude⟩, scan_of_some read, ?_⟩
      rw [Format.decode_bits regular numeral.negative holds, value]

theorem ScansRounded.eq_none_iff {scanner : Scanner} {radix : Radix} {format : Format}
    {numeral : Numeral} {x : ℚ} (scans : scanner.ScansRounded radix format numeral x) :
    scanner.scan (.number radix format) = (none, scanner) ↔ format.bound ≤ format.nearest x := by
  refine ⟨?_, scans.too_large⟩
  intro nothing
  by_contra small
  obtain ⟨number, returned, -⟩ := scans.rounded (not_le.mp small)
  rw [returned] at nothing
  cases nothing

theorem offset_behind {magnitude : ℕ → List Char → ℕ} {scanner : Scanner} {radix : Radix}
    {numeral : Numeral}
    (found : Numeral.readWith? magnitude radix scanner.start.after = some numeral) :
    (scanner.start.advance numeral.width).offset = scanner.start.offset + numeral.width := by
  rw [Cursor.offset_advance, (Numeral.spelled_of_readWith? found).narrow]

/-! ### Hexadecimal numerals -/

theorem bound_le_nearest_iff {format : Format} (regular : format.Regular) (x : ℚ) (nonneg : 0 ≤ x) :
    format.bound ≤ format.nearest x ↔
      format.bound ≤ roundToGrid (Int.log 2 x - (format.precision - 1)) x := by
  have some_bit := regular.precision_pos
  have some_normal := regular.maxExponent_pos
  have order := regular.minExponent_eq
  rcases le_or_gt format.minExponent (Int.log 2 x) with normal | tiny
  · -- the grid of a normal number is that of its leading bits
    rw [Format.nearest, Format.lastExponent, max_eq_left normal]
  · -- below the normal numbers neither rounding reaches more than the least of them
    have below : x ≤ 2 ^ format.minExponent :=
      (lt_two_zpow_log_succ x).le.trans (zpow_le_zpow_right₀ (by norm_num) (by omega))
    have bound : (2 : ℚ) ^ format.minExponent < format.bound :=
      zpow_lt_zpow_right₀ (by norm_num) (by omega)
    have coarse : format.least ≤ format.minExponent := by
      rw [Format.least_eq]
      omega
    have left := Format.nearest_le regular nonneg below coarse
    have right : roundToGrid (Int.log 2 x - (format.precision - 1)) x ≤ 2 ^ format.minExponent := by
      rw [← roundToGrid_two_zpow (by omega :
        Int.log 2 x - ((format.precision : ℤ) - 1) ≤ format.minExponent)]
      exact roundToGrid_mono _ below
    constructor
    · intro large
      exact absurd (large.trans left) bound.not_ge
    · intro large
      exact absurd (large.trans right) bound.not_ge

/-- A hexadecimal numeral is scanned to the nearest number of either format, with the sign of the
numeral. It is not scanned exactly if it is too large after rounding to the bits of the format, as
if there were no least number. -/
theorem scan_hexadecimal_rounds {format : Format}
    (supported : format = binary64 ∨ format = binary32) {scanner : Scanner} {numeral : Numeral}
    (found : Numeral.read? .hexadecimal scanner.start.after = some numeral) :
    let exact := numeral.hexExact numeral.exponent
    let leading := roundToGrid (Int.log 2 exact - (format.precision - 1)) exact
    let result := scanner.scan (.number .hexadecimal format)
    (result = (none, scanner) ↔ format.bound ≤ leading) ∧
      (leading < format.bound → ∃ number,
        result = (some number, { scanner with cursor := scanner.start.advance numeral.width }) ∧
          result.2.offset = scanner.start.offset + numeral.width ∧
          format.decode (format.bits number) = some (numeral.negative, format.nearest exact)) := by
  intro exact leading result
  have regular := Format.regular_of_supported supported
  have spelled := Numeral.spelled_of_readWith? found
  have scans := scansRounded regular found (Numeral.toNumber?_of_hexadecimal spelled.radix_eq)
    (Numeral.hexMagnitude_isNearest supported spelled)
  have large : format.bound ≤ format.nearest exact ↔ format.bound ≤ leading :=
    bound_le_nearest_iff regular exact (numeral.hexExact_nonneg _)
  refine ⟨scans.eq_none_iff.trans large, ?_⟩
  intro small
  obtain ⟨number, returned, decoded⟩ := scans.rounded (not_le.mp (large.not.mpr small.not_ge))
  refine ⟨number, returned, ?_, decoded⟩
  rw [show result = _ from returned]
  exact offset_behind found

/-- A hexadecimal numeral is scanned to the double nearest to the exact number, rounded once, with
the sign of the numeral; one that rounds to `2 ^ 1024` or more is not scanned. -/
theorem scan_hexDouble_rounds_once {scanner : Scanner} {numeral : Numeral}
    (found : Numeral.read? .hexadecimal scanner.start.after = some numeral) :
    let exact : ℚ := Digits.value 16 (numeral.integer ++ numeral.fraction) *
      2 ^ (numeral.exponent - 4 * numeral.fraction.length)
    let top := Int.log 2 exact
    let result := scanner.scan (.number .hexadecimal binary64)
    (2 ^ 1024 ≤ roundToGrid (top - 52) exact → result = (none, scanner)) ∧
      (roundToGrid (top - 52) exact < 2 ^ 1024 → ∃ number,
        result = (some number, { scanner with cursor := scanner.start.advance numeral.width }) ∧
          result.2.offset = scanner.start.offset + numeral.width ∧
          binary64.decode (binary64.bits number) =
            some (numeral.negative, roundToGrid (max (top - 52) (-1074)) exact)) := by
  intro exact top result
  have rounds := scan_hexadecimal_rounds (Or.inl rfl) found
  -- the format has 53 bits and the least number `2 ^ -1074`
  have bound : binary64.bound = 2 ^ 1024 := zpow_natCast 2 1024
  have nearest : binary64.nearest exact = roundToGrid (max (top - 52) (-1074)) exact := by
    rw [Format.nearest, Format.lastExponent_eq]
    rfl
  dsimp only at rounds
  rw [bound] at rounds
  rw [← nearest]
  exact ⟨rounds.1.mpr, rounds.2⟩

/-- One and a half times the least number is a tie and goes to twice the least number. -/
theorem scan_hexDouble_least_tie :
    let scanner := ofText " -0x1.8p-1074;".toList
    Numeral.read? .hexadecimal scanner.start.after =
        some ⟨.hexadecimal, true, ['1'], ['8'], -1074, 12⟩ ∧
      ∃ number, scanner.scan (.number .hexadecimal binary64) =
          (some number, { scanner with cursor := scanner.start.advance 12 }) ∧
        binary64.decode (binary64.bits number) = some (true, 2 ^ (-1073 : ℤ)) := by
  intro scanner
  have found : Numeral.read? .hexadecimal scanner.start.after =
      some ⟨.hexadecimal, true, ['1'], ['8'], -1074, 12⟩ := by decide
  refine ⟨found, ?_⟩
  obtain ⟨-, rounds⟩ := scan_hexDouble_rounds_once found
  have exact : (Digits.value 16 (['1'] ++ ['8']) : ℚ) * 2 ^ (-1074 - 4 * (['8'].length : ℤ)) =
      (24 : ℕ) * 2 ^ (-1078 : ℤ) := rfl
  have top : Int.log 2 ((24 : ℕ) * 2 ^ (-1078 : ℤ) : ℚ) = -1074 :=
    Scaled.log_mul_two_zpow (by decide) (-1078)
  -- five bits need no rounding, but the grid ends a quarter above the last of them
  have unrounded := roundToGrid_of_le 24 (by decide : (-1126 : ℤ) ≤ -1078)
  have quotient : ((24 : ℕ) * 2 ^ (-1078 : ℤ) : ℚ) / 2 ^ (-1074 : ℤ) = 3 / 2 := by
    rw [mul_div_assoc, ← zpow_sub₀ (by norm_num)]
    norm_num
  have even : nearestEven (3 / 2) = 2 := by
    rw [nearestEven_eq_iff]
    exact Or.inr ⟨by decide, Or.inl (by norm_num)⟩
  have tie : roundToGrid (-1074) ((24 : ℕ) * 2 ^ (-1078 : ℤ)) = 2 ^ (-1073 : ℤ) := by
    rw [roundToGrid, quotient, even, show (-1073 : ℤ) = 1 + -1074 by rfl, zpow_add₀ (by norm_num)]
    norm_num
  have small : ((24 : ℕ) * 2 ^ (-1078 : ℤ) : ℚ) < 2 ^ 1024 := by
    calc ((24 : ℕ) * 2 ^ (-1078 : ℤ) : ℚ) ≤ 2 ^ (5 : ℤ) * 2 ^ (-1078 : ℤ) :=
          mul_le_mul_of_nonneg_right (by norm_num) (two_zpow_pos _).le
      _ = 2 ^ (-1073 : ℤ) := by rw [← zpow_add₀ (by norm_num)]; norm_num
      _ < 2 ^ (1024 : ℤ) := zpow_lt_zpow_right₀ (by norm_num) (by norm_num)
      _ = 2 ^ 1024 := zpow_natCast 2 1024
  dsimp only at rounds
  rw [exact, top] at rounds
  obtain ⟨number, returned, -, decoded⟩ := rounds (unrounded.trans_lt small)
  refine ⟨number, returned, ?_⟩
  rw [decoded]
  exact congrArg (fun x => some (true, x)) tie

/-- A hexadecimal numeral is scanned to the single-precision number nearest to the exact number,
rounded once, with the sign of the numeral; it is not scanned exactly if it rounds to `2 ^ 128` or
more. Neither the sticky bits nor the double on the way leave a trace. -/
theorem scan_hexFloat_rounds_once {scanner : Scanner} {numeral : Numeral}
    (found : Numeral.read? .hexadecimal scanner.start.after = some numeral) :
    let exact : ℚ := Digits.value 16 (numeral.integer ++ numeral.fraction) *
      2 ^ (numeral.exponent - 4 * numeral.fraction.length)
    let top := Int.log 2 exact
    let result := scanner.scan (.number .hexadecimal binary32)
    (result = (none, scanner) ↔ 2 ^ 128 ≤ roundToGrid (top - 23) exact) ∧
      (roundToGrid (top - 23) exact < 2 ^ 128 → ∃ number,
        result = (some number, { scanner with cursor := scanner.start.advance numeral.width }) ∧
          result.2.offset = scanner.start.offset + numeral.width ∧
          binary32.decode (binary32.bits number) =
            some (numeral.negative, roundToGrid (max (top - 23) (-149)) exact)) := by
  intro exact top result
  have rounds := scan_hexadecimal_rounds (Or.inr rfl) found
  -- the format has 24 bits and the least number `2 ^ -149`
  have bound : binary32.bound = 2 ^ 128 := zpow_natCast 2 128
  have nearest : binary32.nearest exact = roundToGrid (max (top - 23) (-149)) exact := by
    rw [Format.nearest, Format.lastExponent_eq]
    rfl
  dsimp only at rounds
  rw [bound] at rounds
  rw [← nearest]
  exact rounds

/-- Just past a tie: rounded to a double first, the last digit would be lost and the tie would go to
one. -/
theorem scan_hexFloat_past_tie :
    let scanner := ofText " 0x1.0000010000000001p0;".toList
    Numeral.read? .hexadecimal scanner.start.after =
        some ⟨.hexadecimal, false, ['1'], "0000010000000001".toList, 0, 22⟩ ∧
      ∃ number, scanner.scan (.number .hexadecimal binary32) =
          (some number, { scanner with cursor := scanner.start.advance 22 }) ∧
        binary32.decode (binary32.bits number) = some (false, 1 + 2 ^ (-23 : ℤ)) := by
  intro scanner
  have found : Numeral.read? .hexadecimal scanner.start.after =
      some ⟨.hexadecimal, false, ['1'], "0000010000000001".toList, 0, 22⟩ := by decide
  refine ⟨found, ?_⟩
  obtain ⟨-, rounds⟩ := scan_hexFloat_rounds_once found
  have exact : (Digits.value 16 (['1'] ++ "0000010000000001".toList) : ℚ) *
      2 ^ (0 - 4 * ("0000010000000001".toList.length : ℤ)) =
        (2 ^ 64 + 2 ^ 40 + 1 : ℕ) * 2 ^ (-64 : ℤ) := by
    rw [show Digits.value 16 (['1'] ++ "0000010000000001".toList) = 2 ^ 64 + 2 ^ 40 + 1 by decide]
    rfl
  have top : Int.log 2 ((2 ^ 64 + 2 ^ 40 + 1 : ℕ) * 2 ^ (-64 : ℤ) : ℚ) = 0 :=
    Scaled.log_mul_two_zpow (by decide) (-64)
  have quotient : ((2 ^ 64 + 2 ^ 40 + 1 : ℕ) * 2 ^ (-64 : ℤ) : ℚ) / 2 ^ (-23 : ℤ) =
      2 ^ 23 + 1 / 2 + 1 / 2 ^ 41 := by
    norm_num
  have up : nearestEven (2 ^ 23 + 1 / 2 + 1 / 2 ^ 41) = 2 ^ 23 + 1 := by
    rw [nearestEven_eq_iff]
    exact Or.inl ⟨by norm_num, by norm_num⟩
  have rounded : roundToGrid (-23) ((2 ^ 64 + 2 ^ 40 + 1 : ℕ) * 2 ^ (-64 : ℤ)) =
      1 + 2 ^ (-23 : ℤ) := by
    rw [roundToGrid, quotient, up]
    norm_num
  dsimp only at rounds
  rw [exact, top, show (0 : ℤ) - 23 = -23 by rfl, show max (-23 : ℤ) (-149) = -23 by rfl,
    rounded] at rounds
  obtain ⟨number, returned, -, decoded⟩ := rounds (by norm_num)
  exact ⟨number, returned, decoded⟩

/-! ### Decimal numerals -/

/-- A scan that meets a decimal numeral rounds the number that it writes, whether or not its exponent is
cut. -/
theorem scansRounded_decimal {format : Format} (supported : format = binary64 ∨ format = binary32)
    {scanner : Scanner} {numeral : Numeral}
    (written : Numeral.written? .decimal scanner.start.after = some numeral) :
    scanner.ScansRounded .decimal format numeral numeral.decimalExact := by
  have regular := Format.regular_of_supported supported
  have spare : format.precision + 1 ≤ 60 := by
    rcases supported with rfl | rfl <;> decide
  have spelled := Numeral.spelled_of_readWith? written
  obtain ⟨body, lexed, -⟩ := Option.map_eq_some_iff.mp written
  have length := Numeral.length_le_of_body? lexed written
  -- the cut exponent is read, but the magnitude is that of the written one
  have found := Numeral.read?_of_written? lexed written
  have same := Numeral.decimalMagnitude_cutExponent supported numeral
    (Nat.add_le_add_left length Numeral.exponentLimit)
  have near := Numeral.decimalMagnitude_isNearest regular spare spelled
  rw [← same] at near
  have scans := scansRounded regular found (Numeral.toNumber?_of_decimal spelled.radix_eq) near
  exact ⟨scans.too_large, scans.rounded⟩

end Scanner

end DeclScan
