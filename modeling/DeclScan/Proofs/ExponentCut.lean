import DeclScan.Proofs.NumberScan
import DeclScan.Proofs.Rounding.Doubling

/-!
What the limit for exponents does to hexadecimal numerals.

## Main result

`Scanner.scan_hexadecimal_as_written_iff`: a hexadecimal numeral is scanned as if its exponent were
not cut exactly if the cut does not happen, the numeral is zero, or the two exponents lead to the same
number of the format. Numerals of fewer than some 330,000 characters are all among these. The limit
grows by one with each character, but a hexadecimal digit moves the number by four places, so longer
numerals are not: `Scanner.scan_hexadecimal_far_digit` has a numeral for one that is scanned as
`2 ^ (-199)`.

## Proof strategy

The numbers at two exponents differ by a factor of two at least, and such numbers seldom round to the
same number (`Format.nearest_eq_nearest_iff`).
-/

namespace DeclScan

open Binary

namespace Numeral

/-- The result for a hexadecimal numeral as a bit pattern, with `exponent` in place of its own. -/
def hexBits? (format : Format) (numeral : Numeral) (exponent : ℤ) : Option ℕ :=
  (toNumber? format { numeral with exponent }).map format.bits

theorem hexExact_pos {numeral : Numeral}
    (nonzero : Digits.value 16 (numeral.integer ++ numeral.fraction) ≠ 0) (exponent : ℤ) :
    0 < numeral.hexExact exponent :=
  mul_pos (by exact_mod_cast Nat.pos_of_ne_zero nonzero) (two_zpow_pos _)

theorem hexExact_double (numeral : Numeral) {e e' : ℤ} (less : e < e') :
    2 * numeral.hexExact e ≤ numeral.hexExact e' := by
  rw [hexExact, hexExact, mul_left_comm]
  refine mul_le_mul_of_nonneg_left ?_ (Nat.cast_nonneg _)
  rw [mul_comm, ← zpow_add_one₀ (by norm_num)]
  exact zpow_le_zpow_right₀ (by norm_num) (by omega)

theorem hexBits?_eq (format : Format) {text : List Char} {numeral : Numeral}
    (spelled : Spelled .hexadecimal text numeral) (exponent : ℤ) :
    hexBits? format numeral exponent =
      ((hexMagnitude { numeral with exponent }).toFormat? format).map fun magnitude =>
        format.bits ⟨numeral.negative, magnitude⟩ := by
  rw [hexBits?, toNumber?_of_hexadecimal (spelled.withExponent exponent).radix_eq, Option.map_map]
  rfl

/-- The results at two exponents agree exactly if the format does not tell the numbers apart. -/
theorem hexBits?_eq_iff {format : Format} (supported : format = binary64 ∨ format = binary32)
    {text : List Char} {numeral : Numeral} (spelled : Spelled .hexadecimal text numeral)
    (nonzero : Digits.value 16 (numeral.integer ++ numeral.fraction) ≠ 0) {e e' : ℤ} (less : e < e') :
    hexBits? format numeral e = hexBits? format numeral e' ↔
      format.Merges (numeral.hexExact e) (numeral.hexExact e') := by
  have regular := Format.regular_of_supported supported
  have precise : 3 ≤ format.precision := by
    rcases supported with rfl | rfl <;> decide
  rw [hexBits?_eq format spelled, hexBits?_eq format spelled]
  exact Format.map_bits_eq_iff_merges regular precise numeral.negative (hexExact_pos nonzero e)
    (hexExact_double numeral less) (hexMagnitude_isNearest supported (spelled.withExponent e))
    (hexMagnitude_isNearest supported (spelled.withExponent e'))

theorem hexBits?_of_zero {format : Format} (supported : format = binary64 ∨ format = binary32)
    {text : List Char} {numeral : Numeral} (spelled : Spelled .hexadecimal text numeral)
    (zero : Digits.value 16 (numeral.integer ++ numeral.fraction) = 0) (e e' : ℤ) :
    hexBits? format numeral e = hexBits? format numeral e' := by
  have nothing (exponent : ℤ) : numeral.hexExact exponent = 0 := by
    rw [hexExact, zero, Nat.cast_zero, zero_mul]
  rw [hexBits?_eq format spelled, hexBits?_eq format spelled,
    Format.map_bits_eq_iff (Format.regular_of_supported supported) numeral.negative
      (hexMagnitude_isNearest supported (spelled.withExponent e))
      (hexMagnitude_isNearest supported (spelled.withExponent e'))]
  right
  exact congrArg format.nearest ((nothing e).trans (nothing e').symm)

/-- Cutting an exponent does not show exactly if it does nothing, the numeral is zero, or the format
does not tell the numbers at the two exponents apart. -/
theorem hexBits?_cutExponent_iff {format : Format}
    (supported : format = binary64 ∨ format = binary32) {text : List Char} {numeral : Numeral}
    (spelled : Spelled .hexadecimal text numeral) (limit : ℕ) :
    hexBits? format numeral (cutExponent limit numeral.exponent) =
        hexBits? format numeral numeral.exponent ↔
      numeral.exponent.natAbs ≤ limit ∨
        Digits.value 16 (numeral.integer ++ numeral.fraction) = 0 ∨
        format.Merges
          (numeral.hexExact (min numeral.exponent (cutExponent limit numeral.exponent)))
          (numeral.hexExact (max numeral.exponent (cutExponent limit numeral.exponent))) := by
  by_cases small : numeral.exponent.natAbs ≤ limit
  · rw [cutExponent_of_le small]
    exact iff_of_true rfl (Or.inl small)
  by_cases zero : Digits.value 16 (numeral.integer ++ numeral.fraction) = 0
  · exact iff_of_true (hexBits?_of_zero supported spelled zero _ _) (Or.inr (Or.inl zero))
  -- the cut moves the exponent towards zero, so the two numbers are in either order
  rw [or_iff_right small, or_iff_right zero]
  have moved : cutExponent limit numeral.exponent ≠ numeral.exponent := by
    unfold cutExponent
    omega
  rcases lt_or_gt_of_ne moved with less | greater
  · rw [min_eq_right less.le, max_eq_left less.le]
    exact hexBits?_eq_iff supported spelled zero less
  · rw [min_eq_left greater.le, max_eq_right greater.le, eq_comm]
    exact hexBits?_eq_iff supported spelled zero greater

/-! ### Short numerals -/

theorem bound_le_nearest_hexExact {format : Format} (regular : format.Regular) {numeral : Numeral}
    (nonzero : Digits.value 16 (numeral.integer ++ numeral.fraction) ≠ 0) {exponent : ℤ}
    (high : format.maxExponent + 1 ≤ exponent - 4 * numeral.fraction.length) :
    format.bound ≤ format.nearest (numeral.hexExact exponent) := by
  have some_bit := regular.precision_pos
  have some_normal := regular.maxExponent_pos
  have order := regular.minExponent_eq
  have one : (1 : ℚ) ≤ Digits.value 16 (numeral.integer ++ numeral.fraction) := by
    exact_mod_cast Nat.pos_of_ne_zero nonzero
  apply Format.le_nearest regular
  · calc (2 : ℚ) ^ (format.maxExponent + 1)
        ≤ 2 ^ (exponent - 4 * numeral.fraction.length) :=
          zpow_le_zpow_right₀ (by norm_num) high
      _ ≤ numeral.hexExact exponent := le_mul_of_one_le_left (two_zpow_pos _).le one
  · rw [Format.least_eq]
    omega

theorem hexExact_le {text : List Char} {numeral : Numeral}
    (spelled : Spelled .hexadecimal text numeral) {exponent k : ℤ}
    (low : 4 * numeral.integer.length + exponent ≤ k) : numeral.hexExact exponent ≤ 2 ^ k := by
  have small : Digits.value 16 (numeral.integer ++ numeral.fraction) <
      16 ^ (numeral.integer ++ numeral.fraction).length :=
    Digits.value_lt 16 fun c member => (Digits.digitValue_spec (spelled.digits c member)).1
  have power : ((16 ^ (numeral.integer ++ numeral.fraction).length : ℕ) : ℚ) =
      2 ^ (4 * (numeral.integer.length + numeral.fraction.length : ℤ)) := by
    rw [zpow_mul, List.length_append, ← Nat.cast_add, zpow_natCast]
    norm_num
  calc numeral.hexExact exponent
      ≤ (16 ^ (numeral.integer ++ numeral.fraction).length : ℕ) *
          2 ^ (exponent - 4 * numeral.fraction.length) :=
        mul_le_mul_of_nonneg_right (by exact_mod_cast small.le) (two_zpow_pos _).le
    _ = 2 ^ (4 * numeral.integer.length + exponent) := by
        rw [power, ← zpow_add₀ (by norm_num)]
        congr 1
        ring
    _ ≤ 2 ^ k := zpow_le_zpow_right₀ (by norm_num) low

/-- The digits of a short numeral do not reach back from the limit into the format. -/
theorem merges_of_short {format : Format} (supported : format = binary64 ∨ format = binary32)
    {text : List Char} {numeral : Numeral} (spelled : Spelled .hexadecimal text numeral)
    (nonzero : Digits.value 16 (numeral.integer ++ numeral.fraction) ≠ 0) {width : ℕ}
    (length : numeral.integer.length + numeral.fraction.length ≤ width)
    (short : 3 * width + 1075 ≤ exponentLimit)
    (long : ¬numeral.exponent.natAbs ≤ exponentLimit + width) :
    format.Merges
      (numeral.hexExact
        (min numeral.exponent (cutExponent (exponentLimit + width) numeral.exponent)))
      (numeral.hexExact
        (max numeral.exponent (cutExponent (exponentLimit + width) numeral.exponent))) := by
  have regular := Format.regular_of_supported supported
  have borders : format.maxExponent + 1 ≤ 1075 ∧ -1075 ≤ format.least - 1 := by
    rcases supported with rfl | rfl <;> decide
  rcases lt_or_ge numeral.exponent 0 with negative | nonneg
  · -- the integer digits raise the number at the lower limit by four places each
    right
    left
    apply hexExact_le spelled
    unfold cutExponent
    omega
  · -- the fraction digits lower the number at the upper limit by four places each
    left
    apply bound_le_nearest_hexExact regular nonzero
    unfold cutExponent
    omega

/-- A numeral below one in front of `text`, up to its exponent mark. -/
theorem body?_fraction {fraction : List Char} (tail : List Char)
    (digits : ∀ c ∈ fraction, Radix.hexadecimal.isDigit c = true) :
    body? .hexadecimal ("0x0.".toList ++ fraction ++ 'p' :: tail) =
      some ⟨.hexadecimal, false, ['0'], fraction, 0, 4 + fraction.length⟩ :=
  body?_of_fraction "0x".toList rfl rfl rfl digits rfl

theorem written?_fraction {fraction tail : List Char} {exponent : Reading ℤ}
    (digits : ∀ c ∈ fraction, Radix.hexadecimal.isDigit c = true)
    (scaled : readExponent .hexadecimal (Digits.value 10) ('p' :: tail) = exponent) :
    written? .hexadecimal ("0x0.".toList ++ fraction ++ 'p' :: tail) =
      some ⟨.hexadecimal, false, ['0'], fraction, exponent.value,
        4 + fraction.length + exponent.width⟩ :=
  readWith?_of_fraction "0x".toList rfl rfl rfl digits rfl (fun _ => Digits.value 10) scaled

end Numeral

namespace Scanner

theorem scan_number_fst {scanner : Scanner} {radix : Radix} {format : Format} {numeral : Numeral}
    (found : Numeral.read? radix scanner.start.after = some numeral) :
    (scanner.scan (.number radix format)).1 = numeral.toNumber? format := by
  rw [scan, Probe.read?, found, Option.bind_some]
  cases numeral.toNumber? format <;> rfl

/-- A hexadecimal numeral is scanned as if its exponent were not cut exactly if the exponent is
within the limit, the numeral is zero, or the format does not tell the number at the written exponent
from the one at the limit. Every numeral that is not very long is scanned so. -/
theorem scan_hexadecimal_as_written_iff {format : Format}
    (supported : format = binary64 ∨ format = binary32) {scanner : Scanner} {body numeral : Numeral}
    (lexed : Numeral.body? .hexadecimal scanner.start.after = some body)
    (written : Numeral.written? .hexadecimal scanner.start.after = some numeral) :
    let limit := Numeral.exponentLimit + body.width
    let cut := Numeral.cutExponent limit numeral.exponent
    let digits := Digits.value 16 (numeral.integer ++ numeral.fraction)
    let exact (exponent : ℤ) : ℚ := digits * 2 ^ (exponent - 4 * numeral.fraction.length)
    let asWritten := (scanner.scan (.number .hexadecimal format)).1.map format.bits =
      (numeral.toNumber? format).map format.bits
    (asWritten ↔ numeral.exponent.natAbs ≤ limit ∨ digits = 0 ∨
        format.Merges (exact (min numeral.exponent cut)) (exact (max numeral.exponent cut))) ∧
      (3 * body.width + 1075 ≤ Numeral.exponentLimit → asWritten) := by
  intro limit cut digits exact asWritten
  have spelled := Numeral.spelled_of_readWith? written
  have found := Numeral.read?_of_written? lexed written
  have length := Numeral.length_le_of_body? lexed written
  have shows : asWritten ↔ numeral.exponent.natAbs ≤ limit ∨ digits = 0 ∨
      format.Merges (exact (min numeral.exponent cut)) (exact (max numeral.exponent cut)) := by
    have scanned : (scanner.scan (.number .hexadecimal format)).1.map format.bits =
        Numeral.hexBits? format numeral cut := by
      rw [scan_number_fst found]
      rfl
    have shows := Numeral.hexBits?_cutExponent_iff supported spelled limit
    constructor
    · intro same
      exact shows.mp (scanned.symm.trans same)
    · intro merged
      exact scanned.trans (shows.mpr merged)
  refine ⟨shows, ?_⟩
  intro short
  rw [shows]
  -- where the cut happens at all, a short numeral is far outside the format
  by_cases small : numeral.exponent.natAbs ≤ limit
  · exact Or.inl small
  by_cases zero : digits = 0
  · exact Or.inr (Or.inl zero)
  · exact Or.inr (Or.inr (Numeral.merges_of_short supported spelled zero length short small))

/-- An exponent far below the limit leaves nothing either way. -/
theorem scan_hexadecimal_short_vanishes :
    let scanner := ofText "0x1p-2000000".toList
    let numeral : Numeral := ⟨.hexadecimal, false, ['1'], [], -2000000, 12⟩
    Numeral.body? .hexadecimal scanner.start.after =
        some ⟨.hexadecimal, false, ['1'], [], 0, 3⟩ ∧
      Numeral.written? .hexadecimal scanner.start.after = some numeral ∧
      (scanner.scan (.number .hexadecimal binary32)).1.map binary32.bits =
        (numeral.toNumber? binary32).map binary32.bits := by
  intro scanner numeral
  have lexed : Numeral.body? .hexadecimal scanner.start.after =
      some ⟨.hexadecimal, false, ['1'], [], 0, 3⟩ := by decide
  have written : Numeral.written? .hexadecimal scanner.start.after = some numeral := by decide
  exact ⟨lexed, written,
    (scan_hexadecimal_as_written_iff (Or.inr rfl) lexed written).2 (by decide)⟩

/-! ### A numeral that is too long -/

theorem not_merges_one {low : ℚ} (small : binary64.nearest low < binary64.bound) :
    ¬binary64.Merges low 1 := by
  have half : (2 : ℚ) ^ (binary64.least - 1) ≤ 2 ^ (-2 : ℤ) :=
    zpow_le_zpow_right₀ (by norm_num) (by decide)
  rw [show (2 : ℚ) ^ (-2 : ℤ) = 1 / 4 by norm_num] at half
  unfold Format.Merges
  -- half the least number is below a quarter, which is all that matters about it
  generalize (2 : ℚ) ^ (binary64.least - 1) = half_least at half ⊢
  rintro (large | nothing | ⟨-, least⟩)
  · exact small.not_ge large
  · linarith
  · linarith

/-- A one at the 333,401st digit behind the point, with the exponent that moves it in front of the
point, is scanned 199 places too low. -/
theorem scan_far_fraction {fraction : List Char}
    (digits : ∀ c ∈ fraction, Radix.hexadecimal.isDigit c = true)
    (one : Digits.value 16 (['0'] ++ fraction) = 1) (length : fraction.length = 333401) :
    let scanner := ofText ("0x0.".toList ++ fraction ++ "p1333604".toList)
    let numeral : Numeral := ⟨.hexadecimal, false, ['0'], fraction, 1333604, 333413⟩
    Numeral.written? .hexadecimal scanner.start.after = some numeral ∧
      numeral.hexExact numeral.exponent = 1 ∧
      (scanner.scan (.number .hexadecimal binary64)).1.map binary64.bits ≠
        (numeral.toNumber? binary64).map binary64.bits ∧
      ∃ number, (scanner.scan (.number .hexadecimal binary64)).1 = some number ∧
        binary64.decode (binary64.bits number) = some (false, 2 ^ (-199 : ℤ)) := by
  intro scanner numeral
  have start : scanner.start.after = "0x0.".toList ++ fraction ++ 'p' :: "1333604".toList := rfl
  -- the numeral as it is written, and as it is read with its exponent cut
  have lexed := Numeral.body?_fraction "1333604".toList digits
  rw [← start] at lexed
  have exponent : Numeral.readExponent .hexadecimal (Digits.value 10) ('p' :: "1333604".toList) =
      ⟨1333604, 8⟩ := by decide
  have written : Numeral.written? .hexadecimal scanner.start.after = some numeral := by
    rw [start, Numeral.written?_fraction digits exponent, length]
    rfl
  have spelled := Numeral.spelled_of_readWith? written
  have found := Numeral.read?_of_written? lexed written
  have cut : Numeral.cutExponent (Numeral.exponentLimit + (4 + fraction.length)) 1333604 =
      1333405 := by
    rw [length]
    rfl
  rw [show numeral.exponent = 1333604 from rfl, cut] at found
  -- the only digit that counts stands for a power of two at every exponent
  have exact (e : ℤ) : numeral.hexExact e = 2 ^ (e - 1333604) := by
    rw [Numeral.hexExact, one, length, Nat.cast_one, one_mul]
    rfl
  have whole : numeral.hexExact 1333604 = 1 := (exact 1333604).trans (zpow_zero 2)
  have nearest : binary64.nearest (numeral.hexExact 1333405) = 2 ^ (-199 : ℤ) := by
    rw [exact]
    exact Format.nearest_two_zpow Format.binary64_regular (by decide)
  have small : binary64.nearest (numeral.hexExact 1333405) < binary64.bound := by
    rw [nearest]
    exact zpow_lt_zpow_right₀ (by norm_num) (by decide)
  refine ⟨written, whole, ?_, ?_⟩
  · intro same
    rw [scan_number_fst found] at same
    have merged := (Numeral.hexBits?_eq_iff (Or.inl rfl) spelled (one ▸ one_ne_zero)
      (by decide : (1333405 : ℤ) < 1333604)).mp same
    rw [whole] at merged
    exact not_merges_one small merged
  · have near := Numeral.hexMagnitude_isNearest (Or.inl rfl) (spelled.withExponent 1333405)
    have scans := scansRounded Format.binary64_regular found
      (Numeral.toNumber?_of_hexadecimal rfl) near
    obtain ⟨number, returned, decoded⟩ := scans.rounded small
    refine ⟨number, ?_, ?_⟩
    · rw [returned]
    · exact decoded.trans (congrArg (fun x => some (false, x)) nearest)

/-- A numeral for one that is scanned as `2 ^ (-199)`, because its exponent is cut. -/
theorem scan_hexadecimal_far_digit :
    let fraction := List.replicate 333400 '0' ++ ['1']
    let scanner := ofText ("0x0.".toList ++ fraction ++ "p1333604".toList)
    let numeral : Numeral := ⟨.hexadecimal, false, ['0'], fraction, 1333604, 333413⟩
    Numeral.written? .hexadecimal scanner.start.after = some numeral ∧
      numeral.hexExact numeral.exponent = 1 ∧
      (scanner.scan (.number .hexadecimal binary64)).1.map binary64.bits ≠
        (numeral.toNumber? binary64).map binary64.bits ∧
      ∃ number, (scanner.scan (.number .hexadecimal binary64)).1 = some number ∧
        binary64.decode (binary64.bits number) = some (false, 2 ^ (-199 : ℤ)) := by
  have zeros : ∀ c ∈ List.replicate 333400 '0', c = '0' := fun c => List.eq_of_mem_replicate
  apply scan_far_fraction
  · intro c member
    rcases List.mem_append.mp member with zero | one
    · rw [zeros c zero]
      decide
    · rw [List.mem_singleton.mp one]
      decide
  · have none : Digits.value 16 (['0'] ++ List.replicate 333400 '0') = 0 := by
      apply Digits.value_of_zeros
      intro c member
      rcases List.mem_append.mp member with first | later
      · exact List.mem_singleton.mp first
      · exact zeros c later
    rw [← List.append_assoc, Digits.value_append, none, zero_mul, zero_add]
    rfl
  · rw [List.length_append, List.length_replicate, List.length_singleton]

end Scanner

end DeclScan
