import DeclScan.Proofs.Machine.Scanner
import DeclScan.Proofs.Rounding.Doubling

/-!
Scanning decimal floating-point numbers.

## Main result

`Scanner.scan_decimal_rounds_written`: a decimal numeral is scanned to the number nearest to the one it
writes, in either precision and whatever the length of its digits and of its exponent. A scan that writes
the numeral again and has the text parsed gives the same bits, whatever parser it uses.

## Proof strategy

The text that is parsed has the digits of the numeral at their place, so what comes of it is nearest to
the same number (`Machine.Parses.rounds_textOf`), and of two nearest numbers the bits are the same.
-/

namespace DeclScan

open Binary Text

namespace Machine.State

/-- Scans for a decimal numeral, and has a parser of texts tell its number. -/
def scanParsed [Allocator] (parse : List Char → Option Parsed) (state : State) :
    Checked (Option Number × State) :=
  state.ask (·.takeNumeral .decimal (decimalNumber parse))

variable {format : Format} {scanner : Scanner}

/-- What is found with a parser is what a scan finds, as far as bits tell. -/
theorem settle_congr (scanner : Scanner) {left right : Option Number}
    (same : left.map format.bits = right.map format.bits) (width : ℕ) :
    (settle scanner (left.map (⟨·, width⟩))).1.map format.bits =
        (settle scanner (right.map (⟨·, width⟩))).1.map format.bits ∧
      (settle scanner (left.map (⟨·, width⟩))).2 = (settle scanner (right.map (⟨·, width⟩))).2 := by
  cases left with
  | none =>
    cases right with
    | none => exact ⟨rfl, rfl⟩
    | some number => cases same
  | some number =>
    cases right with
    | none => cases same
    | some other => exact ⟨same, rfl⟩

theorem map_bits_eq {parse : List Char → Option Parsed} (parses : Parses format parse)
    (supported : format = binary64 ∨ format = binary32) {text : List Char} {numeral : Numeral}
    (spelled : Numeral.Spelled .decimal text numeral) :
    ((parse (textOf numeral)).bind Parsed.finite?).map format.bits =
      (numeral.toNumber? format).map format.bits := by
  have parsed := parses.rounds_textOf supported spelled
  have rounded := (parses_parse supported).rounds_textOf supported spelled
  obtain ⟨magnitude, value, near⟩ := parsed.isNearest
  obtain ⟨magnitude', value', near'⟩ := rounded.isNearest
  rw [← parse_textOf spelled, value, value', Option.map_map, Option.map_map]
  exact (Format.map_bits_eq_iff (Format.regular_of_supported supported) _ near near').mpr (.inr rfl)

theorem scanParsed_computes [Allocator] {parse : List Char → Option Parsed}
    (parses : Parses format parse) (supported : format = binary64 ∨ format = binary32)
    (short : byteLength scanner.source < 2 ^ 63) {numeral : Numeral}
    (found : Numeral.read? .decimal scanner.start.after = some numeral) :
    ∃ value, Computes (Refuses (byteLength scanner.source)) ((ofScanner scanner).scanParsed parse)
        (value, .ofScanner (scanner.scan (.number .decimal format)).2) ∧
      value.map format.bits = (scanner.scan (.number .decimal format)).1.map format.bits := by
  have asked := askDecimal_computes short fun _ _ lexed found _ =>
    decimalNumber_computes parse lexed found
  have same := settle_congr scanner
    (map_bits_eq parses supported (Numeral.spelled_of_readWith? found)) numeral.width
  rw [found, Option.bind_some] at asked
  have scanned : scanner.scan (.number .decimal format) =
      settle scanner ((numeral.toNumber? format).map (⟨·, numeral.width⟩)) := by
    rw [← settle_eq_scan, Probe.read?, found, Option.bind_some]
  rw [scanned, ← same.2, ← same.1]
  exact ⟨_, asked, rfl⟩

end Machine.State

namespace Scanner

open Machine

/-- A decimal numeral is scanned to the number nearest to the one it writes, rounded once, with the
sign of the numeral; it is not scanned exactly if that number would be too large. A machine that has the
text `[-]0.DeS` of the numeral parsed comes to the same bits and the same place, with every parser that
rounds such texts and every memory with room for the digits. -/
theorem scan_decimal_rounds_written {format : Format}
    (supported : format = binary64 ∨ format = binary32) {scanner : Scanner} {numeral : Numeral}
    (written : Numeral.written? .decimal scanner.start.after = some numeral) :
    let exact : ℚ := Digits.value 10 (numeral.integer ++ numeral.fraction) *
      10 ^ (numeral.exponent - numeral.fraction.length)
    let result := scanner.scan (.number .decimal format)
    (result = (none, scanner) ↔ format.bound ≤ format.nearest exact) ∧
      (format.nearest exact < format.bound → ∃ number,
        result = (some number, { scanner with cursor := scanner.start.advance numeral.width }) ∧
          result.2.offset = scanner.start.offset + numeral.width ∧
          format.decode (format.bits number) = some (numeral.negative, format.nearest exact)) ∧
      ∀ [Allocator] (parse : List Char → Option Parsed), Parses format parse →
        byteLength scanner.source < 2 ^ 63 → ∃ value,
          Computes (Refuses (byteLength scanner.source))
              ((State.ofScanner scanner).scanParsed parse) (value, .ofScanner result.2) ∧
            value.map format.bits = result.1.map format.bits := by
  intro exact result
  have scans := scansRounded_decimal supported written
  refine ⟨scans.eq_none_iff, ?_, ?_⟩
  · intro small
    obtain ⟨number, returned, decoded⟩ := scans.rounded small
    refine ⟨number, returned, ?_, decoded⟩
    rw [show result = _ from returned]
    exact offset_behind written
  · intro memory parse parses short
    obtain ⟨body, lexed, -⟩ := Option.map_eq_some_iff.mp written
    exact State.scanParsed_computes parses supported short (Numeral.read?_of_written? lexed written)

/-- An exponent that is cut leaves nothing but the sign, and so does the text `-0.1e-1000000`. -/
theorem scan_decimal_vanishing :
    let scanner := ofText "-1e-2000000".toList
    let behind : Scanner := { scanner with cursor := scanner.start.advance 11 }
    letI : Allocator := .upTo 16
    Numeral.written? .decimal scanner.start.after =
        some ⟨.decimal, true, ['1'], [], -2000000, 11⟩ ∧
      Parses binary64 (parse binary64) ∧ byteLength scanner.source < 2 ^ 63 ∧
      ∃ number value, scanner.scan (.number .decimal binary64) = (some number, behind) ∧
        binary64.decode (binary64.bits number) = some (true, 0) ∧
        (State.ofScanner scanner).scanParsed (parse binary64) =
          .ok (some value, .ofScanner behind) ∧
        binary64.bits value = binary64.bits number := by
  intro scanner behind
  let memory : Allocator := .upTo 16
  have written : Numeral.written? .decimal scanner.start.after =
      some ⟨.decimal, true, ['1'], [], -2000000, 11⟩ := by decide
  have parses : Parses binary64 (parse binary64) := parses_parse (Or.inl rfl)
  have short : byteLength scanner.source < 2 ^ 63 := by decide
  have granted : ¬Refuses (byteLength scanner.source) := not_refuses_upTo (by norm_num) (by decide)
  obtain ⟨-, rounds, parsed⟩ := scan_decimal_rounds_written (Or.inl rfl) written
  have one : (Digits.value 10 (['1'] ++ []) : ℚ) = 1 := rfl
  have places : -2000000 - (([] : List Char).length : ℤ) = -2000000 := rfl
  have nothing : binary64.nearest (10 ^ (-2000000 : ℤ)) = 0 := by
    apply Format.nearest_eq_zero Format.binary64_regular (zpow_nonneg (by norm_num) _)
    calc (10 : ℚ) ^ (-2000000 : ℤ) ≤ 10 ^ (-1075 : ℤ) :=
          zpow_le_zpow_right₀ (by norm_num) (by norm_num)
      _ ≤ 2 ^ (-1075 : ℤ) := Numeral.ten_zpow_neg_le 1075
  dsimp only at rounds
  rw [one, places, one_mul, nothing] at rounds
  obtain ⟨number, returned, -, decoded⟩ := rounds (two_zpow_pos _)
  obtain ⟨value, computes, same⟩ := parsed (parse binary64) parses short
  have computed := computes.ok granted
  rw [returned] at computed same
  obtain ⟨value, rfl, bits⟩ := Option.map_eq_some_iff.mp same
  exact ⟨written, parses, short, number, value, returned, decoded, computed, bits⟩

end Scanner

end DeclScan
