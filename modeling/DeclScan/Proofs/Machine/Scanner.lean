import DeclScan.Proofs.Machine.Decimal
import DeclScan.Proofs.Machine.FloatText
import DeclScan.Proofs.TextAhead

/-!
Scans in a text of bytes.

A `State` keeps the place of a scanner as a byte offset. As long as the text has fewer than `2 ^ 63`
bytes, a scan from it has no fault and ends where the scan over characters ends (`State.scan_eq`). A scan
for a decimal numeral copies its digits, so it may also stop because there is no room for them
(`State.scan_computes`).
-/

namespace DeclScan

namespace Machine

open Text

/-! ### Literals -/

/-- The number of bytes of a literal, if the bytes in front of `text` are its own up to letter case. -/
def matchSize (caseSensitive : Bool) (literal text : List Char) : Option ℕ :=
  (takeBytes? text (byteLength literal)).bind fun head =>
    if (bytes head).map (Literal.foldByte caseSensitive) =
        (bytes literal).map (Literal.foldByte caseSensitive) then
      some (byteLength literal)
    else none

/-- The first place from which on the bytes of `needle` stand in a list of bytes. -/
def find? (needle : List UInt8) : List UInt8 → Option ℕ
  | [] => if needle.isEmpty then some 0 else none
  | b :: rest => if needle.isPrefixOf (b :: rest) then some 0 else (find? needle rest).map (· + 1)

/-- The number of bytes before the first match of a literal, or of the whole text. -/
def searchSize (caseSensitive : Bool) (literal text : List Char) : ℕ :=
  (find? ((bytes literal).map (Literal.foldByte caseSensitive))
    ((bytes text).map (Literal.foldByte caseSensitive))).getD (byteLength text)

theorem takeBytes?_go_eq_some {text taken head : List Char} {count : ℕ}
    (found : takeBytes?.go text count taken = some head) :
    ∃ front back, text = front ++ back ∧ head = taken.reverse ++ front ∧
      byteLength front = count := by
  fun_induction takeBytes?.go text count taken with
  | case1 text taken =>
    cases found
    exact ⟨[], text, rfl, by simp, rfl⟩
  | case2 => cases found
  | case3 c rest count taken fits ih =>
    obtain ⟨front, back, rfl, rfl, length⟩ := ih found
    refine ⟨c :: front, back, rfl, by simp, ?_⟩
    rw [byteLength_cons, length]
    omega
  | case4 => cases found

theorem takeBytes?_eq_some {text head : List Char} {count : ℕ}
    (found : takeBytes? text count = some head) : head <+: text ∧ byteLength head = count := by
  obtain ⟨front, back, rfl, rfl, length⟩ := takeBytes?_go_eq_some found
  exact ⟨⟨back, rfl⟩, length⟩

theorem matchSize_eq (caseSensitive : Bool) (literal text : List Char) :
    matchSize caseSensitive literal text =
      if Literal.matchesAt caseSensitive literal text then some (byteLength literal) else none := by
  by_cases matching : Literal.matchesAt caseSensitive literal text = true
  · obtain ⟨head, ⟨rest, rfl⟩, same⟩ := (Literal.matchesAt_iff_matches _ _ _).mp matching
    have bytes_eq : (bytes head).map (Literal.foldByte caseSensitive) =
        (bytes literal).map (Literal.foldByte caseSensitive) := by
      rw [Literal.map_foldByte_bytes, Literal.map_foldByte_bytes, (Literal.sameWord_iff _ _ _).mp same]
    rw [if_pos matching, matchSize, same.byteLength_eq, takeBytes?_append, Option.bind_some,
      if_pos bytes_eq]
  · rw [if_neg matching, matchSize]
    cases found : takeBytes? text (byteLength literal) with
    | none => rfl
    | some head =>
      obtain ⟨⟨rest, rfl⟩, -⟩ := takeBytes?_eq_some found
      refine if_neg fun same => matching ?_
      -- the bytes in front are those of the literal, so the literal matches there
      have stands : Literal.BytesAt caseSensitive literal head 0 := by
        rw [Literal.BytesAt, List.drop_zero, same]
      obtain ⟨word, start, spelled⟩ := (Literal.bytesAt_zero_iff _ _ _).mp stands
      exact (Literal.matchesAt_iff_matches _ _ _).mpr
        ⟨word, start.trans (List.prefix_append _ _), spelled⟩

theorem byteLength_take_of_matchesAt {caseSensitive : Bool} {literal text : List Char}
    (matching : Literal.matchesAt caseSensitive literal text = true) :
    byteLength (text.take literal.length) = byteLength literal := by
  obtain ⟨word, start, same⟩ := (Literal.matchesAt_iff_matches _ _ _).mp matching
  rw [same.length_eq, ← List.prefix_iff_eq_take.mp start, same.byteLength_eq]

theorem find?_spec (needle hay : List UInt8) :
    (∀ place, find? needle hay = some place →
        IsLeast {place | needle <+: hay.drop place} place) ∧
      (find? needle hay = none → ∀ place, ¬needle <+: hay.drop place) := by
  induction hay with
  | nil =>
    rw [find?]
    split
    next empty =>
      rw [List.isEmpty_iff.mp empty]
      refine ⟨?_, fun none => nomatch none⟩
      rintro _ ⟨⟩
      exact ⟨List.nil_prefix, fun _ _ => Nat.zero_le _⟩
    next some =>
      refine ⟨fun _ found => (nomatch found), ?_⟩
      intro _ place start
      rw [List.drop_nil, List.prefix_nil] at start
      exact some (List.isEmpty_iff.mpr start)
  | cons b rest ih =>
    rw [find?]
    split
    next start =>
      refine ⟨?_, fun none => nomatch none⟩
      rintro _ ⟨⟩
      exact ⟨List.isPrefixOf_iff_prefix.mp start, fun _ _ => Nat.zero_le _⟩
    next missing =>
      rw [List.isPrefixOf_iff_prefix] at missing
      constructor
      · intro place found
        obtain ⟨place, behind, rfl⟩ := Option.map_eq_some_iff.mp found
        obtain ⟨stands, least⟩ := ih.1 place behind
        refine ⟨stands, ?_⟩
        intro other there
        cases other with
        | zero => exact absurd there missing
        | succ other => exact Nat.succ_le_succ (least there)
      · intro none place
        cases place with
        | zero => exact missing
        | succ place => exact ih.2 (Option.map_eq_none_iff.mp none) place

theorem searchSize_eq (caseSensitive : Bool) (literal text : List Char) :
    searchSize caseSensitive literal text =
      byteLength (Literal.search caseSensitive literal text) := by
  obtain ⟨first, nowhere⟩ := find?_spec ((bytes literal).map (Literal.foldByte caseSensitive))
    ((bytes text).map (Literal.foldByte caseSensitive))
  simp only [← List.map_drop] at first nowhere
  rw [searchSize]
  cases found : find? ((bytes literal).map (Literal.foldByte caseSensitive))
      ((bytes text).map (Literal.foldByte caseSensitive)) with
  | some place =>
    have least := first place found
    rcases (Literal.search_isBefore caseSensitive literal text).isLeast with same | ⟨-, none⟩
    · exact least.unique same
    · exact absurd least.1 (none place)
  | none =>
    rcases (Literal.search_isBefore caseSensitive literal text).isLeast with least | ⟨whole, -⟩
    · exact absurd least.1 (nowhere found _)
    · rw [whole]
      rfl

/-! ### States -/

/-- A text, a place in it as a byte offset, and the settings of a scanner. -/
structure State where
  source : List Char
  place : ℕ
  skip : Option CharSet
  caseSensitive : Bool

namespace State

/-- The state that stands for a scanner. -/
def ofScanner (scanner : Scanner) : State :=
  ⟨scanner.source, scanner.offset, scanner.skip, scanner.caseSensitive⟩

/-- The text that is not yet read. -/
def remaining (state : State) : Checked (List Char) := tail state.source state.place

/-- Whether nothing is left but characters to be skipped. -/
def isAtEnd (state : State) : Checked Bool := do
  let rest ← state.remaining
  match state.skip with
  | some set => return set.leadingLength rest == byteLength rest
  | none => return rest.isEmpty

/-- The state behind the characters to be skipped. -/
def skipIgnored (state : State) : Checked State := do
  match state.skip with
  | some set =>
    let rest ← tail state.source state.place
    let place ← word (state.place + set.leadingLength rest)
    return { state with place }
  | none => return state

/-- The next so many bytes, and the state behind them. -/
def take (state : State) (size : ℕ) : Checked (List Char × State) := do
  let stop ← word (state.place + size)
  let text ← cut state.source state.place stop
  return (text, { state with place := stop })

/-- Takes so many bytes, if any number is given. -/
def takeText (state : State) : Option ℕ → Checked (Option (List Char × State))
  | none => return none
  | some size => return some (← state.take size)

/-- Takes the bytes of a value, if one is given. -/
def takeValue {α : Type} (state : State) : Option (Reading α) → Checked (Option (α × State))
  | none => return none
  | some reading => do
    let (_, next) ← state.take reading.width
    return some (reading.value, next)

/-- Takes a numeral, if there is one and it has a value. -/
def takeNumeral {α : Type} (state : State) (radix : Radix)
    (convert : Numeral → Checked (Option α)) : Checked (Option (α × State)) := do
  let rest ← state.remaining
  match ← lex radix rest with
  | none => return none
  | some numeral =>
    let value ← convert numeral
    state.takeValue (value.map fun value => ⟨value, numeral.width⟩)

/-- Asks a probe of the text that is not yet read, and takes what it finds. -/
def attempt [Allocator] {α : Type} (state : State) : Probe α → Checked (Option (α × State))
  | .characters set => do
    let size := set.leadingLength (← state.remaining)
    state.takeText (if size = 0 then none else some size)
  | .upToCharacters set => do
    let rest ← state.remaining
    state.takeText (if rest.isEmpty then none else some (set.firstMember rest))
  | .literal wanted => do
    let rest ← state.remaining
    state.takeText (if rest.isEmpty then none else matchSize state.caseSensitive wanted rest)
  | .upTo wanted => do
    let rest ← state.remaining
    state.takeText (if rest.isEmpty then none else some (searchSize state.caseSensitive wanted rest))
  | .signed bits => do
    let rest ← state.remaining
    state.takeValue (← readSigned bits rest)
  | .unsigned bits => do
    let rest ← state.remaining
    let sign := if startsNegative (glyphs rest) then 0 else signWidth (glyphs rest)
    state.takeValue (← readNatural .decimal sign bits rest)
  | .hexadecimal bits => do
    let rest ← state.remaining
    let mark := Integer.hexMarkWidth (glyphs rest)
    state.takeValue (← readNatural .hexadecimal mark bits rest)
  | .decimal => state.takeNumeral .decimal fun numeral => do
    return (← decimalOf numeral).bind Parts.decimal?
  | .number .decimal format => state.takeNumeral .decimal (decimalNumber (parse format))
  | .number .hexadecimal format => state.takeNumeral .hexadecimal (hexadecimalNumber format)

/-- Skips, asks what follows, and moves behind what is taken. The place is a character boundary
afterwards. -/
def ask {α : Type} (state : State) (question : State → Checked (Option (α × State))) :
    Checked (Option α × State) := do
  let ready ← state.skipIgnored
  match ← question ready with
  | some (value, next) =>
    let _ ← next.remaining
    return (some value, next)
  | none =>
    let _ ← state.remaining
    return (none, state)

/-- Asks a probe of what follows. -/
def scan [Allocator] {α : Type} (state : State) (probe : Probe α) :
    Checked (Option α × State) :=
  state.ask (·.attempt probe)

/-! ### Steps of a state -/

/-- The state behind the next `count` characters of a scanner. -/
def behind (scanner : Scanner) (count : ℕ) : State :=
  ofScanner { scanner with cursor := scanner.cursor.advance count }

theorem remaining_eq (scanner : Scanner) :
    (ofScanner scanner).remaining = .ok scanner.remaining := by
  have found := tail_append scanner.cursor.before.reverse scanner.cursor.after
  rwa [byteLength_reverse] at found

theorem byteLength_eq_zero {text : List Char} : byteLength text = 0 ↔ text = [] := by
  cases text with
  | nil => simp
  | cons c rest =>
    have positive := c.utf8Size_pos
    simp only [byteLength_cons, reduceCtorEq, iff_false]
    omega

theorem isAtEnd_eq (scanner : Scanner) :
    (ofScanner scanner).isAtEnd = .ok scanner.isAtEnd := by
  rw [isAtEnd, remaining_eq, ok_bind, Scanner.isAtEnd_eq]
  have split := scanner.remaining_eq
  cases skips : scanner.skip with
  | none =>
    rw [Scanner.skipped_of_none skips, List.nil_append] at split
    rw [ofScanner, skips, split]
    rfl
  | some set =>
    rw [Scanner.skipped_of_some skips] at split
    have length := congrArg byteLength split
    rw [byteLength_append, ← CharSet.leadingLength] at length
    have same : (set.leadingLength scanner.remaining == byteLength scanner.remaining) =
        scanner.start.after.isEmpty := by
      rw [Bool.eq_iff_iff, beq_iff_eq, List.isEmpty_iff, ← byteLength_eq_zero]
      omega
    rw [ofScanner, skips]
    exact congrArg Except.ok same

theorem source_eq (scanner : Scanner) (count : ℕ) :
    scanner.source = scanner.cursor.before.reverse ++ scanner.remaining.take count ++
      scanner.remaining.drop count := by
  rw [List.append_assoc, List.take_append_drop]
  rfl

theorem byteLength_remaining_le (scanner : Scanner) :
    byteLength scanner.remaining ≤ byteLength scanner.source := by
  have length := congrArg byteLength (source_eq scanner 0)
  rw [List.append_assoc, List.take_append_drop, byteLength_append] at length
  omega

theorem behind_eq (scanner : Scanner) (count : ℕ) :
    behind scanner count = { ofScanner scanner with
      place := scanner.offset + byteLength (scanner.remaining.take count) } := by
  have source : (scanner.cursor.advance count).text = scanner.source :=
    scanner.cursor.text_advance count
  have place : (scanner.cursor.advance count).offset =
      scanner.offset + byteLength (scanner.remaining.take count) :=
    scanner.cursor.offset_advance count
  rw [behind, ofScanner, ofScanner, Scanner.source, Scanner.offset, source, place]

section

variable {scanner : Scanner} (short : byteLength scanner.source < 2 ^ 63)
include short

theorem word_offset (count : ℕ) :
    word (scanner.offset + byteLength (scanner.remaining.take count)) =
      .ok (scanner.offset + byteLength (scanner.remaining.take count)) := by
  have length := congrArg byteLength (source_eq scanner count)
  rw [byteLength_append, byteLength_append, byteLength_reverse, ← Cursor.offset,
    ← Scanner.offset] at length
  exact word_of_lt (by omega)

theorem take_eq (count : ℕ) :
    (ofScanner scanner).take (byteLength (scanner.remaining.take count)) =
      .ok (scanner.remaining.take count, behind scanner count) := by
  have found := cut_append scanner.cursor.before.reverse (scanner.remaining.take count)
    (scanner.remaining.drop count)
  rw [← source_eq, byteLength_append, byteLength_reverse, ← Cursor.offset, ← Scanner.offset] at found
  rw [take, behind_eq]
  dsimp only [ofScanner]
  rw [word_offset short, ok_bind, found]
  rfl

theorem skipIgnored_eq :
    (ofScanner scanner).skipIgnored = .ok (behind scanner scanner.skipped.length) := by
  have whole := List.prefix_iff_eq_take.mp scanner.skipped_prefix
  have moved := word_offset short scanner.skipped.length
  rw [skipIgnored, behind_eq]
  rw [← whole] at moved ⊢
  cases skips : scanner.skip with
  | none =>
    rw [Scanner.skipped_of_none skips]
    dsimp only [ofScanner]
    rw [skips]
    rfl
  | some set =>
    rw [Scanner.skipped_of_some skips] at moved ⊢
    have rest := remaining_eq scanner
    rw [remaining] at rest
    dsimp only [ofScanner] at rest ⊢
    rw [skips, rest]
    dsimp only
    rw [ok_bind, CharSet.leadingLength, moved]
    rfl

end

/-! ### Probes -/

/-- What a probe reads, the exponents of hexadecimal numerals cut as in words. -/
def readCapped? {α : Type} (caseSensitive : Bool) (probe : Probe α) (text : List Char) :
    Option (Reading α) :=
  match probe with
  | .characters set => Probe.read? caseSensitive (.characters set) text
  | .upToCharacters set => Probe.read? caseSensitive (.upToCharacters set) text
  | .literal wanted => Probe.read? caseSensitive (.literal wanted) text
  | .upTo wanted => Probe.read? caseSensitive (.upTo wanted) text
  | .signed bits => Probe.read? caseSensitive (.signed bits) text
  | .unsigned bits => Probe.read? caseSensitive (.unsigned bits) text
  | .hexadecimal bits => Probe.read? caseSensitive (.hexadecimal bits) text
  | .decimal => Probe.read? caseSensitive .decimal text
  | .number .decimal format => Probe.read? caseSensitive (.number .decimal format) text
  | .number .hexadecimal format =>
    (capped? .hexadecimal text).bind fun numeral =>
      (numeral.toNumber? format).map fun value => ⟨value, numeral.width⟩

theorem readCapped?_eq {α : Type} (caseSensitive : Bool) (probe : Probe α) {text : List Char}
    (room : Numeral.exponentLimit + byteLength text < 2 ^ 63) :
    readCapped? caseSensitive probe text = probe.read? caseSensitive text := by
  cases probe with
  | number radix format =>
    cases radix with
    | decimal => rfl
    | hexadecimal => rw [readCapped?, capped?_eq .hexadecimal room, Probe.read?]
  | _ => rfl

/-- A probe asks for no more than words of 64 bits hold. -/
def Suits {α : Type} : Probe α → Prop
  | .signed bits => bits ≤ 64
  | .unsigned bits => bits ≤ 64
  | .hexadecimal bits => bits ≤ 64
  | _ => True

/-- A probe copies the digits that it finds. -/
def Copies {α : Type} : Probe α → Prop
  | .decimal => True
  | .number .decimal _ => True
  | _ => False

section

variable {scanner : Scanner} (short : byteLength scanner.source < 2 ^ 63)
include short

theorem takeText_eq {run : List Char} (start : run <+: scanner.remaining) :
    (ofScanner scanner).takeText (some (byteLength run)) =
      .ok (some (run, behind scanner run.length)) := by
  have taken := take_eq short run.length
  rw [← List.prefix_iff_eq_take.mp start] at taken
  rw [takeText, taken]
  rfl

theorem takeValue_eq {α : Type} {found : Option (Reading α)}
    (narrow : ∀ reading, found = some reading → Narrow scanner.remaining reading.width) :
    (ofScanner scanner).takeValue found =
      .ok (found.map fun reading => (reading.value, behind scanner reading.width)) := by
  cases found with
  | none => rfl
  | some reading =>
    have taken := take_eq short reading.width
    rw [narrow reading rfl] at taken
    rw [takeValue, taken]
    rfl

/-- A numeral is taken if it is as wide as the one that is to be found and comes to its value. -/
theorem takeNumeral_computes {α : Type} (radix : Radix) {refused : Prop}
    {convert : Numeral → Checked (Option α)} {value? : Numeral → Option α} {found : Option Numeral}
    (wide : (capped? radix scanner.remaining).map Numeral.width = found.map Numeral.width)
    (converts : ∀ numeral read, capped? radix scanner.remaining = some numeral →
      found = some read → Computes refused (convert numeral) (value? read)) :
    Computes refused ((ofScanner scanner).takeNumeral radix convert)
      ((found.bind fun read => (value? read).map fun value => (⟨value, read.width⟩ : Reading α)).map
        fun reading => (reading.value, behind scanner reading.width)) := by
  have short' := (byteLength_remaining_le scanner).trans_lt short
  rw [takeNumeral, remaining_eq, ok_bind, lex_eq short', ok_bind]
  cases lexed : capped? radix scanner.remaining with
  | none =>
    rw [lexed, Option.map_none, eq_comm, Option.map_eq_none_iff] at wide
    rw [wide]
    exact .of_ok rfl
  | some numeral =>
    rw [lexed, Option.map_some, eq_comm, Option.map_eq_some_iff] at wide
    obtain ⟨read, rfl, width⟩ := wide
    refine (converts numeral read lexed rfl).bind (.of_ok ?_)
    rw [takeValue_eq short, ← width]
    · rfl
    · intro reading some
      obtain ⟨value, -, rfl⟩ := Option.map_eq_some_iff.mp some
      exact (Numeral.spelled_of_readWith? lexed).narrow

theorem takeNatural_eq {radix : Radix} {start bits : ℕ} (narrow : Narrow scanner.remaining start)
    (fits : bits ≤ 64) {found : Option (Reading ℕ)}
    (read : found = let digits := (scanner.remaining.drop start).takeWhile radix.isDigit
      if digits.isEmpty then none
      else (Digits.valueBelow? radix.base (1 <<< bits) digits).map fun magnitude =>
        ⟨magnitude, start + digits.length⟩) :
    (do (ofScanner scanner).takeValue (← readNatural radix start bits scanner.remaining)) =
      .ok (found.map fun reading => (reading.value, behind scanner reading.width)) := by
  have short' := (byteLength_remaining_le scanner).trans_lt short
  rw [readNatural_eq short' fits radix narrow, ok_bind, ← read, takeValue_eq short]
  intro reading some
  rw [read, Option.ite_none_left_eq_some] at some
  obtain ⟨magnitude, -, rfl⟩ := Option.map_eq_some_iff.mp some.2
  exact narrow.add (narrow_takeWhile radix.toNat_lt_of_isDigit _)

/-- A decimal numeral comes to a value unless its digits find no room. These are no more than the
text has bytes. -/
theorem takeDecimal_computes [Allocator] {α : Type} {convert : Numeral → Checked (Option α)}
    {value? : Numeral → Option α}
    (converts : ∀ numeral read, capped? .decimal scanner.remaining = some numeral →
      Numeral.read? .decimal scanner.remaining = some read →
        ∀ size, numeral.integer.length + numeral.fraction.length ≤ size → size < 2 ^ 64 →
          Computes (Refuses size) (convert numeral) (value? read)) :
    Computes (Refuses (byteLength scanner.source))
      ((ofScanner scanner).takeNumeral .decimal convert)
      (((Numeral.read? .decimal scanner.remaining).bind fun read =>
        (value? read).map fun value => (⟨value, read.width⟩ : Reading α)).map
          fun reading => (reading.value, behind scanner reading.width)) := by
  refine takeNumeral_computes short .decimal (map_width_capped? _ _) ?_
  intro numeral read lexed found
  have spelled := Numeral.spelled_of_readWith? lexed
  have length := spelled.length_le.trans (le_of_narrow spelled.narrow)
  exact converts numeral read lexed found _ (length.trans (byteLength_remaining_le scanner))
    (short.trans (by norm_num))

theorem attempt_computes [Allocator] {α : Type} {probe : Probe α} (suits : Suits probe) :
    Computes (Copies probe ∧ Refuses (byteLength scanner.source))
      ((ofScanner scanner).attempt probe)
      ((readCapped? scanner.caseSensitive probe scanner.remaining).map fun reading =>
        (reading.value, behind scanner reading.width)) := by
  have rest := remaining_eq scanner
  have within := byteLength_remaining_le scanner
  have alike := alike_glyphs scanner.remaining
  cases probe with
  | characters set =>
    refine .of_ok ?_
    rw [attempt, rest, ok_bind, readCapped?, Probe.read?, CharSet.leadingLength]
    dsimp only
    by_cases empty : set.leading scanner.remaining = []
    · rw [empty]
      rfl
    · rw [if_neg (mt byteLength_eq_zero.mp empty), if_neg (mt List.isEmpty_iff.mp empty)]
      exact takeText_eq short (List.takeWhile_prefix _)
  | upToCharacters set =>
    refine .of_ok ?_
    rw [attempt, rest, ok_bind, readCapped?, Probe.read?, CharSet.firstMember]
    split
    next => rfl
    next => exact takeText_eq short (List.takeWhile_prefix _)
  | literal wanted =>
    have sensitive : (ofScanner scanner).caseSensitive = scanner.caseSensitive := rfl
    refine .of_ok ?_
    rw [attempt, rest, ok_bind, readCapped?, Probe.read?, matchSize_eq, sensitive]
    split
    next => rfl
    next =>
      split
      next matching =>
        have taken := takeText_eq short (List.take_prefix wanted.length scanner.remaining)
        rw [byteLength_take_of_matchesAt matching,
          List.length_take_of_le (Literal.length_le_of_matchesAt matching)] at taken
        exact taken
      next => rfl
  | upTo wanted =>
    refine .of_ok ?_
    rw [attempt, rest, ok_bind, readCapped?, Probe.read?, searchSize_eq]
    split
    next => rfl
    next => exact takeText_eq short (Literal.search_prefix _ _ _)
  | signed bits =>
    refine .of_ok ?_
    rw [attempt, rest, ok_bind, readSigned_eq (within.trans_lt short) suits, ok_bind]
    exact takeValue_eq short fun _ => Integer.narrow_of_readSigned?
  | unsigned bits =>
    refine .of_ok ?_
    rw [attempt, rest, ok_bind, alike.startsNegative_eq, alike.signWidth_eq]
    refine takeNatural_eq short ?_ suits rfl
    split
    · exact narrow_zero _
    · exact narrow_signWidth _
  | hexadecimal bits =>
    refine .of_ok ?_
    rw [attempt, rest, ok_bind, alike.hexMarkWidth_eq]
    exact takeNatural_eq short (Integer.narrow_hexMarkWidth _) suits rfl
  | decimal =>
    refine .mono (And.intro trivial) (takeDecimal_computes short ?_)
    intro numeral read lexed found size within bound
    refine (decimalOf_computes lexed found within bound).bind (.of_ok ?_)
    cases Decimal.ofNumeral? read with
    | none => rfl
    | some decimal => exact congrArg Except.ok (Parts.decimal?_ofDecimal decimal)
  | number radix format =>
    cases radix with
    | decimal =>
      refine .mono (And.intro trivial) (takeDecimal_computes short ?_)
      intro numeral read lexed found size within bound
      rw [← parse_textOf (Numeral.spelled_of_readWith? found)]
      exact decimalNumber_computes (parse format) lexed found within bound
    | hexadecimal =>
      refine takeNumeral_computes short .hexadecimal rfl ?_
      intro numeral read lexed found
      obtain rfl : numeral = read := Option.some_inj.mp (lexed.symm.trans found)
      exact .of_ok (hexadecimalNumber_eq (Numeral.spelled_of_readWith? lexed))

end

/-! ### Scans -/

/-- A scanner that has skipped what it is to skip. -/
def ready (scanner : Scanner) : Scanner := { scanner with cursor := scanner.start }

theorem source_ready (scanner : Scanner) : (ready scanner).source = scanner.source :=
  scanner.cursor.text_advance _

theorem byteLength_start_after_le (scanner : Scanner) :
    byteLength scanner.start.after ≤ byteLength scanner.source :=
  source_ready scanner ▸ byteLength_remaining_le (ready scanner)

theorem skipIgnored_ready {scanner : Scanner} (short : byteLength scanner.source < 2 ^ 63) :
    (ofScanner scanner).skipIgnored = .ok (ofScanner (ready scanner)) :=
  skipIgnored_eq short

/-- What a scan comes to that finds `found` behind the characters to be skipped. -/
def settle {α : Type} (scanner : Scanner) (found : Option (Reading α)) : Option α × Scanner :=
  match found with
  | some reading =>
    (some reading.value, { scanner with cursor := scanner.start.advance reading.width })
  | none => (none, scanner)

theorem settle_eq_scan {α : Type} (scanner : Scanner) (probe : Probe α) :
    settle scanner (probe.read? scanner.caseSensitive scanner.start.after) = scanner.scan probe :=
  rfl

/-- What a scan does, the exponents of hexadecimal numerals cut as in words. -/
def scanCapped {α : Type} (scanner : Scanner) (probe : Probe α) : Option α × Scanner :=
  settle scanner (readCapped? scanner.caseSensitive probe scanner.start.after)

theorem scanCapped_eq {α : Type} {scanner : Scanner} (probe : Probe α)
    (room : Numeral.exponentLimit + byteLength scanner.source < 2 ^ 63) :
    scanCapped scanner probe = scanner.scan probe := by
  have within := byteLength_start_after_le scanner
  rw [scanCapped, readCapped?_eq _ _ (by omega), settle_eq_scan]

theorem source_scanCapped {α : Type} (scanner : Scanner) (probe : Probe α) :
    (scanCapped scanner probe).2.source = scanner.source := by
  unfold scanCapped settle
  split
  · simp [Scanner.source, Scanner.start]
  · rfl

section

variable {α : Type} {scanner : Scanner} (short : byteLength scanner.source < 2 ^ 63)
include short

/-- A scan moves behind what is found. -/
theorem ask_computes (question : State → Checked (Option (α × State))) {refused : Prop}
    {found : Option (Reading α)}
    (answers : Computes refused (question (ofScanner (ready scanner)))
      (found.map fun reading => (reading.value, behind (ready scanner) reading.width))) :
    Computes refused ((ofScanner scanner).ask question)
      ((settle scanner found).1, ofScanner (settle scanner found).2) := by
  rw [ask, skipIgnored_ready short, ok_bind]
  refine answers.bind (.of_ok ?_)
  cases found with
  | none =>
    dsimp only [Option.map_none]
    rw [remaining_eq]
    rfl
  | some reading =>
    dsimp only [Option.map_some]
    rw [behind, remaining_eq]
    rfl

variable [Allocator]

/-- A scan for a decimal numeral, whatever its digits are converted to. -/
theorem askDecimal_computes {convert : Numeral → Checked (Option α)} {value? : Numeral → Option α}
    (converts : ∀ numeral read, capped? .decimal scanner.start.after = some numeral →
      Numeral.read? .decimal scanner.start.after = some read →
        ∀ size, numeral.integer.length + numeral.fraction.length ≤ size → size < 2 ^ 64 →
          Computes (Refuses size) (convert numeral) (value? read)) :
    let result := settle scanner ((Numeral.read? .decimal scanner.start.after).bind fun read =>
      (value? read).map fun value => ⟨value, read.width⟩)
    Computes (Refuses (byteLength scanner.source))
      ((ofScanner scanner).ask (·.takeNumeral .decimal convert))
      (result.1, ofScanner result.2) := by
  have source := source_ready scanner
  have short' : byteLength (ready scanner).source < 2 ^ 63 := source.symm ▸ short
  have taken := takeDecimal_computes short' converts
  rw [source] at taken
  exact ask_computes short (·.takeNumeral .decimal convert) taken

variable {probe : Probe α} (suits : Suits probe)
include suits

/-- A scan over fewer than `2 ^ 63` bytes has no fault, unless there is no room for the digits that it
copies. -/
theorem scan_computes :
    Computes (Copies probe ∧ Refuses (byteLength scanner.source)) ((ofScanner scanner).scan probe)
      ((scanCapped scanner probe).1, ofScanner (scanCapped scanner probe).2) := by
  have source := source_ready scanner
  have short' : byteLength (ready scanner).source < 2 ^ 63 := source.symm ▸ short
  have attempted := attempt_computes short' suits
  rw [source] at attempted
  exact ask_computes short _ attempted

/-- A scan that copies nothing has no fault at all. -/
theorem scan_eq (plain : ¬Copies probe) :
    (ofScanner scanner).scan probe =
      .ok ((scanCapped scanner probe).1, ofScanner (scanCapped scanner probe).2) :=
  (scan_computes short suits).ok fun refused => plain refused.1

end

end State

end Machine

end DeclScan
