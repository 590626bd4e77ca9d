import DeclScan.Proofs.DeclarationLine
import DeclScan.Proofs.Digits
import DeclScan.Proofs.ExtractionReport

/-!
What the two streams of a run tell about its lines.

## Main result

`Extraction.streams_determine_outcomes`: from names and failures on their two streams the outcome of
each line can be told, so two runs that leave the same streams had as many lines with the same
outcomes. The names are what stands between the line feeds of the one stream, and the rows on the other
are those of the lines that failed, in order.

## Proof strategy

The streams can be read back (`outcomesIn`). Neither a name nor a message has a line feed, so each
stream is cut where its entries end (`splitOn_stream`), and a failure tells its row in front of a
character that is no digit (`readFailure_writeFailure`). Rows are all different, so a run of lines that
failed and lines that did not is put together again row by row (`merge_outcomes`).
-/

namespace DeclScan

/-! ### Entries without line feeds -/

theorem not_mem_toDigits (n : ℕ) : '\n' ∉ Nat.toDigits 10 n := by
  intro member
  have digit := Nat.isDigit_of_mem_toDigits (by decide) (by decide) member
  exact absurd digit (by decide)

theorem Position.not_mem_render (position : Position) : '\n' ∉ position.render.toList := by
  simp [render, not_mem_toDigits]

namespace ParseError

theorem not_mem_expected {keywords : List String} (position : Position)
    (plain : '\n' ∉ (alternatives keywords).toList) :
    '\n' ∉ (expectedKeyword keywords position).message.toList := by
  simp [message, position.not_mem_render, plain]

theorem not_mem_missing {delimiter : Char} (position : Position) (plain : '\n' ≠ delimiter) :
    '\n' ∉ (missingDelimiter delimiter position).message.toList := by
  simp [message, position.not_mem_render, plain]

end ParseError

theorem TypeDeclaration.not_mem_message {line : String} {error : ParseError}
    (failed : parse line = .error error) : '\n' ∉ error.message.toList := by
  cases parse_eq_error_iff.mp failed with
  | noKeyword absent => exact ParseError.not_mem_expected _ (by simp [ParseError.alternatives])
  | noName blank₀ blank₁ whole => exact ParseError.not_mem_missing _ (by decide)

theorem VariableDeclaration.not_mem_message {line : String} {error : ParseError}
    (failed : parse line = .error error) : '\n' ∉ error.message.toList := by
  cases parse_eq_error_iff.mp failed with
  | noBinding modifiers absent whole =>
    exact ParseError.not_mem_expected _ (by simp [ParseError.alternatives])
  | noName modifiers follows blank whole => exact ParseError.not_mem_missing _ (by decide)

theorem ok_of_map {ε α β : Type} {f : α → β} {x : Except ε α} {b : β} (mapped : x.map f = .ok b) :
    ∃ a, x = .ok a ∧ f a = b := by
  cases x with
  | error e => cases mapped
  | ok a => exact ⟨a, rfl, Except.ok.inj mapped⟩

theorem error_of_map {ε α β : Type} {f : α → β} {x : Except ε α} {e : ε}
    (mapped : x.map f = .error e) : x = .error e := by
  cases x with
  | error e' => exact congrArg _ (Except.error.inj mapped)
  | ok a => cases mapped

namespace Mode

theorem exists_of_extract {mode : Mode} {line name : String} (found : mode.extract line = .ok name) :
    (∃ declaration, TypeDeclaration.parse line = .ok declaration ∧ declaration.name = name) ∨
      ∃ declaration, VariableDeclaration.parse line = .ok declaration ∧ declaration.name = name := by
  rw [extract.eq_def] at found
  cases mode with
  | typeNames => exact .inl (ok_of_map found)
  | variableNames => exact .inr (ok_of_map found)
  | declaredNames =>
    obtain ⟨declaration, parsed, rfl⟩ := ok_of_map found
    rw [Declaration.parse] at parsed
    split at parsed
    next asType parsedType =>
      cases parsed
      exact .inl ⟨asType, parsedType, rfl⟩
    next =>
      obtain ⟨asVariable, parsedVariable, rfl⟩ := ok_of_map parsed
      exact .inr ⟨asVariable, parsedVariable, rfl⟩

theorem error_of_extract {mode : Mode} {line : String} {error : ParseError}
    (failed : mode.extract line = .error error) :
    TypeDeclaration.parse line = .error error ∨ VariableDeclaration.parse line = .error error := by
  rw [extract.eq_def] at failed
  cases mode with
  | typeNames => exact .inl (error_of_map failed)
  | variableNames => exact .inr (error_of_map failed)
  | declaredNames =>
    have parsed := error_of_map failed
    rw [Declaration.parse] at parsed
    split at parsed
    next => cases parsed
    next => exact .inr (error_of_map parsed)

theorem not_mem_name {mode : Mode} {line name : String} (plain : '\n' ∉ line.toList)
    (found : mode.extract line = .ok name) : '\n' ∉ name.toList := by
  intro member
  rcases exists_of_extract found with ⟨declaration, parsed, rfl⟩ | ⟨declaration, parsed, rfl⟩
  · exact plain ((TypeDeclaration.parse_eq_ok_iff.mp parsed).mem_of_mem_name member)
  · have spells := VariableDeclaration.reads_iff_spells.mp
      (VariableDeclaration.parse_eq_ok_iff.mp parsed)
    exact plain (spells.mem_of_mem_name member)

theorem not_mem_message {mode : Mode} {line : String} {error : ParseError}
    (failed : mode.extract line = .error error) : '\n' ∉ error.message.toList := by
  rcases error_of_extract failed with failed | failed
  · exact TypeDeclaration.not_mem_message failed
  · exact VariableDeclaration.not_mem_message failed

/-- What a line comes to: a name, or the message of a failure. -/
def outcome (mode : Mode) (line : String) : Except String String :=
  (mode.extract line).mapError ParseError.message

/-- Two lines give the same name, or fail with the same message. -/
def SameOutcome (mode : Mode) (line other : String) : Prop :=
  (∃ name, mode.extract line = .ok name ∧ mode.extract other = .ok name) ∨
    ∃ error error', mode.extract line = .error error ∧ mode.extract other = .error error' ∧
      error.message = error'.message

theorem sameOutcome_iff {mode : Mode} {line other : String} :
    mode.SameOutcome line other ↔ mode.outcome line = mode.outcome other := by
  rw [SameOutcome, outcome, outcome]
  cases mode.extract line <;> cases mode.extract other <;> simp [Except.mapError, eq_comm]

theorem outcome_eq_error_iff {mode : Mode} {line message : String} :
    mode.outcome line = .error message ↔
      ∃ error, mode.extract line = .error error ∧ error.message = message := by
  rw [outcome]
  cases mode.extract line <;> simp [Except.mapError]

end Mode

namespace Extraction

/-! ### Outcomes on two streams -/

/-- The names among some outcomes. -/
def names (outcomes : List (Except String String)) : List String :=
  outcomes.filterMap Except.toOption

/-- The failures among some outcomes with their rows, the first of which is `row`. -/
def failures : (row : ℕ) → List (Except String String) → List (ℕ × String)
  | _, [] => []
  | row, .ok _ :: rest => failures (row + 1) rest
  | row, .error message :: rest => (row, message) :: failures (row + 1) rest

/-- A failure as it is written, without the line feed behind it. -/
def writeFailure (failure : ℕ × String) : String :=
  "line " ++ failure.1.repr ++ ": " ++ failure.2

/-- The stream that holds `entries`, each with a line feed behind it. -/
def stream (entries : List String) : String := String.join (entries.map (· ++ "\n"))

theorem names_outcomes (mode : Mode) (lines : List String) :
    names (lines.map mode.outcome) = lines.filterMap fun line => (mode.extract line).toOption := by
  rw [names, List.filterMap_map]
  refine List.filterMap_congr fun line _ => ?_
  rw [Function.comp_apply, Mode.outcome]
  cases mode.extract line <;> rfl

theorem namesOf_eq (mode : Mode) (lines : List String) :
    mode.namesOf lines = (names (lines.map mode.outcome)).map (· ++ "\n") := by
  rw [Mode.namesOf, names_outcomes, List.map_filterMap]
  refine List.filterMap_congr fun line _ => ?_
  cases mode.extract line <;> rfl

theorem failuresOf_eq (mode : Mode) (lines : List String) (row : ℕ) :
    mode.failuresOf lines row =
      (failures row (lines.map mode.outcome)).map (writeFailure · ++ "\n") := by
  induction lines generalizing row with
  | nil => rfl
  | cons line lines ih =>
    have others := ih (row + 1)
    rw [Mode.failuresOf] at others
    cases extracted : mode.extract line with
    | ok name => simp [Mode.failuresOf, Mode.outcome, extracted, Except.mapError, failures, others]
    | error error =>
      simp [Mode.failuresOf, Mode.outcome, extracted, Except.mapError, failures, others, writeFailure]

theorem extractLines_accepted (mode : Mode) (lines : List String) :
    (extractLines mode lines fun _ => none).1.out = stream (names (lines.map mode.outcome)) ∧
    (extractLines mode lines fun _ => none).1.err =
      stream ((failures 1 (lines.map mode.outcome)).map writeFailure) := by
  have accepted := (rejected_eq_none_iff mode (fun _ => none) lines).mpr fun _ _ => rfl
  rw [extractLines_eq, take_of_accepted accepted]
  simp [Report.extend, namesOf_eq, failuresOf_eq, stream, Function.comp_def]

/-! ### Reading the streams -/

/-- The entries of a stream: all that stands in front of a line feed. -/
def entriesIn (stream : String) : List (List Char) := (stream.toList.splitOn '\n').dropLast

theorem splitOn_stream {entries : List String} (plain : ∀ entry ∈ entries, '\n' ∉ entry.toList) :
    (stream entries).toList.splitOn '\n' = entries.map String.toList ++ [[]] := by
  induction entries with
  | nil => rfl
  | cons entry entries ih =>
    rw [List.forall_mem_cons] at plain
    have first : (stream (entry :: entries)).toList =
        entry.toList ++ '\n' :: (stream entries).toList := by
      simp [stream]
    rw [first, List.splitOn_append_cons_self_of_not_mem plain.1, ih plain.2]
    rfl

theorem entriesIn_stream {entries : List String} (plain : ∀ entry ∈ entries, '\n' ∉ entry.toList) :
    entriesIn (stream entries) = entries.map String.toList := by
  rw [entriesIn, splitOn_stream plain, List.dropLast_concat]

/-- The row of a failure and its message. The row follows the word "line" and ends at a colon. -/
def readFailure (entry : List Char) : ℕ × String :=
  let numbered := entry.drop "line ".length
  let digits := numbered.takeWhile Char.isDigit
  (Nat.ofDigitChars 10 digits 0, String.ofList (numbered.drop (digits.length + ": ".length)))

theorem readFailure_writeFailure (failure : ℕ × String) :
    readFailure (writeFailure failure).toList = failure := by
  have written : (writeFailure failure).toList =
      "line ".toList ++ (Nat.toDigits 10 failure.1 ++ (": ".toList ++ failure.2.toList)) := by
    simp [writeFailure]
  -- the digits end where the colon stands
  have word : (Nat.toDigits 10 failure.1 ++ (": ".toList ++ failure.2.toList)).takeWhile
      Char.isDigit = Nat.toDigits 10 failure.1 :=
    Digits.takeWhile_toDigits_append failure.1 rfl _
  rw [readFailure, written, List.drop_left' String.length_toList, word,
    Nat.ofDigitChars_ten_toDigits, ← List.append_assoc,
    List.drop_left' (by rw [List.length_append, String.length_toList]), String.ofList_toList]

theorem not_mem_writeFailure {failure : ℕ × String} (plain : '\n' ∉ failure.2.toList) :
    '\n' ∉ (writeFailure failure).toList := by
  simp [writeFailure, not_mem_toDigits, plain]

/-- The names on a stream. -/
def namesIn (out : String) : List String := (entriesIn out).map String.ofList

/-- The failures on a stream, with their rows. -/
def failuresIn (err : String) : List (ℕ × String) := (entriesIn err).map readFailure

theorem namesIn_stream {found : List String} (plain : ∀ name ∈ found, '\n' ∉ name.toList) :
    namesIn (stream found) = found := by
  rw [namesIn, entriesIn_stream plain, List.map_map]
  simp

theorem failuresIn_stream {found : List (ℕ × String)}
    (plain : ∀ failure ∈ found, '\n' ∉ failure.2.toList) :
    failuresIn (stream (found.map writeFailure)) = found := by
  have entries : ∀ entry ∈ found.map writeFailure, '\n' ∉ entry.toList := by
    intro entry member
    obtain ⟨failure, found, rfl⟩ := List.mem_map.mp member
    exact not_mem_writeFailure (plain failure found)
  rw [failuresIn, entriesIn_stream entries, List.map_map, List.map_map]
  exact List.map_id'' readFailure_writeFailure found

/-! ### Putting outcomes together -/

/-- Puts outcomes together from row `row` on: a row that has failed is a failure, and any other has
the next name. -/
def merge (row : ℕ) (names : List String) (failures : List (ℕ × String)) :
    List (Except String String) :=
  match failures with
  | [] => names.map .ok
  | (failed, message) :: failures =>
    if failed = row then .error message :: merge (row + 1) names failures
    else
      match names with
      | [] => []
      | name :: names => .ok name :: merge (row + 1) names ((failed, message) :: failures)
termination_by names.length + failures.length

theorem merge_nil (row : ℕ) (names : List String) : merge row names [] = names.map .ok := by
  rw [merge]

theorem merge_failed (row : ℕ) (names : List String) (message : String)
    (failures : List (ℕ × String)) :
    merge row names ((row, message) :: failures) =
      .error message :: merge (row + 1) names failures := by
  rw [merge.eq_def]
  exact if_pos rfl

theorem merge_named {row : ℕ} (name : String) (names : List String) {failure : ℕ × String}
    (failures : List (ℕ × String)) (other : failure.1 ≠ row) :
    merge row (name :: names) (failure :: failures) =
      .ok name :: merge (row + 1) names (failure :: failures) := by
  rw [merge.eq_def]
  exact if_neg other

/-- A failure among outcomes has its own place as its row. -/
theorem mem_failures_iff {outcomes : List (Except String String)} {row : ℕ} {failure : ℕ × String} :
    failure ∈ failures row outcomes ↔
      ∃ index, failure.1 = row + index ∧ outcomes[index]? = some (.error failure.2) := by
  fun_induction failures row outcomes with
  | case1 => simp
  | case2 row name rest ih =>
    rw [ih]
    constructor
    · rintro ⟨index, place, found⟩
      exact ⟨index + 1, by omega, found⟩
    · rintro ⟨index, place, found⟩
      cases index with
      | zero => cases found
      | succ index => exact ⟨index, by omega, found⟩
  | case3 row message rest ih =>
    rw [List.mem_cons, ih]
    constructor
    · rintro (rfl | ⟨index, place, found⟩)
      · exact ⟨0, rfl, rfl⟩
      · exact ⟨index + 1, by omega, found⟩
    · rintro ⟨index, place, found⟩
      cases index with
      | zero =>
        left
        obtain ⟨row', message'⟩ := failure
        cases place
        cases found
        rfl
      | succ index => exact .inr ⟨index, by omega, found⟩

theorem pairwise_failures (row : ℕ) (outcomes : List (Except String String)) :
    (failures row outcomes).Pairwise fun first second => first.1 < second.1 := by
  fun_induction failures row outcomes with
  | case1 => exact .nil
  | case2 row name rest ih => exact ih
  | case3 row message rest ih =>
    refine .cons (fun later member => ?_) ih
    obtain ⟨index, place, -⟩ := mem_failures_iff.mp member
    omega

theorem merge_outcomes (row : ℕ) (outcomes : List (Except String String)) :
    merge row (names outcomes) (failures row outcomes) = outcomes := by
  fun_induction failures row outcomes with
  | case1 => exact merge_nil _ _
  | case2 row name rest ih =>
    have first : names (.ok name :: rest) = name :: names rest := rfl
    rw [first]
    cases known : failures (row + 1) rest with
    | nil =>
      rw [known, merge_nil] at ih
      rw [merge_nil, List.map_cons, ih]
    | cons failure more =>
      -- all failures behind this row have greater rows
      obtain ⟨index, later, -⟩ := mem_failures_iff.mp (known ▸ List.mem_cons_self)
      rw [merge_named name _ more (by omega), ← known, ih]
  | case3 row message rest ih =>
    have first : names (.error message :: rest) = names rest := rfl
    rw [first, merge_failed, ih]

/-! ### Whole runs -/

/-- The outcomes that two streams tell. -/
def outcomesIn (out err : String) : List (Except String String) :=
  merge 1 (namesIn out) (failuresIn err)

theorem not_mem_of_mem_names {mode : Mode} {lines : List String}
    (plain : ∀ line ∈ lines, '\n' ∉ line.toList) :
    ∀ name ∈ names (lines.map mode.outcome), '\n' ∉ name.toList := by
  intro name member
  rw [names_outcomes] at member
  obtain ⟨line, inside, found⟩ := List.mem_filterMap.mp member
  cases extracted : mode.extract line with
  | error error => simp [extracted, Except.toOption] at found
  | ok name' =>
    obtain rfl : name' = name := by simpa [extracted, Except.toOption] using found
    exact Mode.not_mem_name (plain line inside) extracted

theorem not_mem_of_mem_failures (mode : Mode) (lines : List String) :
    ∀ failure ∈ failures 1 (lines.map mode.outcome), '\n' ∉ failure.2.toList := by
  intro failure member
  obtain ⟨index, -, found⟩ := mem_failures_iff.mp member
  obtain ⟨line, -, failed⟩ := List.mem_map.mp (List.mem_of_getElem? found)
  obtain ⟨error, extracted, message⟩ := Mode.outcome_eq_error_iff.mp failed
  rw [← message]
  exact Mode.not_mem_message extracted

theorem outcomesIn_extractLines (mode : Mode) {lines : List String}
    (plain : ∀ line ∈ lines, '\n' ∉ line.toList) :
    outcomesIn (extractLines mode lines fun _ => none).1.out
      (extractLines mode lines fun _ => none).1.err = lines.map mode.outcome := by
  obtain ⟨out, err⟩ := extractLines_accepted mode lines
  rw [out, err, outcomesIn, namesIn_stream (not_mem_of_mem_names plain),
    failuresIn_stream (not_mem_of_mem_failures mode lines), merge_outcomes]

theorem mem_rows_iff (mode : Mode) (lines : List String) (row : ℕ) :
    row ∈ (failures 1 (lines.map mode.outcome)).map Prod.fst ↔
      ∃ (index : ℕ) (line : String) (error : ParseError),
        row = index + 1 ∧ lines[index]? = some line ∧ mode.extract line = .error error := by
  rw [List.mem_map]
  constructor
  · rintro ⟨failure, member, rfl⟩
    obtain ⟨index, place, found⟩ := mem_failures_iff.mp member
    rw [List.getElem?_map, Option.map_eq_some_iff] at found
    obtain ⟨line, found, failed⟩ := found
    obtain ⟨error, extracted, -⟩ := Mode.outcome_eq_error_iff.mp failed
    exact ⟨index, line, error, by omega, found, extracted⟩
  · rintro ⟨index, line, error, rfl, found, extracted⟩
    refine ⟨(index + 1, error.message), mem_failures_iff.mpr ⟨index, Nat.add_comm _ _, ?_⟩, rfl⟩
    rw [List.getElem?_map, found, Option.map_some, Option.some_inj]
    exact Mode.outcome_eq_error_iff.mpr ⟨error, extracted, rfl⟩

theorem sameOutcome_of_map_eq {mode : Mode} {lines others : List String}
    (same : others.map mode.outcome = lines.map mode.outcome) {index : ℕ} {line other : String}
    (found : lines[index]? = some line) (found' : others[index]? = some other) :
    mode.SameOutcome line other := by
  have equal := congrArg (·[index]?) same
  simp only [List.getElem?_map, found, found', Option.map_some, Option.some_inj] at equal
  exact Mode.sameOutcome_iff.mpr equal.symm

/-- The rows of the failures on a stream. -/
def rowsIn (err : String) : List ℕ := (failuresIn err).map Prod.fst

/-- Where both streams accept what is written, the names stand between the line feeds of the one, and
the rows on the other are those of the lines that failed, in order. Another run that leaves the same
streams had as many lines, and the same outcome in each row. -/
theorem streams_determine_outcomes (mode : Mode) (lines : List String)
    (plain : ∀ line ∈ lines, '\n' ∉ line.toList) :
    let report := (extractLines mode lines fun _ => none).1
    report.out.toList.splitOn '\n' =
      (lines.filterMap fun line => (mode.extract line).toOption).map String.toList ++ [[]] ∧
    (rowsIn report.err).Pairwise (· < ·) ∧
    (∀ row, row ∈ rowsIn report.err ↔ ∃ (index : ℕ) (line : String) (error : ParseError),
      row = index + 1 ∧ lines[index]? = some line ∧ mode.extract line = .error error) ∧
    ∀ others : List String, (∀ line ∈ others, '\n' ∉ line.toList) →
      (extractLines mode others fun _ => none).1.out = report.out →
      (extractLines mode others fun _ => none).1.err = report.err →
      others.length = lines.length ∧
        ∀ (index : ℕ) (line other : String), lines[index]? = some line →
          others[index]? = some other → mode.SameOutcome line other := by
  intro report
  obtain ⟨out, err⟩ := extractLines_accepted mode lines
  have rows : rowsIn report.err = (failures 1 (lines.map mode.outcome)).map Prod.fst := by
    rw [rowsIn, err, failuresIn_stream (not_mem_of_mem_failures mode lines)]
  refine ⟨?_, ?_, ?_, ?_⟩
  · rw [out, splitOn_stream (not_mem_of_mem_names plain), names_outcomes]
  · rw [rows, List.pairwise_map]
    exact pairwise_failures 1 _
  · intro row
    rw [rows]
    exact mem_rows_iff mode lines row
  · intro others plain' sameOut sameErr
    have same : others.map mode.outcome = lines.map mode.outcome := by
      rw [← outcomesIn_extractLines mode plain', sameOut, sameErr, outcomesIn_extractLines mode plain]
    refine ⟨?_, fun index line other found found' => sameOutcome_of_map_eq same found found'⟩
    rw [← List.length_map (f := mode.outcome), same, List.length_map]

/-- Other lines with the same streams: two names, and a failure in the row between them. -/
theorem streams_determine_three_lines :
    let lines := ["let x: Int", "class B", "enum A"]
    let others := ["weak var x", "func", "enum\tA"]
    (extractLines .declaredNames others fun _ => none).1 =
      (extractLines .declaredNames lines fun _ => none).1 ∧
    others.length = lines.length ∧
      ∀ (index : ℕ) (line other : String), lines[index]? = some line →
        others[index]? = some other → Mode.declaredNames.SameOutcome line other := by
  intro lines others
  have same : (extractLines .declaredNames others fun _ => none).1 =
      (extractLines .declaredNames lines fun _ => none).1 := by
    decide +kernel
  obtain ⟨-, -, -, determined⟩ :=
    streams_determine_outcomes .declaredNames lines (by decide)
  exact ⟨same, determined others (by decide) (congrArg Report.out same) (congrArg Report.err same)⟩

end Extraction

end DeclScan
