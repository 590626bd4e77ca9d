import DeclScan.Proofs.ExtractionReport
import DeclScan.Proofs.Utf8
import Mathlib.Data.List.Forall2

/-!
Lines on standard input.

## Main results

`Command.run_input_decodes`: reading standard input line by line accepts exactly the streams that are
UTF-8 as a whole, and the program leaves what extracting from the lines of the decoded text leaves. Of
all other streams nothing is printed but the error.

`Command.run_arguments_eq_run_input`: the program does the same with lines on its command line and
with lines on standard input, however these are ended there.

## Proof strategy

What it means to cut a stream into lines does not depend on whether it is made of bytes or of
characters (`Cut`), and a stream can be cut in one way only, the one in which it is read
(`byteLines_of_cut`). No byte of another character is that of LF or CR, so encoding a text carries its
lines over to the bytes (`Cut.bytes`); and lines that can be decoded one by one make up a stream that
can be (`Cut.exists_text`).
-/

namespace DeclScan

namespace Input

/-! ### Cutting a stream into lines -/

section

variable {α : Type} {feed ret : α}

/-- `stream` is cut into `lines`. Each of them ends in front of a `feed`, or in front of a `ret` with a
`feed` right behind it; what comes behind the last `feed` is a line too, if there is anything. -/
inductive Cut (feed ret : α) : (stream : List α) → (lines : List (List α)) → Prop where
  | nothing : Cut feed ret [] []
  | unended {line : List α} (nonempty : line ≠ []) (plain : feed ∉ line) : Cut feed ret line [line]
  | fed {line rest : List α} {lines : List (List α)} (plain : feed ∉ line)
      (whole : line.getLast? ≠ some ret) (more : Cut feed ret rest lines) :
      Cut feed ret (line ++ feed :: rest) (line :: lines)
  | returned {line rest : List α} {lines : List (List α)} (plain : feed ∉ line)
      (more : Cut feed ret rest lines) : Cut feed ret (line ++ ret :: feed :: rest) (line :: lines)

/-- The lines with `c` in front of the first of them. -/
def push (c : α) : List (List α) → List (List α)
  | [] => [[c]]
  | line :: lines => (c :: line) :: lines

/-- The lines of a stream: it is cut at each `feed`, and a `ret` right before one is dropped. What
comes behind the last `feed` is a line if it is not empty. -/
def linesOf [DecidableEq α] (feed ret : α) : List α → List (List α)
  | [] => []
  | c :: rest =>
    if c = feed then [] :: linesOf feed ret rest
    else if c = ret ∧ rest.head? = some feed then linesOf feed ret rest
    else push c (linesOf feed ret rest)

/-- A `ret` in front of a `feed` goes with the first line. -/
theorem Cut.cons_return {rest : List α} {lines : List (List α)} (apart : ret ≠ feed)
    (cut : Cut feed ret rest lines) (first : rest.head? = some feed) :
    Cut feed ret (ret :: rest) lines := by
  cases cut with
  | nothing => cases first
  | unended nonempty plain => exact absurd (List.mem_of_head? first) plain
  | @fed line rest lines plain whole more =>
    cases line with
    | nil => exact .returned plain more
    | cons d line => exact absurd (List.mem_of_head? first) (by simp_all)
  | @returned line rest lines plain more =>
    cases line with
    | nil => exact absurd (Option.some.inj first) apart
    | cons d line => exact absurd (List.mem_of_head? first) (by simp_all)

/-- Anything else goes in front of the first line. -/
theorem Cut.cons_plain {c : α} {rest : List α} {lines : List (List α)} (other : c ≠ feed)
    (cut : Cut feed ret rest lines) (kept : ¬(c = ret ∧ rest.head? = some feed)) :
    Cut feed ret (c :: rest) (push c lines) := by
  have plain' {line : List α} (plain : feed ∉ line) : feed ∉ c :: line := by
    simpa [Ne.symm other] using plain
  cases cut with
  | nothing => exact .unended (by simp) (plain' (by simp))
  | unended nonempty plain => exact .unended (by simp) (plain' plain)
  | @fed line rest lines plain whole more =>
    refine .fed (plain' plain) ?_ more
    cases line with
    | nil => simpa using kept
    | cons d line => simpa [List.getLast?_cons] using whole
  | returned plain more => exact .returned (plain' plain) more

theorem cut_linesOf [DecidableEq α] (feed ret : α) (stream : List α) :
    Cut feed ret stream (linesOf feed ret stream) := by
  induction stream with
  | nil => exact .nothing
  | cons c rest ih =>
    rw [linesOf]
    split
    next ends =>
      subst ends
      have nothing : c ∉ ([] : List α) := List.not_mem_nil
      exact .fed nothing nofun ih
    next other =>
      split
      next dropped =>
        obtain ⟨rfl, first⟩ := dropped
        exact ih.cons_return other first
      next kept => exact ih.cons_plain other kept

end

/-! ### The lines that are read -/

theorem finish_of_whole {line : List UInt8} (whole : line.getLast? ≠ some carriageReturn) :
    finish line.reverse = line := by
  rcases List.eq_nil_or_concat line with rfl | ⟨front, last, rfl⟩
  · rfl
  · have other : last ≠ carriageReturn := by simpa using whole
    simp [finish, other]

theorem split_append {line : List UInt8} (plain : lineFeed ∉ line) (rest current : List UInt8)
    (found : List (List UInt8)) :
    split (line ++ rest) current found = split rest (line.reverse ++ current) found := by
  induction line generalizing current with
  | nil => rfl
  | cons b line ih =>
    rw [List.mem_cons, not_or] at plain
    rw [List.cons_append, split, if_neg (Ne.symm plain.1), ih plain.2]
    simp

theorem split_of_cut {stream : List UInt8} {lines : List (List UInt8)}
    (cut : Cut lineFeed carriageReturn stream lines) (found : List (List UInt8)) :
    split stream [] found = found.reverse ++ lines := by
  induction cut generalizing found with
  | nothing => simp [split]
  | @unended line nonempty plain =>
    rw [← List.append_nil line, split_append plain, split]
    · simp
    · simpa using nonempty
  | fed plain whole more ih =>
    rw [split_append plain, split, if_pos rfl, List.append_nil, finish_of_whole whole, ih]
    simp
  | returned plain more ih =>
    have apart : carriageReturn ≠ lineFeed := by decide
    rw [split_append plain, split, if_neg apart, split, if_pos rfl, ih]
    simp [finish]

/-- Reading finds the lines of the stream, whichever way they are found. -/
theorem byteLines_of_cut {stream : List UInt8} {lines : List (List UInt8)}
    (cut : Cut lineFeed carriageReturn stream lines) : byteLines stream = lines :=
  split_of_cut cut []

/-! ### Lines of a text and of its bytes -/

theorem Cut.bytes {text : List Char} {lines : List (List Char)} (cut : Cut '\n' '\r' text lines) :
    Cut lineFeed carriageReturn (Text.bytes text) (lines.map Text.bytes) := by
  have plain' {line : List Char} (plain : '\n' ∉ line) : lineFeed ∉ Text.bytes line :=
    mt (Text.mem_of_byte_mem (c := '\n') (by decide)) plain
  induction cut with
  | nothing => exact .nothing
  | unended nonempty plain =>
    obtain ⟨b, rest, bytes, -⟩ := Text.exists_first_byte nonempty
    exact .unended (by simp [bytes]) (plain' plain)
  | fed plain whole more ih =>
    rw [Text.bytes_append]
    exact .fed (plain' plain) (mt (Text.getLast?_of_byte (c := '\r') (by decide)) whole) ih
  | returned plain more ih =>
    rw [Text.bytes_append]
    exact .returned (plain' plain) ih

/-- Lines that are texts make up a text. -/
theorem Cut.exists_text {stream : List UInt8} {lines : List (List UInt8)}
    (cut : Cut lineFeed carriageReturn stream lines)
    (encoded : ∀ line ∈ lines, ∃ text, line = Text.bytes text) :
    ∃ text, stream = Text.bytes text := by
  induction cut with
  | nothing => exact ⟨[], rfl⟩
  | unended nonempty plain => exact encoded _ List.mem_cons_self
  | fed plain whole more ih =>
    rw [List.forall_mem_cons] at encoded
    obtain ⟨⟨front, rfl⟩, others⟩ := encoded
    obtain ⟨back, rfl⟩ := ih others
    exact ⟨front ++ '\n' :: back, by rw [Text.bytes_append]; rfl⟩
  | returned plain more ih =>
    rw [List.forall_mem_cons] at encoded
    obtain ⟨⟨front, rfl⟩, others⟩ := encoded
    obtain ⟨back, rfl⟩ := ih others
    exact ⟨front ++ '\r' :: '\n' :: back, by rw [Text.bytes_append]; rfl⟩

theorem mapM_eq_some_iff {α β : Type} {f : α → Option β} {xs : List α} {ys : List β} :
    xs.mapM f = some ys ↔ List.Forall₂ (fun x y => f x = some y) xs ys := by
  induction xs generalizing ys with
  | nil => cases ys <;> simp
  | cons x xs ih =>
    rw [List.mapM_cons, List.forall₂_cons_left_iff]
    simp only [Option.bind_eq_bind, Option.bind_eq_some_iff, ih, Option.pure_def,
      Option.some.injEq]
    constructor
    · rintro ⟨y, first, more, others, rfl⟩
      exact ⟨y, more, first, others, rfl⟩
    · rintro ⟨y, more, first, others, rfl⟩
      exact ⟨y, first, more, others, rfl⟩

theorem lines?_eq_some_iff {stream : List UInt8} {lines : List String} :
    lines? stream = some lines ↔
      byteLines stream = lines.map fun line => Text.bytes line.toList := by
  rw [lines?, mapM_eq_some_iff, ← List.forall₂_eq_eq_eq, List.forall₂_map_right_iff]
  simp only [Text.fromUTF8?_eq_some_iff]

/-- The lines of a text. -/
def textLines (text : String) : List String := (linesOf '\n' '\r' text.toList).map String.ofList

theorem lines?_of_cut {text : List Char} {lines : List String}
    (cut : Cut '\n' '\r' text (lines.map String.toList)) :
    lines? (Text.bytes text) = some lines := by
  rw [lines?_eq_some_iff, byteLines_of_cut cut.bytes, List.map_map]
  rfl

theorem lines?_bytes (text : String) :
    lines? (Text.bytes text.toList) = some (textLines text) := by
  apply lines?_of_cut
  have same : (textLines text).map String.toList = linesOf '\n' '\r' text.toList := by
    simp [textLines]
  rw [same]
  exact cut_linesOf '\n' '\r' text.toList

/-- Lines can be decoded one by one only if the whole stream can be. -/
theorem exists_text_of_lines? {stream : List UInt8} {lines : List String}
    (decoded : lines? stream = some lines) : ∃ text : String, stream = Text.bytes text.toList := by
  have cut : Cut lineFeed carriageReturn stream (byteLines stream) := by
    have found := cut_linesOf lineFeed carriageReturn stream
    rwa [byteLines_of_cut found]
  rw [lines?_eq_some_iff.mp decoded] at cut
  obtain ⟨text, whole⟩ := cut.exists_text (by simp)
  exact ⟨String.ofList text, by rwa [String.toList_ofList]⟩

theorem lines?_eq (stream : List UInt8) :
    lines? stream = (String.fromUTF8? stream.toByteArray).map textLines := by
  cases whole : String.fromUTF8? stream.toByteArray with
  | some text =>
    rw [Text.fromUTF8?_eq_some_iff.mp whole]
    exact lines?_bytes text
  | none =>
    rw [Option.map_none, Option.eq_none_iff_forall_ne_some]
    intro lines decoded
    obtain ⟨text, same⟩ := exists_text_of_lines? decoded
    cases whole.symm.trans (Text.fromUTF8?_eq_some_iff.mpr same)

/-! ### Writing lines -/

/-- `text` is `lines` one behind the other, each ended by LF or by CR LF. The last of them needs no end
if it is not empty. -/
inductive Written : (lines : List String) → (text : List Char) → Prop where
  | nothing : Written [] []
  | unended {line : String} (nonempty : line ≠ "") : Written [line] line.toList
  | fed (line : String) {lines : List String} {text : List Char} (more : Written lines text) :
      Written (line :: lines) (line.toList ++ '\n' :: text)
  | returned (line : String) {lines : List String} {text : List Char} (more : Written lines text) :
      Written (line :: lines) (line.toList ++ '\r' :: '\n' :: text)

/-- Lines that have no LF and do not end in CR can be found again, however they are ended. -/
theorem Written.cut {lines : List String} {text : List Char} (written : Written lines text)
    (plain : ∀ line ∈ lines, '\n' ∉ line.toList ∧ line.toList.getLast? ≠ some '\r') :
    Cut '\n' '\r' text (lines.map String.toList) := by
  induction written with
  | nothing => exact .nothing
  | @unended line nonempty =>
    have solid : line.toList ≠ [] := mt String.toList_eq_nil_iff.mp nonempty
    exact .unended solid (plain line List.mem_cons_self).1
  | fed line more ih =>
    rw [List.forall_mem_cons] at plain
    exact .fed plain.1.1 plain.1.2 (ih plain.2)
  | returned line more ih =>
    rw [List.forall_mem_cons] at plain
    exact .returned plain.1.1 (ih plain.2)

end Input

/-! ### The program -/

namespace Command

theorem runWith_unreadable (mode : Mode) {input : List UInt8} (unreadable : Input.lines? input = none)
    (stdoutFault stderrFault : Option WriteFault) :
    runWith [mode.command] input stdoutFault stderrFault =
      conclude 1 "" "" readError stderrFault := by
  rw [runWith, (command_known mode).1, (command_known mode).2]
  simp [unreadable]

/-- Reading line by line accepts the streams that are UTF-8 as a whole, with the same lines. On such a
stream the program leaves what extracting from these lines leaves; on any other it prints nothing but
the error, whatever lines come before the first bad byte. -/
theorem run_input_decodes (mode : Mode) (input : List UInt8)
    (stdoutFault stderrFault : Option WriteFault) :
    let outcome := runWith [mode.command] input stdoutFault stderrFault
    Input.lines? input = (String.fromUTF8? input.toByteArray).map Input.textLines ∧
    (∀ text : String, input = Text.bytes text.toList →
      Reflects (extractLines mode (Input.textLines text) (streamFault stdoutFault stderrFault))
        stderrFault outcome) ∧
    ((∀ text : String, input ≠ Text.bytes text.toList) →
      outcome.stdout = "" ∧
        (stderrFault = none → outcome.code = 1 ∧ outcome.stderr =
          "error: failed to read stdin: stream did not contain valid UTF-8\n")) := by
  refine ⟨Input.lines?_eq input, ?_, ?_⟩
  · rintro text rfl
    have read : lines? [] (Text.bytes text.toList) = some (Input.textLines text) :=
      Input.lines?_bytes text
    exact runWith_reflects mode read stdoutFault stderrFault
  · intro undecodable
    have unreadable : Input.lines? input = none := by
      rw [Option.eq_none_iff_forall_ne_some]
      intro lines decoded
      obtain ⟨text, same⟩ := Input.exists_text_of_lines? decoded
      exact undecodable text same
    rw [runWith_unreadable mode unreadable]
    cases stderrFault <;> simp [conclude, readError]

-- the second line ends inside a character
example : (run ["var"] [0x6c, 0x65, 0x74, 0x61, 0x0a, 0xc3, 0x0a] none).stdout = "" := by
  decide +kernel

/-- The program does the same with lines on its command line and with these lines on standard input,
each ended by LF or CR LF there, but for the last one if it is not empty. -/
theorem run_arguments_eq_run_input (mode : Mode) (lines : List String) (text : List Char)
    (nonempty : lines ≠ [])
    (plain : ∀ line ∈ lines, '\n' ∉ line.toList ∧ line.toList.getLast? ≠ some '\r')
    (written : Input.Written lines text) (input : List UInt8)
    (stdoutFault stderrFault : Option WriteFault) :
    runWith (mode.command :: lines) input stdoutFault stderrFault =
      runWith [mode.command] (Text.bytes text) stdoutFault stderrFault := by
  have given : lines? lines input = some lines := by simp [lines?, nonempty]
  have read : lines? [] (Text.bytes text) = some lines := Input.lines?_of_cut (written.cut plain)
  rw [runWith_eq_extract mode given, runWith_eq_extract mode read]

/-- Three lines with three kinds of end, the last of them with a CR inside. -/
theorem run_three_lines :
    Input.Written ["enum A", "", "let\rb"] "enum A\r\n\nlet\rb".toList ∧
      run ["decl", "enum A", "", "let\rb"] [] none =
        run ["decl"] (Text.bytes "enum A\r\n\nlet\rb".toList) none := by
  have written : Input.Written ["enum A", "", "let\rb"] "enum A\r\n\nlet\rb".toList :=
    .returned "enum A" (.fed "" (.unended (by decide)))
  exact ⟨written, run_arguments_eq_run_input .declaredNames _ _ (by decide) (by decide) written []
    none none⟩

end Command

end DeclScan
