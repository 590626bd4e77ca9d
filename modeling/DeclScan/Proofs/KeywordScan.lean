import DeclScan.Declaration.Keyword
import DeclScan.Proofs.ScannerRun
import Mathlib.Data.List.Basic

/-!
What scanning for keywords takes off a line.

## Main result

`Scanner.At.scanKeyword`: scanning for a kind of keyword takes off the one that follows behind blanks
(`Takes`), and if none follows it takes off nothing, the blanks included.

## Proof strategy

A word never starts with a blank, so the blanks in front of it are all that a scan passes over
(`leading_append`). Then the word that follows is settled by the text (`Keyword.Distinct`), and the
order in which the words are tried does not matter.
-/

namespace DeclScan

/-! ### Blanks in front of a word -/

/-- Blanks and newlines only. -/
def IsBlanks (text : List Char) : Prop :=
  ∀ c ∈ text, CharSet.whitespaceAndNewlines.contains c = true

/-- Not empty, and no blank or newline in front. -/
def IsSolid (text : List Char) : Prop :=
  ∃ c ∈ text.head?, CharSet.whitespaceAndNewlines.contains c = false

theorem IsSolid.ne_nil {text : List Char} (solid : IsSolid text) : text ≠ [] := by
  rintro rfl
  obtain ⟨c, member, -⟩ := solid
  cases member

theorem IsSolid.append {text : List Char} (solid : IsSolid text) (rest : List Char) :
    IsSolid (text ++ rest) := by
  obtain ⟨c, member, other⟩ := solid
  exact ⟨c, List.mem_head?_append_of_mem_head? member, other⟩

theorem leading_append {blanks text : List Char} (blank : IsBlanks blanks)
    (front : text = [] ∨ IsSolid text) :
    CharSet.whitespaceAndNewlines.leading (blanks ++ text) = blanks := by
  rw [CharSet.leading, List.takeWhile_append_of_pos blank]
  rcases front with rfl | ⟨c, member, other⟩
  · simp
  · obtain ⟨rest, rfl⟩ := List.head?_eq_some_iff.mp member
    simp [other]

/-- Blanks are told apart from what comes behind them. -/
theorem append_inj_of_blanks {blanks blanks' text text' : List Char} (blank : IsBlanks blanks)
    (blank' : IsBlanks blanks') (solid : IsSolid text) (solid' : IsSolid text')
    (same : blanks ++ text = blanks' ++ text') : blanks = blanks' ∧ text = text' := by
  have equal : blanks = blanks' := by
    rw [← leading_append blank (.inr solid), same, leading_append blank' (.inr solid')]
  subst equal
  exact ⟨rfl, List.append_cancel_left same⟩

/-- Every text is blanks with nothing behind them or something solid. -/
theorem exists_blanks (text : List Char) :
    ∃ blanks rest, IsBlanks blanks ∧ (rest = [] ∨ IsSolid rest) ∧ text = blanks ++ rest := by
  induction text with
  | nil => exact ⟨[], [], nofun, .inl rfl, rfl⟩
  | cons c text ih =>
    cases blank : CharSet.whitespaceAndNewlines.contains c with
    | false => exact ⟨[], c :: text, nofun, .inr ⟨c, rfl, blank⟩, rfl⟩
    | true =>
      obtain ⟨blanks, rest, blanks', front, rfl⟩ := ih
      exact ⟨c :: blanks, rest, List.forall_mem_cons.mpr ⟨blank, blanks'⟩, front, rfl⟩

/-- Behind blanks, `text` goes on with `word` and then with `rest`. -/
def Follows (word text rest : List Char) : Prop :=
  ∃ blanks, IsBlanks blanks ∧ text = blanks ++ (word ++ rest)

theorem Follows.append_eq {word word' text rest rest' : List Char} (solid : IsSolid word)
    (solid' : IsSolid word') (first : Follows word text rest) (second : Follows word' text rest') :
    word ++ rest = word' ++ rest' := by
  obtain ⟨blanks, blank, rfl⟩ := first
  obtain ⟨blanks', blank', same⟩ := second
  exact (append_inj_of_blanks blank blank' (solid.append _) (solid'.append _) same).2

/-! ### Kinds of keywords -/

namespace Keyword

variable {κ : Type} [Keyword κ]

/-- The characters of a keyword. -/
def chars (word : κ) : List Char := (spelling word).toList

/-- The keywords of a kind can be told apart wherever they stand. -/
class Distinct (κ : Type) [Keyword κ] : Prop where
  mem_all (word : κ) : word ∈ Keyword.all
  solid (word : κ) : IsSolid (chars word)
  eq_of_prefix {word word' : κ} : chars word <+: chars word' → word = word'

theorem eq_of_follows [Distinct κ] {word word' : κ} {text rest rest' : List Char}
    (first : Follows (chars word) text rest) (second : Follows (chars word') text rest') :
    word = word' := by
  have same := Follows.append_eq (Distinct.solid word) (Distinct.solid word') first second
  have start : chars word <+: chars word' ++ rest' := ⟨rest, same⟩
  rcases List.prefix_or_prefix_of_prefix start (List.prefix_append _ _) with shorter | longer
  · exact Distinct.eq_of_prefix shorter
  · exact (Distinct.eq_of_prefix longer).symm

/-- A keyword, or nothing, in front of `rest`. -/
inductive Optionally : Option κ → (text rest : List Char) → Prop where
  | absent {text : List Char} : Optionally none text text
  | present {word : κ} {text rest : List Char} (follows : Follows (chars word) text rest) :
      Optionally (some word) text rest

/-- The keyword that follows in `text` is taken off it; if there is none, nothing is. -/
def Takes (found : Option κ) (text rest : List Char) : Prop :=
  Optionally found text rest ∧
    (found = none → ∀ (word : κ) (behind : List Char), ¬Follows (chars word) text behind)

theorem takes_of_follows {word : κ} {text rest : List Char}
    (follows : Follows (chars word) text rest) : Takes (some word) text rest :=
  ⟨.present follows, nofun⟩

/-- A keyword of one kind is not taken where one of another kind follows. -/
theorem takes_none {κ' : Type} [Distinct κ] [Keyword κ'] [Distinct κ']
    (apart : ∀ (word : κ) (word' : κ'), (chars word).head? ≠ (chars word').head?) {word : κ}
    {text rest : List Char} (follows : Follows (chars word) text rest) :
    Takes (none : Option κ') text text := by
  refine ⟨.absent, fun _ word' behind other => apart word word' ?_⟩
  have same := Follows.append_eq (Distinct.solid word) (Distinct.solid word') follows other
  have head := congrArg List.head? same
  rwa [List.head?_append_of_ne_nil _ (Distinct.solid word).ne_nil,
    List.head?_append_of_ne_nil _ (Distinct.solid word').ne_nil] at head

theorem exists_takes (κ : Type) [Keyword κ] (text : List Char) :
    ∃ (found : Option κ) (rest : List Char), Takes found text rest := by
  by_cases follows : ∃ (word : κ) (rest : List Char), Follows (chars word) text rest
  · obtain ⟨word, rest, follows⟩ := follows
    exact ⟨some word, rest, takes_of_follows follows⟩
  · refine ⟨none, text, .absent, fun _ word behind some => follows ⟨word, behind, some⟩⟩

end Keyword

/-! ### Scanning -/

namespace Literal

theorem matchesAt_exact (literal text : List Char) :
    matchesAt true literal text = true ↔ literal <+: text := by
  have same : fold true = id := rfl
  rw [matchesAt_iff, same, List.map_id, List.map_id]

theorem before_go_singleton (c : Char) (text passed : List Char) :
    before.go true [c] text passed = passed.reverse ++ text.takeWhile (· != c) := by
  induction text generalizing passed with
  | nil => simp [before.go]
  | cons d rest ih =>
    rw [before.go, List.takeWhile_cons]
    by_cases same : c = d
    · subst same
      simp [matchesAt, sameChar]
    · have other : matchesAt true [c] (d :: rest) = false := by
        simp [matchesAt, sameChar, fold, same]
      simp [other, ih, Ne.symm same]

theorem search_singleton (c : Char) (text : List Char) :
    search true [c] text = text.takeWhile (· != c) := by
  rw [search_eq_before]
  exact before_go_singleton c text []

end Literal

namespace Probe

theorem read?_literal {word rest : List Char} (solid : IsSolid word) :
    (literal word).read? true (word ++ rest) = some ⟨word, word.length⟩ := by
  have start := (Literal.matchesAt_exact word (word ++ rest)).mpr (List.prefix_append _ _)
  simp [read?, start, solid.ne_nil]

theorem read?_literal_of_not_prefix {word text : List Char} (other : ¬word <+: text) :
    (literal word).read? true text = none := by
  have start := (Literal.matchesAt_exact word text).not.mpr other
  simp [read?, start]

theorem read?_upTo {text : List Char} (solid : IsSolid text) (c : Char) :
    (upTo [c]).read? true text =
      some ⟨text.takeWhile (· != c), (text.takeWhile (· != c)).length⟩ := by
  simp [read?, Literal.search_singleton, solid.ne_nil]

end Probe

namespace Scanner

/-- `scanner` has the settings that it starts with, and stands in `line` in front of `rest`. -/
def At (scanner : Scanner) (line rest : List Char) : Prop :=
  ∃ front, line = front ++ rest ∧ scanner = { cursor := ⟨front.reverse, rest⟩ }

theorem at_ofText (line : List Char) : (ofText line).At line line := ⟨[], rfl, rfl⟩

namespace At

variable {scanner : Scanner} {line text rest : List Char}

theorem position_eq {front : List Char} (stands : scanner.At line rest)
    (whole : line = front ++ rest) : scanner.position = locate line (Text.byteLength front) := by
  obtain ⟨front', rfl, rfl⟩ := stands
  obtain rfl := List.append_cancel_right whole
  simp [Scanner.position, source, offset, Cursor.text, Cursor.offset]

theorem start_eq (front : List Char) {blanks : List Char} (blank : IsBlanks blanks)
    (ahead : text = [] ∨ IsSolid text) :
    start { cursor := ⟨front.reverse, blanks ++ text⟩ } = ⟨(front ++ blanks).reverse, text⟩ := by
  have skipped : skipped { cursor := ⟨front.reverse, blanks ++ text⟩ } = blanks :=
    leading_append blank ahead
  rw [start, skipped, Cursor.advance_eq]
  simp

/-- A scan that finds something passes over the blanks in front of it. -/
theorem scan_some {α : Type} {probe : Probe α} {reading : Reading α} {blanks : List Char}
    (stands : scanner.At line (blanks ++ text)) (blank : IsBlanks blanks)
    (ahead : text = [] ∨ IsSolid text) (found : probe.read? true text = some reading) :
    ∃ next, scanner.scan probe = (some reading.value, next) ∧
      next.At line (text.drop reading.width) := by
  obtain ⟨front, rfl, rfl⟩ := stands
  rw [scan, start_eq front blank ahead, found]
  refine ⟨_, rfl, front ++ blanks ++ text.take reading.width, by simp, ?_⟩
  simp [Cursor.advance_eq]

theorem scan_none {α : Type} {probe : Probe α} {blanks : List Char}
    (stands : scanner.At line (blanks ++ text)) (blank : IsBlanks blanks)
    (ahead : text = [] ∨ IsSolid text) (nothing : probe.read? true text = none) :
    scanner.scan probe = (none, scanner) := by
  obtain ⟨front, rfl, rfl⟩ := stands
  rw [scan, start_eq front blank ahead, nothing]

theorem scan_literal {word : List Char} (stands : scanner.At line text) (solid : IsSolid word)
    (follows : Follows word text rest) :
    ∃ next, scanner.scan (.literal word) = (some word, next) ∧ next.At line rest := by
  obtain ⟨blanks, blank, rfl⟩ := follows
  have found := stands.scan_some blank (.inr (solid.append rest)) (Probe.read?_literal solid)
  rwa [List.drop_left] at found

theorem scan_literal_none {word : List Char} (stands : scanner.At line text)
    (absent : ∀ rest, ¬Follows word text rest) :
    scanner.scan (.literal word) = (none, scanner) := by
  obtain ⟨blanks, ahead, blank, front, rfl⟩ := exists_blanks text
  apply stands.scan_none blank front
  apply Probe.read?_literal_of_not_prefix
  rintro ⟨rest, rfl⟩
  exact absent rest ⟨blanks, blank, rfl⟩

variable {κ : Type} [Keyword κ]

/-- Of words that can be told apart, the one that follows is found wherever it is tried. -/
theorem scanAny_some [Keyword.Distinct κ] {word : κ} (stands : scanner.At line text)
    (follows : Follows (Keyword.chars word) text rest) (words : List κ) (member : word ∈ words) :
    ∃ next, scanner.scanAny words = (some word, next) ∧ next.At line rest := by
  induction words with
  | nil => cases member
  | cons tried words ih =>
    rw [scanAny, ← Keyword.chars]
    by_cases same : tried = word
    · subst same
      obtain ⟨next, scanned, stands⟩ := stands.scan_literal (Keyword.Distinct.solid tried) follows
      rw [scanned]
      exact ⟨next, rfl, stands⟩
    · rw [stands.scan_literal_none fun rest other => same (Keyword.eq_of_follows other follows)]
      exact ih (List.mem_of_ne_of_mem (Ne.symm same) member)

theorem scanAny_none (stands : scanner.At line text) (words : List κ)
    (absent : ∀ word ∈ words, ∀ rest, ¬Follows (Keyword.chars word) text rest) :
    scanner.scanAny words = (none, scanner) := by
  induction words with
  | nil => rfl
  | cons tried words ih =>
    rw [List.forall_mem_cons] at absent
    rw [scanAny, ← Keyword.chars, stands.scan_literal_none absent.1]
    exact ih absent.2

/-- Scanning for a kind of keyword takes off the one that follows. -/
theorem scanKeyword [Keyword.Distinct κ] {found : Option κ} (stands : scanner.At line text)
    (takes : Keyword.Takes found text rest) :
    ∃ next, scanner.scanKeyword κ = (found, next) ∧ next.At line rest := by
  obtain ⟨optionally, absent⟩ := takes
  cases optionally with
  | absent =>
    exact ⟨scanner, stands.scanAny_none Keyword.all fun word _ => absent rfl word, stands⟩
  | present follows =>
    exact stands.scanAny_some follows Keyword.all (Keyword.Distinct.mem_all _)

/-- Scanning up to a character takes all before it, the blanks in front apart. -/
theorem scan_upTo {blanks body : List Char} (stands : scanner.At line (blanks ++ body))
    (blank : IsBlanks blanks) (solid : IsSolid body) (c : Char) :
    ∃ next, scanner.scan (.upTo [c]) = (some (body.takeWhile (· != c)), next) := by
  obtain ⟨next, scanned, -⟩ := stands.scan_some blank (.inr solid) (Probe.read?_upTo solid c)
  exact ⟨next, scanned⟩

theorem scan_upTo_none (stands : scanner.At line text) (blank : IsBlanks text) (c : Char) :
    scanner.scan (.upTo [c]) = (none, scanner) := by
  rw [← List.append_nil text] at stands
  exact stands.scan_none blank (.inl rfl) rfl

end At

end Scanner

end DeclScan
