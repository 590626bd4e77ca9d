/-!
A literal in a text, matched exactly or without regard to the case of ASCII letters.
-/

namespace DeclScan.Literal

/-- What of a character counts in a match. -/
def fold (caseSensitive : Bool) (c : Char) : Char := if caseSensitive then c else c.toLower

/-- Whether two characters count as the same. -/
def sameChar (caseSensitive : Bool) (a b : Char) : Bool :=
  fold caseSensitive a == fold caseSensitive b

/-- Whether `text` starts with `literal`. -/
def matchesAt (caseSensitive : Bool) : (literal text : List Char) → Bool
  | [], _ => true
  | _ :: _, [] => false
  | a :: literal, b :: text => sameChar caseSensitive a b && matchesAt caseSensitive literal text

/-- The part of `text` before the first place where `literal` matches, or all of it. -/
def before (caseSensitive : Bool) (literal text : List Char) : List Char :=
  go text []
where
  go : List Char → List Char → List Char
    | [], passed => passed.reverse
    | c :: rest, passed =>
      if matchesAt caseSensitive literal (c :: rest) then passed.reverse else go rest (c :: passed)

theorem matchesAt_iff (caseSensitive : Bool) (literal text : List Char) :
    matchesAt caseSensitive literal text = true ↔
      literal.map (fold caseSensitive) <+: text.map (fold caseSensitive) := by
  induction literal generalizing text with
  | nil => simp [matchesAt]
  | cons a literal ih =>
    cases text with
    | nil => simp [matchesAt]
    | cons b text => simp [matchesAt, sameChar, ih, List.cons_prefix_cons]

/-- A literal matches only where the text is long enough. -/
theorem length_le_of_matchesAt {caseSensitive : Bool} {literal text : List Char}
    (matching : matchesAt caseSensitive literal text = true) : literal.length ≤ text.length := by
  have length := ((matchesAt_iff caseSensitive literal text).mp matching).length_le
  simpa using length

/-- A text that is too short for the literal is passed whole. -/
theorem before_go_of_short (caseSensitive : Bool) (literal text passed : List Char)
    (short : text.length < literal.length) :
    before.go caseSensitive literal text passed = passed.reverse ++ text := by
  induction text generalizing passed with
  | nil => simp [before.go]
  | cons c rest ih =>
    have missing : matchesAt caseSensitive literal (c :: rest) ≠ true := fun matching =>
      absurd (length_le_of_matchesAt matching) (by omega)
    rw [before.go, if_neg missing, ih _ (by simp only [List.length_cons] at short; omega)]
    simp

end DeclScan.Literal
