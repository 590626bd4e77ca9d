import DeclScan.Literal.Basic

/-!
Searching a text for a literal in time that does not grow with the product of their lengths.

A window as long as the literal moves over the text. Its fingerprint, a polynomial in the characters
modulo `2 ^ 64`, is carried along: what leaves in front is subtracted, what enters behind is added.
Equal words have equal fingerprints, so the window is compared with the literal only where the
fingerprints agree.
-/

namespace DeclScan.Literal

/-- The base of fingerprints. -/
def multiplier : UInt64 := 1099511628211

/-- What a character adds to a fingerprint. -/
def code (caseSensitive : Bool) (c : Char) : UInt64 := (fold caseSensitive c).val.toUInt64

/-- The fingerprint of a word with one more character behind. -/
def extend (caseSensitive : Bool) (print : UInt64) (c : Char) : UInt64 :=
  print * multiplier + code caseSensitive c

/-- The fingerprint of a word. -/
def fingerprint (caseSensitive : Bool) (word : List Char) : UInt64 :=
  word.foldl (extend caseSensitive) 0

/-- The factor that `word` puts on what comes before it. -/
def weight (word : List Char) : UInt64 :=
  word.foldl (fun factor _ => factor * multiplier) 1

/-- Moves a window with the fingerprint `print` and the text `ahead` of it. The fingerprint of the
literal is `target`, and `factor` is the weight of a window without its first character. -/
def searchFrom (caseSensitive : Bool) (literal : List Char) (target factor : UInt64) :
    (window ahead : List Char) → UInt64 → List Char → List Char
  | window, [], print, passed =>
    if print == target && matchesAt caseSensitive literal window then passed.reverse
    else passed.reverse ++ window
  | [], _ :: _, _, passed => passed.reverse
  | leaving :: window, entering :: ahead, print, passed =>
    if print == target && matchesAt caseSensitive literal (leaving :: window) then passed.reverse
    else
      searchFrom caseSensitive literal target factor window ahead
        (extend caseSensitive (print - code caseSensitive leaving * factor) entering)
        (leaving :: passed)

/-- The part of `text` before the first place where `literal` matches, or all of it. -/
def search (caseSensitive : Bool) (literal text : List Char) : List Char :=
  searchFrom caseSensitive literal (fingerprint caseSensitive literal) (weight literal.tail)
    text (text.drop literal.length) (fingerprint caseSensitive (text.take literal.length)) []

theorem foldl_weight (word : List Char) (factor : UInt64) :
    word.foldl (fun factor _ => factor * multiplier) factor = factor * weight word := by
  induction word generalizing factor with
  | nil => simp [weight]
  | cons c rest ih =>
    rw [weight, List.foldl_cons, List.foldl_cons, ih, ih (1 * multiplier)]
    grind

theorem weight_cons (c : Char) (word : List Char) :
    weight (c :: word) = multiplier * weight word := by
  rw [weight, List.foldl_cons, foldl_weight]
  grind

theorem weight_congr {left right : List Char} (same : left.length = right.length) :
    weight left = weight right := by
  induction left generalizing right with
  | nil =>
    cases right with
    | nil => rfl
    | cons d right => simp at same
  | cons c left ih =>
    cases right with
    | nil => simp at same
    | cons d right => rw [weight_cons, weight_cons, ih (by simpa using same)]

theorem foldl_extend (caseSensitive : Bool) (word : List Char) (print : UInt64) :
    word.foldl (extend caseSensitive) print =
      print * weight word + fingerprint caseSensitive word := by
  induction word generalizing print with
  | nil => simp [fingerprint, weight]
  | cons c rest ih =>
    rw [fingerprint, List.foldl_cons, List.foldl_cons, ih, ih (extend caseSensitive 0 c),
      weight_cons]
    simp only [extend]
    grind

theorem fingerprint_cons (caseSensitive : Bool) (c : Char) (word : List Char) :
    fingerprint caseSensitive (c :: word) =
      code caseSensitive c * weight word + fingerprint caseSensitive word := by
  rw [fingerprint, List.foldl_cons, foldl_extend]
  simp [extend]

theorem fingerprint_concat (caseSensitive : Bool) (word : List Char) (c : Char) :
    fingerprint caseSensitive (word ++ [c]) =
      extend caseSensitive (fingerprint caseSensitive word) c := by
  simp [fingerprint]

/-- Words that count as the same have the same fingerprint. -/
theorem fingerprint_congr {caseSensitive : Bool} {left right : List Char}
    (same : left.map (fold caseSensitive) = right.map (fold caseSensitive)) :
    fingerprint caseSensitive left = fingerprint caseSensitive right := by
  have through : ∀ word, fingerprint caseSensitive word =
      (word.map (fold caseSensitive)).foldl
        (fun print c => print * multiplier + c.val.toUInt64) 0 := by
    intro word
    rw [fingerprint, List.foldl_map]
    rfl
  rw [through, through, same]

theorem fingerprint_of_matchesAt {caseSensitive : Bool} {literal text : List Char}
    (matching : matchesAt caseSensitive literal text = true) :
    fingerprint caseSensitive (text.take literal.length) = fingerprint caseSensitive literal := by
  have start := (matchesAt_iff caseSensitive literal text).mp matching
  apply fingerprint_congr
  rw [List.map_take, List.prefix_iff_eq_take.mp start, List.length_map]

/-- Moving a window by one character moves its fingerprint. -/
theorem fingerprint_move (caseSensitive : Bool) (leaving entering : Char)
    (shorter window ahead : List Char) (rest : window.drop shorter.length = entering :: ahead) :
    extend caseSensitive
        (fingerprint caseSensitive (leaving :: window.take shorter.length) -
          code caseSensitive leaving * weight shorter) entering =
      fingerprint caseSensitive (window.take (shorter.length + 1)) := by
  have enough : shorter.length < window.length := by
    have length := congrArg List.length rest
    simp only [List.length_drop, List.length_cons] at length
    omega
  have next : window[shorter.length]? = some entering := by
    rw [← List.head?_drop, rest]
    rfl
  have equal : weight shorter = weight (window.take shorter.length) := by
    apply weight_congr
    rw [List.length_take]
    omega
  rw [List.take_add_one, next, Option.toList_some, fingerprint_concat, fingerprint_cons, equal]
  congr 1
  grind

theorem searchFrom_eq (caseSensitive : Bool) (literal window ahead passed : List Char)
    (rest : window.drop literal.length = ahead) :
    searchFrom caseSensitive literal (fingerprint caseSensitive literal) (weight literal.tail)
        window ahead (fingerprint caseSensitive (window.take literal.length)) passed =
      before.go caseSensitive literal window passed := by
  induction ahead generalizing window passed with
  | nil =>
    have short : window.length ≤ literal.length := List.drop_eq_nil_iff.mp rest
    rw [searchFrom]
    by_cases matching : matchesAt caseSensitive literal window = true
    · rw [fingerprint_of_matchesAt matching, matching, if_pos (by simp)]
      cases window with
      | nil => rfl
      | cons c window => rw [before.go, if_pos matching]
    · rw [if_neg (by simp [matching])]
      cases window with
      | nil => simp [before.go]
      | cons c window =>
        rw [before.go, if_neg matching,
          before_go_of_short _ _ _ _ (by simp only [List.length_cons] at short; omega)]
        simp
  | cons entering ahead ih =>
    cases window with
    | nil => simp at rest
    | cons leaving window =>
      rw [searchFrom, before.go]
      by_cases matching : matchesAt caseSensitive literal (leaving :: window) = true
      · rw [fingerprint_of_matchesAt matching, matching, if_pos (by simp), if_pos rfl]
      · rw [if_neg (by simp [matching]), if_neg matching]
        cases literal with
        | nil => exact absurd rfl matching
        | cons c literal =>
          rw [List.length_cons, List.drop_succ_cons] at rest
          rw [List.length_cons, List.take_succ_cons, List.tail_cons,
            fingerprint_move caseSensitive leaving entering literal window ahead rest]
          apply ih
          rw [List.length_cons, ← List.drop_drop, rest]
          rfl

/-- The search finds the part before the first match. -/
theorem search_eq_before (caseSensitive : Bool) (literal text : List Char) :
    search caseSensitive literal text = before caseSensitive literal text :=
  searchFrom_eq caseSensitive literal text _ [] rfl

end DeclScan.Literal
