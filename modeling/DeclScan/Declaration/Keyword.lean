import DeclScan.Scanner

/-!
Words with a fixed spelling, and scanning for the first of several. A keyword need not end at a word
boundary.
-/

namespace DeclScan

/-- A kind of word with finitely many members. -/
class Keyword (κ : Type) where
  /-- The members, in the order in which they are tried. -/
  all : List κ
  spelling : κ → String

namespace Scanner

/-- Scans for the first of `words` that comes next. -/
def scanAny {κ : Type} [Keyword κ] (scanner : Scanner) : List κ → Option κ × Scanner
  | [] => (none, scanner)
  | word :: rest =>
    match scanner.scan (.literal (Keyword.spelling word).toList) with
    | (some _, next) => (some word, next)
    | (none, _) => scanner.scanAny rest

/-- Scans for a keyword of the kind `κ`. -/
def scanKeyword (scanner : Scanner) (κ : Type) [Keyword κ] : Option κ × Scanner :=
  scanner.scanAny Keyword.all

end Scanner

end DeclScan
