import DeclScan.Cursor
import DeclScan.Position
import DeclScan.Probe

/-!
A scanner moves over a text from left to right. Each scan passes over the characters to be skipped
and asks a probe of what follows; if the probe finds nothing, the scanner stays as it was.
-/

namespace DeclScan

/-- A place in a text, the characters skipped before each probe, and whether literals must match
in letter case. -/
structure Scanner where
  cursor : Cursor
  skip : Option CharSet := some .whitespaceAndNewlines
  caseSensitive : Bool := true

namespace Scanner

/-- A scanner at the start of `text` that skips blanks and newlines and respects letter case. -/
def ofText (text : List Char) : Scanner where
  cursor := .ofText text

/-- The whole text. -/
def source (scanner : Scanner) : List Char := scanner.cursor.text

/-- The byte offset of the scanner in its text. -/
def offset (scanner : Scanner) : Nat := scanner.cursor.offset

/-- The text that is not yet read. -/
def remaining (scanner : Scanner) : List Char := scanner.cursor.after

/-- The characters that the next scan passes over. -/
def skipped (scanner : Scanner) : List Char :=
  match scanner.skip with
  | some set => set.leading scanner.remaining
  | none => []

/-- Whether nothing is left but characters to be skipped. -/
def isAtEnd (scanner : Scanner) : Bool :=
  match scanner.skip with
  | some set => scanner.remaining.all set.contains
  | none => scanner.remaining.isEmpty

/-- Row and column of the scanner. -/
def position (scanner : Scanner) : Position := locate scanner.source scanner.offset

/-- The place behind the characters to be skipped. -/
def start (scanner : Scanner) : Cursor := scanner.cursor.advance scanner.skipped.length

/-- Skips, asks `probe` of what follows, and moves behind what it read. -/
def scan {α : Type} (scanner : Scanner) (probe : Probe α) : Option α × Scanner :=
  match probe.read? scanner.caseSensitive scanner.start.after with
  | some reading =>
    (some reading.value, { scanner with cursor := scanner.start.advance reading.width })
  | none => (none, scanner)

@[simp] theorem source_scan {α : Type} (scanner : Scanner) (probe : Probe α) :
    (scanner.scan probe).2.source = scanner.source := by
  unfold scan
  split
  · simp [source, start]
  · rfl

/-- A scan that finds nothing leaves the scanner as it was. -/
theorem scan_snd_of_none {α : Type} (scanner : Scanner) (probe : Probe α)
    (nothing : (scanner.scan probe).1 = none) : (scanner.scan probe).2 = scanner := by
  unfold scan at nothing ⊢
  split at nothing
  next => cases nothing
  next => rfl

end Scanner

end DeclScan
