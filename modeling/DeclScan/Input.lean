/-!
Lines of text in a stream of bytes. A line ends at a line feed, and a carriage return right before
that is dropped with it. Bytes after the last line feed are a line too, if there are any.
-/

namespace DeclScan.Input

def lineFeed : UInt8 := 10

def carriageReturn : UInt8 := 13

/-- A finished line, given latest byte first. -/
def finish : List UInt8 → List UInt8
  | [] => []
  | last :: rest => if last = carriageReturn then rest.reverse else (last :: rest).reverse

/-- Reads on from the middle of a line: `current` holds its bytes so far and `found` the lines
before it, both latest first. -/
def split : List UInt8 → List UInt8 → List (List UInt8) → List (List UInt8)
  | [], [], found => found.reverse
  | [], current, found => (current.reverse :: found).reverse
  | byte :: rest, current, found =>
    if byte = lineFeed then split rest [] (finish current :: found)
    else split rest (byte :: current) found

/-- The lines of a stream, as bytes. -/
def byteLines (bytes : List UInt8) : List (List UInt8) := split bytes [] []

/-- The lines of a stream; none when one of them is not UTF-8. -/
def lines? (bytes : List UInt8) : Option (List String) :=
  (byteLines bytes).mapM fun line => String.fromUTF8? line.toByteArray

end DeclScan.Input
