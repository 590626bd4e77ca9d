/-!
What reading the front of a text yields.
-/

namespace DeclScan

/-- A value read from the front of a text, and how many characters it took. -/
structure Reading (α : Type) where
  value : α
  width : Nat
deriving DecidableEq

/-- The number of characters of the sign in front of `text`. -/
def signWidth : List Char → Nat
  | '+' :: _ => 1
  | '-' :: _ => 1
  | _ => 0

/-- Whether a minus sign stands in front of `text`. -/
def startsNegative : List Char → Bool
  | '-' :: _ => true
  | _ => false

end DeclScan
