import DeclScan.CharSet.Basic
import Mathlib.Data.Char
import Mathlib.Data.List.Destutter
import Mathlib.Data.List.Sort

/-!
Sets of characters in a sorted array.

A listed set is kept as an array of its members in order, each of them once, and a character is looked
up by halving the array. Both the array (`toList_ofList`) and the answer (`contains_eq`) are those of
the set. A search walks over the characters with their byte offsets and stops at the first that is a
member, or at the first that is none (`leadingLength_eq`, `firstMember_eq`).
-/

namespace DeclScan.Machine

open Text

/-! ### Listed characters -/

/-- The characters of a text in order, each of them once. -/
def inOrder (text : List Char) : List Char := text.mergeSort.destutter (· ≠ ·)

theorem inOrder_eq_dedup (text : List Char) : inOrder text = text.mergeSort.dedup :=
  List.sortedLE_mergeSort.pairwise.destutter_eq_dedup

@[simp] theorem mem_inOrder {c : Char} {text : List Char} : c ∈ inOrder text ↔ c ∈ text := by
  simp [inOrder_eq_dedup]

theorem pairwise_inOrder (text : List Char) : (inOrder text).Pairwise (· < ·) := by
  have sorted : text.mergeSort.Pairwise (· ≤ ·) := List.sortedLE_mergeSort.pairwise
  rw [inOrder_eq_dedup]
  -- a character that is not less than the one before is the same, and none comes twice
  refine ((sorted.sublist (List.dedup_sublist _)).and (List.nodup_dedup _)).imp ?_
  rintro a b ⟨le, ne⟩
  exact lt_of_le_of_ne le ne

theorem pairwise_toList (members : Std.ExtTreeSet Char) : members.toList.Pairwise (· < ·) := by
  refine members.ordered_toList.imp ?_
  intro a b before
  exact compareOfLessAndEq_eq_lt.mp before

/-- The array of a listed set holds the characters of its text in order, each of them once. -/
theorem toList_ofList (text : List Char) :
    (Std.ExtTreeSet.ofList text).toList = inOrder text := by
  apply (pairwise_toList _).eq_of_mem_iff (pairwise_inOrder text)
  simp [Std.ExtTreeSet.mem_ofList]

/-- Whether `c` stands in an array at `low` or behind, but before `high`. The middle of the span is
compared with `c`, and one half of it is left. -/
def among (members : Array Char) (c : Char) (low high : ℕ) (within : high ≤ members.size) : Bool :=
  if order : low < high then
    let middle := low + (high - low) / 2
    have inside : middle < members.size := by omega
    if members[middle] = c then true
    else if members[middle] < c then among members c (middle + 1) high within
    else among members c low middle inside.le
  else false
termination_by high - low

section

variable {members : Array Char} {c : Char} {low high : ℕ} {within : high ≤ members.size}

theorem mem_of_among (found : among members c low high within = true) : c ∈ members := by
  fun_induction among members c low high within with
  | case1 low high within order middle inside same => exact same ▸ Array.getElem_mem inside
  | case2 low high within order middle inside other less ih => exact ih found
  | case3 low high within order middle inside other less ih => exact ih found
  | case4 low high within empty => cases found

theorem among_of_getElem (sorted : members.toList.Pairwise (· < ·)) {place : ℕ}
    {inside : place < members.size} (same : members[place] = c) (front : low ≤ place)
    (back : place < high) : among members c low high within = true := by
  have ordered (i j : ℕ) {left : i < members.size} {right : j < members.size} (before : i < j) :
      members[i] < members[j] := by
    simpa using List.pairwise_iff_getElem.mp sorted i j left right before
  fun_induction among members c low high within with
  | case1 => rfl
  | case2 low high within order middle inside other less ih =>
    -- no member up to the middle one is as great as `c`
    apply ih _ back
    by_contra before
    rcases (by omega : place < middle ∨ place = middle) with before | rfl
    · exact absurd (ordered place middle before) (same ▸ less.not_gt)
    · exact other same
  | case3 low high within order middle inside other less ih =>
    -- and here no member from the middle one on is as small
    apply ih front
    by_contra behind
    rcases (by omega : middle < place ∨ place = middle) with behind | rfl
    · exact less (same ▸ ordered middle place behind)
    · exact other same
  | case4 low high within empty => omega

/-- Halving a sorted array finds exactly its members. -/
theorem among_iff (sorted : members.toList.Pairwise (· < ·)) :
    among members c 0 members.size le_rfl = true ↔ c ∈ members := by
  constructor
  · exact mem_of_among
  · intro member
    obtain ⟨place, inside, same⟩ := Array.mem_iff_getElem.mp member
    exact among_of_getElem sorted same (Nat.zero_le place) inside

end

/-- Membership, with listed characters in a sorted array. -/
def contains : CharSet → Char → Bool
  | .listed members, c => among members.toList.toArray c 0 members.toList.toArray.size le_rfl
  | .complement inner, c => !contains inner c
  | set, c => set.contains c

theorem contains_eq (set : CharSet) (c : Char) : contains set c = set.contains c := by
  induction set with
  | listed members =>
    have sorted : members.toList.toArray.toList.Pairwise (· < ·) := pairwise_toList members
    rw [contains, CharSet.contains, Bool.eq_iff_iff, among_iff sorted]
    simp
  | complement inner ih => simp [contains, CharSet.contains, ih]
  | _ => rfl

/-! ### Searches -/

/-- The characters of a text that starts at `offset`, each with its own byte offset. -/
def indices (offset : ℕ) : List Char → List (ℕ × Char)
  | [] => []
  | c :: rest => (offset, c) :: indices (offset + c.utf8Size) rest

/-- The byte offset of the first character at which a walk over a text stops, or the length of the
text. -/
def firstOffset (stops : Char → Bool) (text : List Char) : ℕ :=
  ((indices 0 text).find? fun entry => stops entry.2).elim (byteLength text) Prod.fst

/-- The number of bytes in front of the first character that is no member. -/
def leadingLength (set : CharSet) (text : List Char) : ℕ :=
  firstOffset (fun c => !contains set c) text

/-- The number of bytes in front of the first member. -/
def firstMember (set : CharSet) (text : List Char) : ℕ :=
  firstOffset (fun c => contains set c) text

theorem find?_indices (stops : Char → Bool) (offset : ℕ) (text : List Char) :
    ((indices offset text).find? fun entry => stops entry.2).elim
        (offset + byteLength text) Prod.fst =
      offset + byteLength (text.takeWhile fun c => !stops c) := by
  induction text generalizing offset with
  | nil => rfl
  | cons c rest ih =>
    rw [indices, List.find?_cons, List.takeWhile_cons]
    cases stop : stops c with
    | true => simp
    | false =>
      have further := ih (offset + c.utf8Size)
      simp only [Nat.add_assoc] at further
      simpa [stop] using further

theorem firstOffset_eq (stops : Char → Bool) (text : List Char) :
    firstOffset stops text = byteLength (text.takeWhile fun c => !stops c) := by
  simpa [firstOffset] using find?_indices stops 0 text

theorem leadingLength_eq (set : CharSet) (text : List Char) :
    leadingLength set text = set.leadingLength text := by
  simp [leadingLength, firstOffset_eq, contains_eq, CharSet.leadingLength, CharSet.leading]

theorem firstMember_eq (set : CharSet) (text : List Char) :
    firstMember set text = set.firstMember text := by
  simp [firstMember, firstOffset_eq, contains_eq, CharSet.firstMember, CharSet.before]

end DeclScan.Machine
