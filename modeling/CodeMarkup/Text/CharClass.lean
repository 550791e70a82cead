import CodeMarkup.Text.CodePoint
/-!
Classes of characters, given by ascending ranges of code points: white space, every character that stands
for a digit (superscripts and circled digits too), and the decimal digits, which can be read as numbers to
base ten.
-/

namespace CodeMarkup.Text

/-- Whether `n` lies in one of the ranges, first and last code point included. The ranges ascend,
so the search ends at the first one that starts after `n`. -/
def inRanges : List (Nat × Nat) → Nat → Bool
  | [], _ => false
  | (first, last) :: rest, n => first ≤ n && (n ≤ last || inRanges rest n)

theorem inRanges_of_mem {ranges : List (Nat × Nat)} (h : ranges.Pairwise (·.1 ≤ ·.1)) {range : Nat × Nat}
    (hm : range ∈ ranges) {n : Nat} (hfirst : range.1 ≤ n) (hlast : n ≤ range.2) : inRanges ranges n = true := by
  induction ranges with
  | nil => cases hm
  | cons head rest ih =>
    obtain ⟨hhead, hrest⟩ := List.pairwise_cons.1 h
    rw [inRanges, Bool.and_eq_true, Bool.or_eq_true, decide_eq_true_eq, decide_eq_true_eq]
    rcases List.mem_cons.1 hm with rfl | hm
    · exact ⟨hfirst, .inl hlast⟩
    · exact ⟨Nat.le_trans (hhead range hm) hfirst, .inr (ih hrest hm)⟩

/-- Whether a character lies in one of the ranges. -/
def charIn (ranges : List (Nat × Nat)) (c : Char) : Bool := inRanges ranges c.toNat

/-! ## White space -/

/-- The code points of white space, with the four separators U+001C to U+001F. -/
def blankRanges : List (Nat × Nat) := [
  (0x9, 0xd), (0x1c, 0x20), (0x85, 0x85), (0xa0, 0xa0), (0x1680, 0x1680), (0x2000, 0x200a),
  (0x2028, 0x2029), (0x202f, 0x202f), (0x205f, 0x205f), (0x3000, 0x3000)]

/-- Whether a character is white space. -/
def isBlank (c : Char) : Bool := charIn blankRanges c

/-- A text without the white space at the start. -/
def stripStart (s : CodePoints) : CodePoints := s.dropWhile (·.has isBlank)

/-- A text without the white space at the end. -/
def stripEnd (s : CodePoints) : CodePoints := (s.reverse.dropWhile (·.has isBlank)).reverse

/-- A text without the white space at both ends. -/
def strip (s : CodePoints) : CodePoints := stripEnd (stripStart s)

/-- Whether a text has white space only. -/
def allBlank (s : CodePoints) : Bool := s.all (·.has isBlank)

/-! ## Digits -/

/-- The code points that stand for a digit. -/
def digitRanges : List (Nat × Nat) := [
  (0x30, 0x39), (0xb2, 0xb3), (0xb9, 0xb9), (0x660, 0x669), (0x6f0, 0x6f9), (0x7c0, 0x7c9),
  (0x966, 0x96f), (0x9e6, 0x9ef), (0xa66, 0xa6f), (0xae6, 0xaef), (0xb66, 0xb6f), (0xbe6, 0xbef),
  (0xc66, 0xc6f), (0xce6, 0xcef), (0xd66, 0xd6f), (0xde6, 0xdef), (0xe50, 0xe59), (0xed0, 0xed9),
  (0xf20, 0xf29), (0x1040, 0x1049), (0x1090, 0x1099), (0x1369, 0x1371), (0x17e0, 0x17e9),
  (0x1810, 0x1819), (0x1946, 0x194f), (0x19d0, 0x19da), (0x1a80, 0x1a89), (0x1a90, 0x1a99),
  (0x1b50, 0x1b59), (0x1bb0, 0x1bb9), (0x1c40, 0x1c49), (0x1c50, 0x1c59), (0x2070, 0x2070),
  (0x2074, 0x2079), (0x2080, 0x2089), (0x2460, 0x2468), (0x2474, 0x247c), (0x2488, 0x2490),
  (0x24ea, 0x24ea), (0x24f5, 0x24fd), (0x24ff, 0x24ff), (0x2776, 0x277e), (0x2780, 0x2788),
  (0x278a, 0x2792), (0xa620, 0xa629), (0xa8d0, 0xa8d9), (0xa900, 0xa909), (0xa9d0, 0xa9d9),
  (0xa9f0, 0xa9f9), (0xaa50, 0xaa59), (0xabf0, 0xabf9), (0xff10, 0xff19), (0x104a0, 0x104a9),
  (0x10a40, 0x10a43), (0x10d30, 0x10d39), (0x10e60, 0x10e68), (0x11052, 0x1105a),
  (0x11066, 0x1106f), (0x110f0, 0x110f9), (0x11136, 0x1113f), (0x111d0, 0x111d9),
  (0x112f0, 0x112f9), (0x11450, 0x11459), (0x114d0, 0x114d9), (0x11650, 0x11659),
  (0x116c0, 0x116c9), (0x11730, 0x11739), (0x118e0, 0x118e9), (0x11950, 0x11959),
  (0x11c50, 0x11c59), (0x11d50, 0x11d59), (0x11da0, 0x11da9), (0x16a60, 0x16a69),
  (0x16ac0, 0x16ac9), (0x16b50, 0x16b59), (0x1d7ce, 0x1d7ff), (0x1e140, 0x1e149),
  (0x1e2f0, 0x1e2f9), (0x1e950, 0x1e959), (0x1f100, 0x1f10a), (0x1fbf0, 0x1fbf9)]

/-- Whether a character stands for a digit, in whatever form. -/
def isDigit (c : Char) : Bool := charIn digitRanges c

/-- The code points of the decimal digits: each range starts at a zero and runs through whole
sets of ten. -/
def decimalRanges : List (Nat × Nat) := [
  (0x30, 0x39), (0x660, 0x669), (0x6f0, 0x6f9), (0x7c0, 0x7c9), (0x966, 0x96f), (0x9e6, 0x9ef),
  (0xa66, 0xa6f), (0xae6, 0xaef), (0xb66, 0xb6f), (0xbe6, 0xbef), (0xc66, 0xc6f), (0xce6, 0xcef),
  (0xd66, 0xd6f), (0xde6, 0xdef), (0xe50, 0xe59), (0xed0, 0xed9), (0xf20, 0xf29), (0x1040, 0x1049),
  (0x1090, 0x1099), (0x17e0, 0x17e9), (0x1810, 0x1819), (0x1946, 0x194f), (0x19d0, 0x19d9),
  (0x1a80, 0x1a89), (0x1a90, 0x1a99), (0x1b50, 0x1b59), (0x1bb0, 0x1bb9), (0x1c40, 0x1c49),
  (0x1c50, 0x1c59), (0xa620, 0xa629), (0xa8d0, 0xa8d9), (0xa900, 0xa909), (0xa9d0, 0xa9d9),
  (0xa9f0, 0xa9f9), (0xaa50, 0xaa59), (0xabf0, 0xabf9), (0xff10, 0xff19), (0x104a0, 0x104a9),
  (0x10d30, 0x10d39), (0x11066, 0x1106f), (0x110f0, 0x110f9), (0x11136, 0x1113f),
  (0x111d0, 0x111d9), (0x112f0, 0x112f9), (0x11450, 0x11459), (0x114d0, 0x114d9),
  (0x11650, 0x11659), (0x116c0, 0x116c9), (0x11730, 0x11739), (0x118e0, 0x118e9),
  (0x11950, 0x11959), (0x11c50, 0x11c59), (0x11d50, 0x11d59), (0x11da0, 0x11da9),
  (0x16a60, 0x16a69), (0x16ac0, 0x16ac9), (0x16b50, 0x16b59), (0x1d7ce, 0x1d7ff),
  (0x1e140, 0x1e149), (0x1e2f0, 0x1e2f9), (0x1e950, 0x1e959), (0x1fbf0, 0x1fbf9)]

/-- The value of a decimal digit of any script. -/
def decimalValue? (c : Char) : Option Nat :=
  (decimalRanges.find? fun range => range.1 ≤ c.toNat && c.toNat ≤ range.2).map fun range =>
    (c.toNat - range.1) % 10

/-- Decimal digits stand for a digit. -/
theorem isDigit_of_decimalValue? {c : Char} {value : Nat} (h : decimalValue? c = some value) :
    isDigit c = true := by
  have hsorted : digitRanges.Pairwise (·.1 ≤ ·.1) := by decide +kernel
  have hwithin : ∀ range ∈ decimalRanges, ∃ wide ∈ digitRanges, wide.1 ≤ range.1 ∧ range.2 ≤ wide.2 := by
    decide +kernel
  obtain ⟨range, hrange, -⟩ := Option.map_eq_some_iff.1 h
  have hbounds := List.find?_some hrange
  simp only [Bool.and_eq_true, decide_eq_true_eq] at hbounds
  obtain ⟨wide, hwide, hfirst, hlast⟩ := hwithin range (List.mem_of_find?_eq_some hrange)
  exact inRanges_of_mem hsorted hwide (Nat.le_trans hfirst hbounds.1) (Nat.le_trans hbounds.2 hlast)

/-- The longest run of digits that is read or written as a whole number. -/
def digitLimit : Nat := 4300

/-- The number that decimal digits write, most significant first. -/
def ofDecimals (digits : List Nat) : Nat := digits.foldl (fun n digit => 10 * n + digit) 0

end CodeMarkup.Text
