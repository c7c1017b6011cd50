/-!
Classes of characters; the blanks, and texts without the blanks at their ends.

A class of characters is a sorted list of closed ranges of code points. A blank is a character of
the Unicode property White_Space or one of the four information separators U+001C to U+001F.
-/

namespace AccessNotices.Text

/-- Is the code point `n` inside one of the ranges? The ranges are sorted from low to high, so the
search stops at the first one that starts above `n`. -/
def inRanges : List (Nat × Nat) → Nat → Bool
  | [], _ => false
  | (lo, hi) :: rest, n => if n < lo then false else if n ≤ hi then true else inRanges rest n

/-- A code point that is found lies in one of the ranges. -/
theorem mem_of_inRanges {ranges : List (Nat × Nat)} {n : Nat} (found : inRanges ranges n = true) :
    ∃ r ∈ ranges, r.1 ≤ n ∧ n ≤ r.2 := by
  induction ranges with
  | nil => cases found
  | cons r rest ih =>
    obtain ⟨lo, hi⟩ := r
    rw [inRanges] at found
    split at found
    · cases found
    · rename_i above
      split at found
      · rename_i below
        exact ⟨(lo, hi), List.mem_cons_self, Nat.le_of_not_lt above, below⟩
      · obtain ⟨r, mem, inside⟩ := ih found
        exact ⟨r, List.mem_cons_of_mem _ mem, inside⟩

def blankRanges : List (Nat × Nat) :=
  [(0x09, 0x0D), (0x1C, 0x20), (0x85, 0x85), (0xA0, 0xA0), (0x1680, 0x1680), (0x2000, 0x200A),
   (0x2028, 0x2029), (0x202F, 0x202F), (0x205F, 0x205F), (0x3000, 0x3000)]

def isBlank (c : Char) : Bool :=
  inRanges blankRanges c.toNat

theorem toNat_le_of_isBlank {c : Char} (blank : isBlank c = true) : c.toNat ≤ 0x3000 := by
  obtain ⟨r, mem, -, below⟩ := mem_of_inRanges blank
  have last : ∀ r ∈ blankRanges, r.2 ≤ 0x3000 := by decide
  exact Nat.le_trans below (last r mem)

/-- The blanks that may stand around the digits of a numeral: all but the information
separators. -/
def isNumeralBlank (c : Char) : Bool :=
  isBlank c && !(0x1C ≤ c.toNat && c.toNat ≤ 0x1F)

/-- The text without the characters of a class at its end. -/
def dropTrailing (p : Char → Bool) (s : List Char) : List Char :=
  (s.reverse.dropWhile p).reverse

/-- The text without the characters of a class at its two ends. -/
def trimBy (p : Char → Bool) (s : List Char) : List Char :=
  dropTrailing p (s.dropWhile p)

/-- The text without the blanks at its two ends. -/
def trim (s : List Char) : List Char :=
  trimBy isBlank s

def trimmed (s : String) : String :=
  String.ofList (trim s.toList)

/-- Has the text no character but blanks? -/
def isAllBlank (s : String) : Bool :=
  s.toList.all isBlank

end AccessNotices.Text
