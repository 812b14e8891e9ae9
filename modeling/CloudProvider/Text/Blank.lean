/-!
# Blank text

A character is *blank* when it has the Unicode property `White_Space`, and a text
is blank when all its characters are. Settings treat a blank text like a missing
one.

* `isBlankText_iff`: a text is not blank when one of its characters is not.
-/

namespace CloudProvider.Text

/-- The ranges of characters with the property `White_Space`, ends included. -/
def blankRanges : List (Nat × Nat) :=
  [(0x09, 0x0d), (0x20, 0x20), (0x85, 0x85), (0xa0, 0xa0), (0x1680, 0x1680), (0x2000, 0x200a),
    (0x2028, 0x2029), (0x202f, 0x202f), (0x205f, 0x205f), (0x3000, 0x3000)]

/-- Whether a character has the property `White_Space`. -/
def isBlank (c : Char) : Bool :=
  blankRanges.any fun r => r.1 ≤ c.toNat && c.toNat ≤ r.2

/-- Whether a text has no character but blanks. -/
def isBlankText (s : String) : Bool := s.toList.all isBlank

example : (blankRanges.map fun r => r.2 + 1 - r.1).sum = 25 := by decide

theorem isBlankText_iff {s : String} : isBlankText s = true ↔ ∀ c ∈ s.toList, isBlank c := by
  simp [isBlankText]

end CloudProvider.Text
