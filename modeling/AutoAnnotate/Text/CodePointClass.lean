/-!
# Classes of characters given by boundaries

A class of code points that falls into runs is written down by its boundaries in ascending order:
the first code point of a run, then the first one after it, and so on. A code point belongs to the
class if it has passed an odd number of boundaries.
-/

namespace AutoAnnotate.Text

/-- Whether a character lies in a run of the class with these ascending boundaries. -/
def inRuns (boundaries : List Nat) (c : Char) : Bool :=
  (boundaries.takeWhile (· ≤ c.toNat)).length % 2 == 1

/-- A class without boundaries is empty. -/
theorem inRuns_nil (c : Char) : inRuns [] c = false := rfl

/-- A character before the first boundary is outside the class. -/
theorem inRuns_cons_of_lt {b : Nat} {bs : List Nat} {c : Char} (h : c.toNat < b) :
    inRuns (b :: bs) c = false := by
  have h' : ¬b ≤ c.toNat := Nat.not_le.2 h
  simp [inRuns, h']

end AutoAnnotate.Text
