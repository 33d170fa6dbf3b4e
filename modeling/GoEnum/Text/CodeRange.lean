/-
  `CodeRange` — runs of consecutive code points, and the tables made of them.

  A character property is given as the list of its maximal runs in ascending
  order; `inRanges` looks a character up in such a list. A case mapping is given
  as a list of `CaseRun`s, each of which maps every `step`-th code point of a run
  to the code point at the same distance from `target`; alphabets whose capital
  and small letters alternate need `step = 2`.
-/

namespace GoEnum.Text

/-- The code points from `first` to `last`, both included. -/
structure CodeRange where
  /-- The least code point of the run. -/
  first : Nat
  /-- The greatest code point of the run. -/
  last : Nat
deriving Repr, DecidableEq

/-- Whether the code point `n` lies in the run. -/
def CodeRange.contains (r : CodeRange) (n : Nat) : Bool :=
  r.first ≤ n && n ≤ r.last

/-- Whether one of the runs of a table holds the character. -/
def inRanges (table : List CodeRange) (c : Char) : Bool :=
  table.any (·.contains c.toNat)

theorem inRanges_iff (table : List CodeRange) (c : Char) :
    inRanges table c = true ↔ ∃ r ∈ table, r.first ≤ c.toNat ∧ c.toNat ≤ r.last := by
  simp [inRanges, CodeRange.contains]

/-- Every `step`-th code point from `first` to `last`, with its image at the same distance
from `target`. -/
structure CaseRun where
  /-- The least code point that is mapped. -/
  first : Nat
  /-- The greatest code point that is mapped. -/
  last : Nat
  /-- The distance between two neighbours that are mapped. -/
  step : Nat
  /-- The image of `first`. -/
  target : Nat
deriving Repr, DecidableEq

/-- Whether the run maps the code point `n`. -/
def CaseRun.contains (r : CaseRun) (n : Nat) : Bool :=
  r.first ≤ n && n ≤ r.last && (n - r.first) % r.step == 0

/-- The image of a code point of the run. -/
def CaseRun.image (r : CaseRun) (n : Nat) : Nat :=
  r.target + (n - r.first)

/-- The image of a code point under the first run that maps it, if there is one. -/
def mapped? (table : List CaseRun) (n : Nat) : Option Nat :=
  (table.find? (·.contains n)).map (·.image n)

end GoEnum.Text
