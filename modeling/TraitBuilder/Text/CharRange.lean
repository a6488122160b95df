/-!
# Ranges of characters

Tables of characters as lists of ranges and of runs with a fixed step, and membership in them.
-/

namespace TraitBuilder.Text

/-- Whether `c` lies in one of the closed ranges `(first, last)`. -/
def inRanges (ranges : List (Nat × Nat)) (c : Char) : Bool :=
  ranges.any fun (first, last) => first ≤ c.toNat && c.toNat ≤ last

/-- Whether `n` is one of `first, first + step, …, last`. -/
def inRun (first last step n : Nat) : Bool :=
  first ≤ n && n ≤ last && (n - first) % step == 0

/-- Whether `c` lies in one of the runs `(first, last, step)`. -/
def inRuns (runs : List (Nat × Nat × Nat)) (c : Char) : Bool :=
  runs.any fun (first, last, step) => inRun first last step c.toNat

/-- The image of `c` under the runs `(first, last, step, image of first)`, each of which shifts its
characters by one distance.  A character outside all runs is its own image. -/
def mapRuns (runs : List (Nat × Nat × Nat × Nat)) (c : Char) : Char :=
  match runs.find? fun (first, last, step, _) => inRun first last step c.toNat with
  | some (first, _, _, image) => Char.ofNat (c.toNat - first + image)
  | none => c

end TraitBuilder.Text
