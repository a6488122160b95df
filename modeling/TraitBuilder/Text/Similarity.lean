import TraitBuilder.Text.Binary64

/-!
# Similarity of names

The Jaro–Winkler similarity of two names, by which an unknown name is answered with a known one.
Two characters match if they are equal and their places differ by less than half the longer length;
each character matches at most once.  Matches out of order count against the similarity, and a
common beginning of up to four characters counts for it.
-/

namespace TraitBuilder.Text.Similarity

/-- Marks the first free occurrence of `c` at a place from `low` on and before `high`, where the
head of the list is at place `j`. -/
def claim (low high : Nat) (c : Char) (j : Nat) :
    List (Char × Bool) → Option (List (Char × Bool))
  | [] => none
  | (d, used) :: rest =>
    if low ≤ j && j < high && c == d && !used then some ((d, true) :: rest)
    else (claim low high c (j + 1) rest).map ((d, used) :: ·)

/-- The characters of the first name that find a match, in order, and the marked second name. -/
def matched (range : Nat) : Nat → List Char → List (Char × Bool) → List Char × List (Char × Bool)
  | _, [], marked => ([], marked)
  | i, c :: rest, marked =>
    match claim (i - range) (i + range + 1) c 0 marked with
    | some marked =>
      let (found, marked) := matched range (i + 1) rest marked
      (c :: found, marked)
    | none => matched range (i + 1) rest marked

/-- The Jaro similarity of two names. -/
def jaro (a b : List Char) : Fraction :=
  if a.isEmpty && b.isEmpty then .ofNat 1
  else
    let range := max a.length b.length / 2 - 1
    let (found, marked) := matched range 0 a (b.map (·, false))
    let partners := (marked.filter (·.2)).map (·.1)
    let count := found.length
    let swaps := ((found.zip partners).filter fun (c, d) => c != d).length / 2
    if count = 0 then .ofNat 0
    else
      (((Fraction.ratio count a.length).add (.ratio count b.length)).add
        (.ratio (count - swaps) count)).third

/-- The length of the common beginning of two names. -/
def commonBeginning : List Char → List Char → Nat
  | c :: a, d :: b => if c = d then commonBeginning a b + 1 else 0
  | _, _ => 0

/-- The Jaro–Winkler similarity of two names. -/
def jaroWinkler (a b : List Char) : Fraction :=
  let similarity := jaro a b
  if (Fraction.ratio 7 10).lt similarity then
    let common := commonBeginning (a.take 4) b
    similarity.add (((Fraction.ratio 1 10).mul (.ofNat common)).mul similarity.complement)
  else similarity

/-- The candidate most similar to `name`, if one is more similar than four fifths; of equally
similar ones the first. -/
def closest (name : String) (candidates : List String) : Option String :=
  let best := candidates.foldl (fun best candidate =>
    let similarity := jaroWinkler name.toList candidate.toList
    let threshold := match best with
      | some (reached, _) => reached
      | none => Fraction.ratio 4 5
    if threshold.lt similarity then some (similarity, candidate) else best)
    (none : Option (Fraction × String))
  best.map (·.2)

end TraitBuilder.Text.Similarity
