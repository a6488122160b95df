import TraitBuilder.Text.CharRange

/-!
# Blank characters

The characters that separate tokens without being part of one: Unicode white space and the two
directional marks.
-/

namespace TraitBuilder.Text

/-- The blank characters past ASCII. -/
def blankRanges : List (Nat × Nat) := [
  (0x85, 0x85), (0xa0, 0xa0), (0x1680, 0x1680), (0x2000, 0x200a), (0x200e, 0x200f),
  (0x2028, 0x2029), (0x202f, 0x202f), (0x205f, 0x205f), (0x3000, 0x3000)]

/-- Whether `c` only separates tokens. -/
def isBlank (c : Char) : Bool :=
  c == ' ' || (0x9 ≤ c.toNat && c.toNat ≤ 0xd) || (128 ≤ c.toNat && inRanges blankRanges c)

end TraitBuilder.Text
