/-!
# Case-insensitive comparison

Two texts are equal up to case when they have the same number of characters and each pair
of characters lies in one orbit of simple case folding. Outside ASCII this library knows
the two orbits that reach ASCII letters: the Kelvin sign `U+212A` with `k` and `K`, and the
long s `U+017F` with `s` and `S`. So the comparison is exact whenever one side is ASCII,
which is how names are matched: `taſks` matches `TASKS`, while the dotted capital I
`U+0130` matches no ASCII letter.
-/

namespace MailStore

namespace Fold

/-- The representative of a character's folding orbit. -/
def canonical (c : Char) : Char :=
  if 'a' ≤ c ∧ c ≤ 'z' then Char.ofNat (c.toNat - 32)
  else if c.toNat = 0x212A then 'K'
  else if c.toNat = 0x017F then 'S'
  else c

/-- Whether two characters are equal up to simple case folding. -/
def charEq (a b : Char) : Bool := canonical a == canonical b

/-- Whether two strings are equal up to simple case folding, character by character. -/
def equal (a b : String) : Bool :=
  a.length == b.length && (a.toList.zip b.toList).all fun (x, y) => charEq x y

end Fold

end MailStore
