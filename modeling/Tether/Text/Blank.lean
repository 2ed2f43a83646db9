/-! Unicode white space, and trimming a list of the elements of a class at both ends. -/

namespace Tether.Text

/-- The White_Space property. -/
def isBlank (c : Char) : Bool :=
  (0x09 ≤ c.val && c.val ≤ 0x0D) || c.val = 0x20 || c.val = 0x85 || c.val = 0xA0
    || c.val = 0x1680 || (0x2000 ≤ c.val && c.val ≤ 0x200A) || c.val = 0x2028
    || c.val = 0x2029 || c.val = 0x202F || c.val = 0x205F || c.val = 0x3000

/-- The list without its last elements that satisfy `p`. -/
def trimRight {α : Type} (p : α → Bool) (xs : List α) : List α :=
  (xs.reverse.dropWhile p).reverse

/-- The list without its first and last elements that satisfy `p`. -/
def trimBoth {α : Type} (p : α → Bool) (xs : List α) : List α :=
  trimRight p (xs.dropWhile p)

/-- The text without white space at its ends. -/
def trimBlank (s : String) : String := String.ofList (trimBoth isBlank s.toList)

end Tether.Text
