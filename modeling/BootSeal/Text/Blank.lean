/-!
# Blanks

The characters with Unicode's White_Space property: space, the ASCII controls from tab to carriage
return, and the spaces beyond ASCII. The four ASCII information separators are not among them.
-/

namespace BootSeal

def isBlank (c : Char) : Bool :=
  let n := c.toNat
  (9 ≤ n && n ≤ 13) || n == 0x20 || n == 0x85 || n == 0xA0 || n == 0x1680
    || (0x2000 ≤ n && n ≤ 0x200A) || n == 0x2028 || n == 0x2029 || n == 0x202F || n == 0x205F
    || n == 0x3000

def trimBlanksRight (s : List Char) : List Char := (s.reverse.dropWhile isBlank).reverse

def trimBlanks (s : List Char) : List Char := trimBlanksRight (s.dropWhile isBlank)

end BootSeal
