/-!
Blank characters, those with the Unicode property White_Space, and the trimming of text by them.
-/

namespace SiteIndex.Text

def isBlank (c : Char) : Bool :=
  let n := c.toNat
  (0x9 ≤ n && n ≤ 0xd) || n == 0x20 || n == 0x85 || n == 0xa0 || n == 0x1680 ||
    (0x2000 ≤ n && n ≤ 0x200a) || n == 0x2028 || n == 0x2029 || n == 0x202f || n == 0x205f ||
    n == 0x3000

/-- Drops the characters at the end that satisfy `test`. -/
def dropEndWhile (test : Char → Bool) (chars : List Char) : List Char :=
  (chars.reverse.dropWhile test).reverse

def trimEndBlank (chars : List Char) : List Char :=
  dropEndWhile isBlank chars

def trimBlank (chars : List Char) : List Char :=
  trimEndBlank (chars.dropWhile isBlank)

end SiteIndex.Text
