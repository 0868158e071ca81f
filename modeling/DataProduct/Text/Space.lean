/-!
# White space

The characters of Unicode's `White_Space` property, and trimming by them. Core's
`Char.isWhitespace` knows four ASCII characters only; keys of bindings are trimmed of all
twenty-five.
-/

namespace DataProduct.Text

/-- Whether a character has Unicode's `White_Space` property. -/
def isSpace (c : Char) : Bool :=
  let n := c.toNat
  (0x09 ≤ n && n ≤ 0x0D) || n == 0x20 || n == 0x85 || n == 0xA0 || n == 0x1680 ||
    (0x2000 ≤ n && n ≤ 0x200A) || n == 0x2028 || n == 0x2029 || n == 0x202F || n == 0x205F ||
    n == 0x3000

/-- The text without the white space at either end. -/
def trimSpace (s : String) : String :=
  String.ofList ((s.toList.dropWhile isSpace).reverse.dropWhile isSpace).reverse

end DataProduct.Text
