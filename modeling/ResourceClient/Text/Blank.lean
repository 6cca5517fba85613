/-! # Blanks around a text

    The characters with Unicode's white space property, and a text without
    those at its ends. -/

namespace ResourceClient.Text

/-- Whether a character is white space. -/
def isBlank (c : Char) : Bool :=
  let n := c.toNat
  (0x09 ≤ n && n ≤ 0x0d) || n == 0x20 || n == 0x85 || n == 0xa0 || n == 0x1680 ||
    (0x2000 ≤ n && n ≤ 0x200a) || n == 0x2028 || n == 0x2029 || n == 0x202f || n == 0x205f ||
    n == 0x3000

/-- Drops the characters at both ends that satisfy a condition. -/
def trimWhere (drop : Char → Bool) (cs : List Char) : List Char :=
  ((cs.dropWhile drop).reverse.dropWhile drop).reverse

/-- A text without the blanks at its ends. -/
def trim (s : String) : String := String.ofList (trimWhere isBlank s.toList)

/-- A text without the repetitions of a character at its end. -/
def trimEndOf (c : Char) (s : String) : String :=
  String.ofList ((s.toList.reverse.dropWhile (· == c)).reverse)

end ResourceClient.Text
