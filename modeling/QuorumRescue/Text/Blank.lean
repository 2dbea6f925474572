/-
  White space, in the sense of the Unicode property.

  Headers and typed answers are trimmed of white space before they are looked at.  The property
  covers more than the ASCII blanks: the no-break space, the line and paragraph separators and the
  typographic spaces are white too, so a header line that ends in one of them still counts.
-/

namespace QuorumRescue.Text

/-- The characters with the White_Space property. -/
def isWhite (c : Char) : Bool :=
  let n := c.toNat
  (9 ≤ n && n ≤ 13) || n == 0x20 || n == 0x85 || n == 0xA0 || n == 0x1680
    || (0x2000 ≤ n && n ≤ 0x200A) || n == 0x2028 || n == 0x2029 || n == 0x202F
    || n == 0x205F || n == 0x3000

/-- The text without its leading white space. -/
def trimStart (text : List Char) : List Char := text.dropWhile isWhite

/-- The text without its trailing white space. -/
def trimEnd (text : List Char) : List Char := (text.reverse.dropWhile isWhite).reverse

/-- The text without white space at either end. -/
def trim (text : List Char) : List Char := trimEnd (trimStart text)

example : trim [' ', '\t', 'y', ' ', 'n', '\n'] = ['y', ' ', 'n'] := by decide
example : trimEnd ['2', Char.ofNat 0x85, Char.ofNat 0x3000] = ['2'] := by decide

end QuorumRescue.Text
