/-! # White space at the ends of a text

A setting read from the environment may carry white space around its value. White space is the
Unicode property `White_Space`: twenty-five characters, six of which are controls and most of which
are not ASCII. `trim` drops them from both ends and nowhere else. -/

namespace PluginBridge.Text

/-- The characters with the Unicode property `White_Space`. -/
def isBlank (c : Char) : Bool :=
  let n := c.toNat
  (9 ≤ n && n ≤ 13) || n == 0x20 || n == 0x85 || n == 0xA0 || n == 0x1680
    || (0x2000 ≤ n && n ≤ 0x200A) || n == 0x2028 || n == 0x2029 || n == 0x202F
    || n == 0x205F || n == 0x3000

/-- Drop the blanks before the first other character. -/
def trimLeft (cs : List Char) : List Char := cs.dropWhile isBlank

/-- Drop the blanks after the last other character. -/
def trimRight (cs : List Char) : List Char := (cs.reverse.dropWhile isBlank).reverse

/-- A text without the blanks at its two ends. -/
def trim (s : String) : String := String.ofList (trimRight (trimLeft s.toList))

end PluginBridge.Text
