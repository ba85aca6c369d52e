/-
# GrammarQueries.Unicode.Whitespace -- the blanks of all scripts

The characters with the property White_Space.
-/

namespace GrammarQueries.Unicode

set_option autoImplicit false

/-- Whether a character is blank in some script. -/
def isWhitespace (c : Char) : Bool :=
  let n := c.toNat
  (0x09 ≤ n && n ≤ 0x0D) || n = 0x20 || n = 0x85 || n = 0xA0 || n = 0x1680 ||
    (0x2000 ≤ n && n ≤ 0x200A) || n = 0x2028 || n = 0x2029 || n = 0x202F || n = 0x205F ||
    n = 0x3000

end GrammarQueries.Unicode
