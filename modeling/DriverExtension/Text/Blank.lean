import DriverExtension.Text.Ranges

namespace DriverExtension.Text

/-!
# White space

Characters that count as white space in any script, and texts without them at both ends.
-/

/-- White space of every script. -/
def blank : Ranges :=
  [(0x9, 0xd), (0x20, 0x20), (0x85, 0x85), (0xa0, 0xa0), (0x1680, 0x1680), (0x2000, 0x200a),
   (0x2028, 0x2029), (0x202f, 0x202f), (0x205f, 0x205f), (0x3000, 0x3000)]

/-- A text without white space at its end. -/
def trimEnd (s : List Char) : List Char := (s.reverse.dropWhile blank.contains).reverse

/-- A text without white space at both ends. -/
def trim (s : List Char) : List Char := trimEnd (s.dropWhile blank.contains)

end DriverExtension.Text
