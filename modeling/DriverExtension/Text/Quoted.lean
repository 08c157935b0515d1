import DriverExtension.Text.GraphemeExtend
import DriverExtension.Text.Unprintable

namespace DriverExtension.Text

/-!
# Quoted text

Messages quote characters between apostrophes and texts between double quotes.  What a reader could
not tell apart is escaped: the quote that encloses, the backslash, the common control characters,
grapheme extenders and everything unprintable.

* `quoteChar`   — a character between apostrophes;
* `quoteString` — a text between double quotes.
-/

/-- The digits of a number in base sixteen, in lower case and without leading zeros. -/
def hex (n : Nat) : String := String.ofList (Nat.toDigits 16 n)

/-- A character escaped by its number. -/
def escapeByNumber (c : Char) : String := "\\u\x7b" ++ hex c.toNat ++ "\x7d"

/-- The sound marks U+FF9E and U+FF9F extend a grapheme but have a place and a shape of their own. -/
def standsAlone (c : Char) : Bool := c = '\uff9e' || c = '\uff9f'

/-- A character as it stands inside quotes; `quote` is the quote that encloses it. -/
def escape (quote c : Char) : String :=
  match c with
  | '\x00' => "\\0"
  | '\t' => "\\t"
  | '\n' => "\\n"
  | '\r' => "\\r"
  | '\\' => "\\\\"
  | _ =>
    if c = quote then "\\" ++ c.toString
    else if graphemeExtend.contains c && !standsAlone c then escapeByNumber c
    else if unprintable.contains c then escapeByNumber c
    else c.toString

/-- A character between apostrophes. -/
def quoteChar (c : Char) : String := "\x27" ++ escape '\x27' c ++ "\x27"

/-- A text between double quotes. -/
def quoteString (s : String) : String :=
  "\"" ++ String.join (s.toList.map (escape '"')) ++ "\""

end DriverExtension.Text
