import DriverExtension.Log.Filter
import DriverExtension.Text.Quoted

namespace DriverExtension.Log

open Text

/-!
# Records as lines

A record is written as its level, its target and its message.  What a terminal could take for a
command is escaped in the message; line breaks are kept.
-/

/-- A character of a message as it is written. -/
def escape (c : Char) : String :=
  match c with
  | '\x1b' => "\\x1b"
  | '\x07' => "\\x07"
  | '\x08' => "\\x08"
  | '\x0c' => "\\x0c"
  | '\x7f' => "\\x7f"
  | _ => if 0x80 ≤ c.toNat && c.toNat ≤ 0x9f then escapeByNumber c else c.toString

namespace Record

/-- A record as it is written, with the line break after it. -/
def line (r : Record) : String :=
  r.level.label ++ " " ++ r.target ++ ": " ++ String.join (r.message.toList.map escape) ++ "\n"

end Record

/-- What a filter lets through of some records, as text. -/
def Filter.write (f : Filter) (rs : List Record) : String :=
  String.join ((rs.filter f.admits).map Record.line)

end DriverExtension.Log
