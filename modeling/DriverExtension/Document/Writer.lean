import DriverExtension.Document.Basic

namespace DriverExtension

open Number Text

/-!
# Writing JSON

`Document.toJson` writes a document on one line without blanks.  Faults of form are written as
`null`.
-/

namespace Document

/-- Numbers are positional while the leading digit has an exponent from -5 to 15. -/
def floatStyle : FloatStyle := ⟨.toEven, some (-5, 16), "inf", "NaN"⟩

/-- A character as it stands in a JSON string. -/
def escapeJson (c : Char) : String :=
  match c with
  | '"' => "\\\""
  | '\\' => "\\\\"
  | '\n' => "\\n"
  | '\r' => "\\r"
  | '\t' => "\\t"
  | _ =>
    if c.toNat < 0x20 then
      "\\u" ++ String.ofList (List.replicate (4 - (hex c.toNat).length) '0') ++ hex c.toNat
    else c.toString

/-- Appends a JSON string. -/
def writeString (out : String) (s : String) : String :=
  (s.foldl (fun out c => out ++ escapeJson c) (out ++ "\"")) ++ "\""

mutual

/-- Appends a document. -/
def writeTo (out : String) : Document → String
  | .bool true => out ++ "true"
  | .bool false => out ++ "false"
  | .int n => out ++ toString n
  | .float x => out ++ floatStyle.write x
  | .string s => writeString out s
  | .array items => writeItems (out ++ "[") true items ++ "]"
  | .object members => writeMembers (out ++ "\x7b") true members ++ "\x7d"
  | .null | .date | .broken | .unreadable | .badKey _ _ => out ++ "null"

/-- Appends items, with a comma before each but the first of the array. -/
def writeItems (out : String) (first : Bool) : List Document → String
  | [] => out
  | d :: rest => writeItems (writeTo (if first then out else out ++ ",") d) false rest

/-- Appends members, with a comma before each but the first of the object. -/
def writeMembers (out : String) (first : Bool) : List (String × Document) → String
  | [] => out
  | (name, d) :: rest =>
    writeMembers (writeTo (writeString (if first then out else out ++ ",") name ++ ":") d) false rest

end

/-- The document as JSON on one line. -/
def toJson (d : Document) : String := writeTo "" d

end Document
end DriverExtension
