import DriverExtension.Storage.Files
import DriverExtension.Text.Lines

namespace DriverExtension

open Storage Text

/-!
# What a run of the program leaves behind

A run ends with a status, has written to its output and its error output, and leaves files.  A
`Complaint` is an error that ends a run, with the causes that lie behind it.
-/

/-- The end of a run. -/
structure Report where
  /-- The exit status; zero means success. -/
  exit : Nat
  output : String
  errors : String
  files : FileTree

/-- The exit status of success. -/
def Report.success : Nat := 0

/-- The exit status of a failed run. -/
def Report.failure : Nat := 1

/-- The exit status of a run that was asked for wrongly. -/
def Report.misuse : Nat := 2

/-- An error that ends a run. -/
structure Complaint where
  summary : String
  /-- What lies behind it, from the nearest cause to the farthest. -/
  causes : List String
deriving DecidableEq, Repr

namespace Complaint

/-- A text behind a mark, with further lines as far to the right. -/
def indented (mark : String) (text : String) : String :=
  let blanks := String.ofList (List.replicate mark.length ' ')
  mark ++ ("\n" ++ blanks).intercalate ((lines text.toList).map String.ofList)

/-- The causes as they are listed: a single one is only indented, several are numbered. -/
def listed : List String → List String
  | [cause] => [indented "    " cause]
  | causes => (causes.zipIdx).map fun (cause, n) => indented s!"    {n}: " cause

/-- The wording of a complaint. -/
def message (c : Complaint) : String :=
  match c.causes with
  | [] => s!"Error: {c.summary}\n"
  | causes => s!"Error: {c.summary}\n\nCaused by:\n" ++ "\n".intercalate (listed causes) ++ "\n"

end Complaint
end DriverExtension
