namespace DriverExtension.Text

/-!
# Lines

`lines` splits a text at its line feeds, so that a text that ends with one has an empty last line.
-/

/-- The lines of a text. -/
def lines : List Char → List (List Char)
  | [] => [[]]
  | c :: rest =>
    if c = '\n' then [] :: lines rest
    else
      match lines rest with
      | [] => [[c]]
      | s :: more => (c :: s) :: more

end DriverExtension.Text
