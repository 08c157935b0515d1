namespace DriverExtension.Storage

/-!
# Paths

A path is a text of names between slashes.  Empty names and single dots say nothing; a slash at the
beginning makes the path absolute.
-/

/-- The names between slashes, empty ones included. -/
def pieces : List Char → List (List Char)
  | [] => [[]]
  | c :: rest =>
    if c = '/' then [] :: pieces rest
    else
      match pieces rest with
      | [] => [[c]]
      | s :: more => (c :: s) :: more

/-- Whether a path starts at the root. -/
def isAbsolute (path : String) : Bool := path.toList.head? = some '/'

/-- The names of a path that say something. -/
def names (path : String) : List String :=
  ((pieces path.toList).filter fun s => !s.isEmpty && s ≠ ['.']).map String.ofList

/-- Whether a path can only name a directory: it ends in a slash, a dot or two dots. -/
def isDirectoryLike (path : String) : Bool :=
  match (pieces path.toList).getLast? with
  | some s => s.isEmpty || s = ['.'] || s = ['.', '.']
  | none => true

/-- Whether the last name of a path, slashes after it apart, is a dot or two dots. -/
def endsInDots (path : String) : Bool :=
  match ((pieces path.toList).filter fun s => !s.isEmpty).getLast? with
  | some s => s = ['.'] || s = ['.', '.']
  | none => false

/-- A path inside a directory.  An absolute path stays as it is; no second slash is written. -/
def join (base path : String) : String :=
  if isAbsolute path || base.isEmpty then path
  else if base.toList.getLast? = some '/' then base ++ path
  else base ++ "/" ++ path

/-- A reversed path without slashes and single dots at its end; a path of slashes alone keeps one,
and a single dot at the beginning stays. -/
def trimReversed : List Char → List Char
  | [] => []
  | ['/'] => ['/']
  | '/' :: rest => trimReversed rest
  | ['.', '/'] => ['/']
  | '.' :: '/' :: rest => trimReversed rest
  | s => s

/-- The path of the directory that a path stands in: empty for a single name, missing for the empty
path and the root. -/
def parent (path : String) : Option String :=
  match trimReversed path.toList.reverse with
  | [] => none
  | ['/'] => none
  | s =>
    let rest := s.dropWhile (· ≠ '/')
    some (String.ofList (trimReversed rest).reverse)

/-- A path in which a tilde at the beginning, alone or before a slash, stands for the home
directory. -/
def expandHome (home : Option String) (path : String) : String :=
  match home, path.toList with
  | some home, '~' :: rest =>
    if rest.isEmpty || rest.head? = some '/' then home ++ String.ofList rest else path
  | _, _ => path

end DriverExtension.Storage
