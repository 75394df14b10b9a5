/-!
# Paths

A path is a text of names between slashes. What is done here looks at the text alone; what a path
leads to is a matter of the files that are there.

1. `Path.parts` are the names of a path.
2. `Path.join` puts a name behind a path.
3. `Path.parent` is the path without its last name: slashes and single dots behind it go with it.
   `Path.ancestors` repeats that.
-/

namespace DiveLink.Path

/-- The pieces of a text between slashes. -/
def pieces : List Char → List (List Char)
  | [] => [[]]
  | c :: cs =>
    if c = '/' then [] :: pieces cs
    else match pieces cs with
      | [] => [[c]]
      | piece :: others => (c :: piece) :: others

/-- The names of a path, without the empty ones. -/
def parts (path : String) : List String :=
  ((pieces path.toList).filter (· ≠ [])).map String.ofList

/-- Whether the path starts at the root. -/
def isAbsolute (path : String) : Bool := path.toList.head? == some '/'

/-- Whether the path ends in a slash, and so has to be a folder. -/
def endsInSlash (path : String) : Bool := path.toList.getLast? == some '/'

/-- Puts a name behind a path, with a slash between them. -/
def join (path name : String) : String :=
  if path = "" then name
  else if endsInSlash path then path ++ name
  else path ++ "/" ++ name

/-- What stands before the names of a path: the slash of the root, or a dot alone. -/
def opening : List Char → List Char
  | '/' :: _ => ['/']
  | ['.'] => ['.']
  | '.' :: '/' :: _ => ['.']
  | _ => []

/-- Takes slashes and single dots off the end of a path that is given in reverse. -/
def trimEnd : List Char → List Char
  | [] => []
  | '/' :: rest => trimEnd rest
  | ['.'] => []
  | '.' :: '/' :: rest => trimEnd rest
  | c :: rest => c :: rest

/-- The path without its last name, if it has one. -/
def parent (path : String) : Option String :=
  let front := opening path.toList
  match trimEnd (path.toList.drop front.length).reverse with
  | [] => if front = ['.'] then some "" else none
  | last =>
    some (String.ofList (front ++ (trimEnd (last.dropWhile (· ≠ '/'))).reverse))

/-- The path itself, the path without its last name, and so on. -/
def ancestors (path : String) : List String :=
  go path.toList.length path
where
  /-- At most so many paths. -/
  go : Nat → String → List String
    | 0, path => [path]
    | fuel + 1, path =>
      path :: match parent path with
        | none => []
        | some above => go fuel above

end DiveLink.Path
