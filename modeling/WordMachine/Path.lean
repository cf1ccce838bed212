import WordMachine.Text.Split

/-!
# Paths

Paths as texts with slashes, and the rules by which they are simplified and put
together without looking at any disk.
-/

namespace WordMachine.Path

/-- The pieces of a path between its slashes, empty ones included. -/
def pieces (path : String) : List String :=
  (Text.splitAt '/' path.toList).map String.ofList

def isAbsolute (path : String) : Bool :=
  path.toList.head? == some '/'

/-- The pieces of a simplified path with one more, the last piece first. A step up takes
    the last piece away; at the root it leads nowhere, and elsewhere it is kept when there
    is no piece to take. -/
def push (rooted : Bool) (back : List String) (piece : String) : List String :=
  if piece = "" ∨ piece = "." then back
  else if piece = ".." then
    match back with
    | [] => if rooted then [] else [".."]
    | last :: rest => if last = ".." then ".." :: back else rest
  else piece :: back

/-- The pieces of a path that is simplified. -/
def simplify (path : String) : List String :=
  ((pieces path).foldl (push (isAbsolute path)) []).reverse

/-- The shortest path that leads to the same place: no empty pieces, no `.`, and no `..`
    after another piece. -/
def clean (path : String) : String :=
  let joined := "/".intercalate (simplify path)
  if isAbsolute path then "/" ++ joined else if joined = "" then "." else joined

/-- A path inside a directory. -/
def join (directory path : String) : String :=
  if directory = "" then if path = "" then "" else clean path
  else if path = "" then clean directory
  else clean (directory ++ "/" ++ path)

/-- The directory that a path lies in. -/
def parent (path : String) : String :=
  match (Text.splitAt '/' path.toList).reverse with
  | [] | [_] => "."
  | _ :: rest =>
    clean (String.ofList (['/'].intercalate rest.reverse ++ ['/']))

/-- The path from the root, seen from a directory. -/
def absolute (directory path : String) : String :=
  if isAbsolute path then clean path else join directory path

end WordMachine.Path
