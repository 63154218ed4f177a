/-!
File paths: a directory and a file name joined into one.  Empty steps and single points drop out of
the directory; double points stay.  A path that begins with exactly two slashes keeps both, with
any other number of slashes it keeps one.
-/

namespace NodeTopology.FilePath

/-- The slashes that the normal form of a path begins with. -/
def root (path : List Char) : List Char :=
  match (path.takeWhile (· == '/')).length with
  | 0 => []
  | 2 => ['/', '/']
  | _ => ['/']

/-- The steps of a path that lead somewhere. -/
def steps (path : List Char) : List (List Char) :=
  (path.splitOn '/').filter fun step => !step.isEmpty && step != ['.']

def join (directory file : String) : String :=
  let dir := directory.toList
  String.ofList (root dir ++ (['/'].intercalate (steps dir ++ [file.toList])))

/-- No file can have a path with a null character. -/
def isUsable (path : String) : Bool := !path.toList.contains '\x00'

end NodeTopology.FilePath
