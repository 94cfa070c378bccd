/-!
# Paths on a disk

A path is a text with slashes between its pieces. Going on from a path (`DiskPath.push`) and giving
the file at its end another extension (`DiskPath.withSuffix`) are operations on the text: nothing
looks at the disk.
-/

namespace TextTemplate

/-- A path as the file system takes it. -/
structure DiskPath where
  text : String
deriving DecidableEq, Repr

namespace DiskPath

def ofPieces (pieces : List String) : DiskPath := ⟨"/".intercalate pieces⟩

/-- What stands between the slashes; a slash at an end of the path has an empty piece behind it, or
in front of it. -/
def pieces (path : DiskPath) : List String := (path.text.toList.splitOn '/').map String.ofList

/-- What has to stand between the path and a piece that is added to it. -/
def separator (path : DiskPath) : String :=
  if path.text = "" ∨ path.text.toList.getLast? = some '/' then "" else "/"

/-- Goes on from the path. What starts with a slash starts anew. -/
def push (path : DiskPath) (added : String) : DiskPath :=
  if added.toList.head? = some '/' then ⟨added⟩ else ⟨path.text ++ path.separator ++ added⟩

/-- The name of a file without its extension, which starts with the last point. A name with no
other point than one in front has no extension. -/
def stem (file : String) : String :=
  let front := ".".intercalate ((file.toList.splitOn '.').dropLast.map String.ofList)
  if front = "" then file else front

/-- Puts a suffix in place of the extension of the file at the end of the path. Empty pieces and
single points at the end are passed over. A path that leads up at its end, or nowhere, stays. -/
def withSuffix (suffix : String) (path : DiskPath) : DiskPath :=
  match path.pieces.reverse.dropWhile (fun piece => piece = "" ∨ piece = ".") with
  | [] => path
  | file :: around =>
    if file = ".." then path else ofPieces (around.reverse ++ [stem file ++ suffix])

end DiskPath

end TextTemplate
