import TextTemplate.Partial.DiskPath
import TextTemplate.Partial.Registry

/-!
# Directories of partials

A directory holds partials in files with one extension. They can be read on demand, where the
partial `a.b` is the file `b` in the directory `a`, or registered all at once under their paths. A
name that is read on demand is made of plain segments only, so that its file always lies inside the
directory.
-/

namespace TextTemplate

/-- What a name in a directory stands for. -/
inductive Entry where
  | file (content : List UInt8)
  | directory (entries : List (String × Entry))

/-- Why a file has no text. -/
inductive ReadError where
  | notFound
  | isDirectory
  | notDirectory
  | nameTooLong
  | invalidText
deriving DecidableEq, Repr

def ReadError.message : ReadError → String
  | notFound => "No such file or directory (os error 2)"
  | isDirectory => "Is a directory (os error 21)"
  | notDirectory => "Not a directory (os error 20)"
  | nameTooLong => "File name too long (os error 36)"
  | invalidText => "stream did not contain valid UTF-8"

namespace Entry

instance : Inhabited Entry := ⟨.directory []⟩

/-- The text of bytes in UTF-8. -/
def decode (content : List UInt8) : Except ReadError String :=
  match String.fromUTF8? ⟨content.toArray⟩ with
  | some text => .ok text
  | none => .error .invalidText

/-- The greatest number of bytes in the name of a file or directory. -/
def longestName : Nat := 255

/-- The entry at a path that starts inside the directories `around`, innermost first. An empty
component and a point stand for the directory they are met in, two points for the one around it. -/
def follow (around : List Entry) : List String → Entry → Except ReadError Entry
  | [], e => .ok e
  | _ :: _, file _ => .error .notDirectory
  | name :: rest, directory entries =>
    if name = "" ∨ name = "." then follow around rest (directory entries)
    else if name = ".." then
      match around with
      | [] => .error .notFound
      | outer :: around => follow around rest outer
    else if longestName < name.utf8ByteSize then .error .nameTooLong
    else
      match Keyed.get? name entries with
      | none => .error .notFound
      | some inner => follow (directory entries :: around) rest inner

/-- The entry at a path. -/
def find (path : List String) (e : Entry) : Except ReadError Entry := follow [] path e

/-- The text of the file at a path. -/
def read (path : List String) (e : Entry) : Except ReadError String :=
  match e.find path with
  | .error cause => .error cause
  | .ok (directory _) => .error .isDirectory
  | .ok (file content) => decode content

/-- Puts an entry at a path, with the directories on the way. -/
def put (added : Entry) : List String → Entry → Entry
  | [], _ => added
  | name :: rest, e =>
    let entries := match e with
      | file _ => []
      | directory entries => entries
    directory (Keyed.insert name (put added rest ((Keyed.get? name entries).getD default)) entries)

mutual

/-- The paths and contents of the files below an entry. -/
def files : Entry → List (List String × List UInt8)
  | file content => [([], content)]
  | directory entries => filesOf entries

def filesOf : List (String × Entry) → List (List String × List UInt8)
  | [] => []
  | (name, e) :: rest =>
    (files e).map (fun (path, content) => (name :: path, content)) ++ filesOf rest

end

end Entry

/-- A directory of partials and the path that messages show for it. -/
structure TemplateDirectory where
  root : String
  entry : Entry

namespace TemplateDirectory

/-- The extension of the files that hold partials. -/
def suffix : List Char := ".bnt".toList

/-- The characters of a plain segment. -/
def isPlain (c : Char) : Bool := c.isAlphanum || c == '_' || c == '-'

/-- Goes on from a path with one segment after the other, if all of them are plain. -/
def descend? (path : DiskPath) : List (List Char) → Option DiskPath
  | [] => some path
  | segment :: rest =>
    if segment ≠ [] && segment.all isPlain then descend? (path.push (String.ofList segment)) rest
    else none

/-- The file that a partial is read from: the segments between the points of the name lead down from
the root, and the last gets the extension in place of its own. A name with an empty segment or with
other characters than letters and digits of ASCII, `_` and `-` has no file. -/
def fileOf? (d : TemplateDirectory) (name : String) : Option DiskPath :=
  (descend? ⟨d.root⟩ (name.toList.splitOn '.')).map (DiskPath.withSuffix (String.ofList suffix))

/-- The way from the directory to a file whose path starts with that of the root. -/
def below (d : TemplateDirectory) (file : DiskPath) : List String :=
  DiskPath.pieces ⟨String.ofList (file.text.toList.drop d.root.length)⟩

/-- The path that messages show for a path below the directory, without an empty component at its
end. -/
def shown (d : TemplateDirectory) (path : List String) : String :=
  "/".intercalate (d.root :: if path.getLast? = some "" then path.dropLast else path)

/-- Reads a partial; a file that is not there is no failure. -/
def load (d : TemplateDirectory) (name : String) : Except (List String) (Option String) :=
  match d.fileOf? name with
  | none => .ok none
  | some file =>
    match d.entry.read (d.below file) with
    | .ok text => .ok (some text)
    | .error .notFound => .ok none
    | .error cause => .error ["reading partial " ++ file.text, cause.message]

/-- The resolver that reads partials on demand. -/
def resolver (d : TemplateDirectory) : Resolver := .ofFunction d.load

/-- The name of a file without the extension, if it has it. A name that is nothing but the extension
does not count as having it. Of a single point in front of the extension both points stay, since one
point is no name. -/
def stem? (file : String) : Option String :=
  let cs := file.toList
  let stem := cs.take (cs.length - suffix.length)
  if suffix.isSuffixOf cs ∧ stem ≠ [] then
    some (if stem = ['.'] then ".." else String.ofList stem)
  else none

/-- The name of the partial in the file at a path below the directory that is registered, if the
file has the extension: the components of the path with points between them. -/
def partialOf? (path : List String) : Option String := do
  let stem ← path.getLast?.bind stem?
  return ".".intercalate (path.dropLast ++ [stem])

/-- Registers the file at a path; `shown` is the path that messages show for it. -/
def registerFile (shown : String) (content : List UInt8) (name : String) (r : Registry) :
    Except (List String) Unit × Registry :=
  match Entry.decode content with
  | .ok text => (.ok (), r.register name text)
  | .error cause => (.error ["failed to read partial: " ++ shown, cause.message], r)

/-- Registers files one after the other, up to the first that has no text. The number of registered
files comes back. -/
def registerFiles (base : String) (r : Registry) :
    List (List String × List UInt8) → Except (List String) Nat × Registry
  | [] => (.ok 0, r)
  | (path, content) :: rest =>
    match partialOf? path with
    | none => registerFiles base r rest
    | some name =>
      match registerFile ("/".intercalate (base :: path)) content name r with
      | (.error causes, r) => (.error causes, r)
      | (.ok (), r) =>
        let (count, r) := registerFiles base r rest
        (count.map (· + 1), r)

/-- Registers every partial below a path of the directory. A file at the path itself is registered
under the empty name; where there is nothing, nothing is registered. -/
def register (d : TemplateDirectory) (path : List String) (r : Registry) :
    Except (List String) Nat × Registry :=
  match d.entry.find path with
  | .error _ => (.ok 0, r)
  | .ok (.directory entries) => registerFiles (d.shown path) r (Entry.filesOf entries)
  | .ok (.file content) =>
    match path.getLast?.bind stem? with
    | none => (.ok 0, r)
    | some _ =>
      match registerFile (d.shown path) content "" r with
      | (.error causes, r) => (.error causes, r)
      | (.ok (), r) => (.ok 1, r)

end TemplateDirectory

end TextTemplate
