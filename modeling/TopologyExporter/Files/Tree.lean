import TopologyExporter.Files.Error
import TopologyExporter.Files.Path
import TopologyExporter.Text.Keyed
import TopologyExporter.Text.Utf8

/-!
# File trees

Directories, files and symbolic links by their place below the directory that paths start from.

* `FileTree.locate` follows a path, through symbolic links as well;
* `FileTree.read` is the content of a file;
* `FileTree.makeDirectories`, `write`, `setMode`, `remove` and `link` are what others do to the
  tree.
-/

namespace TopologyExporter

/-- The name of an entry of a directory: one that was given, or one made up for a temporary file. -/
inductive EntryName
  | given (name : String)
  | temp (number : Nat)
deriving Repr, DecidableEq, Inhabited

/-- A place in a tree: the names on the way to it. -/
abbrev Location := List EntryName

/-- What an entry is. The mode of a file says who may read and write it. -/
inductive Node
  | directory
  | file (content : Bytes) (mode : Nat)
  | link (target : String)
deriving Repr, DecidableEq, Inhabited

/-- A file tree. The place that paths start from is always a directory. -/
structure FileTree where
  entries : Keyed Location Node
deriving Repr, DecidableEq, Inhabited

namespace FileTree

/-- A tree without entries. -/
def empty : FileTree := ⟨.empty⟩

/-- What is at a place. -/
def get? (t : FileTree) (place : Location) : Option Node :=
  if place = [] then some .directory else t.entries.get? place

/-- Puts something at a place, instead of what was there. -/
def put (t : FileTree) (place : Location) (node : Node) : FileTree := ⟨t.entries.put place node⟩

/-- Removes the entry at a place. -/
def erase (t : FileTree) (place : Location) : FileTree := ⟨t.entries.erase place⟩

/-! ## Following paths -/

/-- Follows steps from a directory. `onLink` goes on where a symbolic link is met, with the
directory that holds it and the steps it stands for. Where the last step leads nowhere the place is
given all the same if `mayLack`. -/
def walk (t : FileTree) (mayLack : Bool)
    (onLink : Location → List String → Except FileError Location) (place : Location) :
    List String → Except FileError Location
  | [] => .ok place
  | step :: rest =>
    if step = "." then t.walk mayLack onLink place rest
    -- above the place that paths start from there is nothing: it is its own parent
    else if step = ".." then t.walk mayLack onLink place.dropLast rest
    else if Path.maxName < Path.size step then .error .nameTooLong
    else
      let next := place ++ [.given step]
      match t.get? next with
      | none => if mayLack && rest.isEmpty then .ok next else .error .notFound
      | some .directory => t.walk mayLack onLink next rest
      | some (.file _ _) => if rest.isEmpty then .ok next else .error .notDirectory
      | some (.link target) =>
        -- what the link stands for comes before the steps that are left
        if target = "" then .error .notFound
        else onLink (if Path.IsAbsolute target then [] else place) (Path.steps target ++ rest)

/-- How many symbolic links may be met on the way along one path. -/
def maxLinks : Nat := 40

/-- Follows steps from a directory through at most `links` symbolic links. -/
def follow (t : FileTree) (mayLack : Bool) : Nat → Location → List String →
    Except FileError Location
  | 0 => t.walk mayLack fun _ _ => .error .tooManyLinks
  | links + 1 => t.walk mayLack (t.follow mayLack links)

/-- Refuses what cannot be a path at all. -/
def checkPath (path : String) : Except FileError Unit :=
  if '\x00' ∈ path.toList then .error .nulInPath
  else if path = "" then .error .notFound
  else if Path.maxPath < Path.size path then .error .nameTooLong
  else .ok ()

/-- The place that a path leads to. -/
def locate (t : FileTree) (path : String) (mayLack : Bool := false) :
    Except FileError Location := do
  checkPath path
  t.follow mayLack maxLinks [] (Path.steps path)

/-- The place of a directory. -/
def locateDirectory (t : FileTree) (steps : List String) : Except FileError Location := do
  let place ← t.follow false maxLinks [] steps
  match t.get? place with
  | some .directory => .ok place
  | _ => .error .notDirectory

/-- The place that a path names without following its last step, with the directory that holds it.
Only a name can be put into a directory or taken from it. -/
def locateEntry (t : FileTree) (path : String) : Except FileError (Location × String) := do
  let names := Path.names path
  let parent ← t.locateDirectory names.dropLast
  match names.getLast? with
  | none => .error .busy
  | some last => if last = "." ∨ last = ".." then .error .busy else .ok (parent, last)

/-! ## Reading -/

/-- The content of a file. -/
def read (t : FileTree) (path : String) : Except FileError Bytes := do
  let place ← t.locate path
  match t.get? place with
  | some (.file content _) => .ok content
  | some .directory => .error .isDirectory
  | _ => .error .notFound

/-! ## What others do -/

/-- The mode of files that everyone may read. -/
def publicMode : Nat := 0o644

/-- The mode of files that only their owner may read. -/
def privateMode : Nat := 0o600

/-- Makes the directories of a path that are not there yet. -/
def makeDirectories (t : FileTree) (path : String) : Except FileError FileTree := do
  checkPath path
  let made ← (Path.names path).foldlM
    (fun (t, place) step => do
      let place ← t.follow true maxLinks place [step]
      match t.get? place with
      | none => pure (t.put place .directory, place)
      | some .directory => pure (t, place)
      | some _ => .error .alreadyExists)
    (t, [])
  pure made.1

/-- Writes a file. One that is there gets a new content and keeps its mode. -/
def write (t : FileTree) (path : String) (content : Bytes) : Except FileError FileTree := do
  let place ← t.locate path true
  match t.get? place with
  | some .directory => .error .isDirectory
  | some (.file _ mode) => .ok (t.put place (.file content mode))
  | _ => .ok (t.put place (.file content publicMode))

/-- Sets the mode of a file. -/
def setMode (t : FileTree) (path : String) (mode : Nat) : Except FileError FileTree := do
  let place ← t.locate path
  match t.get? place with
  | some (.file content _) => .ok (t.put place (.file content mode))
  | _ => .ok t

/-- Removes a file or a symbolic link. -/
def remove (t : FileTree) (path : String) : Except FileError FileTree := do
  checkPath path
  let (parent, last) ← t.locateEntry path
  let place := parent ++ [.given last]
  match t.get? place with
  | none => .error .notFound
  | some .directory => .error .isDirectory
  | some _ => .ok (t.erase place)

/-- Makes a symbolic link. -/
def link (t : FileTree) (path target : String) : Except FileError FileTree := do
  checkPath path
  let (parent, last) ← t.locateEntry path
  let place := parent ++ [.given last]
  match t.get? place with
  | none => .ok (t.put place (.link target))
  | some _ => .error .alreadyExists

/-! ## Temporary files -/

/-- The numbers of all temporary files. -/
def tempNumbers (t : FileTree) : List Nat :=
  t.entries.keys.filterMap fun place =>
    match place.getLast? with
    | some (.temp n) => some n
    | _ => none

/-- A number that no temporary file has. -/
def freshNumber (t : FileTree) : Nat := t.tempNumbers.foldl max 0 + 1

end FileTree

end TopologyExporter
