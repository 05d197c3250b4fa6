import TopologyExporter.Collector.Error
import TopologyExporter.Files.Tree

/-!
# Atomic replacement

A file that others watch is never seen half written: its content is staged in a temporary file in
the same directory, which is then renamed over it.

* `stage` writes a temporary file and touches nothing else;
* `StagedFile.commit` renames it over its destination;
* `StagedFile.discard` removes it;
* `writeAtomically` does the first two.

Whatever fails removes the temporary file and leaves every other entry as it was.
-/

namespace TopologyExporter

/-- A content that has been written and waits to replace its destination: a temporary file, by the
path of its directory and its number. -/
structure StagedFile where
  directory : String
  number : Nat
  destination : String
deriving Repr, DecidableEq, Inhabited

/-- What a writer produces: the bytes it writes, and perhaps the error it ends with. -/
structure WriteAttempt where
  content : Bytes
  failure : Option FileError
deriving Repr, DecidableEq, Inhabited

namespace FileTree

/-- The place for a temporary file in a directory. -/
def tempPlace (t : FileTree) (directory : String) (number : Nat) : Except FileError Location := do
  checkPath directory
  let parent ← t.locateDirectory (Path.steps directory)
  pure (parent ++ [.temp number])

/-- Writes a temporary file next to a destination, which everyone may read, since its consumer
usually is another user. Nothing is left of it if the writer fails. -/
def stage (t : FileTree) (destination : String) (attempt : WriteAttempt) :
    Except CollectorError (StagedFile × FileTree) :=
  let directory := Path.directory destination
  let number := t.freshNumber
  match t.tempPlace directory number with
  | .error reason => .error (.persistence destination reason)
  | .ok place =>
    -- whatever has been written by then is removed again, so the tree is as before
    match attempt.failure with
    | some reason => .error (.persistence destination reason)
    | none =>
      .ok (⟨directory, number, destination⟩, t.put place (.file attempt.content publicMode))

/-- Renames what is at a place over the file that a path names. A symbolic link there is replaced
itself, and a directory is not replaced. -/
def rename (t : FileTree) (source : Except FileError Location) (destination : String) :
    Except FileError FileTree := do
  if '\x00' ∈ destination.toList then .error .invalidArgument
  checkPath destination
  let source ← source
  let (parent, last) ← t.locateEntry destination
  match t.get? source with
  | none => .error .notFound
  | some node =>
    if Path.maxName < Path.size last then .error .nameTooLong
    -- a path that ends in a slash asks for a directory, and this is a file
    else if Path.AsksDirectory destination then .error .notDirectory
    else
      let target := parent ++ [.given last]
      match t.get? target with
      | some .directory => .error .isDirectory
      | _ => .ok ((t.erase source).put target node)

end FileTree

namespace StagedFile

/-- Where the temporary file is. -/
def place (s : StagedFile) (t : FileTree) : Except FileError Location :=
  t.tempPlace s.directory s.number

/-- Removes the temporary file. -/
def discard (s : StagedFile) (t : FileTree) : FileTree :=
  match s.place t with
  | .ok place => t.erase place
  | .error _ => t

/-- Renames the temporary file over its destination, or removes it if that fails. -/
def commit (s : StagedFile) (t : FileTree) : Except CollectorError Unit × FileTree :=
  match t.rename (s.place t) s.destination with
  | .ok t => (.ok (), t)
  | .error reason => (.error (.persistence s.destination reason), s.discard t)

end StagedFile

namespace FileTree

/-- Replaces a file with what a writer produces. -/
def writeAtomically (t : FileTree) (destination : String) (attempt : WriteAttempt) :
    Except CollectorError Unit × FileTree :=
  match t.stage destination attempt with
  | .error e => (.error e, t)
  | .ok (staged, t) => staged.commit t

/-- Replaces a file with a content. -/
def persistAtomically (t : FileTree) (destination : String) (content : Bytes) :
    Except CollectorError Unit × FileTree :=
  t.writeAtomically destination ⟨content, none⟩

end FileTree

end TopologyExporter
