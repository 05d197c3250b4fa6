import TopologyExporter.Text.Blank

/-!
# Paths

The parts of the path of a file as it is written.
-/

namespace TopologyExporter.Path

/-- The most bytes that a name can have. -/
def maxName : Nat := 255

/-- The most bytes that a path can have. -/
def maxPath : Nat := 4095

/-- A path starts at the root: its first character is a slash. -/
def IsAbsolute (path : String) : Prop := '/' ∈ path.toList.take 1

instance (path : String) : Decidable (IsAbsolute path) :=
  inferInstanceAs (Decidable ('/' ∈ path.toList.take 1))

/-- A path ends in a slash, which only a directory allows. -/
def AsksDirectory (path : String) : Prop := '/' ∈ path.toList.reverse.take 1

instance (path : String) : Decidable (AsksDirectory path) :=
  inferInstanceAs (Decidable ('/' ∈ path.toList.reverse.take 1))

/-- The bytes that a path or a name takes in UTF-8. -/
def size (path : String) : Nat := (path.toList.flatMap String.utf8EncodeChar).length

/-- The names that a path is made of, from the first one on. -/
def names (path : String) : List String := (Text.split '/' path).filter (· ≠ "")

/-- The steps that a path asks for. A slash at its end is one more step, to the place itself. -/
def steps (path : String) : List String :=
  if AsksDirectory path then names path ++ ["."] else names path

/-- The path of the directory that holds what a path names. Steps to the place itself do not count,
but for a first one. -/
def directory (path : String) : String :=
  let counted :=
    match names path with
    | [] => []
    | first :: rest =>
      let rest := rest.filter (· ≠ ".")
      if first = "." ∧ IsAbsolute path then rest else first :: rest
  match counted with
  | [] => "."
  | counted =>
    let above := "/".intercalate counted.dropLast
    if IsAbsolute path then "/" ++ above else if above = "" then "." else above

end TopologyExporter.Path
