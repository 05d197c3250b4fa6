import TopologyExporter.Text.Quoted

/-!
# JSON values

The values that are written as JSON, and their compact text: members in the given order, no blanks,
and an escape only where a string needs one.
-/

namespace TopologyExporter

/-- A JSON value whose numbers are whole. -/
inductive Json
  | null
  | bool (b : Bool)
  | number (n : Int)
  | text (s : String)
  | list (items : List Json)
  | object (members : List (String × Json))
deriving Repr, Inhabited

namespace Json

/-- A character as it stands in a JSON string. -/
def escapeChar (c : Char) : List Char :=
  match c with
  | '"' => ['\\', '"']
  | '\\' => ['\\', '\\']
  | '\x08' => ['\\', 'b']
  | '\x0c' => ['\\', 'f']
  | '\n' => ['\\', 'n']
  | '\r' => ['\\', 'r']
  | '\t' => ['\\', 't']
  | c => if c.toNat < 0x20 then ['\\', 'u'] ++ Text.hexDigits 4 c.toNat else [c]

/-- A JSON string. -/
def stringChars (s : String) : List Char := '"' :: (s.toList.flatMap escapeChar ++ ['"'])

mutual

/-- The characters of the compact text of a value. -/
def chars : Json → List Char
  | null => ['n', 'u', 'l', 'l']
  | bool true => ['t', 'r', 'u', 'e']
  | bool false => ['f', 'a', 'l', 's', 'e']
  | number n => (toString n).toList
  | text s => stringChars s
  | list [] => ['[', ']']
  | list (item :: rest) => '[' :: (item.chars ++ itemChars rest)
  | object [] => ['\x7b', '\x7d']
  | object ((name, value) :: rest) =>
    '\x7b' :: (stringChars name ++ ':' :: (value.chars ++ memberChars rest))

/-- The characters of the items of a list after the first, and of its end. -/
def itemChars : List Json → List Char
  | [] => [']']
  | item :: rest => ',' :: (item.chars ++ itemChars rest)

/-- The characters of the members of an object after the first, and of its end. -/
def memberChars : List (String × Json) → List Char
  | [] => ['\x7d']
  | (name, value) :: rest =>
    ',' :: (stringChars name ++ ':' :: (value.chars ++ memberChars rest))

end

/-- The compact text of a value. -/
def render (j : Json) : String := String.ofList j.chars

end Json

end TopologyExporter
