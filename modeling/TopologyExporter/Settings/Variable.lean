import TopologyExporter.Text.Keyed

/-!
# Settings in the environment

Settings are environment variables whose names begin with a prefix, in any case. The rest of a name
is the key, which may go into the value: `key.part` makes the value a map and `key[0]` a list, and
neither is of use for a setting.
-/

namespace TopologyExporter.Settings

/-- The names and values of environment variables. -/
abbrev Environment := List (String × String)

/-- What a key leads to. -/
inductive Entry
  | text (value : String)
  | map
  | list
deriving Repr, DecidableEq, Inhabited

/-- What the names of settings begin with, in lower case. -/
def variablePrefix : List Char := "bosh_exporter_".toList

/-- Whether a character can be part of a key. -/
def isKeyChar (c : Char) : Bool := c.isAlphanum || c = ' ' || c = '_' || c = '-'

/-- Whether a text is what a list index can be. -/
def isIndex (cs : List Char) : Bool :=
  let digits :=
    match cs with
    | '-' :: rest => rest
    | '+' :: rest => rest
    | cs => cs
  !digits.isEmpty && digits.all Char.isDigit

/-- Whether characters are steps into a value: parts after points and indices between brackets. -/
def areSteps : (fuel : Nat) → List Char → Bool
  | _, [] => true
  | 0, _ => false
  | fuel + 1, '.' :: rest =>
    let part := rest.takeWhile isKeyChar
    !part.isEmpty && areSteps fuel (rest.drop part.length)
  | fuel + 1, '[' :: rest =>
    let index := rest.takeWhile (· ≠ ']')
    match rest.drop index.length with
    | [] => false
    | _ :: rest => isIndex index && areSteps fuel rest
  | _ + 1, _ => false

/-- The key of a name after the prefix, and what the value becomes by it. A key that makes no sense
leads nowhere. -/
def entry? (name : List Char) (value : String) : Option (String × Entry) :=
  let key := name.takeWhile isKeyChar
  let steps := name.drop key.length
  if key.isEmpty || !areSteps steps.length steps then none
  else
    some (String.ofList key,
      match steps with
      | [] => .text value
      | '.' :: _ => .map
      | _ => .list)

/-- The setting of a variable, if it is one. -/
def ofVariable? (name value : String) : Option (String × Entry) :=
  let lower := name.toList.map Char.toLower
  if variablePrefix.isPrefixOf lower then entry? (lower.drop variablePrefix.length) value else none

/-- The settings of an environment; of two of one key the later counts. -/
def entries (environment : Environment) : Keyed String Entry :=
  .ofList (environment.filterMap fun e => ofVariable? e.1 e.2)

end TopologyExporter.Settings
