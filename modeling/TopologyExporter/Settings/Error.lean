import TopologyExporter.Text.Quoted

/-!
# Refused settings

Why the settings of an environment are refused.
-/

namespace TopologyExporter

/-- A form that a setting has but should not have, or should have but does not. -/
inductive SettingsError
  /-- The value is no number. -/
  | notNumber (key value : String)
  /-- The value is a number beyond 16 bits. -/
  | tooGreat (key : String) (value : Nat)
  /-- There is a map where a `wanted` should be. -/
  | map (key wanted : String)
  /-- There is a list where a `wanted` should be. -/
  | list (key wanted : String)
  /-- The value is zero. -/
  | zero (key : String)
deriving Repr, DecidableEq, Inhabited

namespace SettingsError

/-- What is wrong with the form of a value. -/
def unexpected (key found wanted : String) : String :=
  "invalid type: " ++ found ++ ", expected " ++ wanted ++ " for key \x60" ++ key ++ "\x60"

/-- The text of the error behind this one: what is wrong with the form of a value. -/
def source? : SettingsError → Option String
  | notNumber key value =>
    some (unexpected key ("string " ++ Text.quoted value) "an integer" ++ " in the environment")
  | tooGreat key value =>
    some (unexpected key ("64-bit unsigned integer \x60" ++ toString value ++ "\x60")
      "an unsigned 16 bit integer")
  | map key wanted => some (unexpected key "map" wanted)
  | list key wanted => some (unexpected key "sequence" wanted)
  | zero _ => none

/-- The text of the error. -/
def message : SettingsError → String
  | zero key => key ++ " must be positive"
  | _ => "Invalid exporter configuration"

end SettingsError

end TopologyExporter
