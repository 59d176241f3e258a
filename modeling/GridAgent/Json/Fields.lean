import GridAgent.Json

/-!
# Fields of a structure

A structure is written as an object with a member for each field, and may also be given as an array
of its fields in order. Members that are no fields are passed over; an array has no room for them.
-/

namespace GridAgent.Json

/-- The fields of a structure that were given, by name. -/
abbrev Fields : Type := String → Option Json

/-- The fields of a structure with given names. An array has at least so many items. -/
def fields? (names : List String) (least : Nat) : Json → Option Fields
  | .obj members => some fun name => (Json.obj members).member? name
  | .arr items =>
    if least ≤ items.length ∧ items.length ≤ names.length then
      some fun name => (names.zip items).lookup name
    else none
  | _ => none

/-- The fields of a structure, all of which an array has. -/
def allFields? (names : List String) (j : Json) : Option Fields := j.fields? names names.length

namespace Fields

variable {α : Type}

/-- A field that must be there. -/
def required (f : Fields) (read : Json → Option α) (name : String) : Option α := f name >>= read

/-- A field that may be missing or null. -/
def optional (f : Fields) (read : Json → Option α) (name : String) : Option (Option α) :=
  match f name with
  | none => some none
  | some j => j.nullable? read

/-- A field that may be missing and then has a default. -/
def withDefault (f : Fields) (read : Json → Option α) (default : α) (name : String) : Option α :=
  match f name with
  | none => some default
  | some j => read j

end Fields

end GridAgent.Json
