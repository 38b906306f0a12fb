import Magnetometer.Json.Number

/-!
# Reading values as types

A structure is read from an object by the names of its fields or from an array
by their order.  Names that are no field are passed over; a field may be given
once.  A constant is read from its name, or from an object whose one member has
that name and is null.
-/

namespace Magnetometer.Json

open Number

/-- A value as an integer within bounds. -/
def asInteger? (low high : Int) : Json → Option Int
  | .number n => n.integerIn? low high
  | _ => none

/-- A value as a single precision number. -/
def asSingle? : Json → Option Single
  | .number n => n.single?
  | _ => none

/-- A value as a text. -/
def asText? : Json → Option String
  | .string text => text.map String.ofList
  | _ => none

/-- A value as the name of a constant. -/
def asName? : Json → Option String
  | .string text => text.map String.ofList
  | .object [(some name, .null)] => some (String.ofList name)
  | _ => none

/-- A value as an array. -/
def asArray? : Json → Option (List Json)
  | .array items => some items
  | _ => none

/-- The members of a name. -/
def membersOf (name : String) (members : List (Option (List Char) × Json)) : List Json :=
  members.filterMap fun (key, value) => if key = some name.toList then some value else none

/-- The value of a field that is given at most once. -/
def member? (members : List (Option (List Char) × Json)) (name : String) :
    Option (Option Json) :=
  match membersOf name members with
  | [] => some none
  | [value] => some (some value)
  | _ => none

/-- The values of the fields of a structure, each with the value it is given, if
it is given one. -/
def fields? (names : List String) : Json → Option (List (Option Json))
  | .object members =>
      if members.all fun (key, _) => key.isSome then names.mapM (member? members) else none
  | .array items =>
      if items.length ≤ names.length then
        some (items.map some ++ List.replicate (names.length - items.length) none)
      else
        none
  | _ => none

/-- Read a field; one that is not given has its default, if there is one. -/
def field? {α : Type} (read : Json → Option α) (default : Option α) :
    Option (Option Json) → Option α
  | some (some value) => read value
  | some none => default
  | none => none

end Magnetometer.Json
