import Storyline.Decimal.Precision
import Storyline.Json.Value

set_option autoImplicit false

/-!
Typed reading of JSON values. A record is an object, in which unknown fields are passed over and known ones may not repeat,
or the array of its fields in order, of which only those with a default may be missing at the end. A choice between variants
is a text for a variant without data, or an object with one field. A tagged choice is an object one of whose fields names
the variant, or an array that starts with the name. Where a value stands decides what else may name a variant without data.
-/

namespace Storyline.Json

def bool? : Json → Option Bool
  | .bool value => some value
  | _ => none

def text? : Json → Option String
  | .text value => some value
  | _ => none

def below? (bound : Nat) : Json → Option Nat
  | .integer value => if 0 ≤ value ∧ value < bound then some value.toNat else none
  | _ => none

def uint16? (json : Json) : Option Nat := json.below? UInt16.size

def uint32? (json : Json) : Option UInt32 := (json.below? UInt32.size).map Nat.toUInt32

def uint64? (json : Json) : Option UInt64 := (json.below? UInt64.size).map Nat.toUInt64

def natural? (json : Json) : Option Nat := json.below? UInt64.size

def float? : Json → Option Float
  | .integer value =>
    some (if 0 ≤ value then value.toNat.toUInt64.toFloat else -(-value).toNat.toUInt64.toFloat)
  | .float value => some value
  | _ => none

def float32? : Json → Option Float32
  | .integer value =>
    some (if 0 ≤ value then value.toNat.toUInt64.toFloat32 else -(-value).toNat.toUInt64.toFloat32)
  | .float value => some (Decimal.narrow value)
  | _ => none

def array? : Json → Option (List Json)
  | .array items => some items
  | _ => none

def optional? {α : Type} (read : Json → Option α) : Json → Option (Option α)
  | .null => some none
  | json => (read json).map some

def list? {α : Type} (read : Json → Option α) (json : Json) : Option (List α) := json.array?.bind fun items => items.mapM read

def table? {α : Type} (read : Json → Option α) : Json → Option (List (String × α))
  | .object fields => fields.mapM fun field => (read field.2).map fun value => (field.1, value)
  | _ => none

def repeats (fields : List (String × Json)) (name : String) : Bool :=
  decide (1 < (fields.filter fun field => field.1 = name).length)

def record? (names : List String) (required : Nat) : Json → Option (List (String × Json))
  | .object fields => if names.any (repeats fields) then none else some fields
  | .array items => if required ≤ items.length ∧ items.length ≤ names.length then some (names.zip items) else none
  | _ => none

def field? (fields : List (String × Json)) (name : String) : Option Json :=
  (fields.find? fun field => field.1 = name).map Prod.snd

def required? {α : Type} (fields : List (String × Json)) (name : String) (read : Json → Option α) : Option α :=
  (field? fields name).bind read

def defaulted? {α : Type} (fields : List (String × Json)) (name : String) (default : α) (read : Json → Option α) :
    Option α :=
  match field? fields name with
  | none => some default
  | some json => read json

def variant? : Json → Option (String × Option Json)
  | .text name => some (name, none)
  | .object [(name, data)] => some (name, some data)
  | _ => none

inductive Place where
  | direct
  | tagged
  | settings
  deriving DecidableEq, Repr

def Place.isNothing : Place → Json → Bool
  | .direct, .null | .tagged, .null => true
  | .tagged, .object [] | .settings, .object [] => true
  | .settings, .array [] => true
  | _, _ => false

def unitVariant? (place : Place) (json : Json) : Option String :=
  match json.variant? with
  | some (name, none) => some name
  | some (name, some data) => if place.isNothing data then some name else none
  | none => none

def choice? {α : Type} (all : List α) (name : α → String) (place : Place) (json : Json) : Option α :=
  (json.unitVariant? place).bind fun given => all.find? fun value => name value = given

/-- The variant that the tag names, and the remaining fields. All parts have to be readable, needed or not. -/
def tagged? (tag : String) (json : Json) : Option (String × Json) :=
  if json.readable then
    match json with
    | .object fields =>
      if repeats fields tag then none
      else (required? fields tag text?).map fun name => (name, .object (fields.filter fun field => field.1 ≠ tag))
    | .array (.text name :: items) => some (name, .array items)
    | _ => none
  else none

theorem record?_smaller {names : List String} {required : Nat} {json : Json} {fields : List (String × Json)}
    (read : record? names required json = some fields) {field : String × Json} (member : field ∈ fields) :
    sizeOf field.2 < sizeOf json := by
  cases json with
  | object given =>
    simp only [record?] at read
    split at read
    · contradiction
    · cases read
      have step := List.sizeOf_lt_of_mem member
      have pair : sizeOf field = 1 + sizeOf field.1 + sizeOf field.2 := by cases field; rfl
      simp only [Json.object.sizeOf_spec]
      omega
  | array items =>
    simp only [record?] at read
    split at read
    · cases read
      have step := List.sizeOf_lt_of_mem (List.of_mem_zip member).2
      simp only [Json.array.sizeOf_spec]
      omega
    · contradiction
  | _ => simp [record?] at read

theorem field?_mem {fields : List (String × Json)} {name : String} {json : Json}
    (found : field? fields name = some json) : ∃ field ∈ fields, field.2 = json := by
  simp only [field?, Option.map_eq_some_iff] at found
  obtain ⟨field, at_field, rfl⟩ := found
  exact ⟨field, List.mem_of_find?_eq_some at_field, rfl⟩

theorem field?_smaller {names : List String} {required : Nat} {json value : Json} {fields : List (String × Json)}
    {name : String} (read : record? names required json = some fields) (found : field? fields name = some value) :
    sizeOf value < sizeOf json := by
  obtain ⟨field, member, rfl⟩ := field?_mem found
  exact record?_smaller read member

end Storyline.Json
