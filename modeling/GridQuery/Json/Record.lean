import GridQuery.Json.Basic

/-!
# Records in JSON

Reading values of the library's own types from JSON. A record is written as an object, or as the
array of its fields in the order in which they are declared.

The fields of an object are visited in the order in which they stand, and the first fault met is
the one reported: a value that does not fit its field, a field given twice, or, for a strict record,
a field that is not declared. What is missing is looked for last, in the order of declaration. An
array may leave out fields at its end that are not required, and may hold no more than are declared.

## Main definitions

* `ShapeError`: Why a value cannot be read.
* `Shape`: A way to read a value.
* `Shape.string`, `Shape.list`, `Shape.optional`, `Shape.variant`: Simple shapes.
* `FieldShape`, `Shape.record`: Records.
-/

namespace GridQuery

/-- Why a JSON value cannot be read as what it should be. -/
inductive ShapeError
  | missingField (name : String)
  | unknownField (name : String)
  | duplicateField (name : String)
  | unknownVariant (name : String)
  | invalidType
  | invalidLength
  | invalidValue
  deriving DecidableEq, Repr

/-- The wording of a shape error. -/
def ShapeError.message : ShapeError → String
  | .missingField name => "missing field `" ++ name ++ "`"
  | .unknownField name => "unknown field `" ++ name ++ "`"
  | .duplicateField name => "duplicate field `" ++ name ++ "`"
  | .unknownVariant name => "unknown variant `" ++ name ++ "`"
  | .invalidType => "invalid type"
  | .invalidLength => "invalid length"
  | .invalidValue => "invalid value"

/-- A way to read a value from JSON. -/
abbrev Shape (α : Type) := Json → Except ShapeError α

/-- A field of a record: its name, whether it has to be there, and how its value is put into the
record. -/
structure FieldShape (ρ : Type) where
  name : String
  required : Bool
  put : ρ → Json → Except ShapeError ρ

namespace Shape

variable {α ρ : Type}

/-- Any value, its objects sorted. -/
def any : Shape Json := fun value => .ok value.normal

def string : Shape String
  | .string s => .ok s
  | _ => .error .invalidType

/-- A list of values of one shape. -/
def list (item : Shape α) : Shape (List α)
  | .array items => items.mapM item
  | _ => .error .invalidType

/-- A value that may be null. -/
def optional (shape : Shape α) : Shape (Option α)
  | .null => .ok none
  | value => (shape value).map some

/-- The fields of an object, sorted. -/
def fields : Shape Fields
  | .object written => .ok (Fields.sorted (Json.normalFields written))
  | _ => .error .invalidType

/-- One of a list of named variants: its name, or an object that gives the name a null. -/
def variant (named? : String → Option α) : Shape α
  | .string name => (named? name).elim (.error (.unknownVariant name)) .ok
  | .object [(name, value)] =>
    match named? name, value with
    | none, _ => .error (.unknownVariant name)
    | some a, .null => .ok a
    | some _, _ => .error .invalidType
  | .object _ => .error .invalidValue
  | _ => .error .invalidType

/-- Reads a record from the fields of an object, given the names met so far. -/
def fromFields (shapes : List (FieldShape ρ)) (strict : Bool) :
    List String → ρ → Fields → Except ShapeError ρ
  | met, acc, [] =>
    match shapes.find? fun shape => shape.required && !met.contains shape.name with
    | some shape => .error (.missingField shape.name)
    | none => .ok acc
  | met, acc, (key, value) :: rest =>
    match shapes.find? fun shape => shape.name == key with
    | none => if strict then .error (.unknownField key) else fromFields shapes strict met acc rest
    | some shape =>
      if met.contains key then .error (.duplicateField key)
      else match shape.put acc value with
        | .error e => .error e
        | .ok acc => fromFields shapes strict (key :: met) acc rest

/-- Reads a record from the items of an array. -/
def fromItems : List (FieldShape ρ) → ρ → List Json → Except ShapeError ρ
  | [], acc, [] => .ok acc
  | [], _, _ :: _ => .error .invalidLength
  | shape :: shapes, acc, [] =>
    if shape.required then .error .invalidLength else fromItems shapes acc []
  | shape :: shapes, acc, item :: rest =>
    match shape.put acc item with
    | .error e => .error e
    | .ok acc => fromItems shapes acc rest

/-- A record with the fields of these shapes; the blank record holds what an absent field means. A
strict record has no other fields. -/
def record (strict : Bool) (blank : ρ) (shapes : List (FieldShape ρ)) : Shape ρ
  | .object fields => fromFields shapes strict [] blank fields
  | .array items => fromItems shapes blank items
  | _ => .error .invalidType

end Shape

/-- A field whose value is put into the record by a setter. -/
def FieldShape.of {α ρ : Type} (name : String) (required : Bool) (shape : Shape α)
    (set : ρ → α → ρ) : FieldShape ρ :=
  ⟨name, required, fun acc value => (shape value).map (set acc)⟩

/-- The field of an object under a key, if there is a value to write. -/
def Json.fieldIf (key : String) (value : Option Json) : Fields :=
  value.toList.map fun v => (key, v)

end GridQuery
