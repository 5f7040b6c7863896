import GridQuery.Number.Binary64

/-!
# JSON Values

Cells, terms and messages are JSON values. A number is an integer or a double, because the two are
shown and compared differently. An object is a list of fields; the objects that the library builds
keep their fields sorted by key, each key once, so that equal objects have equal fields. Keys are
compared by code point, which is the order of their UTF-8 bytes.

A document that was just read keeps its fields as they were written, repetitions included, because
a record may be read only if no known field is given twice. `Json.normal` sorts them, the last
value of a repeated key winning.

## Main definitions

* `Number`, `Json`, `Fields`: The values.
* `Fields.insert`, `Fields.overlay`: Writing one field, or many.
* `Json.normal`: The value with every object sorted.
* `Json.field?`, `Json.string?`, `Json.array?`: Views of a value.

## Theorems

* `Fields.lookup_insert`: Reading a field after writing one.
* `Fields.lookup_overlay`: The last value written wins.
-/

namespace GridQuery

/-- A JSON number: an integer, or a double. -/
inductive Number
  | int (value : Int)
  | double (value : Binary64)
  deriving DecidableEq, Repr

/-- The double nearest to a number. -/
def Number.toBinary64 : Number → Binary64
  | .int n => .ofInt n
  | .double x => x

/-- A JSON value. -/
inductive Json
  | null
  | bool (value : Bool)
  | number (value : Number)
  | string (value : String)
  | array (items : List Json)
  | object (fields : List (String × Json))
  deriving Inhabited, Repr

/-- The fields of an object. -/
abbrev Fields := List (String × Json)

namespace Json

mutual

/-- Equality of values. -/
def beq : Json → Json → Bool
  | .null, .null => true
  | .bool a, .bool b => a == b
  | .number a, .number b => a == b
  | .string a, .string b => a == b
  | .array a, .array b => beqItems a b
  | .object a, .object b => beqFields a b
  | _, _ => false

def beqItems : List Json → List Json → Bool
  | [], [] => true
  | a :: as, b :: bs => beq a b && beqItems as bs
  | _, _ => false

def beqFields : List (String × Json) → List (String × Json) → Bool
  | [], [] => true
  | (k, a) :: as, (l, b) :: bs => k == l && beq a b && beqFields as bs
  | _, _ => false

end

mutual

theorem eq_of_beq : ∀ {a b : Json}, beq a b = true → a = b
  | .null, .null, _ => rfl
  | .bool _, .bool _, h | .number _, .number _, h | .string _, .string _, h => by
      simpa [beq] using h
  | .array a, .array b, h => congrArg _ (eq_of_beqItems (by simpa [beq] using h))
  | .object a, .object b, h => congrArg _ (eq_of_beqFields (by simpa [beq] using h))

theorem eq_of_beqItems : ∀ {a b : List Json}, beqItems a b = true → a = b
  | [], [], _ => rfl
  | a :: as, b :: bs, h => by
      simp only [beqItems, Bool.and_eq_true] at h
      rw [eq_of_beq h.1, eq_of_beqItems h.2]

theorem eq_of_beqFields : ∀ {a b : List (String × Json)}, beqFields a b = true → a = b
  | [], [], _ => rfl
  | (k, a) :: as, (l, b) :: bs, h => by
      simp only [beqFields, Bool.and_eq_true, beq_iff_eq] at h
      rw [h.1.1, eq_of_beq h.1.2, eq_of_beqFields h.2]

end

mutual

theorem beq_self : ∀ a : Json, beq a a = true
  | .null => rfl
  | .bool _ | .number _ | .string _ => by simp [beq]
  | .array a => by simpa [beq] using beqItems_self a
  | .object a => by simpa [beq] using beqFields_self a

theorem beqItems_self : ∀ a : List Json, beqItems a a = true
  | [] => rfl
  | a :: as => by simp [beqItems, beq_self a, beqItems_self as]

theorem beqFields_self : ∀ a : List (String × Json), beqFields a a = true
  | [] => rfl
  | (_, a) :: as => by simp [beqFields, beq_self a, beqFields_self as]

end

instance : DecidableEq Json := fun a b =>
  if h : beq a b = true then isTrue (eq_of_beq h)
  else isFalse fun e => h (e ▸ beq_self a)

/-- The text of a string value. -/
def string? : Json → Option String
  | .string s => some s
  | _ => none

/-- The items of an array value. -/
def array? : Json → Option (List Json)
  | .array items => some items
  | _ => none

/-- The fields of an object value. -/
def object? : Json → Option Fields
  | .object fields => some fields
  | _ => none

/-- The value of a field of an object. -/
def field? (value : Json) (key : String) : Option Json :=
  value.object?.bind fun fields => fields.lookup key

end Json

namespace Fields

/-- Writes one field: at its place in the order of keys, or over the value it had. -/
def insert (key : String) (value : Json) : Fields → Fields
  | [] => [(key, value)]
  | (k, v) :: rest =>
    if k = key then (key, value) :: rest
    else if key < k then (key, value) :: (k, v) :: rest
    else (k, v) :: insert key value rest

/-- Writes fields over fields, in order. -/
def overlay (fields written : Fields) : Fields :=
  written.foldl (fun acc (key, value) => insert key value acc) fields

/-- The fields sorted by key, the last value of a repeated key winning. -/
def sorted (written : Fields) : Fields :=
  overlay [] written

theorem lookup_cons (key k : String) (v : Json) (rest : Fields) :
    List.lookup key ((k, v) :: rest) = if key = k then some v else rest.lookup key := by
  rw [List.lookup_cons]
  by_cases h : key = k
  · rw [beq_iff_eq.2 h, if_pos h]
  · rw [beq_eq_false_iff_ne.2 h, if_neg h]

theorem lookup_insert (key key' : String) (value : Json) (fields : Fields) :
    (insert key value fields).lookup key' =
      if key' = key then some value else fields.lookup key' := by
  induction fields with
  | nil => simp [insert, lookup_cons]
  | cons head rest ih =>
      obtain ⟨k, v⟩ := head
      -- The key stands here already, is put in front of this one, or goes further down.
      simp only [insert]
      split
      · next hk =>
          subst hk
          simp only [lookup_cons]
          split <;> rfl
      · next hk =>
          split
          · exact lookup_cons key' key value _
          · simp only [lookup_cons, ih]
            by_cases h : key' = k
            · subst h
              simp [hk]
            · simp [h]

theorem lookup_overlay (key : String) (fields written : Fields) :
    (overlay fields written).lookup key =
      (written.reverse.lookup key).or (fields.lookup key) := by
  induction written generalizing fields with
  | nil => simp [overlay]
  | cons head rest ih =>
      obtain ⟨k, v⟩ := head
      have hstep : overlay fields ((k, v) :: rest) = overlay (insert k v fields) rest := rfl
      rw [hstep, ih, lookup_insert, List.reverse_cons, List.lookup_append]
      cases rest.reverse.lookup key with
      | some w => simp
      | none => by_cases h : key = k <;> simp [lookup_cons, h]

end Fields

namespace Json

mutual

/-- The value with the fields of every object sorted. -/
def normal : Json → Json
  | .array items => .array (normalItems items)
  | .object fields => .object (Fields.sorted (normalFields fields))
  | value => value

def normalItems : List Json → List Json
  | [] => []
  | item :: rest => item.normal :: normalItems rest

def normalFields : List (String × Json) → List (String × Json)
  | [] => []
  | (key, value) :: rest => (key, value.normal) :: normalFields rest

end

end Json

end GridQuery
