import Mathlib.Data.List.Basic

/-!
# Keyed decoding of JSON values

A document as the serializer hands it over, and the containers a decoder reads
it through. An object is a dictionary, so where a key is repeated one member
stands for it, here the first. The decoder of an element is the parameter `read`.
-/

namespace NewsReader

inductive JSON
  | null
  | bool (value : Bool)
  | number (literal : String)
  | string (value : String)
  | array (elements : List JSON)
  | object (members : List (String × JSON))

inductive DecodingError
  | keyNotFound (key : String)
  | valueNotFound
  | typeMismatch
  | dataCorrupted
  deriving DecidableEq, Repr

theorem bind_eq_ok {ε α β : Type} {x : Except ε α} {f : α → Except ε β} {b : β} :
    x >>= f = .ok b ↔ ∃ a, x = .ok a ∧ f a = .ok b := by
  cases x <;> simp [bind, Except.bind]

theorem toOption_eq_some {ε α : Type} {x : Except ε α} {a : α} :
    x.toOption = some a ↔ x = .ok a := by
  cases x <;> simp [Except.toOption]

namespace JSON

/-- `decoder.container(keyedBy:)`. -/
def container : JSON → Except DecodingError (List (String × JSON))
  | object members => .ok members
  | null => .error .valueNotFound
  | _ => .error .typeMismatch

/-- `decoder.unkeyedContainer()`. -/
def unkeyedContainer : JSON → Except DecodingError (List JSON)
  | array elements => .ok elements
  | null => .error .valueNotFound
  | _ => .error .typeMismatch

/-- `String.init(from:)`. -/
def unboxString : JSON → Except DecodingError String
  | string value => .ok value
  | null => .error .valueNotFound
  | _ => .error .typeMismatch

section Containers

variable {α : Type} (read : JSON → Except DecodingError α)

/-- `container.decode(_:forKey:)`. -/
def decode (container : List (String × JSON)) (key : String) : Except DecodingError α :=
  match container.lookup key with
  | some value => read value
  | none => .error (.keyNotFound key)

/-- `container.decodeIfPresent(_:forKey:)`: an absent member and a null one are both nil. -/
def decodeIfPresent (container : List (String × JSON)) (key : String) :
    Except DecodingError (Option α) :=
  match container.lookup key with
  | none => .ok none
  | some null => .ok none
  | some value => (read value).map some

/-- `Array.init(from:)`. The first element that throws ends it. -/
def decodeArray (json : JSON) : Except DecodingError (List α) := do
  let elements ← json.unkeyedContainer
  elements.mapM read

end Containers

/-! ## What a value holds -/

/-- The member an object has under a key. Values of the other kinds have none. -/
def member : JSON → String → Option JSON
  | object members, key => members.lookup key
  | _, _ => none

/-- The string under a key, where there is one. -/
def text (json : JSON) (key : String) : Option String :=
  match json.member key with
  | some (string value) => some value
  | _ => none

/-- A string or null. -/
def IsOptionalString (json : JSON) : Prop := json = null ∨ ∃ value, json = string value

@[simp] theorem member_object (members : List (String × JSON)) (key : String) :
    (object members).member key = members.lookup key := rfl

theorem member_eq_some {json value : JSON} {key : String} :
    json.member key = some value ↔
      ∃ members, json = object members ∧ members.lookup key = some value := by
  cases json <;> simp [member]

theorem container_eq_ok {json : JSON} {members : List (String × JSON)} :
    json.container = .ok members ↔ json = object members := by
  cases json <;> simp [container]

theorem unboxString_eq_ok {json : JSON} {value : String} :
    json.unboxString = .ok value ↔ json = string value := by
  cases json <;> simp [unboxString]

theorem text_eq_some {json : JSON} {key value : String} :
    json.text key = some value ↔ json.member key = some (string value) := by
  unfold text
  split
  · rename_i found
    simp [found]
  · rename_i other
    constructor
    · intro h
      cases h
    · intro h
      exact absurd h (other value)

section Decoders

variable {α : Type} {read : JSON → Except DecodingError α}

theorem decode_eq_ok {members : List (String × JSON)} {key : String} {value : α} :
    decode read members key = .ok value ↔
      ∃ json, members.lookup key = some json ∧ read json = .ok value := by
  unfold decode
  split
  · rename_i json found
    simp [found]
  · rename_i absent
    simp [absent]

/-- `try?` on a string member. -/
theorem toOption_decode_unboxString {members : List (String × JSON)} {key : String} :
    (decode unboxString members key).toOption = (object members).text key := by
  unfold decode text
  rw [member_object]
  cases members.lookup key with
  | none => rfl
  | some json => cases json <;> rfl

theorem decodeIfPresent_unboxString_eq_ok {members : List (String × JSON)} {key : String}
    {value : Option String} :
    decodeIfPresent unboxString members key = .ok value ↔
      (∀ json, members.lookup key = some json → json.IsOptionalString) ∧
        (object members).text key = value := by
  unfold decodeIfPresent text
  rw [member_object]
  cases members.lookup key with
  | none => simp
  | some json => cases json <;> simp [IsOptionalString, unboxString, Except.map]

/-- With a decoder that never throws, the elements of an array are decoded one by one. -/
theorem decodeArray_eq_ok {decoded : JSON → α} (total : ∀ json, read json = .ok (decoded json))
    {json : JSON} {values : List α} :
    decodeArray read json = .ok values ↔
      ∃ elements, json = array elements ∧ values = elements.map decoded := by
  have each (elements : List JSON) : elements.mapM read = .ok (elements.map decoded) := by
    rw [funext total]
    exact List.mapM_pure
  cases json with
  | array elements =>
    have all : decodeArray read (array elements) = .ok (elements.map decoded) := each elements
    simp [all, eq_comm]
  | null | bool | number | string | object =>
    constructor
    · intro h
      cases h
    · rintro ⟨_, other, _⟩
      cases other

end Decoders

end JSON

end NewsReader
