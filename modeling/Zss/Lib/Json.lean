import Mathlib.Data.List.Basic

/-!
# JSON values

JSON values with the lookups of a reader that goes on where something is missing: what is not there,
or is of another type, is no object, no array, no string, the number zero, or false.
-/

namespace Zss.Lib

inductive Json where
  | string (text : List Char)
  | number (n : Int)
  | boolean (b : Bool)
  | array (items : List Json)
  | object (properties : List (String × Json))

namespace Json

/-- The properties of an object; where there is no object there are none. -/
abbrev Properties := List (String × Json)

/-! ## Values by type -/

def asObject : Json → Option Properties
  | object properties => some properties
  | _ => none

def asArray : Json → Option (List Json)
  | array items => some items
  | _ => none

def asString : Json → Option (List Char)
  | string text => some text
  | _ => none

def asNumber : Json → Int
  | number n => n
  | _ => 0

def asBoolean : Json → Bool
  | boolean b => b
  | _ => false

@[simp] theorem asObject_object (properties : List (String × Json)) :
    (object properties).asObject = some properties := rfl

@[simp] theorem asArray_array (items : List Json) : (array items).asArray = some items := rfl

@[simp] theorem asString_string (text : List Char) : (string text).asString = some text := rfl

@[simp] theorem asNumber_number (n : Int) : (number n).asNumber = n := rfl

@[simp] theorem asBoolean_boolean (b : Bool) : (boolean b).asBoolean = b := rfl

/-! ## Properties -/

namespace Properties

variable (properties : Properties) (key : String)

/-- The first property under a key. -/
def value : Option Json := (properties.find? fun p => p.1 == key).map Prod.snd

def hasKey : Bool := (properties.value key).isSome

def getObject : Properties := ((properties.value key).bind asObject).getD []

def getArray : List Json := ((properties.value key).bind asArray).getD []

def getString : Option (List Char) := (properties.value key).bind asString

def getNumber : Int := ((properties.value key).map asNumber).getD 0

def getBoolean : Bool := ((properties.value key).map asBoolean).getD false

variable {properties key}

@[simp] theorem value_nil : Properties.value [] key = none := rfl

/-- A property in front is found under its key, and is gone past under another. -/
theorem value_cons (p : String × Json) :
    Properties.value (p :: properties) key =
      if p.1 = key then some p.2 else Properties.value properties key := by
  rw [value, List.find?_cons]
  by_cases h : p.1 = key
  · rw [if_pos h, beq_iff_eq.mpr h]
    rfl
  · rw [if_neg h, beq_eq_false_iff_ne.mpr h]
    rfl

/-- Where the first properties have the key, they are what is looked up. -/
theorem value_append {others : Properties} :
    Properties.value (properties ++ others) key =
      (properties.value key).or (others.value key) := by
  induction properties with
  | nil => rfl
  | cons p properties ih =>
    rw [List.cons_append, value_cons, value_cons, ih]
    split
    · rfl
    · rfl

end Properties

end Json

end Zss.Lib
