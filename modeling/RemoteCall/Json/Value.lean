import RemoteCall.Decimal.Double

/-!
# JSON values

Parameters and results of remote calls are JSON values.  Whole numbers keep their exact value in
the signed and unsigned 64-bit ranges; all other numbers are double precision.  An object lists
its members by strictly increasing key, so that two equal objects are equal as values.
-/

namespace RemoteCall
namespace Json

/-- A whole number in the union of the signed and the unsigned 64-bit range. -/
structure Integer where
  value : Int
  least_le : -0x8000000000000000 ≤ value
  lt_bound : value < 0x10000000000000000
  deriving DecidableEq, Repr

namespace Integer

/-- The integer of this value, if it is in range. -/
def ofInt? (value : Int) : Option Integer :=
  if bounds : -0x8000000000000000 ≤ value ∧ value < 0x10000000000000000 then
    some ⟨value, bounds.1, bounds.2⟩
  else none

def zero : Integer := ⟨0, by decide, by decide⟩

def ofUInt64 (word : UInt64) : Integer :=
  ⟨word.toNat, by omega, by have := word.toNat_lt; omega⟩

def ofInt64 (word : Int64) : Integer :=
  ⟨word.toInt, by have := word.le_toInt; omega, by have := word.toInt_lt; omega⟩

end Integer

inductive Value where
  | null
  | bool (truth : Bool)
  | integer (number : Integer)
  | float (number : Double)
  | string (text : String)
  | array (items : List Value)
  | object (members : List (String × Value))
  deriving Inhabited

/-- Puts a member in its place by key, replacing a member of the same key. -/
def putMember (key : String) (value : Value) : List (String × Value) → List (String × Value)
  | [] => [(key, value)]
  | (otherKey, otherValue) :: later =>
      if key < otherKey then (key, value) :: (otherKey, otherValue) :: later
      else if key = otherKey then (key, value) :: later
      else (otherKey, otherValue) :: putMember key value later

def findMember? (key : String) : List (String × Value) → Option Value
  | [] => none
  | (otherKey, value) :: later => if key = otherKey then some value else findMember? key later

namespace Value

/-- The kind of a value in one word (`json_type_name`). -/
def kindName : Value → String
  | .null => "null"
  | .bool _ => "bool"
  | .integer _ => "int"
  | .float _ => "float"
  | .string _ => "string"
  | .array _ => "array"
  | .object _ => "object"

mutual

/-- How many arrays and objects lie inside each other at most. -/
def depth : Value → Nat
  | .array items => depthOfItems items + 1
  | .object members => depthOfMembers members + 1
  | _ => 0

def depthOfItems : List Value → Nat
  | [] => 0
  | item :: later => max item.depth (depthOfItems later)

def depthOfMembers : List (String × Value) → Nat
  | [] => 0
  | (_, value) :: later => max value.depth (depthOfMembers later)

end

mutual

/-- No double precision number occurs in the value. -/
def FloatFree : Value → Prop
  | .float _ => False
  | .array items => FloatFreeItems items
  | .object members => FloatFreeMembers members
  | _ => True

/-- No double precision number occurs in the items. -/
def FloatFreeItems : List Value → Prop
  | [] => True
  | item :: later => item.FloatFree ∧ FloatFreeItems later

/-- No double precision number occurs in the members. -/
def FloatFreeMembers : List (String × Value) → Prop
  | [] => True
  | (_, value) :: later => value.FloatFree ∧ FloatFreeMembers later

end

mutual

/-- Every object in the value lists its members by strictly increasing key. -/
def Ordered : Value → Prop
  | .array items => OrderedItems items
  | .object members => (members.map Prod.fst).Pairwise (· < ·) ∧ OrderedMembers members
  | _ => True

def OrderedItems : List Value → Prop
  | [] => True
  | item :: later => item.Ordered ∧ OrderedItems later

/-- Every object in the members' values is ordered. -/
def OrderedMembers : List (String × Value) → Prop
  | [] => True
  | (_, value) :: later => value.Ordered ∧ OrderedMembers later

end

end Value
end Json
end RemoteCall
