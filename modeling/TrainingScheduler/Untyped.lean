import Mathlib

/-!
# Values of a dynamically typed program

The values that a JSON reader returns, with the operations a Python program applies to them without
knowing their type.  An operation that a value does not have raises.  A dictionary lists its keys in
order, so that equal dictionaries are equal values; `true` and `false` are the numbers 1 and 0.
-/

namespace TrainingScheduler.Untyped

mutual

inductive Value where
  | null
  | num (value : ℚ)
  | str (text : String)
  | list (items : Items)
  | dict (fields : Fields)
  deriving DecidableEq

inductive Items where
  | nil
  | cons (head : Value) (tail : Items)
  deriving DecidableEq

inductive Fields where
  | nil
  | cons (key : String) (value : Value) (rest : Fields)
  deriving DecidableEq

end

/-- The exceptions of the operations. -/
inductive Fault where
  | typeError
  | attributeError
  deriving DecidableEq, Repr

namespace Items

def toList : Items → List Value
  | nil => []
  | cons head tail => head :: tail.toList

def ofList : List Value → Items
  | [] => nil
  | head :: tail => cons head (ofList tail)

end Items

namespace Fields

def keys : Fields → List String
  | nil => []
  | cons key _ rest => key :: rest.keys

def find (fields : Fields) (key : String) : Option Value :=
  match fields with
  | nil => none
  | cons name value rest => if name = key then some value else rest.find key

def ofList : List (String × Value) → Fields
  | [] => nil
  | (key, value) :: rest => cons key value (ofList rest)

end Fields

namespace Value

def emptyList : Value := .list .nil

def emptyDict : Value := .dict .nil

/-- `bool(value)`. -/
def truthy : Value → Bool
  | null => false
  | num value => value != 0
  | str text => text != ""
  | list items => items != .nil
  | dict fields => fields != .nil

/-- `value.get(key, default)`. -/
def get (value : Value) (key : String) (default : Value) : Except Fault Value :=
  match value with
  | dict fields => .ok ((fields.find key).getD default)
  | _ => .error .attributeError

/-- `for item in value`: the characters of a string and the keys of a dictionary. -/
def items : Value → Except Fault (List Value)
  | list items => .ok items.toList
  | str text => .ok (text.toList.map fun char => str (String.singleton char))
  | dict fields => .ok (fields.keys.map str)
  | null | num _ => .error .typeError

/-- `item in value`: a part of a string, or a key; lists and dictionaries cannot be keys. -/
def contains (value item : Value) : Except Fault Bool :=
  match value, item with
  | list items, item => .ok (items.toList.contains item)
  | str text, str part => .ok (decide (part.toList <:+: text.toList))
  | dict fields, str key => .ok (fields.keys.contains key)
  | dict _, null | dict _, num _ => .ok false
  | _, _ => .error .typeError

end Value

/-- `text.startswith(start)`. -/
def starts (text start : String) : Bool := start.toList.isPrefixOf text.toList

/-- `char in text`. -/
def has (text : String) (char : Char) : Bool := text.toList.contains char

/-- `text.rsplit(char, 1)[0]`. -/
def beforeLast (text : String) (char : Char) : String :=
  match (text.toList.reverse.dropWhile fun other => other != char) with
  | [] => text
  | _ :: rest => String.ofList rest.reverse

example : beforeLast "tag:web:80" ':' = "tag:web" ∧ beforeLast "alice" ':' = "alice" := by
  decide +kernel

end TrainingScheduler.Untyped
