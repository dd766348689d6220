/-
SchemaSemver.Json.Value — JSON values.

Integers are unbounded and stay apart from numbers written with a point or an exponent. The members
of an object keep their order; an object that was read holds each name once.
-/
import SchemaSemver.Number.Binary64

namespace SchemaSemver.Json

/-- A JSON value. -/
inductive Value where
  | null
  | bool (b : Bool)
  | integer (n : Int)
  | real (x : Binary64)
  | string (s : String)
  | array (items : List Value)
  | object (members : List (String × Value))

/-- A member of an object. -/
abbrev Member := String × Value

/-- Adds a member: a name that is already there keeps its place and takes the new value. -/
def putMember (members : List Member) (member : Member) : List Member :=
  match members with
  | [] => [member]
  | first :: rest =>
    if first.1 = member.1 then member :: rest else first :: putMember rest member

/-- The members in order of first appearance, each with its last value. -/
def distinctMembers (written : List Member) : List Member :=
  written.foldl putMember []

/-- The value of a name, if some member has it. -/
def findMember (name : String) : List Member → Option Value
  | [] => none
  | member :: rest => if member.1 = name then some member.2 else findMember name rest

namespace Value

/-- The value of a member; what is not an object has none. -/
def get? (value : Value) (name : String) : Option Value :=
  match value with
  | object members => findMember name members
  | _ => none

/-- Does the value count as empty: null, false, zero, or a text, array or object of no length? -/
def isEmpty : Value → Bool
  | null => true
  | bool b => !b
  | integer n => n == 0
  | real x => x.isZero
  | string s => s.isEmpty
  | array items => items.isEmpty
  | object members => members.isEmpty

end Value

end SchemaSemver.Json
