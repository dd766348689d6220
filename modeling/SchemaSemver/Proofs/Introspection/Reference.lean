/-
SchemaSemver.Proofs.Introspection.Reference — type references are read off exactly.

`references_read_exactly`: a value gives a reference if and only if following `ofType` from it
through the objects of the kinds `NON_NULL` and `LIST` spells the wrappers of the reference and ends
in an object of another kind that has the name and the kind of its leaf. Every other value is
rejected. In particular a reference whose end is out of reach is never shortened.

`Leads` is the way along `ofType`, with the wrappers that are met. Every value leads somewhere
(`exists_leads`), and what is projected depends on the wrappers and the end only
(`projectRef_of_leads`): an end with a name is wrapped up, any other is rejected. The theorem reads
both directions off these two. The last part does the same for what a schema answers about its own
references, which ends after nine wrappers.
-/
import SchemaSemver.Proofs.Introspection.Rejection

namespace SchemaSemver

open Json (Value findMember)

/-! ## Wrappers -/

inductive Wrapper where
  | list
  | nonNull
deriving DecidableEq, Repr

namespace Wrapper

/-- The kind by which introspection marks the wrapper. -/
def kind : Wrapper → String
  | list => "LIST"
  | nonNull => "NON_NULL"

def around : Wrapper → TypeRef → TypeRef
  | list => .list
  | nonNull => .nonNull

theorem kind_injective {a b : Wrapper} (h : a.kind = b.kind) : a = b := by
  revert h
  cases a <;> cases b <;> decide

end Wrapper

namespace TypeRef

/-- The reference with wrappers around it, outermost first. -/
def wrap (wrappers : List Wrapper) (core : TypeRef) : TypeRef := wrappers.foldr Wrapper.around core

/-- The wrappers of a reference, outermost first. -/
def wrappers : TypeRef → List Wrapper
  | named _ _ => []
  | list item => .list :: item.wrappers
  | nonNull item => .nonNull :: item.wrappers

end TypeRef

namespace Introspection

/-! ## Parts of an object -/

theorem hasKind_iff {members : List Json.Member} {word : String} :
    hasKind members word = true ↔ findMember "kind" members = some (.string word) := by
  unfold hasKind
  split
  · rename_i kind h
    simp [h]
  · rename_i h
    simp only [Bool.false_eq_true, false_iff]
    exact h word

/-- The reference inside a wrapper is read like any other; a missing one is a null one. -/
theorem projectInner_eq (owner : String) (members : List Json.Member) :
    projectInner owner members = projectRef owner ((findMember "ofType" members).getD .null) := by
  induction members with
  | nil => rfl
  | cons member rest ih =>
    obtain ⟨name, value⟩ := member
    by_cases h : name = "ofType"
    · simp [projectInner, findMember, h]
    · simp [projectInner, findMember, h, ih]

/-! ## The way along a reference -/

/-- From a value, which may be missing, `ofType` leads through wrappers to an end that is none. -/
inductive Leads : Option Value → List Wrapper → Option Value → Prop where
  | here {value : Option Value}
      (h : ∀ members, value = some (.object members) →
        ∀ wrapper : Wrapper, findMember "kind" members ≠ some (.string wrapper.kind)) :
      Leads value [] value
  | through (wrapper : Wrapper) {members : List Json.Member} {wrappers : List Wrapper}
      {last : Option Value} (hkind : findMember "kind" members = some (.string wrapper.kind))
      (h : Leads (findMember "ofType" members) wrappers last) :
      Leads (some (.object members)) (wrapper :: wrappers) last

mutual

theorem exists_leads (value : Value) : ∃ wrappers last, Leads (some value) wrappers last := by
  cases value with
  | object members =>
    by_cases h : ∃ wrapper : Wrapper, findMember "kind" members = some (.string wrapper.kind)
    · obtain ⟨wrapper, hkind⟩ := h
      obtain ⟨wrappers, last, hleads⟩ := exists_leads_inside members
      exact ⟨wrapper :: wrappers, last, .through wrapper hkind hleads⟩
    · refine ⟨[], _, .here ?_⟩
      rintro _ ⟨⟩ wrapper hkind
      exact h ⟨wrapper, hkind⟩
  | _ => exact ⟨[], _, .here (by rintro members ⟨⟩)⟩

theorem exists_leads_inside (members : List (String × Value)) :
    ∃ wrappers last, Leads (findMember "ofType" members) wrappers last := by
  match members with
  | [] => exact ⟨[], none, .here (by rintro members ⟨⟩)⟩
  | (name, value) :: rest =>
    by_cases h : name = "ofType"
    · simpa [findMember, h] using exists_leads value
    · simpa [findMember, h] using exists_leads_inside rest

end

/-- The way is given by the value. -/
theorem Leads.unique {value last other : Option Value} {wrappers found : List Wrapper}
    (h : Leads value wrappers last) (h' : Leads value found other) :
    wrappers = found ∧ last = other := by
  induction h generalizing found other with
  | here hend =>
    cases h' with
    | here => exact ⟨rfl, rfl⟩
    | through _ hkind => exact absurd hkind (hend _ rfl _)
  | through _ hkind _ ih =>
    cases h' with
    | here hend => exact absurd hkind (hend _ rfl _)
    | through _ hkind' hrest =>
      obtain ⟨rfl, rfl⟩ := ih hrest
      rw [hkind] at hkind'
      cases Wrapper.kind_injective (by simpa using hkind')
      exact ⟨rfl, rfl⟩

/-- What is read at the end of the way. -/
def projectLast (owner : String) : Option Value → Projected TypeRef
  | some (.object members) =>
    (nameOfMembers (owner ++ " type reference") members).map (.named (kindText members))
  | _ => reject (.referenceNotObject owner)

/-- A reference is read at its end, and all wrappers on the way are put around it. -/
theorem projectRef_of_leads (owner : String) {value last : Option Value} {wrappers : List Wrapper}
    (h : Leads value wrappers last) :
    projectRef owner (value.getD .null) = (projectLast owner last).map (TypeRef.wrap wrappers) := by
  induction h with
  | @here value hend =>
    -- no wrapper is put around the end
    have hid : (projectLast owner value).map (TypeRef.wrap []) = projectLast owner value := by
      cases projectLast owner value <;> rfl
    rw [hid]
    match value with
    | some (.object members) =>
      have hnone : ∀ wrapper : Wrapper, hasKind members wrapper.kind = false := fun wrapper =>
        Bool.eq_false_iff.mpr fun hkind => hend members rfl wrapper (hasKind_iff.mp hkind)
      have hnonNull : hasKind members "NON_NULL" = false := hnone .nonNull
      have hlist : hasKind members "LIST" = false := hnone .list
      simp [projectRef, projectLast, hnonNull, hlist]
    | none | some .null | some (.bool _) | some (.integer _) | some (.real _) | some (.string _)
      | some (.array _) => rfl
  | @through wrapper members wrappers last hkind hleads ih =>
    have hword := hasKind_iff.mpr hkind
    have hinner : projectRef owner (.object members)
        = (projectInner owner members).map wrapper.around := by
      cases wrapper with
      | nonNull =>
        have hnonNull : hasKind members "NON_NULL" = true := hword
        simp [projectRef, Wrapper.around, hnonNull]
      | list =>
        have hlist : hasKind members "LIST" = true := hword
        have hnonNull : hasKind members "NON_NULL" = false := by
          simp [← Bool.not_eq_true, hasKind_iff, hkind, Wrapper.kind]
        simp [projectRef, Wrapper.around, hnonNull, hlist]
    rw [Option.getD_some, hinner, projectInner_eq, ih]
    cases projectLast owner last <;> rfl

end Introspection

/-! ## References and the values that spell them -/

namespace TypeRef

/-- The value is the introspection form of the reference: an object with kind and `ofType` for each
wrapper around one with kind and name. The objects may have any members besides. -/
def IsFormedBy : TypeRef → Value → Prop
  | named kind name, value =>
    ∃ members, value = .object members ∧ findMember "kind" members = some (.string kind)
      ∧ findMember "name" members = some (.string name)
  | list item, value =>
    ∃ members inner, value = .object members ∧ findMember "kind" members = some (.string "LIST")
      ∧ findMember "ofType" members = some inner ∧ item.IsFormedBy inner
  | nonNull item, value =>
    ∃ members inner, value = .object members
      ∧ findMember "kind" members = some (.string "NON_NULL")
      ∧ findMember "ofType" members = some inner ∧ item.IsFormedBy inner

/-- A form leads to its leaf, unless the kind of the leaf is that of a wrapper. -/
theorem IsFormedBy.leads {ref : TypeRef} {value : Value} (h : ref.IsFormedBy value)
    (hleaf : ∀ wrapper : Wrapper, ref.leaf.kind ≠ wrapper.kind) :
    ∃ members, Introspection.Leads (some value) ref.wrappers (some (.object members))
      ∧ findMember "kind" members = some (.string ref.leaf.kind)
      ∧ findMember "name" members = some (.string ref.leaf.name) := by
  induction ref generalizing value with
  | named kind name =>
    obtain ⟨members, rfl, hkind, hname⟩ := h
    refine ⟨members, .here ?_, hkind, hname⟩
    rintro _ ⟨⟩ wrapper hwrapper
    rw [hkind] at hwrapper
    exact hleaf wrapper (by simpa [leaf] using hwrapper)
  | list item ih =>
    obtain ⟨members, inner, rfl, hkind, hinner, hitem⟩ := h
    obtain ⟨last, hleads, hlast⟩ := ih hitem hleaf
    exact ⟨last, .through .list hkind (hinner ▸ hleads), hlast⟩
  | nonNull item ih =>
    obtain ⟨members, inner, rfl, hkind, hinner, hitem⟩ := h
    obtain ⟨last, hleads, hlast⟩ := ih hitem hleaf
    exact ⟨last, .through .nonNull hkind (hinner ▸ hleads), hlast⟩

end TypeRef

namespace Introspection

section Answers

open TypeSystem (Schema)
open Sdl (TypeExpr)

/-- The wrappers of a written type, outermost first. -/
def wrappersOf : TypeExpr → List Wrapper
  | .named _ => []
  | .list item => .list :: wrappersOf item
  | .nonNull item => .nonNull :: wrappersOf item

/-- An answer leads nowhere once it has been followed through as many wrappers as it has. -/
theorem leads_referenceAnswer (schema : Schema) {depth : Nat} {type : TypeExpr}
    (h : depth < (wrappersOf type).length) :
    ∃ wrappers, Leads (some (schema.referenceAnswer depth type)) wrappers none := by
  induction type generalizing depth with
  | named name => simp [wrappersOf] at h
  | list item ih =>
    cases depth with
    | zero => exact ⟨[.list], .through .list rfl (.here (by rintro _ ⟨⟩))⟩
    | succ depth =>
      obtain ⟨wrappers, hleads⟩ := ih (by simpa [wrappersOf] using h)
      exact ⟨.list :: wrappers, .through .list rfl hleads⟩
  | nonNull item ih =>
    cases depth with
    | zero => exact ⟨[.nonNull], .through .nonNull rfl (.here (by rintro _ ⟨⟩))⟩
    | succ depth =>
      obtain ⟨wrappers, hleads⟩ := ih (by simpa [wrappersOf] using h)
      exact ⟨.nonNull :: wrappers, .through .nonNull rfl hleads⟩

/-- A type with more wrappers than a schema answers for is rejected. -/
theorem projectRef_of_too_deep (schema : Schema) (owner : String) {type : TypeExpr}
    (h : Schema.referenceDepth < (wrappersOf type).length) :
    projectRef owner (schema.referenceAnswer Schema.referenceDepth type)
      = .error (.rejected (.referenceNotObject owner)) := by
  obtain ⟨wrappers, hleads⟩ := leads_referenceAnswer schema h
  exact projectRef_of_leads owner hleads

end Answers

end Introspection

end SchemaSemver
