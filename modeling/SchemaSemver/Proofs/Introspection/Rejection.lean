/-
SchemaSemver.Proofs.Introspection.Rejection — schema texts are rejected, never broken off.

Two shapes of an introspection answer break the projection off instead of being rejected: an
interface list without items, and a possible type without members. The answer of a schema has
neither, so a schema text either gives definitions or is rejected with a reason
(`rejected_of_extractText`).

A projection that can only be rejected stays so when it is put together from such parts (§1). All
parts of the projection are of that kind but two (§2), and those two are when they read what a
schema answers (§3).
-/
import Mathlib.Tactic.SplitIfs
import SchemaSemver.Proofs.Result
import SchemaSemver.Schema.OfText

namespace SchemaSemver

open Json (Value findMember)

/-! ## §1 Projections that can only be rejected -/

/-- If the projection fails, the answer is rejected. -/
def Projected.OnlyRejects {α : Type} (result : Projected α) : Prop :=
  ∀ fault, result = .error fault → ∃ reason, fault = .rejected reason

section Closure

variable {α β : Type}

theorem onlyRejects_ok (value : α) : Projected.OnlyRejects (.ok value) := by
  intro fault h
  cases h

theorem onlyRejects_reject (reason : Rejection) :
    Projected.OnlyRejects (Introspection.reject reason : Projected α) := by
  intro fault h
  cases h
  exact ⟨reason, rfl⟩

theorem onlyRejects_bind {result : Projected α} {next : α → Projected β}
    (h : result.OnlyRejects) (hnext : ∀ value, (next value).OnlyRejects) :
    Projected.OnlyRejects (result >>= next) := by
  intro fault herror
  rcases bind_eq_error_iff.mp herror with hfirst | ⟨value, -, hrest⟩
  · exact h fault hfirst
  · exact hnext value fault hrest

theorem onlyRejects_map {result : Projected α} (f : α → β) (h : result.OnlyRejects) :
    Projected.OnlyRejects (result.map f) := by
  intro fault herror
  exact h fault ((map_eq_error_iff f).mp herror)

theorem onlyRejects_mapM {f : α → Projected β} {items : List α}
    (h : ∀ item ∈ items, (f item).OnlyRejects) : Projected.OnlyRejects (items.mapM f) := by
  intro fault herror
  obtain ⟨before, item, after, rfl, -, hitem⟩ := mapM_eq_error_iff.mp herror
  exact h item (List.mem_append_right before List.mem_cons_self) fault hitem

end Closure

namespace Introspection

/-! ## §2 Parts of an answer -/

theorem onlyRejects_nameOfMembers (label : String) (members : List Json.Member) :
    (nameOfMembers label members).OnlyRejects := by
  unfold nameOfMembers
  split
  · split
    · exact onlyRejects_reject _
    · exact onlyRejects_ok _
  · exact onlyRejects_reject _

theorem onlyRejects_requireName (label : String) (value : Value) :
    (requireName label value).OnlyRejects := by
  cases value with
  | object members => exact onlyRejects_nameOfMembers label members
  | _ => exact onlyRejects_reject _

theorem onlyRejects_listItems (label : String) (value : Option Value) :
    (listItems label value).OnlyRejects := by
  unfold listItems
  split
  · exact onlyRejects_ok _
  · exact onlyRejects_ok _
  · exact onlyRejects_ok _
  · exact onlyRejects_reject _

mutual

theorem onlyRejects_projectRef (owner : String) (value : Value) :
    (projectRef owner value).OnlyRejects := by
  cases value with
  | object members =>
    rw [projectRef]
    split
    · exact onlyRejects_map _ (onlyRejects_projectInner owner members)
    · split
      · exact onlyRejects_map _ (onlyRejects_projectInner owner members)
      · exact onlyRejects_map _ (onlyRejects_nameOfMembers _ members)
  | _ => exact onlyRejects_reject _

theorem onlyRejects_projectInner (owner : String) (members : List (String × Value)) :
    (projectInner owner members).OnlyRejects := by
  match members with
  | [] => exact onlyRejects_reject _
  | (name, value) :: rest =>
    rw [projectInner]
    split
    · exact onlyRejects_projectRef owner value
    · exact onlyRejects_projectInner owner rest

end

theorem onlyRejects_projectInputValue (owner : String) (value : Value) :
    (projectInputValue owner value).OnlyRejects := by
  cases value with
  | object members =>
    refine onlyRejects_bind (onlyRejects_nameOfMembers _ members) fun name => ?_
    refine onlyRejects_bind (onlyRejects_projectRef _ _) fun type => onlyRejects_ok _
  | _ => exact onlyRejects_reject _

theorem onlyRejects_projectField (typeName : String) (value : Value) :
    (projectField typeName value).OnlyRejects := by
  cases value with
  | object members =>
    refine onlyRejects_bind (onlyRejects_nameOfMembers _ members) fun name => ?_
    refine onlyRejects_bind (onlyRejects_listItems _ _) fun items => ?_
    refine onlyRejects_bind (onlyRejects_mapM fun item _ => onlyRejects_projectInputValue _ item)
      fun arguments => ?_
    exact onlyRejects_bind (onlyRejects_projectRef _ _) fun type => onlyRejects_ok _
  | _ => exact onlyRejects_reject _

theorem onlyRejects_itemsOf {α : Type} (label : String) (value : Option Value)
    {project : Value → Projected α} (h : ∀ item, (project item).OnlyRejects) :
    Projected.OnlyRejects (do (← listItems label value).mapM project) :=
  onlyRejects_bind (onlyRejects_listItems label value) fun _ =>
    onlyRejects_mapM fun item _ => h item

/-- The interfaces are missing or a list. -/
def InterfacesListed (members : List Json.Member) : Prop :=
  ∀ value, findMember "interfaces" members = some value → ∃ items, value = .array items

/-- The possible types, if they are a list, are objects. -/
def PossibleTypesKeyed (members : List Json.Member) : Prop :=
  ∀ items, findMember "possibleTypes" members = some (.array items) →
    ∀ item ∈ items, ∃ parts, item = .object parts

theorem onlyRejects_projectInterfaces {members : List Json.Member}
    (h : InterfacesListed members) : (projectInterfaces members).OnlyRejects := by
  unfold projectInterfaces
  cases hvalue : findMember "interfaces" members with
  | none => exact onlyRejects_ok []
  | some value =>
    obtain ⟨items, rfl⟩ := h value hvalue
    dsimp only
    split
    · exact onlyRejects_ok []
    · exact onlyRejects_mapM fun item _ => onlyRejects_requireName "interface" item

theorem onlyRejects_projectPossibleTypes (typeName : String) {members : List Json.Member}
    (h : PossibleTypesKeyed members) : (projectPossibleTypes typeName members).OnlyRejects := by
  unfold projectPossibleTypes
  cases hvalue : findMember "possibleTypes" members with
  | none => exact onlyRejects_ok []
  | some value =>
    cases value with
    | array items =>
      refine onlyRejects_mapM fun item hitem => ?_
      obtain ⟨parts, rfl⟩ := h items hvalue item hitem
      exact onlyRejects_bind (onlyRejects_nameOfMembers _ parts) fun name => onlyRejects_ok _
    | null => exact onlyRejects_ok []
    | _ => exact onlyRejects_reject _

/-- A type is only rejected if its interfaces are listed and its possible types are objects. -/
theorem onlyRejects_projectType {members : List Json.Member} (hi : InterfacesListed members)
    (hp : PossibleTypesKeyed members) : (projectType (.object members)).OnlyRejects := by
  refine onlyRejects_bind (onlyRejects_nameOfMembers _ members) fun name => ?_
  have hinterfaces := onlyRejects_projectInterfaces hi
  have hpossible := onlyRejects_projectPossibleTypes name hp
  have hfields : (projectFields name members).OnlyRejects :=
    onlyRejects_itemsOf _ _ (onlyRejects_projectField name)
  have hvalues : (projectEnumValues name members).OnlyRejects :=
    onlyRejects_itemsOf _ _ (onlyRejects_requireName _)
  have hinputs : (projectInputFields name members).OnlyRejects :=
    onlyRejects_itemsOf _ _ (onlyRejects_projectInputValue name)
  unfold projectNamedType
  split_ifs
  · exact onlyRejects_ok _
  · exact onlyRejects_bind hinterfaces fun _ => onlyRejects_bind hfields fun _ => onlyRejects_ok _
  · exact onlyRejects_bind hinterfaces fun _ => onlyRejects_bind hfields fun _ =>
      onlyRejects_bind hpossible fun _ => onlyRejects_ok _
  · exact onlyRejects_map _ hpossible
  · exact onlyRejects_map _ hvalues
  · exact onlyRejects_map _ hinputs
  · exact onlyRejects_ok _

/-! ## §3 What a schema answers -/

theorem interfacesListed_typeAnswer (schema : TypeSystem.Schema) (type : Sdl.TypeDef) :
    InterfacesListed (TypeSystem.Schema.headAnswer type ++ schema.bodyAnswer type) := by
  intro value h
  unfold TypeSystem.Schema.headAnswer TypeSystem.Schema.bodyAnswer at h
  cases hbody : type.body <;> rw [hbody] at h <;> cases h
  · exact ⟨_, rfl⟩
  · exact ⟨_, rfl⟩

theorem possibleTypesKeyed_typeAnswer (schema : TypeSystem.Schema) (type : Sdl.TypeDef) :
    PossibleTypesKeyed (TypeSystem.Schema.headAnswer type ++ schema.bodyAnswer type) := by
  intro items h item hitem
  unfold TypeSystem.Schema.headAnswer TypeSystem.Schema.bodyAnswer at h
  cases hbody : type.body <;> rw [hbody] at h <;> cases h
  all_goals
    obtain ⟨name, -, rfl⟩ := List.mem_map.mp hitem
    exact ⟨_, rfl⟩

theorem onlyRejects_projectDefinitions (schema : TypeSystem.Schema) :
    (projectDefinitions schema.answer).OnlyRejects := by
  show Projected.OnlyRejects (answeredTypes _ >>= fun types => types.mapM projectType)
  cases htypes : schema.types.map schema.typeAnswer with
  | nil => exact onlyRejects_ok []
  | cons first rest =>
    refine onlyRejects_mapM fun item hitem => ?_
    rw [← htypes] at hitem
    obtain ⟨type, -, rfl⟩ := List.mem_map.mp hitem
    exact onlyRejects_projectType (interfacesListed_typeAnswer schema type)
      (possibleTypesKeyed_typeAnswer schema type)

end Introspection

/-! ## §4 Schema texts -/

/-- The fault is a rejection with a reason, and no reading that broke off. -/
def SchemaFault.IsRejection : SchemaFault → Prop
  | .illFormed _ _ => True
  | .invalid => True
  | .unprojectable fault => ∃ reason, fault = .rejected reason

/-- A text either has the answer of a schema or is rejected before there is an answer. -/
theorem introspectText_cases (text : String) :
    (∃ schema : TypeSystem.Schema, introspectText text = .ok schema.answer)
      ∨ ∃ fault, introspectText text = .error fault ∧ fault.IsRejection := by
  unfold introspectText
  split
  · exact Or.inr ⟨_, rfl, trivial⟩
  · rename_i document hparsed
    split
    · by_cases hvalid : (TypeSystem.Schema.ofDocument document).isValid = true
      · exact Or.inl ⟨TypeSystem.Schema.ofDocument document, by simp [hvalid]⟩
      · exact Or.inr ⟨.invalid, by simp [hvalid], trivial⟩
    · exact Or.inr ⟨_, rfl, trivial⟩

/-- A schema text that gives no declarations is rejected. -/
theorem rejected_of_extractText {text : String} {fault : SchemaFault}
    (h : extractText text = .error fault) : fault.IsRejection := by
  rw [extractText, definitionsOfText] at h
  rcases introspectText_cases text with ⟨schema, hanswer⟩ | ⟨found, hfound, hrejection⟩
  · have honly := Introspection.onlyRejects_projectDefinitions schema
    cases hproject : Introspection.projectDefinitions schema.answer with
    | ok definitions =>
      rw [hanswer] at h
      simp [bind, Except.bind, definitionsOfAnswer, hproject, Except.mapError, Except.map] at h
    | error cause =>
      rw [hanswer] at h
      simp only [bind, Except.bind, definitionsOfAnswer, hproject, Except.mapError, Except.map,
        Except.error.injEq] at h
      exact h ▸ honly cause hproject
  · rw [hfound] at h
    cases h
    exact hrejection

end SchemaSemver
