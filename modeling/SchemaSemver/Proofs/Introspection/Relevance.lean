/-
SchemaSemver.Proofs.Introspection.Relevance — what an introspection answer says besides shape has no
influence.

`answerPart` is the part of an answer that is read: of every object on the way only the members
that its position asks for, where the kind of a type or reference decides which these are. What is
no object, or stands in the place of a list, a kind or a name, is left whole.
`projectDefinitions_answerPart` says that nothing else is read, on success and on failure alike, and
`unread_members_have_no_influence` what this means for two answers with the same part: they give the
same definitions or the same fault, the same declarations, and the same comparison with anything;
compared with each other they show no change.

Each part is defined beside the lemma that projecting it gives what projecting the whole gives. They
follow the positions from the inside out: references by induction on the value, the others from one
lemma about members (`findMember_membersPart`) and one about lists (`mapM_itemsPart`).

`Deletes` says of two values that one is the other without a member that is not read, however deep
it stands. Answers that become equal by such steps have the same part, and so the hypothesis of the
theorem holds of them (`answerPart_eq_of_deletions`).
-/
import Mathlib.Logic.Relation
import SchemaSemver.Check.Run
import SchemaSemver.Proofs.Change.Compare
import SchemaSemver.Proofs.Introspection.Reference

namespace SchemaSemver

namespace Introspection

open Json (Value findMember)

/-! ## Parts of values -/

/-- What is read at a position: names of members, each with the part of its value that is read. -/
abbrev Reading := List (String × (Value → Value))

/-- The members that are read, in the order of the reading: neither what other members an object has
nor their order is left. -/
def membersPart (reading : Reading) (members : List Json.Member) : List Json.Member :=
  reading.filterMap fun entry =>
    (findMember entry.1 members).map fun value => (entry.1, entry.2 value)

def objectPart (reading : Reading) : Value → Value
  | .object members => .object (membersPart reading members)
  | value => value

def itemsPart (part : Value → Value) : Value → Value
  | .array items => .array (items.map part)
  | value => value

theorem findMember_membersPart (reading : Reading) (members : List Json.Member) (name : String) :
    findMember name (membersPart reading members)
      = (reading.lookup name).bind fun part => (findMember name members).map part := by
  induction reading with
  | nil => rfl
  | cons entry rest ih =>
    obtain ⟨key, part⟩ := entry
    have hcons : membersPart ((key, part) :: rest) members
        = ((findMember key members).map fun value => (key, part value)).toList
          ++ membersPart rest members := by
      cases h : findMember key members <;> simp [membersPart, h]
    rw [hcons, List.lookup_cons]
    by_cases hname : name = key
    · subst hname
      cases h : findMember name members with
      | none =>
        -- an entry whose member is missing leaves nothing, and later ones of its name do neither
        cases hlookup : rest.lookup name <;> simp [ih, h, hlookup]
      | some value => simp [findMember]
    · have hkey : ¬ key = name := fun h => hname h.symm
      have hbeq : (name == key) = false := beq_false_of_ne hname
      cases h : findMember key members <;> simp [findMember, hkey, hbeq, ih]

theorem findMember_append (name : String) (before after : List Json.Member) :
    findMember name (before ++ after) = (findMember name before).or (findMember name after) := by
  induction before with
  | nil => rfl
  | cons member rest ih =>
    rw [List.cons_append, findMember, findMember]
    split
    · rfl
    · exact ih

theorem listItems_itemsPart (label : String) (part : Value → Value) (value : Option Value) :
    listItems label (value.map (itemsPart part)) = (listItems label value).map (List.map part) := by
  match value with
  | none | some .null | some (.array _) | some (.bool _) | some (.integer _) | some (.real _)
    | some (.string _) | some (.object _) => rfl

section Items

variable {α : Type} {part : Value → Value} {project : Value → Projected α}
  (h : ∀ item, project (part item) = project item)
include h

theorem mapM_map_part (items : List Value) :
    (items.map part).mapM project = items.mapM project := by
  induction items with
  | nil => rfl
  | cons item rest ih => simp only [List.map_cons, List.mapM_cons, h, ih]

/-- A list whose items are cut down is read as before, or refused as before. -/
theorem mapM_itemsPart (label : String) (value : Option Value) :
    (do (← listItems label (value.map (itemsPart part))).mapM project)
      = (do (← listItems label value).mapM project) := by
  rw [listItems_itemsPart]
  cases listItems label value with
  | error fault => rfl
  | ok items => exact mapM_map_part h items

end Items

/-! ## References -/

mutual

/-- Of a wrapper kind and `ofType` are read, of any other reference kind and name. -/
def refPart : Value → Value
  | .object members =>
    if hasKind members "NON_NULL" || hasKind members "LIST" then
      .object (membersPart [("kind", id)] members ++ innerPart members)
    else .object (membersPart [("kind", id), ("name", id)] members)
  | value => value

def innerPart : List (String × Value) → List Json.Member
  | [] => []
  | (name, value) :: rest => if name = "ofType" then [("ofType", refPart value)] else innerPart rest

end

theorem innerPart_eq (members : List Json.Member) :
    innerPart members = membersPart [("ofType", refPart)] members := by
  induction members with
  | nil => rfl
  | cons member rest ih =>
    obtain ⟨name, value⟩ := member
    by_cases h : name = "ofType"
    · simp [innerPart, membersPart, findMember, h]
    · rw [innerPart, if_neg h, ih]
      simp only [membersPart, List.filterMap_cons, List.filterMap_nil, findMember, if_neg h]

/-- What is read of a reference with the kind that its members give. -/
def refReading (members : List Json.Member) : Reading :=
  if hasKind members "NON_NULL" || hasKind members "LIST" then
    [("kind", id), ("ofType", refPart)]
  else [("kind", id), ("name", id)]

theorem refPart_object (members : List Json.Member) :
    refPart (.object members) = objectPart (refReading members) (.object members) := by
  rw [refPart, objectPart, refReading]
  split
  · rw [innerPart_eq, membersPart, membersPart, ← List.filterMap_append]
    rfl
  · rfl

section Readings

variable (reading : Reading) (members : List Json.Member)

/-- A part has a member of the object whole if it is read whole. -/
theorem findMember_of_whole {name : String} (h : reading.lookup name = some id) :
    findMember name (membersPart reading members) = findMember name members := by
  rw [findMember_membersPart, h]
  exact Option.map_id_apply

theorem hasKind_membersPart (h : reading.lookup "kind" = some id) (word : String) :
    hasKind (membersPart reading members) word = hasKind members word := by
  rw [hasKind, hasKind, findMember_of_whole reading members h]

theorem kindText_membersPart (h : reading.lookup "kind" = some id) :
    kindText (membersPart reading members) = kindText members := by
  rw [kindText, kindText, findMember_of_whole reading members h]

theorem nameOfMembers_membersPart (h : reading.lookup "name" = some id) (label : String) :
    nameOfMembers label (membersPart reading members) = nameOfMembers label members := by
  rw [nameOfMembers, nameOfMembers, findMember_of_whole reading members h]

end Readings

mutual

theorem projectRef_refPart (owner : String) (value : Value) :
    projectRef owner (refPart value) = projectRef owner value := by
  cases value with
  | object members =>
    rw [refPart_object, objectPart, refReading]
    split
    · rename_i hwrapper
      -- a wrapper stays a wrapper of its kind, around the part of what it holds
      have hinner := projectRef_refPart_inside owner members
      have hinside : findMember "ofType" (membersPart [("kind", id), ("ofType", refPart)] members)
          = (findMember "ofType" members).map refPart :=
        findMember_membersPart _ members "ofType"
      rw [projectRef, projectRef, hasKind_membersPart _ _ rfl, hasKind_membersPart _ _ rfl,
        projectInner_eq, projectInner_eq, hinside, hinner]
      cases hnonNull : hasKind members "NON_NULL" <;> cases hlist : hasKind members "LIST" <;>
        simp_all
    · rename_i hother
      obtain ⟨hnonNull, hlist⟩ :
          hasKind members "NON_NULL" = false ∧ hasKind members "LIST" = false := by
        simpa using hother
      rw [projectRef, projectRef, hasKind_membersPart _ _ rfl, hasKind_membersPart _ _ rfl,
        nameOfMembers_membersPart _ _ rfl, kindText_membersPart _ _ rfl]
      simp [hnonNull, hlist]
  | _ => rw [refPart]; simp

theorem projectRef_refPart_inside (owner : String) (members : List (String × Value)) :
    projectRef owner (((findMember "ofType" members).map refPart).getD .null)
      = projectRef owner ((findMember "ofType" members).getD .null) := by
  match members with
  | [] => rfl
  | (name, value) :: rest =>
    by_cases h : name = "ofType"
    · simpa [findMember, h] using projectRef_refPart owner value
    · simpa [findMember, h] using projectRef_refPart_inside owner rest

end

theorem projectTypeMember_membersPart (reading : Reading) (members : List Json.Member)
    (h : reading.lookup "type" = some refPart) (owner : String) :
    projectTypeMember owner (membersPart reading members) = projectTypeMember owner members := by
  rw [projectTypeMember, projectTypeMember, findMember_membersPart, h]
  cases findMember "type" members with
  | none => rfl
  | some value => exact projectRef_refPart owner value

/-! ## Members of types -/

def inputValueReading : Reading := [("name", id), ("type", refPart)]

def inputValuePart : Value → Value := objectPart inputValueReading

theorem projectInputValue_part (owner : String) (value : Value) :
    projectInputValue owner (inputValuePart value) = projectInputValue owner value := by
  cases value with
  | object members =>
    have hname := nameOfMembers_membersPart inputValueReading members rfl
    have htype := projectTypeMember_membersPart inputValueReading members rfl
    simp only [inputValuePart, objectPart, projectInputValue, hname, htype]
  | _ => rfl

def fieldReading : Reading := [("name", id), ("args", itemsPart inputValuePart), ("type", refPart)]

def fieldPart : Value → Value := objectPart fieldReading

theorem projectField_part (typeName : String) (value : Value) :
    projectField typeName (fieldPart value) = projectField typeName value := by
  cases value with
  | object members =>
    have hname := nameOfMembers_membersPart fieldReading members rfl
    have htype := projectTypeMember_membersPart fieldReading members rfl
    have hargs : findMember "args" (membersPart fieldReading members)
        = (findMember "args" members).map (itemsPart inputValuePart) :=
      findMember_membersPart fieldReading members "args"
    have hitems (owner : String) (next : List InputValue → Projected Field) :
        (do let items ← listItems owner ((findMember "args" members).map (itemsPart inputValuePart))
            let arguments ← items.mapM (projectInputValue owner)
            next arguments)
          = (do let items ← listItems owner (findMember "args" members)
                let arguments ← items.mapM (projectInputValue owner)
                next arguments) := by
      simp only [← bind_assoc, mapM_itemsPart (projectInputValue_part owner)]
    simp only [fieldPart, objectPart, projectField, hname, htype, hargs, hitems]
  | _ => rfl

def namedPart : Value → Value := objectPart [("name", id)]

theorem requireName_part (label : String) (value : Value) :
    requireName label (namedPart value) = requireName label value := by
  cases value with
  | object members => exact nameOfMembers_membersPart _ _ rfl label
  | _ => rfl

def possibleTypeReading : Reading := [("kind", id), ("name", id)]

def possibleTypePart : Value → Value := objectPart possibleTypeReading

theorem projectPossibleType_part (typeName : String) (value : Value) :
    projectPossibleType typeName (possibleTypePart value) = projectPossibleType typeName value := by
  cases value with
  | object members =>
    have hname := nameOfMembers_membersPart possibleTypeReading members rfl
    have hkind := kindText_membersPart possibleTypeReading members rfl
    simp only [possibleTypePart, objectPart, projectPossibleType, hname, hkind]
  | _ => rfl

/-! ## Types and answers -/

/-- The member lists that count for the kind of a type. -/
def listsReading (members : List Json.Member) : Reading :=
  if hasKind members "OBJECT" then
    [("interfaces", itemsPart namedPart), ("fields", itemsPart fieldPart)]
  else if hasKind members "INTERFACE" then
    [("interfaces", itemsPart namedPart), ("fields", itemsPart fieldPart),
      ("possibleTypes", itemsPart possibleTypePart)]
  else if hasKind members "UNION" then [("possibleTypes", itemsPart possibleTypePart)]
  else if hasKind members "ENUM" then [("enumValues", itemsPart namedPart)]
  else if hasKind members "INPUT_OBJECT" then [("inputFields", itemsPart inputValuePart)]
  else []

def typeReading (members : List Json.Member) : Reading :=
  ("kind", id) :: ("name", id) :: listsReading members

def typePart : Value → Value
  | .object members => .object (membersPart (typeReading members) members)
  | value => value

section Lists

variable {members : List Json.Member} {reading : Reading}

theorem projectInterfaces_membersPart
    (h : reading.lookup "interfaces" = some (itemsPart namedPart)) :
    projectInterfaces (membersPart reading members) = projectInterfaces members := by
  rw [projectInterfaces, projectInterfaces, findMember_membersPart, h]
  match findMember "interfaces" members with
  | some (.array items) =>
    have hitems := mapM_map_part (requireName_part "interface") items
    simp only [Option.bind_some, Option.map_some, itemsPart, hitems]
    cases items <;> rfl
  | none | some .null | some (.bool _) | some (.integer _) | some (.real _) | some (.string _)
    | some (.object _) => rfl

theorem projectFields_membersPart (h : reading.lookup "fields" = some (itemsPart fieldPart))
    (typeName : String) :
    projectFields typeName (membersPart reading members) = projectFields typeName members := by
  rw [projectFields, projectFields, findMember_membersPart, h]
  exact mapM_itemsPart (projectField_part typeName) _ _

theorem projectPossibleTypes_membersPart
    (h : reading.lookup "possibleTypes" = some (itemsPart possibleTypePart)) (typeName : String) :
    projectPossibleTypes typeName (membersPart reading members)
      = projectPossibleTypes typeName members := by
  rw [projectPossibleTypes, projectPossibleTypes, findMember_membersPart, h]
  exact mapM_itemsPart (projectPossibleType_part typeName) _ _

theorem projectEnumValues_membersPart (h : reading.lookup "enumValues" = some (itemsPart namedPart))
    (typeName : String) :
    projectEnumValues typeName (membersPart reading members)
      = projectEnumValues typeName members := by
  rw [projectEnumValues, projectEnumValues, findMember_membersPart, h]
  exact mapM_itemsPart (requireName_part _) _ _

theorem projectInputFields_membersPart
    (h : reading.lookup "inputFields" = some (itemsPart inputValuePart)) (typeName : String) :
    projectInputFields typeName (membersPart reading members)
      = projectInputFields typeName members := by
  rw [projectInputFields, projectInputFields, findMember_membersPart, h]
  exact mapM_itemsPart (projectInputValue_part typeName) _ _

end Lists

/-- The lists that count for the kind of a type are all that is read of it. -/
theorem projectNamedType_part (name : String) (members : List Json.Member) :
    projectNamedType name (membersPart (typeReading members) members)
      = projectNamedType name members := by
  have hkind := hasKind_membersPart (typeReading members) members rfl
  have htext := kindText_membersPart (typeReading members) members rfl
  simp only [projectNamedType, hkind, htext]
  -- the reading goes by the same kinds as the projection
  unfold typeReading listsReading
  split_ifs
  · rfl
  · rw [projectInterfaces_membersPart rfl, projectFields_membersPart rfl]
  · rw [projectInterfaces_membersPart rfl, projectFields_membersPart rfl,
      projectPossibleTypes_membersPart rfl]
  · rw [projectPossibleTypes_membersPart rfl]
  · rw [projectEnumValues_membersPart rfl]
  · rw [projectInputFields_membersPart rfl]
  · rfl

theorem projectType_typePart (value : Value) :
    projectType (typePart value) = projectType value := by
  cases value with
  | object members =>
    have hname := nameOfMembers_membersPart (typeReading members) members rfl
    simp only [typePart, projectType, hname, projectNamedType_part]
  | _ => rfl

def schemaReading : Reading := [("types", itemsPart typePart)]

/-- The part of an answer that is read. -/
def answerPart : Value → Value := objectPart [("__schema", objectPart schemaReading)]

theorem answeredTypes_membersPart (schema : List Json.Member) :
    answeredTypes (membersPart schemaReading schema)
      = (answeredTypes schema).map (List.map typePart) := by
  have htypes : findMember "types" (membersPart schemaReading schema)
      = (findMember "types" schema).map (itemsPart typePart) :=
    findMember_membersPart schemaReading schema "types"
  rw [answeredTypes, answeredTypes, htypes]
  match findMember "types" schema with
  | some (.array items) => cases items <;> rfl
  | none | some .null => rfl
  | some (.bool _) | some (.integer _) | some (.real _) | some (.string _) | some (.object _) =>
    simp only [Option.map_some, itemsPart]
    split <;> rfl

/-- Nothing but its part is read of an answer. -/
theorem projectDefinitions_answerPart (answer : Value) :
    projectDefinitions (answerPart answer) = projectDefinitions answer := by
  have hschema : (answerPart answer).get? "__schema"
      = (answer.get? "__schema").map (objectPart schemaReading) := by
    cases answer with
    | object members => exact findMember_membersPart _ members "__schema"
    | _ => rfl
  rw [projectDefinitions, projectDefinitions, hschema]
  match answer.get? "__schema" with
  | some (.object schema) =>
    simp only [Option.map_some, objectPart, answeredTypes_membersPart]
    cases answeredTypes schema with
    | error fault => rfl
    | ok types => exact mapM_map_part projectType_typePart types
  | none | some .null | some (.bool _) | some (.integer _) | some (.real _) | some (.string _)
    | some (.array _) => rfl

/-! ## Deleting -/

/-- At a position of which a part is read, one member that is not read is deleted somewhere: in an
object there, in a member of it that is read, or in an item of a list. What is read of a type or a
reference depends on its kind. -/
inductive Deletes : (Value → Value) → Value → Value → Prop where
  | here {reading : Reading} {member : Json.Member} (before after : List Json.Member)
      (hunread : ∀ entry ∈ reading, entry.1 ≠ member.1) :
      Deletes (objectPart reading) (.object (before ++ member :: after)) (.object (before ++ after))
  | inside {reading : Reading} {name : String} {value value' : Value}
      (before after : List Json.Member) (hread : ∃ entry ∈ reading, entry.1 = name)
      (h : ∀ entry ∈ reading, entry.1 = name → Deletes entry.2 value value') :
      Deletes (objectPart reading) (.object (before ++ (name, value) :: after))
        (.object (before ++ (name, value') :: after))
  | item {part : Value → Value} {value value' : Value} (before after : List Value)
      (h : Deletes part value value') :
      Deletes (itemsPart part) (.array (before ++ value :: after))
        (.array (before ++ value' :: after))
  | type {members members' : List Json.Member}
      (h : Deletes (objectPart (typeReading members)) (.object members) (.object members')) :
      Deletes typePart (.object members) (.object members')
  | reference {members members' : List Json.Member}
      (h : Deletes (objectPart (refReading members)) (.object members) (.object members')) :
      Deletes refPart (.object members) (.object members')

section Deletions

variable {reading : Reading} {members members' before after : List Json.Member}

theorem membersPart_delete {member : Json.Member}
    (hunread : ∀ entry ∈ reading, entry.1 ≠ member.1) :
    membersPart reading (before ++ member :: after) = membersPart reading (before ++ after) := by
  refine List.filterMap_congr fun entry hentry => ?_
  rw [findMember_append, findMember_append, findMember, if_neg (hunread entry hentry).symm]

theorem membersPart_replace {name : String} {value value' : Value}
    (h : ∀ entry ∈ reading, entry.1 = name → entry.2 value = entry.2 value') :
    membersPart reading (before ++ (name, value) :: after)
      = membersPart reading (before ++ (name, value') :: after) := by
  refine List.filterMap_congr fun entry hentry => ?_
  rw [findMember_append, findMember_append, findMember, findMember]
  cases findMember entry.1 before with
  | some found => rfl
  | none =>
    by_cases hname : name = entry.1
    · simp [hname, h entry hentry hname.symm]
    · simp [hname]

theorem hasKind_congr (hkind : reading.lookup "kind" = some id)
    (h : membersPart reading members = membersPart reading members') :
    hasKind members = hasKind members' := by
  funext word
  rw [← hasKind_membersPart reading members hkind, h, hasKind_membersPart reading members' hkind]

end Deletions

/-- Deleting what is not read leaves the part as it is. -/
theorem Deletes.part_eq {part : Value → Value} {value value' : Value}
    (h : Deletes part value value') : part value = part value' := by
  induction h with
  | here before after hunread => exact congrArg Value.object (membersPart_delete hunread)
  | inside before after _ _ ih => exact congrArg Value.object (membersPart_replace ih)
  | item before after _ ih => simp [itemsPart, ih]
  | @type members members' _ ih =>
    -- the kind is read, and so the same is read of both
    have hsame : membersPart (typeReading members) members
        = membersPart (typeReading members) members' := Value.object.inj ih
    have hreading : typeReading members = typeReading members' := by
      simp only [typeReading, listsReading, hasKind_congr rfl hsame]
    rw [typePart, typePart, hsame, hreading]
  | @reference members members' _ ih =>
    have hsame : membersPart (refReading members) members
        = membersPart (refReading members) members' := Value.object.inj ih
    have hkind : (refReading members).lookup "kind" = some id := by
      unfold refReading
      split <;> rfl
    have hreading : refReading members = refReading members' := by
      simp only [refReading, hasKind_congr hkind hsame]
    rw [refPart_object, refPart_object, ih, hreading]

/-- Two answers that become equal when members are deleted that are not read have the same part. -/
theorem answerPart_eq_of_deletions {answer other : Value}
    (h : Relation.EqvGen (Deletes answerPart) answer other) :
    answerPart answer = answerPart other := by
  induction h with
  | rel _ _ h => exact h.part_eq
  | refl => rfl
  | symm _ _ _ ih => exact ih.symm
  | trans _ _ _ _ _ ihfirst ihsecond => exact ihfirst.trans ihsecond

end Introspection

/-! ## Two answers with the same part -/

open Introspection

/-- **Unread members have no influence.** Two answers that agree on the part that is read give the
same definitions or fail with the same fault, and so they give the same declarations. They compare
alike with any third answer, on either side, and compared with each other they are unchanged. -/
theorem unread_members_have_no_influence (answer other : Json.Value)
    (h : answerPart answer = answerPart other) :
    projectDefinitions answer = projectDefinitions other
    ∧ extractAnswer answer = extractAnswer other
    ∧ (∀ third, compareExtractions (extractAnswer answer) third
          = compareExtractions (extractAnswer other) third
        ∧ compareExtractions third (extractAnswer answer)
          = compareExtractions third (extractAnswer other))
    ∧ ∀ extraction, extractAnswer answer = .ok extraction → extraction.isComplete = true →
      (compareExtractions (extractAnswer answer) (extractAnswer other)).result
        = .ok ⟨.patch, .unchanged, [], [], []⟩ := by
  have hdefinitions : projectDefinitions answer = projectDefinitions other := by
    rw [← projectDefinitions_answerPart answer, h, projectDefinitions_answerPart other]
  have hextraction : extractAnswer answer = extractAnswer other := by
    rw [extractAnswer, extractAnswer, definitionsOfAnswer, definitionsOfAnswer, hdefinitions]
  refine ⟨hdefinitions, hextraction, fun third => ?_, fun extraction hanswer hcomplete => ?_⟩
  · rw [hextraction]
    exact ⟨rfl, rfl⟩
  · have hunchanged : compareDeclarations extraction.declarations extraction.declarations
        = ⟨.patch, .unchanged, [], [], []⟩ := by
      simp [compareDeclarations, unmatched_self, Outcome.ofParts]
    rw [← hextraction, hanswer, result_compareExtractions hcomplete hcomplete, hunchanged]

/-- Descriptions, deprecations, lists foreign to a kind and the order of members do not count. -/
theorem described_query_is_unchanged :
    let int (more : List Json.Member) : Json.Value :=
      .object (("kind", .string "SCALAR") :: more ++ [("name", .string "Int")])
    let plain : Json.Value := .object [("__schema", .object [("types", .array [.object
      [("kind", .string "OBJECT"), ("name", .string "Query"), ("fields", .array [.object
        [("name", .string "size"), ("args", .array []), ("type", int [])]])]])])]
    let described : Json.Value := .object [("__schema", .object [("description", .null),
      ("types", .array [.object
        [("name", .string "Query"), ("kind", .string "OBJECT"), ("enumValues", .bool true),
          ("fields", .array [.object [("type", int [("ofType", .null)]),
            ("isDeprecated", .bool true), ("args", .array []), ("name", .string "size")]])]])])]
    projectDefinitions described
        = .ok [.object "Query" [] [⟨"size", .named "SCALAR" "Int", []⟩]]
      ∧ (compareExtractions (extractAnswer plain) (extractAnswer described)).result
        = .ok ⟨.patch, .unchanged, [], [], []⟩ := by
  intro int plain described
  have hpart : answerPart plain = answerPart described := rfl
  have hsame := unread_members_have_no_influence plain described hpart
  refine ⟨hsame.1.symm.trans rfl, hsame.2.2.2 _ rfl rfl⟩

end SchemaSemver
