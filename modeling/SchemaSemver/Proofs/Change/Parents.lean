/-
SchemaSemver.Proofs.Change.Parents — the exemption by parents means what it should.

A parent-sensitive addition is exempt if the path of some addition is its parent. Paths and parents
are texts, so it takes an argument that this is about types: a path without a dot belongs to one
declaration, that of the type itself (`eq_of_path_eq`), and if nothing is removed, the type is among
the additions exactly if it was not declared before (`path_added_iff`). So an addition is breaking
exactly if its parent was declared before (`breakingAmong_eq_filter`).

`parents_closed` puts this together with what parents are in the first place. Names of types have to
be GraphQL names that are used once, but only after the change; nothing is asked of what was before.
-/
import SchemaSemver.Proofs.Change.Compare
import SchemaSemver.Proofs.Schema.Identity

namespace SchemaSemver

/-! ## §1 Types by their names -/

/-- All types have GraphQL names, no two of them the same. -/
structure NamedUniquely (definitions : List TypeDefinition) : Prop where
  names : ∀ definition ∈ definitions, isName definition.name = true
  unique : (definitions.map TypeDefinition.name).Nodup

/-- Is a type of the name declared? A type of an unknown kind is not. -/
def declaresType (definitions : List TypeDefinition) (name : String) : Bool :=
  definitions.any fun definition => definition.name == name && definition.heading?.isSome

section Names

variable {definitions : List TypeDefinition}

/-- The types that are declared can be told by the paths of declarations. -/
theorem declaresType_iff {name : String} (hname : '.' ∉ name.toList) :
    declaresType definitions name = true
      ↔ ∃ declaration ∈ (extract definitions).declarations, declaration.path = name := by
  simp only [declaresType, List.any_eq_true, Bool.and_eq_true, beq_iff_eq]
  constructor
  · rintro ⟨definition, hmem, rfl, hkind⟩
    obtain ⟨heading, hheading⟩ := Option.isSome_iff_exists.mp hkind
    exact ⟨_, mem_extract_of_heading hmem hheading, rfl⟩
  · rintro ⟨declaration, hd, rfl⟩
    obtain ⟨definition, hmem, heading, hheading, rfl⟩ := heading_of_path hd hname
    exact ⟨definition, hmem, rfl, Option.isSome_iff_exists.mpr ⟨heading, hheading⟩⟩

/-- The path of a type belongs to one declaration. -/
theorem NamedUniquely.eq_of_path_eq (h : NamedUniquely definitions)
    {declaration other : Declaration} (hd : declaration ∈ (extract definitions).declarations)
    (hother : other ∈ (extract definitions).declarations)
    (hplain : '.' ∉ declaration.path.toList) (hpath : other.path = declaration.path) :
    other = declaration := by
  obtain ⟨definition, hmem, heading, hheading, rfl⟩ := heading_of_path hd hplain
  obtain ⟨found, hfound, heading', hheading', rfl⟩ := heading_of_path hother (hpath ▸ hplain)
  obtain rfl : found = definition := List.inj_on_of_nodup_map h.unique hfound hmem hpath
  rw [hheading] at hheading'
  cases hheading'
  rfl

/-- The parent of a declaration is a declared type. -/
theorem NamedUniquely.declaresType_parent (h : NamedUniquely definitions)
    {declaration : Declaration} (hd : declaration ∈ (extract definitions).declarations)
    (hsensitive : declaration.isParentSensitive = true) :
    '.' ∉ declaration.parent.toList ∧ declaresType definitions declaration.parent = true := by
  obtain ⟨definition, hmem, hdeclared⟩ := exists_declared_of_mem_extract hd
  have hplain : '.' ∉ definition.name.toList := dot_not_mem_of_isName (h.names definition hmem)
  rw [TypeDefinition.parent_of_mem_declared hdeclared hsensitive]
  refine ⟨hplain, (declaresType_iff hplain).mpr ?_⟩
  obtain ⟨self, hself, hpath⟩ := TypeDefinition.exists_self_of_mem_declared hdeclared
  rw [extract_eq_declared]
  exact ⟨self, List.mem_flatMap.mpr ⟨definition, hmem, hself⟩, hpath⟩

end Names

/-! ## §2 Breaking additions -/

section Additions

variable {before after : List TypeDefinition}

/-- If nothing is removed, a type that is declared is among the additions exactly if it was not
declared before. -/
theorem path_added_iff (h : NamedUniquely after)
    (hkept : unmatched (extract before).declarations (extract after).declarations = [])
    {name : String} (hname : '.' ∉ name.toList) (hdeclared : declaresType after name = true) :
    (∃ other ∈ unmatched (extract after).declarations (extract before).declarations,
        other.path = name)
      ↔ ¬ declaresType before name = true := by
  rw [declaresType_iff hname]
  constructor
  · rintro ⟨other, hother, rfl⟩ ⟨old, hold, hpath⟩
    obtain ⟨hmem, hnone⟩ := mem_unmatched_iff.mp hother
    -- the old declaration is still there, and its path belongs to the one that is added
    obtain ⟨kept, hkeptmem, hidentity⟩ := unmatched_eq_nil_iff.mp hkept old hold
    have hkeptpath : kept.path = other.path := (congrArg Prod.fst hidentity).trans hpath
    obtain rfl : kept = other := h.eq_of_path_eq hmem hkeptmem hname hkeptpath
    exact hnone ⟨old, hold, hidentity.symm⟩
  · intro hnew
    obtain ⟨self, hself, hpath⟩ := (declaresType_iff hname).mp hdeclared
    refine ⟨self, mem_unmatched_iff.mpr ⟨hself, ?_⟩, hpath⟩
    rintro ⟨old, hold, hidentity⟩
    exact hnew ⟨old, hold, (congrArg Prod.fst hidentity).trans hpath⟩

/-- If nothing is removed, the breaking additions are the parent-sensitive ones whose parent was
declared before. -/
theorem breakingAmong_eq_filter (h : NamedUniquely after)
    (hkept : unmatched (extract before).declarations (extract after).declarations = []) :
    breakingAmong (unmatched (extract after).declarations (extract before).declarations)
      = (unmatched (extract after).declarations (extract before).declarations).filter
          fun declaration =>
            declaration.isParentSensitive && declaresType before declaration.parent := by
  unfold breakingAmong
  refine List.filter_congr fun declaration hd => ?_
  by_cases hsensitive : declaration.isParentSensitive = true
  · obtain ⟨hplain, hdeclared⟩ :=
      h.declaresType_parent (mem_of_mem_unmatched hd) hsensitive
    have hexempt := path_added_iff h hkept hplain hdeclared
    rw [Bool.eq_iff_iff]
    simp only [hsensitive, Bool.true_and, Bool.not_eq_true', ← Bool.not_eq_true,
      List.contains_iff_mem, List.mem_map, hexempt, not_not]
  · simp [hsensitive]

end Additions

/-- **Parents are closed and mean what the classification takes them for.** No type is called `@`.
Then every declaration, wherever it stands, comes from an item of a definition, and has a parent
exactly if the item is an enum value, a possible type, or an input field that is not null. The
parent is the type that the item is a member of; the path is that of the member; and the same
definition has declared the type before, under its heading. Whether an input field has a parent can
be seen from the exclamation mark at the end of its signature, if its reference ends in a name.

If moreover the types have GraphQL names that are used once, and nothing that was there before is
removed, then the breaking additions are the parent-sensitive ones, in order, whose parent was
declared before. -/
theorem parents_closed (definitions : List TypeDefinition)
    (hmark : ∀ definition ∈ definitions, definition.name ≠ Declaration.noParent) :
    (∀ earlier declaration later,
      (extract definitions).declarations = earlier ++ declaration :: later →
        Nonempty (Origin definitions earlier declaration)
        ∧ ∀ origin : Origin definitions earlier declaration, origin.IsClosed)
    ∧ (NamedUniquely definitions → ∀ before : List TypeDefinition,
      unmatched (extract before).declarations (extract definitions).declarations = [] →
        breakingAmong (unmatched (extract definitions).declarations (extract before).declarations)
          = (unmatched (extract definitions).declarations (extract before).declarations).filter
              fun declaration =>
                declaration.isParentSensitive && declaresType before declaration.parent) := by
  refine ⟨fun earlier declaration later h => ⟨exists_origin h, fun origin => ?_⟩, ?_⟩
  · exact origin.isClosed (hmark origin.definition origin.definition_mem)
  · intro hnames before hkept
    exact breakingAmong_eq_filter hnames hkept

/-- The enum `Role` has one more value, and below a type of an unknown kind there is a new input
type. Its first field refers to an interface, so it is skipped. -/
private def rolesAndFilter : List TypeDefinition :=
  [.unrecognised "Odd" "DIRECTIVE",
    .inputObject "Filter" [⟨"by", .named "INTERFACE" "Node"⟩,
      ⟨"id", .nonNull (.named "SCALAR" "ID")⟩, ⟨"ids", .list (.nonNull (.named "SCALAR" "ID"))⟩],
    .enum "Role" ["ADMIN", "USER"]]

/-- The required field of the new input type comes from a breaking item, below the type that was
declared right before it, but only the new value of the enum is a breaking addition. -/
theorem required_field_of_new_input_is_exempt :
    (∃ origin : Origin rolesAndFilter [⟨"Filter", "INPUT_OBJECT", "@"⟩]
        ⟨"Filter.id", "ID!", "Filter"⟩,
      origin.definition.name = "Filter" ∧ origin.item.isBreaking = true)
    ∧ breakingAmong (unmatched (extract rolesAndFilter).declarations
        (extract [.enum "Role" ["ADMIN"]]).declarations)
      = [⟨"Role.USER", "ENUM_VALUE", "Role"⟩] := by
  obtain ⟨hplaces, hbreaking⟩ := parents_closed rolesAndFilter (by decide)
  obtain ⟨⟨origin⟩, hclosed⟩ := hplaces [⟨"Filter", "INPUT_OBJECT", "@"⟩]
    ⟨"Filter.id", "ID!", "Filter"⟩
    [⟨"Filter.ids", "[ID!]", "@"⟩, ⟨"Role", "ENUM", "@"⟩, ⟨"Role.ADMIN", "ENUM_VALUE", "Role"⟩,
      ⟨"Role.USER", "ENUM_VALUE", "Role"⟩] (by decide)
  refine ⟨⟨origin, ?_, ?_⟩, ?_⟩
  · exact ((hclosed origin).parent (by decide)).symm
  · exact (hclosed origin).sensitive_iff.mp (by decide)
  · rw [hbreaking ⟨by decide, by decide⟩ [.enum "Role" ["ADMIN"]] (by decide)]
    decide

end SchemaSemver
