/-
SchemaSemver.Proofs.Schema.Signature — signatures are canonical.

A signature is compared as a text, so two things that users tell apart must never share one. The
shape of a reference is its nesting of wrappers around the name of its leaf; the kind of the leaf
is no part of it. The sections go from the inside out:

  §1 References — `Shape.spelling_injective`: the wrappers can be read off the end of a spelling.
  §2 Fields     — `FieldShape.spelling_injective`: an argument list ends at its first `)`, an
                  argument at its first comma, the name of an argument at its first colon.
  §3 Headings   — `Heading.signature_injective`: the declaration of a type itself tells its kind
                  and, for objects and interfaces, the interfaces in order.

`signatures_canonical` states the three together for the definitions that an extraction spells.
-/
import SchemaSemver.Proofs.Schema.Name

namespace SchemaSemver

/-! ## §1 References -/

/-- A reference without the kind of its leaf. -/
inductive Shape where
  | named (name : String)
  | list (item : Shape)
  | nonNull (item : Shape)
deriving DecidableEq, Repr

namespace Shape

/-- The name inside all wrappers. -/
def leafName : Shape → String
  | named name => name
  | list item => item.leafName
  | nonNull item => item.leafName

/-- The GraphQL spelling of a shape. -/
def spelling : Shape → String
  | named name => name
  | list item => "[" ++ item.spelling ++ "]"
  | nonNull item => item.spelling ++ "!"

/-- Is the outermost wrapper the non-null one? -/
def isNonNull : Shape → Bool
  | nonNull _ => true
  | _ => false

theorem toList_spelling_list (item : Shape) :
    (list item).spelling.toList = '[' :: (item.spelling.toList ++ [']']) := by
  simp [spelling, String.toList_append]

theorem toList_spelling_nonNull (item : Shape) :
    (nonNull item).spelling.toList = item.spelling.toList ++ ['!'] := by
  simp [spelling, String.toList_append]

/-- A spelling holds the characters of names and the three characters of wrappers. -/
theorem mem_spelling {s : Shape} (hs : isName s.leafName = true) {c : Char}
    (hc : c ∈ s.spelling.toList) :
    Sdl.isNameContinue c = true ∨ c = '[' ∨ c = ']' ∨ c = '!' := by
  induction s with
  | named name => exact Or.inl (isNameContinue_of_mem hs hc)
  | list item ih =>
    rw [toList_spelling_list] at hc
    rcases List.mem_cons.mp hc with rfl | hc
    · simp
    · rcases List.mem_append.mp hc with hc | hc
      · exact ih hs hc
      · rw [List.mem_singleton] at hc; simp [hc]
  | nonNull item ih =>
    rw [toList_spelling_nonNull] at hc
    rcases List.mem_append.mp hc with hc | hc
    · exact ih hs hc
    · rw [List.mem_singleton] at hc; simp [hc]

/-- A character that is neither part of a name nor of a wrapper is missing from a spelling. -/
theorem not_mem_spelling {s : Shape} (hs : isName s.leafName = true) {c : Char}
    (hc : Sdl.isNameContinue c = false ∧ c ≠ '[' ∧ c ≠ ']' ∧ c ≠ '!') :
    c ∉ s.spelling.toList := by
  intro hm
  rcases mem_spelling hs hm with h | h | h | h
  · rw [hc.1] at h; cases h
  · exact hc.2.1 h
  · exact hc.2.2.1 h
  · exact hc.2.2.2 h

/-- A name is not the spelling of a list. -/
theorem name_ne_spelling_list {name : String} (h : isName name = true) (item : Shape) :
    name ≠ (list item).spelling := by
  rintro rfl
  exact not_mem_of_isName h (c := '[') (by decide) (by rw [toList_spelling_list]; simp)

/-- The spelling of a non-null shape, and no other, ends in an exclamation mark. -/
theorem isNonNull_iff_spelling {s : Shape} (hs : isName s.leafName = true) :
    s.isNonNull = true ↔ ∃ text, s.spelling = text ++ "!" := by
  cases s with
  | named name =>
    have hname : '!' ∉ name.toList := not_mem_of_isName hs (by decide)
    constructor
    · intro h
      cases h
    · rintro ⟨text, rfl⟩
      exact absurd (by simp [String.toList_append]) hname
  | list item =>
    constructor
    · intro h
      cases h
    · rintro ⟨text, h⟩
      -- a list ends in a bracket
      have hl := congrArg String.toList h
      rw [toList_spelling_list, String.toList_append, ← List.cons_append] at hl
      have hlast := (List.append_singleton_inj.mp hl).2
      exact absurd hlast (by decide)
  | nonNull item => exact ⟨fun _ => ⟨item.spelling, rfl⟩, fun _ => rfl⟩

/-- Only a non-null shape is spelled like one. -/
theorem isNonNull_of_spelling_eq {s : Shape} (hs : isName s.leafName = true) {item : Shape}
    (h : s.spelling = (nonNull item).spelling) : s.isNonNull = true :=
  (isNonNull_iff_spelling hs).mpr ⟨item.spelling, h⟩

/-- A spelling has one shape. -/
theorem spelling_injective {s t : Shape} (hs : isName s.leafName = true)
    (ht : isName t.leafName = true) (h : s.spelling = t.spelling) : s = t := by
  induction s generalizing t with
  | named name =>
    cases t with
    | named other => exact congrArg named h
    | list item => exact absurd h (name_ne_spelling_list hs item)
    | nonNull item => cases isNonNull_of_spelling_eq (s := named name) hs h
  | list s ih =>
    cases t with
    | named other => exact absurd h.symm (name_ne_spelling_list ht s)
    | list t =>
      have hinner : s.spelling = t.spelling := by
        simpa [spelling, String.append_left_inj, String.append_right_inj] using h
      rw [ih (t := t) hs ht hinner]
    | nonNull t => cases isNonNull_of_spelling_eq (s := list s) hs h
  | nonNull s ih =>
    cases t with
    | named other => cases isNonNull_of_spelling_eq (s := named other) ht h.symm
    | list t => cases isNonNull_of_spelling_eq (s := list t) ht h.symm
    | nonNull t =>
      have hinner : s.spelling = t.spelling := by
        simpa [spelling, String.append_left_inj] using h
      rw [ih (t := t) hs ht hinner]

end Shape

namespace TypeRef

/-- The reference without the kind of its leaf. -/
def shape : TypeRef → Shape
  | named _ name => .named name
  | list item => .list item.shape
  | nonNull item => .nonNull item.shape

theorem leafName_shape (type : TypeRef) : type.shape.leafName = type.leaf.name := by
  induction type with
  | named kind name => rfl
  | list item ih => exact ih
  | nonNull item ih => exact ih

theorem isNonNull_shape (type : TypeRef) : type.shape.isNonNull = type.isNonNull := by
  cases type <;> rfl

/-- A reference is spelled by its shape, unless the kind of its leaf is not supported. -/
theorem signature_eq (type : TypeRef) :
    type.signature
      = if type.leaf.kind ∈ supportedKinds then .ok type.shape.spelling
        else .error ⟨type.leaf⟩ := by
  induction type with
  | named kind name => rfl
  | list item ih =>
    simp only [signature, leaf, shape, Shape.spelling, ih]
    split <;> rfl
  | nonNull item ih =>
    simp only [signature, leaf, shape, Shape.spelling, ih]
    split <;> rfl

theorem signature_of_supported {type : TypeRef} (h : type.leaf.kind ∈ supportedKinds) :
    type.signature = .ok type.shape.spelling := by
  rw [signature_eq, if_pos h]

end TypeRef

/-! ### Several references -/

/-- The first of some references that ends in a kind without a signature. -/
def firstUnsupported (types : List TypeRef) : Option TypeRef :=
  types.find? fun type => type.leaf.kind ∉ supportedKinds

/-- A text made of some references; the first of them without a signature is the fault. -/
def spelledWith {α : Type} (types : List TypeRef) (text : α) : Except UnsupportedKind α :=
  match firstUnsupported types with
  | none => .ok text
  | some type => .error ⟨type.leaf⟩

theorem firstUnsupported_eq_none_iff {types : List TypeRef} :
    firstUnsupported types = none ↔ ∀ type ∈ types, type.leaf.kind ∈ supportedKinds := by
  simp [firstUnsupported]

theorem firstUnsupported_append (first second : List TypeRef) :
    firstUnsupported (first ++ second) = (firstUnsupported first).or (firstUnsupported second) :=
  List.find?_append

section SpelledWith

variable {α β : Type} {types : List TypeRef} {text : α}

theorem spelledWith_of_supported (h : ∀ type ∈ types, type.leaf.kind ∈ supportedKinds) :
    spelledWith types text = .ok text := by
  rw [spelledWith, firstUnsupported_eq_none_iff.mpr h]

theorem supported_of_spelledWith {found : α} (h : spelledWith types text = .ok found) :
    ∀ type ∈ types, type.leaf.kind ∈ supportedKinds := by
  rw [← firstUnsupported_eq_none_iff]
  unfold spelledWith at h
  split at h
  · assumption
  · cases h

theorem spelledWith_map (f : α → β) :
    (spelledWith types text).map f = spelledWith types (f text) := by
  unfold spelledWith
  split <;> rfl

/-- What is made of two texts, one after the other, is made of the references of both. -/
theorem spelledWith_bind (first second : List TypeRef) {next : α → Except UnsupportedKind β}
    {whole : β} (h : next text = spelledWith second whole) :
    spelledWith first text >>= next = spelledWith (first ++ second) whole := by
  unfold spelledWith
  rw [firstUnsupported_append]
  cases firstUnsupported first with
  | none => exact h
  | some type => rfl

end SpelledWith

theorem TypeRef.signature_eq_spelledWith (type : TypeRef) :
    type.signature = spelledWith [type] type.shape.spelling := by
  rw [signature_eq, spelledWith, firstUnsupported, List.find?_singleton]
  by_cases h : type.leaf.kind ∈ supportedKinds <;> simp [h]

/-! ## §2 Fields -/

/-- An argument without the kind of its leaf. -/
def InputValue.shape (value : InputValue) : String × Shape := (value.name, value.type.shape)

/-- The arguments of a field, in order, and its type. -/
structure FieldShape where
  arguments : List (String × Shape)
  type : Shape
deriving DecidableEq, Repr

namespace FieldShape

/-- An argument as it stands in an argument list. -/
def argumentSpelling (argument : String × Shape) : String :=
  argument.1 ++ ": " ++ argument.2.spelling

/-- The argument list in front of a result type. -/
def argumentsSpelling : List (String × Shape) → String
  | [] => ""
  | arguments => "(" ++ Text.joinWith "," (arguments.map argumentSpelling) ++ ") => "

/-- The text of a field: its arguments, then its type. -/
def spelling (field : FieldShape) : String :=
  argumentsSpelling field.arguments ++ field.type.spelling

/-- An argument with GraphQL names. -/
def IsNamedArgument (argument : String × Shape) : Prop :=
  isName argument.1 = true ∧ isName argument.2.leafName = true

/-- A field whose arguments and type have GraphQL names. -/
def IsNamed (field : FieldShape) : Prop :=
  (∀ argument ∈ field.arguments, IsNamedArgument argument) ∧ isName field.type.leafName = true

theorem toList_argumentSpelling (argument : String × Shape) :
    (argumentSpelling argument).toList
      = argument.1.toList ++ ':' :: ' ' :: argument.2.spelling.toList := by
  simp [argumentSpelling, String.toList_append]

/-- A character that is missing from names, wrappers and the mark after a name is missing from an
argument. -/
theorem not_mem_argumentSpelling {argument : String × Shape} (h : IsNamedArgument argument)
    {c : Char} (hc : Sdl.isNameContinue c = false ∧ c ≠ '[' ∧ c ≠ ']' ∧ c ≠ '!')
    (hmark : c ≠ ':' ∧ c ≠ ' ') : c ∉ (argumentSpelling argument).toList := by
  rw [toList_argumentSpelling]
  intro hm
  rcases List.mem_append.mp hm with hm | hm
  · exact not_mem_of_isName h.1 hc.1 hm
  · rcases List.mem_cons.mp hm with hm | hm
    · exact hmark.1 hm
    · rcases List.mem_cons.mp hm with hm | hm
      · exact hmark.2 hm
      · exact Shape.not_mem_spelling h.2 hc hm

theorem isPart_argumentSpelling {argument : String × Shape} (h : IsNamedArgument argument) :
    Text.IsPart (argumentSpelling argument) := by
  refine ⟨?_, not_mem_argumentSpelling h (by decide) (by decide)⟩
  rw [toList_argumentSpelling]
  simp

/-- An argument has one name and one shape. -/
theorem argumentSpelling_injective {a b : String × Shape} (ha : IsNamedArgument a)
    (hb : IsNamedArgument b) (h : argumentSpelling a = argumentSpelling b) : a = b := by
  have hl := congrArg String.toList h
  rw [toList_argumentSpelling, toList_argumentSpelling] at hl
  obtain ⟨hname, hrest⟩ := Text.cut_unique (not_mem_of_isName ha.1 (by decide))
    (not_mem_of_isName hb.1 (by decide)) hl
  have hshape : a.2.spelling = b.2.spelling :=
    String.toList_injective (List.cons.inj hrest).2
  exact Prod.ext (String.toList_injective hname) (Shape.spelling_injective ha.2 hb.2 hshape)

/-- Arguments joined by commas can be read back. -/
theorem joinedArguments_injective {as bs : List (String × Shape)}
    (ha : ∀ a ∈ as, IsNamedArgument a) (hb : ∀ b ∈ bs, IsNamedArgument b)
    (h : Text.joinWith "," (as.map argumentSpelling)
      = Text.joinWith "," (bs.map argumentSpelling)) : as = bs := by
  have htexts : as.map argumentSpelling = bs.map argumentSpelling := by
    refine Text.joinWith_comma_injective ?_ ?_ h
    · intro text htext
      obtain ⟨a, hmem, rfl⟩ := List.mem_map.mp htext
      exact isPart_argumentSpelling (ha a hmem)
    · intro text htext
      obtain ⟨b, hmem, rfl⟩ := List.mem_map.mp htext
      exact isPart_argumentSpelling (hb b hmem)
  clear h
  induction as generalizing bs with
  | nil => exact (List.map_eq_nil_iff.mp htexts.symm).symm
  | cons a as ih =>
    cases bs with
    | nil => simp at htexts
    | cons b bs =>
      obtain ⟨hfirst, hrest⟩ := List.cons.inj htexts
      rw [argumentSpelling_injective (ha a List.mem_cons_self) (hb b List.mem_cons_self) hfirst,
        ih (fun x hx => ha x (List.mem_cons_of_mem a hx))
          (fun x hx => hb x (List.mem_cons_of_mem b hx)) hrest]

/-- An argument list opens with a parenthesis and is closed by the first one that closes. -/
theorem toList_spelling_cons (a : String × Shape) (as : List (String × Shape)) (type : Shape) :
    (spelling ⟨a :: as, type⟩).toList
      = '(' :: ((Text.joinWith "," ((a :: as).map argumentSpelling)).toList
        ++ ')' :: ([' ', '=', '>', ' '] ++ type.spelling.toList)) := by
  simp [spelling, argumentsSpelling, String.toList_append]

theorem close_not_mem_joined {as : List (String × Shape)} (h : ∀ a ∈ as, IsNamedArgument a) :
    ')' ∉ (Text.joinWith "," (as.map argumentSpelling)).toList := by
  intro hm
  obtain ⟨text, htext, hc⟩ := Text.mem_joinWith_comma (by decide) hm
  obtain ⟨a, hmem, rfl⟩ := List.mem_map.mp htext
  exact not_mem_argumentSpelling (h a hmem) (by decide) (by decide) hc

/-- A field with arguments is not spelled like one without. -/
theorem spelling_cons_ne_nil (a : String × Shape) (as : List (String × Shape)) (s : Shape)
    {t : Shape} (ht : isName t.leafName = true) : spelling ⟨a :: as, s⟩ ≠ spelling ⟨[], t⟩ := by
  intro h
  have hopen : '(' ∈ (spelling ⟨[], t⟩).toList := by
    rw [← h, toList_spelling_cons]
    exact List.mem_cons_self
  have hplain : spelling ⟨[], t⟩ = t.spelling := by simp [spelling, argumentsSpelling]
  rw [hplain] at hopen
  exact Shape.not_mem_spelling ht (by decide) hopen

/-- The text of a field has one shape. -/
theorem spelling_injective {f g : FieldShape} (hf : f.IsNamed) (hg : g.IsNamed)
    (h : f.spelling = g.spelling) : f = g := by
  obtain ⟨as, s⟩ := f
  obtain ⟨bs, t⟩ := g
  cases as with
  | nil =>
    cases bs with
    | nil =>
      have htype : s.spelling = t.spelling := by simpa [spelling, argumentsSpelling] using h
      exact congrArg (mk []) (Shape.spelling_injective hf.2 hg.2 htype)
    | cons b bs => exact absurd h.symm (spelling_cons_ne_nil b bs t hf.2)
  | cons a as =>
    cases bs with
    | nil => exact absurd h (spelling_cons_ne_nil a as s hg.2)
    | cons b bs =>
      have hl := congrArg String.toList h
      rw [toList_spelling_cons, toList_spelling_cons] at hl
      obtain ⟨hargs, hrest⟩ := Text.cut_unique (close_not_mem_joined hf.1)
        (close_not_mem_joined hg.1) (List.cons.inj hl).2
      have htype : s.spelling = t.spelling :=
        String.toList_injective (List.append_cancel_left hrest)
      have harguments : a :: as = b :: bs :=
        joinedArguments_injective hf.1 hg.1 (String.toList_injective hargs)
      have hshape : s = t := Shape.spelling_injective hf.2 hg.2 htype
      rw [harguments, hshape]

end FieldShape

/-- Arguments are spelled by their shapes, unless one of them has no signature. -/
theorem InputValue.signatures_eq (values : List InputValue) :
    InputValue.signatures values
      = spelledWith (values.map InputValue.type)
          ((values.map InputValue.shape).map FieldShape.argumentSpelling) := by
  induction values with
  | nil => rfl
  | cons value rest ih =>
    have hvalue : value.signature
        = spelledWith [value.type] (FieldShape.argumentSpelling value.shape) := by
      rw [InputValue.signature, TypeRef.signature_eq_spelledWith, spelledWith_map]
      rfl
    rw [InputValue.signatures, hvalue, ih]
    refine spelledWith_bind [value.type] (rest.map InputValue.type) ?_
    exact spelledWith_map _

theorem InputValue.listSignature_eq (values : List InputValue) :
    InputValue.listSignature values
      = spelledWith (values.map InputValue.type)
          (FieldShape.argumentsSpelling (values.map InputValue.shape)) := by
  cases values with
  | nil => rfl
  | cons value rest =>
    rw [InputValue.listSignature, InputValue.signatures_eq, spelledWith_map]
    · rfl
    · simp

namespace Field

/-- The arguments and the type of a field without the kinds of leaves. -/
def shape (field : Field) : FieldShape := ⟨field.arguments.map InputValue.shape, field.type.shape⟩

/-- The references of a field: its type, and the types of its arguments. -/
def references (field : Field) : List TypeRef := field.type :: field.arguments.map InputValue.type

/-- A field whose signature is made of names: its arguments have GraphQL names, and its references
end in types with GraphQL names and supported kinds. -/
structure IsSpellable (field : Field) : Prop where
  arguments : ∀ value ∈ field.arguments, isName value.name = true
  leaves : ∀ type ∈ field.references, isName type.leaf.name = true
  kinds : ∀ type ∈ field.references, type.leaf.kind ∈ supportedKinds

theorem type_mem_references (field : Field) : field.type ∈ field.references :=
  List.mem_cons_self

theorem argument_mem_references {field : Field} {value : InputValue}
    (h : value ∈ field.arguments) : value.type ∈ field.references :=
  List.mem_cons_of_mem _ (List.mem_map_of_mem h)

/-- A field is spelled by its shape, unless a reference has no signature: the arguments are looked
at first, from left to right, and then the type. -/
theorem signature_eq (field : Field) :
    field.signature
      = spelledWith (field.arguments.map InputValue.type ++ [field.type]) field.shape.spelling := by
  rw [signature, InputValue.listSignature_eq]
  refine spelledWith_bind _ _ ?_
  rw [TypeRef.signature_eq_spelledWith]
  exact spelledWith_map _

/-- The references of a field, its type last. -/
theorem mem_references_iff {field : Field} {type : TypeRef} :
    type ∈ field.references ↔ type ∈ field.arguments.map InputValue.type ++ [field.type] := by
  rw [references, List.mem_cons, List.mem_append, List.mem_singleton, or_comm]

theorem signature_of_supported {field : Field}
    (h : ∀ type ∈ field.references, type.leaf.kind ∈ supportedKinds) :
    field.signature = .ok field.shape.spelling := by
  rw [signature_eq]
  exact spelledWith_of_supported fun type ht => h type (mem_references_iff.mpr ht)

/-- A field has a signature only if the kinds of all its references are supported. -/
theorem supported_of_signature {field : Field} {text : String} (h : field.signature = .ok text) :
    ∀ type ∈ field.references, type.leaf.kind ∈ supportedKinds := by
  rw [signature_eq] at h
  exact fun type ht => supported_of_spelledWith h type (mem_references_iff.mp ht)

theorem isNamed_shape {field : Field}
    (harguments : ∀ value ∈ field.arguments, isName value.name = true)
    (hleaves : ∀ type ∈ field.references, isName type.leaf.name = true) :
    field.shape.IsNamed := by
  constructor
  · intro argument hargument
    obtain ⟨value, hvalue, rfl⟩ := List.mem_map.mp hargument
    refine ⟨harguments value hvalue, ?_⟩
    show isName value.type.shape.leafName = true
    rw [TypeRef.leafName_shape]
    exact hleaves value.type (argument_mem_references hvalue)
  · show isName field.type.shape.leafName = true
    rw [TypeRef.leafName_shape]
    exact hleaves field.type field.type_mem_references

end Field

/-! ## §3 Headings -/

/-- What a type is declared as: its kind, and the interfaces of an object or interface in order. -/
inductive Heading where
  | scalar
  | object (interfaces : List String)
  | interface (interfaces : List String)
  | union
  | enum
  | inputObject
deriving DecidableEq, Repr

namespace Heading

/-- The interfaces that the heading names. -/
def interfaces : Heading → List String
  | object interfaces => interfaces
  | interface interfaces => interfaces
  | _ => []

/-- The signature of the declaration of a type itself. -/
def signature : Heading → String
  | scalar => "SCALAR"
  | object interfaces => "OBJECT:" ++ Text.joinWith "," interfaces
  | interface interfaces => "INTERFACE:" ++ Text.joinWith "," interfaces
  | union => "UNION"
  | enum => "ENUM"
  | inputObject => "INPUT_OBJECT"

/-- The declaration of a type itself. -/
def declaration (typeName : String) (heading : Heading) : Declaration :=
  ⟨typeName, heading.signature, Declaration.noParent⟩

/-- The three letters that a signature begins with; no two kinds share them. -/
def mark : Heading → List Char
  | scalar => ['S', 'C', 'A']
  | object _ => ['O', 'B', 'J']
  | interface _ => ['I', 'N', 'T']
  | union => ['U', 'N', 'I']
  | enum => ['E', 'N', 'U']
  | inputObject => ['I', 'N', 'P']

theorem take_signature (heading : Heading) : heading.signature.toList.take 3 = heading.mark := by
  cases heading <;> simp [signature, mark, String.toList_append]

/-- Interfaces that are names can be read back from where they are listed. -/
theorem joinedInterfaces_injective {xs ys : List String} (hx : ∀ x ∈ xs, isName x = true)
    (hy : ∀ y ∈ ys, isName y = true) (h : Text.joinWith "," xs = Text.joinWith "," ys) :
    xs = ys :=
  Text.joinWith_comma_injective (fun x hm => isPart_of_isName (hx x hm))
    (fun y hm => isPart_of_isName (hy y hm)) h

/-- The declaration of a type itself has one heading. -/
theorem signature_injective {h k : Heading} (hh : ∀ name ∈ h.interfaces, isName name = true)
    (hk : ∀ name ∈ k.interfaces, isName name = true) (he : h.signature = k.signature) :
    h = k := by
  have hmark : h.mark = k.mark := by rw [← take_signature, ← take_signature, he]
  cases h with
  | object xs =>
    cases k with
    | object ys =>
      have hlist := (String.append_right_inj "OBJECT:").mp he
      exact congrArg object (joinedInterfaces_injective hh hk hlist)
    | _ => simp [mark] at hmark
  | interface xs =>
    cases k with
    | interface ys =>
      have hlist := (String.append_right_inj "INTERFACE:").mp he
      exact congrArg interface (joinedInterfaces_injective hh hk hlist)
    | _ => simp [mark] at hmark
  | _ => cases k <;> simp [mark] at hmark ⊢

end Heading

namespace TypeDefinition

/-- What the type is declared as; a type of a kind that GraphQL does not know is not declared. -/
def heading? : TypeDefinition → Option Heading
  | scalar _ => some .scalar
  | object _ interfaces _ => some (.object interfaces)
  | interface _ interfaces _ _ => some (.interface interfaces)
  | union _ _ => some .union
  | enum _ _ => some .enum
  | inputObject _ _ => some .inputObject
  | unrecognised _ _ => none

/-- The first entry of a type declares its heading. -/
theorem head?_entries {definition : TypeDefinition} {heading : Heading}
    (h : definition.heading? = some heading) :
    definition.entries.head? = some (selfEntry definition.name heading.signature) := by
  cases definition <;> cases h <;> rfl

end TypeDefinition

/-! ## The three together -/

/-- **Signatures are canonical.** Two fields have the same signature exactly when they have the
same arguments in the same order, with types of the same shapes, and a type of the same shape; two
references exactly when they have the same shape; and the declarations of two types themselves
have the same signature exactly when the types have the same kind and, for objects and interfaces,
the same interfaces in the same order. -/
theorem signatures_canonical (f g : Field) (hf : f.IsSpellable) (hg : g.IsSpellable)
    (a b : TypeDefinition) (h k : Heading) (ha : a.heading? = some h) (hb : b.heading? = some k)
    (hnames : ∀ name ∈ h.interfaces, isName name = true)
    (knames : ∀ name ∈ k.interfaces, isName name = true) :
    (∃ s t, f.signature = .ok s ∧ g.signature = .ok t ∧
      (s = t ↔ f.arguments.map InputValue.shape = g.arguments.map InputValue.shape
        ∧ f.type.shape = g.type.shape))
    ∧ (∃ s t, f.type.signature = .ok s ∧ g.type.signature = .ok t ∧
      (s = t ↔ f.type.shape = g.type.shape))
    ∧ (∃ s t, a.entries.head? = some (selfEntry a.name s)
      ∧ b.entries.head? = some (selfEntry b.name t) ∧ (s = t ↔ h = k)) := by
  have hfn : f.shape.IsNamed := Field.isNamed_shape hf.arguments hf.leaves
  have hgn : g.shape.IsNamed := Field.isNamed_shape hg.arguments hg.leaves
  refine ⟨⟨_, _, Field.signature_of_supported hf.kinds, Field.signature_of_supported hg.kinds, ?_⟩,
    ⟨_, _, TypeRef.signature_of_supported (hf.kinds _ f.type_mem_references),
      TypeRef.signature_of_supported (hg.kinds _ g.type_mem_references), ?_⟩,
    ⟨_, _, TypeDefinition.head?_entries ha, TypeDefinition.head?_entries hb, ?_⟩⟩
  · constructor
    · intro he
      have hshape := FieldShape.spelling_injective hfn hgn he
      exact ⟨congrArg FieldShape.arguments hshape, congrArg FieldShape.type hshape⟩
    · rintro ⟨hargs, htype⟩
      show (FieldShape.mk _ _).spelling = (FieldShape.mk _ _).spelling
      rw [hargs, htype]
  · exact ⟨Shape.spelling_injective hfn.2 hgn.2, fun he => by rw [he]⟩
  · exact ⟨Heading.signature_injective hnames knames, fun he => by rw [he]⟩

/-- A list of posts with one argument of a given type. -/
private def postsField (first : TypeRef) : Field :=
  ⟨"posts", .list (.named "OBJECT" "Post"), [⟨"first", first⟩]⟩

/-- Requiring an argument and reordering interfaces both show in the signature. -/
theorem signatures_differ_posts :
    (∃ s t, (postsField (.named "SCALAR" "Int")).signature = .ok s
      ∧ (postsField (.nonNull (.named "SCALAR" "Int"))).signature = .ok t ∧ s ≠ t)
    ∧ (∃ s t, (TypeDefinition.object "User" ["Node", "Actor"] []).entries.head?
        = some (selfEntry "User" s)
      ∧ (TypeDefinition.object "User" ["Actor", "Node"] []).entries.head?
        = some (selfEntry "User" t) ∧ s ≠ t) := by
  obtain ⟨⟨s, t, hs, ht, hst⟩, -, u, v, hu, hv, huv⟩ := signatures_canonical
    (postsField (.named "SCALAR" "Int")) (postsField (.nonNull (.named "SCALAR" "Int")))
    ⟨by decide, by decide, by decide⟩ ⟨by decide, by decide, by decide⟩
    (.object "User" ["Node", "Actor"] []) (.object "User" ["Actor", "Node"] [])
    (.object ["Node", "Actor"]) (.object ["Actor", "Node"]) rfl rfl (by decide) (by decide)
  exact ⟨⟨s, t, hs, ht, fun he => absurd (hst.mp he) (by decide)⟩,
    u, v, hu, hv, fun he => absurd (huv.mp he) (by decide)⟩

end SchemaSemver
