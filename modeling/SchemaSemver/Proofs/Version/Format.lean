/-
SchemaSemver.Proofs.Version.Format — which texts are markers, and which fault the others have.

A marker is the text of an object whose last members `major`, `minor` and `patch` are integers that
are not negative (`IsMarker`). `marker_format_exact` says that exactly these texts are read, each as
the version that it holds, and that every other text has one fault: it writes no value, it writes a
value that is no object, or it is an object and the first component that is wrong is named. Only
where a text comes to an integer of more than 4300 digits, reading it breaks off.

The texts are those of the grammar of JSON, so this rests on `Json.parseChars_eq_ok_iff` and
`Json.parseChars_eq_long_iff`. What remains is the table of members: reading an object keeps one
member a name, the last one written (`Json.findMember_distinctMembers`).
-/
import Mathlib.Data.List.Induction
import SchemaSemver.Proofs.Json.LongInteger
import SchemaSemver.Version.Marker

namespace SchemaSemver

/-! ## §1 Members of an object -/

namespace Json

/-- The value of the last member with this name. -/
def lastValue? (name : String) (members : List Member) : Option Value :=
  (members.reverse.find? fun member => member.1 = name).map Prod.snd

theorem lastValue?_append_singleton (name : String) (members : List Member) (member : Member) :
    lastValue? name (members ++ [member])
      = if member.1 = name then some member.2 else lastValue? name members := by
  by_cases hname : member.1 = name <;> simp [lastValue?, hname]

theorem findMember_putMember (name : String) (members : List Member) (member : Member) :
    findMember name (putMember members member)
      = if member.1 = name then some member.2 else findMember name members := by
  induction members with
  | nil => rfl
  | cons first rest ih =>
    rw [putMember]
    split
    · rename_i hfirst
      by_cases hname : member.1 = name <;> simp [findMember, hfirst, hname]
    · rename_i hfirst
      by_cases hname : first.1 = name
      · have hother : member.1 ≠ name := fun h => hfirst (hname.trans h.symm)
        simp [findMember, hname, hother]
      · simp [findMember, hname, ih]

/-- In an object that was read, a name has the value that was written last. -/
theorem findMember_distinctMembers (name : String) (members : List Member) :
    findMember name (distinctMembers members) = lastValue? name members := by
  induction members using List.reverseRecOn with
  | nil => rfl
  | append_singleton members member ih =>
    have hlast : distinctMembers (members ++ [member])
        = putMember (distinctMembers members) member := by simp [distinctMembers]
    rw [hlast, findMember_putMember, lastValue?_append_singleton, ih]

/-- Where all members with a name have one value, the order does not matter. -/
theorem lastValue?_eq_some {name : String} {members : List Member} {value : Value}
    (hmem : (name, value) ∈ members) (honly : ∀ other, (name, other) ∈ members → other = value) :
    lastValue? name members = some value := by
  cases hfind : members.reverse.find? fun member => member.1 = name with
  | none =>
    rw [List.find?_eq_none] at hfind
    have hname := hfind (name, value) (List.mem_reverse.mpr hmem)
    simp at hname
  | some member =>
    have hname : member.1 = name := by simpa using List.find?_some hfind
    have hmember : (name, member.2) ∈ members := by
      rw [← hname]
      exact List.mem_reverse.mp (List.mem_of_find?_eq_some hfind)
    rw [lastValue?, hfind, Option.map_some, honly member.2 hmember]

/-- The whole text writes an object with these members, white space around it apart. -/
def IsObjectDocument (members : List Member) (text : List Char) : Prop :=
  ∃ before written after, IsGap before ∧ IsObject members written ∧ IsGap after
    ∧ text = before ++ (written ++ after)

/-- Only an object is written like an object. -/
theorem isValue_object_iff {distinct : List Member} {text : List Char} :
    IsValue (.object distinct) text
      ↔ ∃ members, distinct = distinctMembers members ∧ IsObject members text := by
  constructor
  · intro h
    cases h with
    | scalar hscalar =>
      cases hscalar with
      | word hmem => simp [words] at hmem
      | number hnumber =>
        cases hnumber with
        | positive hmagnitude => cases hmagnitude
        | negative hmagnitude => cases hmagnitude
    | object hobject => exact ⟨_, rfl, hobject⟩
  · rintro ⟨members, rfl, hobject⟩
    exact .object hobject

theorem isDocument_object_iff {distinct : List Member} {text : List Char} :
    IsDocument (.object distinct) text
      ↔ ∃ members, distinct = distinctMembers members ∧ IsObjectDocument members text := by
  constructor
  · rintro ⟨before, written, after, hbefore, hwritten, hafter, htext⟩
    obtain ⟨members, hmembers, hobject⟩ := isValue_object_iff.mp hwritten
    exact ⟨members, hmembers, before, written, after, hbefore, hobject, hafter, htext⟩
  · rintro ⟨members, rfl, before, written, after, hbefore, hobject, hafter, htext⟩
    exact ⟨before, written, after, hbefore, .object hobject, hafter, htext⟩

/-- The decimal digits of a number, without a leading zero; a negative one has a minus in front.
A minus may also stand in front of zero. -/
inductive IsIntegerLiteral : Int → List Char → Prop where
  | positive (n : Nat) : IsIntegerLiteral n (Nat.toDigits 10 n)
  | negative (n : Nat) : IsIntegerLiteral (-n) ('-' :: Nat.toDigits 10 n)

theorem isLong_integer_eq_false_iff {n : Int} :
    isLong (.integer n) = false ↔ n.natAbs < Text.integerBound := by
  simp [isLong, Text.isLong]

/-- Integers are written as literals, and nothing else is. -/
theorem isValue_integer_iff {n : Int} {text : List Char} :
    IsValue (.integer n) text ↔ IsIntegerLiteral n text ∧ n.natAbs < Text.integerBound := by
  constructor
  · intro h
    cases h with
    | scalar hscalar =>
      cases hscalar with
      | word hmem => simp [words] at hmem
      | number hnumber hshort =>
        refine ⟨?_, isLong_integer_eq_false_iff.mp hshort⟩
        cases hnumber with
        | positive hmagnitude =>
          cases hmagnitude with
          | integer n => exact .positive n
        | negative hmagnitude =>
          cases hmagnitude with
          | integer n => exact .negative n
  · rintro ⟨hliteral, hshort⟩
    refine .scalar (.number ?_ (isLong_integer_eq_false_iff.mpr hshort))
    cases hliteral with
    | positive n => exact .positive (.integer n)
    | negative n => exact .negative (.integer n)

theorem parse_eq_ok_iff {text : String} {value : Value} :
    parse text = .ok value ↔ IsDocument value text.toList := by
  rw [← parseChars_eq_ok_iff, parse, mapError_eq_ok_iff]

theorem parse_eq_long_iff {text : String} :
    parse text = .error .longInteger ↔ ComesToLong text.toList := by
  rw [← parseChars_eq_long_iff, parse, mapError_eq_error_iff]
  constructor
  · rintro ⟨obstacle, hread, hlong⟩
    cases obstacle with
    | fault => cases hlong
    | longInteger => exact hread
  · exact fun hread => ⟨_, hread, rfl⟩

end Json

namespace SemVer

open Json

/-! ## §2 What a marker says -/

/-- The components of a version in the order in which they are read. -/
def componentNames : List String := ["major", "minor", "patch"]

/-- The last member with this name is the integer, which is not negative. -/
structure HasComponent (members : List Json.Member) (name : String) (n : Int) : Prop where
  value : lastValue? name members = some (.integer n)
  nonnegative : 0 ≤ n

/-- The text is an object with the components of the version. -/
def IsMarker (version : SemVer) (text : List Char) : Prop :=
  ∃ members, IsObjectDocument members text ∧ HasComponent members "major" version.major
    ∧ HasComponent members "minor" version.minor ∧ HasComponent members "patch" version.patch

/-- What is wrong with a component. -/
inductive Offends (members : List Json.Member) (name : String) : MarkerFault → Prop where
  | notInteger (h : ∀ n, lastValue? name members ≠ some (.integer n)) :
      Offends members name (.notInteger name)
  | negative {n : Int} (h : lastValue? name members = some (.integer n)) (hn : n < 0) :
      Offends members name (.negative name)

/-- What is wrong with the first component that is wrong. -/
def FirstOffence (members : List Json.Member) (fault : MarkerFault) : Prop :=
  ∃ before name after, componentNames = before ++ name :: after
    ∧ (∀ earlier ∈ before, ∃ n, HasComponent members earlier n) ∧ Offends members name fault

/-- The fault of a text that is no marker. -/
inductive HasFault (text : String) : MarkerFault → Prop where
  | notJson {message : String} (h : ∀ value, ¬ IsDocument value text.toList)
      (hmessage : parse text = .error (.illFormed message)) : HasFault text (.notJson message)
  | notObject {value : Value} (h : IsDocument value text.toList)
      (hvalue : ∀ members, value ≠ .object members) : HasFault text .notObject
  | component {members : List Json.Member} {fault : MarkerFault}
      (h : IsObjectDocument members text.toList) (hfault : FirstOffence members fault) :
      HasFault text fault

/-! ## §3 What is read off the members -/

theorem component_eq_ok_iff {members : List Json.Member} {name : String} {n : Int} :
    component (distinctMembers members) name = .ok n ↔ HasComponent members name n := by
  unfold component
  rw [findMember_distinctMembers]
  constructor
  · intro h
    split at h
    · rename_i found hfound
      split at h
      · cases h
      · cases h
        exact ⟨hfound, by omega⟩
    · cases h
  · rintro ⟨hvalue, hn⟩
    simp [hvalue, hn]

theorem component_eq_error_iff {members : List Json.Member} {name : String} {fault : MarkerFault} :
    component (distinctMembers members) name = .error fault ↔ Offends members name fault := by
  unfold component
  rw [findMember_distinctMembers]
  constructor
  · intro h
    split at h
    · rename_i found hfound
      split at h
      · rename_i hn
        cases h
        exact .negative hfound hn
      · cases h
    · rename_i hother
      cases h
      exact .notInteger hother
  · intro h
    cases h with
    | notInteger hother =>
      split
      · rename_i found hfound
        exact absurd hfound (hother found)
      · rfl
    | negative hvalue hn => simp [hvalue, hn]

/-- An object is read as a version if all its components are as they should be. -/
theorem ofValue_object_eq_ok_iff {members : List Json.Member} {version : SemVer} :
    ofValue (.object (distinctMembers members)) = .ok version
      ↔ HasComponent members "major" version.major ∧ HasComponent members "minor" version.minor
        ∧ HasComponent members "patch" version.patch := by
  simp only [← component_eq_ok_iff]
  constructor
  · intro h
    obtain ⟨major, hmajor, h⟩ := bind_eq_ok_iff.mp h
    obtain ⟨minor, hminor, h⟩ := bind_eq_ok_iff.mp h
    obtain ⟨patch, hpatch, h⟩ := bind_eq_ok_iff.mp h
    cases h
    exact ⟨hmajor, hminor, hpatch⟩
  · rintro ⟨hmajor, hminor, hpatch⟩
    rw [ofValue, hmajor, hminor, hpatch]
    rfl

/-- The components are read one after the other, and the first fault is the fault of the object. -/
theorem ofValue_object_eq_error_iff {members : List Json.Member} {fault : MarkerFault} :
    ofValue (.object (distinctMembers members)) = .error fault ↔ FirstOffence members fault := by
  have hreads : ofValue (.object (distinctMembers members)) = .error fault
      ↔ componentNames.mapM (component (distinctMembers members)) = .error fault := by
    simp [ofValue, componentNames, bind_eq_error_iff, pure, Except.pure]
  rw [hreads, mapM_eq_error_iff]
  simp only [component_eq_ok_iff, component_eq_error_iff]
  rfl

/-! ## §4 The format -/

theorem parseMarker_eq_ok_iff {text : String} {version : SemVer} :
    parseMarker text = .ok version ↔ IsMarker version text.toList := by
  constructor
  · intro h
    unfold parseMarker at h
    split at h
    · rename_i value hparse
      have hvalue := mapError_eq_ok_iff.mp h
      cases value with
      | object distinct =>
        obtain ⟨members, rfl, hobject⟩ := isDocument_object_iff.mp (parse_eq_ok_iff.mp hparse)
        exact ⟨members, hobject, ofValue_object_eq_ok_iff.mp hvalue⟩
      | _ => cases hvalue
    · cases h
    · cases h
  · rintro ⟨members, hobject, hcomponents⟩
    have hparse := parse_eq_ok_iff.mpr (isDocument_object_iff.mpr ⟨members, rfl, hobject⟩)
    rw [parseMarker, hparse]
    exact mapError_eq_ok_iff.mpr (ofValue_object_eq_ok_iff.mpr hcomponents)

theorem parseMarker_eq_rejected_iff {text : String} {fault : MarkerFault} :
    parseMarker text = .error (.rejected fault) ↔ HasFault text fault := by
  constructor
  · intro h
    unfold parseMarker at h
    split at h
    · rename_i value hparse
      have hdocument := parse_eq_ok_iff.mp hparse
      obtain ⟨found, hfound, heq⟩ := mapError_eq_error_iff.mp h
      cases heq
      cases value with
      | object distinct =>
        obtain ⟨members, rfl, hobject⟩ := isDocument_object_iff.mp hdocument
        exact .component hobject (ofValue_object_eq_error_iff.mp hfound)
      | _ =>
        cases hfound
        exact .notObject hdocument (by simp)
    · rename_i message hparse
      cases h
      refine .notJson (fun value hdocument => ?_) hparse
      rw [parse_eq_ok_iff.mpr hdocument] at hparse
      cases hparse
    · cases h
  · intro h
    cases h with
    | notJson _ hmessage => rw [parseMarker, hmessage]
    | @notObject value hdocument hvalue =>
      rw [parseMarker, parse_eq_ok_iff.mpr hdocument]
      cases value with
      | object members => exact absurd rfl (hvalue members)
      | _ => rfl
    | component hobject hfault =>
      have hparse := parse_eq_ok_iff.mpr (isDocument_object_iff.mpr ⟨_, rfl, hobject⟩)
      rw [parseMarker, hparse]
      exact mapError_eq_error_iff.mpr ⟨fault, ofValue_object_eq_error_iff.mpr hfault, rfl⟩

/-- Reading a marker breaks off where reading the text does. -/
theorem parseMarker_eq_long_iff {text : String} :
    parseMarker text = .error .longInteger ↔ ComesToLong text.toList := by
  rw [← parse_eq_long_iff, parseMarker]
  constructor
  · intro h
    split at h
    · obtain ⟨found, -, heq⟩ := mapError_eq_error_iff.mp h
      cases heq
    · cases h
    · assumption
  · intro h
    rw [h]

/-- Members besides the components, and the order of all of them, are of no importance. -/
theorem hasComponent_of_perm {members others : List Json.Member} {major minor patch : Nat}
    (hperm : members.Perm (("major", .integer major) :: ("minor", .integer minor)
      :: ("patch", .integer patch) :: others))
    (hothers : ∀ other ∈ others, other.1 ∉ componentNames) :
    HasComponent members "major" major ∧ HasComponent members "minor" minor
      ∧ HasComponent members "patch" patch := by
  have hnot (name : String) (hname : name ∈ componentNames) (value : Value) :
      (name, value) ∉ others := fun hmem => hothers _ hmem hname
  have hmajor := hnot "major" (by decide)
  have hminor := hnot "minor" (by decide)
  have hpatch := hnot "patch" (by decide)
  refine ⟨⟨lastValue?_eq_some ?_ ?_, by omega⟩, ⟨lastValue?_eq_some ?_ ?_, by omega⟩,
    ⟨lastValue?_eq_some ?_ ?_, by omega⟩⟩
  all_goals simp [hperm.mem_iff, hmajor, hminor, hpatch]

/-- Exactly the markers are read, each as the version that it holds, and every other text has the
fault that is reported; only where a text comes to an integer of more than 4300 digits, reading
breaks off. The components of a marker are written as literals of integers; an object with the
components of a version as its only members of these names is a marker, whatever else it holds and
in whatever order. -/
theorem marker_format_exact (text : String) :
    (∀ version, parseMarker text = .ok version ↔ IsMarker version text.toList)
      ∧ (∀ fault, parseMarker text = .error (.rejected fault) ↔ HasFault text fault)
      ∧ (parseMarker text = .error .longInteger ↔ ComesToLong text.toList)
      ∧ (∀ n literal, IsValue (.integer n) literal
        ↔ IsIntegerLiteral n literal ∧ n.natAbs < Text.integerBound)
      ∧ ∀ (major minor patch : Nat) (members others : List Json.Member),
        members.Perm (("major", .integer major) :: ("minor", .integer minor)
          :: ("patch", .integer patch) :: others) →
        (∀ other ∈ others, other.1 ∉ componentNames) → IsObjectDocument members text.toList →
          parseMarker text = .ok ⟨major, minor, patch⟩ := by
  refine ⟨fun version => parseMarker_eq_ok_iff, fun fault => parseMarker_eq_rejected_iff,
    parseMarker_eq_long_iff, fun n literal => isValue_integer_iff, ?_⟩
  intro major minor patch members others hperm hothers hobject
  exact parseMarker_eq_ok_iff.mpr ⟨members, hobject, hasComponent_of_perm hperm hothers⟩

/-- May the character stand in a string as itself? -/
def isPlain (c : Char) : Bool := c != '"' && c != '\\' && !decide (c.toNat < 0x20)

/-- A name without special characters is written as itself. -/
theorem isContent_self {chars : List Char} (h : chars.all isPlain = true) :
    IsContent chars chars := by
  induction chars with
  | nil => exact .nil
  | cons c chars ih =>
    rw [List.all_cons, Bool.and_eq_true] at h
    obtain ⟨hplain, hchars⟩ := h
    simp only [isPlain, Bool.and_eq_true, bne_iff_ne, Bool.not_eq_true', decide_eq_false_iff_not]
      at hplain
    exact .plain hplain.1.1 hplain.1.2 hplain.2 (ih hchars)

/-- An object with its components in another order and a note between them is a marker. -/
theorem reordered_marker_is_read :
    let text := "\x7b\"patch\":3, \"note\":null, \"minor\":20, \"major\":1\x7d"
    let members : List Json.Member :=
      [("patch", .integer 3), ("note", .null), ("minor", .integer 20), ("major", .integer 1)]
    members.Perm [("major", .integer 1), ("minor", .integer 20), ("patch", .integer 3),
        ("note", .null)]
      ∧ IsObjectDocument members text.toList ∧ parseMarker text = .ok ⟨1, 20, 3⟩ := by
  intro text members
  have hperm : members.Perm [("major", .integer 1), ("minor", .integer 20), ("patch", .integer 3),
      ("note", .null)] := by
    refine (List.Perm.swap _ _ _).trans ?_
    refine (List.reverse_perm _).symm.trans ?_
    exact .refl _
  have hnone : IsGap [] := by simp [IsGap]
  have hspace : IsGap [' '] := by simp [IsGap, isSpace]
  have hmember (name : String) {value : Value} {written : List Char} (h : IsValue value written)
      (hname : name.toList.all isPlain = true) :
      IsMember (name, value) ('"' :: (name.toList ++ '"' :: ':' :: written)) :=
    .mk (isContent_self hname) hnone hnone h
  have hinteger (n : Nat) (hn : n < Text.integerBound) : IsValue (.integer n) (Nat.toDigits 10 n) :=
    isValue_integer_iff.mpr ⟨.positive n, hn⟩
  have hobject : IsObjectDocument members text.toList := by
    have hpatch := hmember "patch" (hinteger 3 (by decide +kernel)) (by decide)
    have hnull : ("null", Value.null) ∈ words := by simp [words]
    have hnote := hmember "note" (.scalar (.word hnull)) (by decide)
    have hminor := hmember "minor" (hinteger 20 (by decide +kernel)) (by decide)
    have hmajor := hmember "major" (hinteger 1 (by decide +kernel)) (by decide)
    refine ⟨[], _, [], hnone, .members hnone (.more hpatch hnone hspace (.more hnote hnone hspace
      (.more hminor hnone hspace (.last hmajor hnone)))), hnone, ?_⟩
    decide +kernel
  refine ⟨hperm, hobject, ?_⟩
  exact (marker_format_exact text).2.2.2.2 1 20 3 members [("note", .null)] hperm (by decide)
    hobject

end SemVer

end SchemaSemver
