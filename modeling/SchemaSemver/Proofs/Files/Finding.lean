/-
SchemaSemver.Proofs.Files.Finding — what a path leads to.

`Leads` says where parts of a path lead from a place, one part after the other: `..` leads to the
directory above, a name into a directory, and a link to where its target leads. It knows no bound,
but it counts the links. `find_eq_found_iff` ties the search for a path to it: a path is found at a
place exactly if it leads there over no more links than are followed.

The search goes from link to link, and what it does up to the next link is said by
`advance_eq_link_iff` and `advance_eq_found_iff`. Behind a link it goes on with the target and the
rest of the path as one list; `leads_append_iff` takes such a list apart.
-/
import Mathlib.Tactic.SplitIfs
import SchemaSemver.Files.Host

namespace SchemaSemver.Host

variable (host : Host)

/-! ## §1 Following a path -/

/-- The place is a directory that can be left by a part of a path. -/
structure Opens (place : Location) (part : LooseText) : Prop where
  directory : host.nodeAt place = some .directory
  enterable : host.mayEnter place = true
  short : part.octets ≤ nameLimit

/-- From a place the parts lead to another one, over so many links. -/
inductive Leads : Nat → Location → List LooseText → Location → Prop where
  | done (place : Location) : Leads 0 place [] place
  | up {count : Nat} {place last : Location} {rest : List LooseText}
      (hopen : host.Opens place "..") (hrest : Leads count place.dropLast rest last) :
      Leads count place (".." :: rest) last
  | down {count : Nat} {place last : Location} {name : LooseText} {rest : List LooseText}
      (hopen : host.Opens place name) (hname : name ≠ "..")
      (hplain : host.linkAt (place ++ [name]) = none)
      (hrest : Leads count (place ++ [name]) rest last) : Leads count place (name :: rest) last
  | link {inside after : Nat} {place middle last : Location} {name : LooseText} {target : Path}
      {rest : List LooseText} (hopen : host.Opens place name) (hname : name ≠ "..")
      (hlink : host.linkAt (place ++ [name]) = some target)
      (htarget : Leads inside (if target.isAbsolute then [] else place) target.parts middle)
      (hrest : Leads after middle rest last) :
      Leads (inside + after + 1) place (name :: rest) last

/-- A path leads to a place, and this is there. -/
structure Shows (path : Path) (place : Location) (node : FileNode) : Prop where
  possible : path.fault? = none
  short : path.text.octets ≤ pathLimit
  leads : ∃ count ≤ linkLimit,
    host.Leads count (if path.isAbsolute then [] else host.workingDirectory) path.parts place
  node : host.nodeAt place = some node

variable {host}

theorem leads_append_iff {count : Nat} {place last : Location} {before after : List LooseText} :
    host.Leads count place (before ++ after) last
      ↔ ∃ first second middle, count = first + second ∧ host.Leads first place before middle
        ∧ host.Leads second middle after last := by
  induction before generalizing count place with
  | nil =>
    constructor
    · exact fun h => ⟨0, count, place, by omega, .done place, h⟩
    · rintro ⟨first, second, middle, rfl, hfirst, hsecond⟩
      cases hfirst
      rwa [Nat.zero_add]
  | cons part before ih =>
    constructor
    · intro h
      cases h with
      | up hopen hrest =>
        obtain ⟨first, second, middle, rfl, hfirst, hsecond⟩ := ih.mp hrest
        exact ⟨first, second, middle, rfl, .up hopen hfirst, hsecond⟩
      | down hopen hname hplain hrest =>
        obtain ⟨first, second, middle, rfl, hfirst, hsecond⟩ := ih.mp hrest
        exact ⟨first, second, middle, rfl, .down hopen hname hplain hfirst, hsecond⟩
      | link hopen hname hlink htarget hrest =>
        obtain ⟨first, second, middle, rfl, hfirst, hsecond⟩ := ih.mp hrest
        exact ⟨_, second, middle, by omega, .link hopen hname hlink htarget hfirst, hsecond⟩
    · rintro ⟨first, second, middle, rfl, hfirst, hsecond⟩
      cases hfirst with
      | up hopen hrest => exact .up hopen (ih.mpr ⟨_, _, _, rfl, hrest, hsecond⟩)
      | down hopen hname hplain hrest =>
        exact .down hopen hname hplain (ih.mpr ⟨_, _, _, rfl, hrest, hsecond⟩)
      | link hopen hname hlink htarget hrest =>
        have hjoined := Leads.link hopen hname hlink htarget (ih.mpr ⟨_, _, _, rfl, hrest, hsecond⟩)
        rwa [← Nat.add_assoc, Nat.add_right_comm] at hjoined

/-- Parts lead to one place at most, and over one number of links. -/
theorem Leads.unique {count count' : Nat} {place last last' : Location} {parts : List LooseText}
    (h : host.Leads count place parts last) (h' : host.Leads count' place parts last') :
    count = count' ∧ last = last' := by
  induction h generalizing count' last' with
  | done place =>
    cases h'
    exact ⟨rfl, rfl⟩
  | up hopen hrest ih =>
    cases h' with
    | up _ hrest' => exact ih hrest'
    | down _ hname => exact absurd rfl hname
    | link _ hname => exact absurd rfl hname
  | down hopen hname hplain hrest ih =>
    cases h' with
    | up => exact absurd rfl hname
    | down _ _ _ hrest' => exact ih hrest'
    | link _ _ hlink =>
      rw [hplain] at hlink
      cases hlink
  | link hopen hname hlink htarget hrest ihtarget ihrest =>
    cases h' with
    | up => exact absurd rfl hname
    | down _ _ hplain =>
      rw [hlink] at hplain
      cases hplain
    | link _ _ hlink' htarget' hrest' =>
      obtain rfl := Option.some.inj (hlink.symm.trans hlink')
      obtain ⟨rfl, rfl⟩ := ihtarget htarget'
      obtain ⟨rfl, rfl⟩ := ihrest hrest'
      exact ⟨rfl, rfl⟩

/-! ## §2 Up to the next link -/

theorem barrier?_eq_none_iff {place : Location} {part : LooseText} :
    host.barrier? place part = none ↔ host.Opens place part := by
  unfold barrier?
  constructor
  · intro h
    split_ifs at h with hdirectory hentered hshort
    exact ⟨Decidable.not_not.mp hdirectory, by simpa using hentered, by omega⟩
  · rintro ⟨hdirectory, hentered, hshort⟩
    simp [hdirectory, hentered, hshort]

theorem follow_up (place : Location) : follow place ".." = place.dropLast := if_pos rfl

theorem follow_down (place : Location) {name : LooseText} (h : name ≠ "..") :
    follow place name = place ++ [name] := if_neg h

theorem linkBehind_down (place : Location) {name : LooseText} (h : name ≠ "..") :
    host.linkBehind place name = host.linkAt (place ++ [name]) := if_neg h

/-- One step without a link. -/
theorem leads_zero_cons_iff {place last : Location} {part : LooseText} {rest : List LooseText} :
    host.Leads 0 place (part :: rest) last
      ↔ host.Opens place part ∧ host.linkBehind place part = none
        ∧ host.Leads 0 (follow place part) rest last := by
  constructor
  · intro h
    cases h with
    | up hopen hrest => exact ⟨hopen, if_pos rfl, by rwa [follow_up]⟩
    | down hopen hname hplain hrest =>
      exact ⟨hopen, by rwa [linkBehind_down _ hname], by rwa [follow_down _ hname]⟩
  · rintro ⟨hopen, hplain, hrest⟩
    by_cases hpart : part = ".."
    · subst hpart
      exact .up hopen (by rwa [← follow_up])
    · rw [linkBehind_down _ hpart] at hplain
      exact .down hopen hpart hplain (by rwa [← follow_down _ hpart])

theorem advance_eq_link_iff {place directory : Location} {parts rest : List LooseText}
    {target : Path} :
    host.advance place parts = .link directory target rest
      ↔ ∃ before name, parts = before ++ name :: rest ∧ host.Leads 0 place before directory
        ∧ host.Opens directory name ∧ host.linkBehind directory name = some target := by
  induction parts generalizing place with
  | nil => simp [advance, lookupAt]
  | cons part others ih =>
    rw [advance]
    constructor
    · intro h
      split at h
      · cases h
      · rename_i hbarrier hlink
        cases h
        exact ⟨[], part, rfl, .done _, barrier?_eq_none_iff.mp hbarrier, hlink⟩
      · rename_i hbarrier hplain
        obtain ⟨before, name, rfl, hbefore, hname⟩ := ih.mp h
        have hopen := barrier?_eq_none_iff.mp hbarrier
        exact ⟨part :: before, name, rfl, leads_zero_cons_iff.mpr ⟨hopen, hplain, hbefore⟩, hname⟩
    · rintro ⟨before, name, hparts, hbefore, hopen, hlink⟩
      cases before with
      | nil =>
        obtain ⟨rfl, rfl⟩ := List.cons.inj hparts
        cases hbefore
        rw [barrier?_eq_none_iff.mpr hopen, hlink]
      | cons first before =>
        obtain ⟨rfl, rfl⟩ := List.cons.inj hparts
        obtain ⟨hfirst, hplain, hbefore⟩ := leads_zero_cons_iff.mp hbefore
        rw [barrier?_eq_none_iff.mpr hfirst, hplain]
        exact ih.mpr ⟨before, name, rfl, hbefore, hopen, hlink⟩

theorem barrier?_cases {place : Location} {part : LooseText} {barrier : Lookup}
    (h : host.barrier? place part = some barrier) :
    barrier = .missing ∨ barrier = .denied ∨ barrier = .tooLong := by
  unfold barrier? at h
  split_ifs at h <;> simp_all

theorem lookupAt_eq_found_iff {place last : Location} {node : FileNode} :
    host.lookupAt place = .found last node ↔ place = last ∧ host.nodeAt last = some node := by
  unfold lookupAt
  constructor
  · intro h
    split at h
    · rename_i hnode
      cases h
      exact ⟨rfl, hnode⟩
    · cases h
  · rintro ⟨rfl, hnode⟩
    rw [hnode]

theorem advance_eq_found_iff {place last : Location} {parts : List LooseText} {node : FileNode} :
    host.advance place parts = .ended (.found last node)
      ↔ host.Leads 0 place parts last ∧ host.nodeAt last = some node := by
  induction parts generalizing place with
  | nil =>
    rw [advance, Advance.ended.injEq, lookupAt_eq_found_iff]
    constructor
    · rintro ⟨rfl, hnode⟩
      exact ⟨.done place, hnode⟩
    · rintro ⟨hleads, hnode⟩
      cases hleads
      exact ⟨rfl, hnode⟩
  | cons part rest ih =>
    rw [leads_zero_cons_iff, ← barrier?_eq_none_iff, and_assoc, and_assoc, ← ih, advance]
    split
    · rename_i barrier hbarrier
      have hne : barrier ≠ .found last node := by
        rcases barrier?_cases hbarrier with rfl | rfl | rfl <;> simp
      simp [hbarrier, hne]
    · rename_i hbarrier hlink
      simp [hlink]
    · rename_i hbarrier hplain
      simp [hbarrier, hplain]

/-- Without links there are not too many of them. -/
theorem advance_ne_tooManyLinks {place : Location} {parts : List LooseText} :
    host.advance place parts ≠ .ended .tooManyLinks := by
  induction parts generalizing place with
  | nil =>
    rw [advance, lookupAt]
    split <;> simp
  | cons part rest ih =>
    rw [advance]
    split
    · rename_i barrier hbarrier
      rcases barrier?_cases hbarrier with rfl | rfl | rfl <;> simp
    · simp
    · exact ih

/-! ## §3 Over all links -/

theorem walk_of_ended {budget : Nat} {place : Location} {parts : List LooseText} {lookup : Lookup}
    (h : host.advance place parts = .ended lookup) : host.walk budget place parts = lookup := by
  cases budget <;> simp [walk, h]

/-- Parts that lead over a link lead to it first. -/
theorem Leads.exists_first_link {count : Nat} {place last : Location} {parts : List LooseText}
    (h : host.Leads count place parts last) :
    count = 0 ∨ ∃ less before directory name target rest, count = less + 1
      ∧ parts = before ++ name :: rest ∧ host.Leads 0 place before directory
      ∧ host.Opens directory name ∧ host.linkBehind directory name = some target
      ∧ host.Leads less (startIn directory target) (target.parts ++ rest) last := by
  induction h with
  | done place => exact .inl rfl
  | @up count place last rest hopen hrest ih =>
    rcases ih with rfl | ⟨less, before, directory, name, target, others, rfl, rfl, hbefore, hname⟩
    · exact .inl rfl
    · refine .inr ⟨less, ".." :: before, directory, name, target, others, rfl, rfl, ?_, hname⟩
      exact .up hopen hbefore
  | @down count place last part rest hopen hpart hplain hrest ih =>
    rcases ih with rfl | ⟨less, before, directory, name, target, others, rfl, rfl, hbefore, hname⟩
    · exact .inl rfl
    · refine .inr ⟨less, part :: before, directory, name, target, others, rfl, rfl, ?_, hname⟩
      exact .down hopen hpart hplain hbefore
  | @link inside after place middle last name target rest hopen hname hlink htarget hrest =>
    refine .inr ⟨inside + after, [], place, name, target, rest, rfl, rfl, .done place, hopen,
      ?_, leads_append_iff.mpr ⟨inside, after, middle, rfl, htarget, hrest⟩⟩
    rwa [linkBehind_down _ hname]

theorem walk_eq_found_iff {budget : Nat} {place last : Location} {parts : List LooseText}
    {node : FileNode} :
    host.walk budget place parts = .found last node
      ↔ (∃ count ≤ budget, host.Leads count place parts last) ∧ host.nodeAt last = some node := by
  induction budget generalizing place parts with
  | zero =>
    simp only [Nat.le_zero_eq, exists_eq_left, ← advance_eq_found_iff, walk]
    cases host.advance place parts <;> simp
  | succ budget ih =>
    rw [walk]
    constructor
    · intro h
      split at h
      · rename_i lookup hadvance
        subst h
        obtain ⟨hleads, hnode⟩ := advance_eq_found_iff.mp hadvance
        exact ⟨⟨0, by omega, hleads⟩, hnode⟩
      · rename_i directory target rest hadvance
        obtain ⟨before, name, rfl, hbefore, hopen, hlink⟩ := advance_eq_link_iff.mp hadvance
        obtain ⟨⟨count, hcount, hleads⟩, hnode⟩ := ih.mp h
        obtain ⟨inside, after, middle, rfl, htarget, hrest⟩ := leads_append_iff.mp hleads
        have hname : name ≠ ".." := by
          rintro rfl
          cases hlink
        rw [linkBehind_down _ hname] at hlink
        refine ⟨⟨0 + (inside + after + 1), by omega, ?_⟩, hnode⟩
        exact leads_append_iff.mpr
          ⟨0, _, directory, rfl, hbefore, .link hopen hname hlink htarget hrest⟩
    · rintro ⟨⟨count, hcount, hleads⟩, hnode⟩
      rcases hleads.exists_first_link with rfl | ⟨less, before, directory, name, target, rest, rfl,
        rfl, hbefore, hopen, hlink, hrest⟩
      · rw [advance_eq_found_iff.mpr ⟨hleads, hnode⟩]
      · rw [advance_eq_link_iff.mpr ⟨before, name, rfl, hbefore, hopen, hlink⟩]
        exact ih.mpr ⟨⟨less, by omega, hrest⟩, hnode⟩

/-- What is not missing is at a path that can be asked for. -/
theorem fault?_of_find {path : Path} (h : host.find path ≠ .missing) : path.fault? = none := by
  cases hfault : path.fault? with
  | none => rfl
  | some fault => exact absurd (if_pos (by rw [hfault]; rfl)) h

/-- A path is found where it leads to. -/
theorem find_eq_found_iff {path : Path} {place : Location} {node : FileNode} :
    host.find path = .found place node ↔ host.Shows path place node := by
  unfold find
  constructor
  · intro h
    split_ifs at h with hpossible hshort
    obtain ⟨hleads, hnode⟩ := walk_eq_found_iff.mp h
    exact ⟨Option.not_isSome_iff_eq_none.mp hpossible, by omega, hleads, hnode⟩
  · rintro ⟨hpossible, hshort, hleads, hnode⟩
    rw [if_neg (by simp [hpossible]), if_neg (by omega)]
    exact walk_eq_found_iff.mpr ⟨hleads, hnode⟩

end SchemaSemver.Host
