/-
SchemaSemver.Proofs.Files.Resolving — which path another one is resolved to.

`Traces` says how a path is followed while it is resolved: a part that is no link is taken as it is
written, a link that can be seen is replaced by its target, and a link that is met while it is being
followed itself ends the search for links. `resolve_eq_ok_iff` ties resolving to it. Links are
followed inside each other to a bound that depends on the machine only; as the pending links are all
different it is never reached (`IsStack.length_le`), and so the relation needs no bound.

Two things are read off the relation. On a machine without links a path stands for its parts,
followed in their order from the working directory or the root (`resolves_iff_of_no_links`). And a
path from the root that leads somewhere is resolved to the place where it leads
(`IsSettled.resolve_of_leads`): followed by the system it would never end if a link led back to
itself.
-/
import Mathlib.Data.List.Dedup
import Mathlib.Data.List.Perm.Subperm
import Mathlib.Data.List.ProdSigma
import SchemaSemver.Proofs.Files.Finding
import SchemaSemver.Proofs.Result

namespace SchemaSemver

/-- Each part can be asked for exactly if all can. -/
theorem PathFault.ofParts?_eq_none_iff {parts : List LooseText} :
    ofParts? parts = none ↔ ∀ part ∈ parts, ofParts? [part] = none := by
  have hparts (parts : List LooseText) : ofParts? parts = none
      ↔ ∀ part ∈ parts, part.isSystem = true ∧ part.hasNull = false := by
    unfold ofParts?
    split_ifs with hsystem hnull
    · simp only [Bool.not_eq_true', List.all_eq_false] at hsystem
      obtain ⟨part, hpart, hnot⟩ := hsystem
      simp only [false_iff, not_forall]
      exact ⟨part, hpart, fun h => hnot h.1⟩
    · obtain ⟨part, hpart, hhas⟩ := List.any_eq_true.mp hnull
      simp only [false_iff, not_forall]
      refine ⟨part, hpart, fun h => ?_⟩
      rw [hhas] at h
      cases h.2
    · simp_all
  simp [hparts]

namespace Host

variable (host : Host)

/-! ## §1 Following links that can be seen -/

/-- From the end of a way a name is seen to be a link: the way leads to its end without links, and
the name is the name of a link there. -/
structure Sees (way : Way) (name : LooseText) (target : Path) : Prop where
  short : (way.down name).path.text.octets ≤ pathLimit
  clear : host.Leads 0 (host.startOfWay way) way.parts (host.placeOf way)
  opens : host.Opens (host.placeOf way) name
  named : name ≠ ".."
  link : host.linkAt (host.placeOf way ++ [name]) = some target

mutual

/-- A part is followed from a footing to the next one. `pending` are the ways of the links that are
being followed. -/
inductive Treads : List Way → Footing → LooseText → Footing → Prop where
  /-- Links are not looked for any more. -/
  | blind {pending : List Way} {way : Way} {part : LooseText} :
      Treads pending ⟨way, true⟩ part ⟨host.followOn way part, true⟩
  | up {pending : List Way} {way : Way} :
      Treads pending ⟨way, false⟩ ".." ⟨host.upFrom way, false⟩
  | down {pending : List Way} {way : Way} {name : LooseText} (hname : name ≠ "..")
      (hpossible : PathFault.ofParts? [name] = none)
      (hunseen : ∀ target, ¬ host.Sees way name target) :
      Treads pending ⟨way, false⟩ name ⟨way.down name, false⟩
  /-- The link is being followed already. -/
  | back {pending : List Way} {way : Way} {name : LooseText} {target : Path}
      (hpossible : PathFault.ofParts? [name] = none) (hseen : host.Sees way name target)
      (hold : way.down name ∈ pending) :
      Treads pending ⟨way, false⟩ name ⟨way.down name, true⟩
  | link {pending : List Way} {way : Way} {name : LooseText} {target : Path} {last : Footing}
      (hpossible : PathFault.ofParts? [name] = none) (hseen : host.Sees way name target)
      (hnew : way.down name ∉ pending)
      (hinside : Traces (way.down name :: pending) ⟨way.startOf target, false⟩ target.parts last) :
      Treads pending ⟨way, false⟩ name last

/-- Parts are followed from a footing one after the other. -/
inductive Traces : List Way → Footing → List LooseText → Footing → Prop where
  | done {pending : List Way} {footing : Footing} : Traces pending footing [] footing
  | step {pending : List Way} {footing middle last : Footing} {part : LooseText}
      {rest : List LooseText} (hpart : Treads pending footing part middle)
      (hrest : Traces pending middle rest last) : Traces pending footing (part :: rest) last

end

/-- The place that parts of a path are resolved to, which begin at the root or at the working
directory. -/
def Resolves (fromRoot : Bool) (parts : List LooseText) (place : Location) : Prop :=
  ∃ last, host.Traces [] ⟨if fromRoot then .root else .here, false⟩ parts last
    ∧ place = host.placeOf last.way

variable {host}

theorem visibleLink_eq_some_iff {way : Way} {name : LooseText} {target : Path} :
    host.visibleLink way name = some target ↔ host.Sees way name target := by
  unfold visibleLink
  constructor
  · intro h
    split_ifs at h with hshort
    split at h
    · rename_i directory found hadvance
      split_ifs at h with hplace
      cases h
      subst hplace
      obtain ⟨before, other, hparts, hbefore, hopen, hlink⟩ := advance_eq_link_iff.mp hadvance
      obtain ⟨rfl, hother⟩ := List.append_inj' hparts rfl
      obtain rfl := (List.cons.inj hother).1
      have hname : name ≠ ".." := by
        rintro rfl
        cases hlink
      rw [linkBehind_down _ hname] at hlink
      exact ⟨by omega, hbefore, hopen, hname, hlink⟩
    · cases h
  · rintro ⟨hshort, hclear, hopen, hname, hlink⟩
    rw [← linkBehind_down _ hname] at hlink
    rw [if_neg (by omega), advance_eq_link_iff.mpr ⟨way.parts, name, rfl, hclear, hopen, hlink⟩]
    exact if_pos rfl

theorem visibleLink_eq_none_iff {way : Way} {name : LooseText} :
    host.visibleLink way name = none ↔ ∀ target, ¬ host.Sees way name target := by
  simp [Option.eq_none_iff_forall_ne_some, visibleLink_eq_some_iff]

theorem not_sees_of_linkAt {way : Way} {name : LooseText}
    (h : host.linkAt (host.placeOf way ++ [name]) = none) (target : Path) :
    ¬ host.Sees way name target := fun hseen => by
  rw [hseen.link] at h
  cases h

/-! ## §2 Pending links -/

theorem exists_link_of_linkAt {place : Location} {target : Path}
    (h : host.linkAt place = some target) :
    ∃ link ∈ host.links, link.place = place ∧ link.target = target := by
  obtain ⟨link, hfound, rfl⟩ := Option.map_eq_some_iff.mp h
  obtain ⟨hplace, -⟩ := List.find?_eq_some_iff_append.mp hfound
  exact ⟨link, List.mem_of_find?_eq_some hfound, eq_of_beq hplace, rfl⟩

variable (host)

/-- The way does not go up more steps than lead to the root. -/
def IsBounded (way : Way) : Prop := ∀ ups, way.ups = some ups → ups ≤ host.workingDirectory.length

/-- The ways are different ways to links. -/
structure IsStack (pending : List Way) : Prop where
  nodup : pending.Nodup
  links : ∀ way ∈ pending, host.IsBounded way ∧ ∃ link ∈ host.links, link.place = host.placeOf way

/-- The steps up that a way can begin with. -/
def possibleUps : List (Option Nat) :=
  none :: (List.range (host.workingDirectory.length + 1)).map some

variable {host}

theorem isBounded_root : host.IsBounded .root := fun _ h => by cases h

theorem isBounded_here : host.IsBounded .here := fun _ h => by
  cases h
  exact Nat.zero_le _

theorem IsBounded.startOf {way : Way} (h : host.IsBounded way) (path : Path) :
    host.IsBounded (way.startOf path) := by
  unfold Way.startOf
  split
  · exact isBounded_root
  · exact h

theorem IsBounded.upFrom {way : Way} (h : host.IsBounded way) :
    host.IsBounded (host.upFrom way) := by
  obtain ⟨ups, names⟩ := way
  cases names with
  | nil =>
    intro found hfound
    obtain ⟨before, -, rfl⟩ := Option.map_eq_some_iff.mp hfound
    exact Nat.min_le_right _ _
  | cons name names => exact h

theorem IsBounded.mem_possibleUps {way : Way} (h : host.IsBounded way) :
    way.ups ∈ host.possibleUps := by
  unfold possibleUps
  cases hups : way.ups with
  | none => exact List.mem_cons_self
  | some ups =>
    have hle := h ups hups
    simp only [List.mem_cons, reduceCtorEq, List.mem_map, List.mem_range, Option.some.injEq,
      exists_eq_right, false_or]
    omega

/-- A way is known by its steps up and its place. -/
theorem way_eq_of_placeOf_eq {way way' : Way} (hups : way.ups = way'.ups)
    (hplace : host.placeOf way = host.placeOf way') : way = way' := by
  obtain ⟨ups, names⟩ := way
  obtain ⟨ups', names'⟩ := way'
  obtain rfl : ups = ups' := hups
  have hnames : names = names' := List.append_cancel_left hplace
  rw [hnames]

/-- There are not more pending links than links and steps up to begin with. -/
theorem IsStack.length_le {pending : List Way} (h : host.IsStack pending) :
    pending.length ≤ host.nestingLimit := by
  let key (way : Way) : Location × Option Nat := (host.placeOf way, way.ups)
  have hinjective : ∀ way ∈ pending, ∀ way' ∈ pending, key way = key way' → way = way' := by
    intro way _ way' _ hkey
    obtain ⟨hplace, hups⟩ := Prod.mk.inj hkey
    exact way_eq_of_placeOf_eq hups hplace
  have hkeys : (pending.map key).Nodup := h.nodup.map_on hinjective
  have hsubset : pending.map key ⊆ host.links.map Link.place ×ˢ host.possibleUps := by
    intro found hfound
    obtain ⟨way, hway, rfl⟩ := List.mem_map.mp hfound
    obtain ⟨hbounded, link, hlink, hplace⟩ := h.links way hway
    refine List.pair_mem_product.mpr ⟨?_, hbounded.mem_possibleUps⟩
    exact List.mem_map.mpr ⟨link, hlink, hplace⟩
  have hle := (hkeys.subperm hsubset).length_le
  rw [List.length_map, List.length_product, List.length_map] at hle
  simpa [possibleUps, nestingLimit] using hle

theorem isStack_nil : host.IsStack [] := ⟨List.nodup_nil, by simp⟩

theorem IsStack.cons {pending : List Way} (h : host.IsStack pending) {way : Way} {name : LooseText}
    {target : Path} (hway : host.IsBounded way) (hseen : host.Sees way name target)
    (hnew : way.down name ∉ pending) : host.IsStack (way.down name :: pending) := by
  refine ⟨List.nodup_cons.mpr ⟨hnew, h.nodup⟩, ?_⟩
  intro found hfound
  rcases List.mem_cons.mp hfound with rfl | hfound
  · obtain ⟨link, hlink, hplace, -⟩ := exists_link_of_linkAt hseen.link
    refine ⟨hway, link, hlink, ?_⟩
    rw [hplace]
    exact List.append_assoc _ _ _
  · exact h.links found hfound

theorem IsBounded.followOn {way : Way} (h : host.IsBounded way) (part : LooseText) :
    host.IsBounded (host.followOn way part) := by
  unfold Host.followOn
  split
  · exact h.upFrom
  · exact h

mutual

theorem Treads.isBounded {pending : List Way} {footing last : Footing} {part : LooseText}
    (h : host.Treads pending footing part last) (hbounded : host.IsBounded footing.way) :
    host.IsBounded last.way := by
  match h with
  | .blind => exact hbounded.followOn part
  | .up => exact hbounded.upFrom
  | .down .. => exact hbounded
  | .back .. => exact hbounded
  | .link _ _ _ hinside => exact hinside.isBounded (hbounded.startOf _)

theorem Traces.isBounded {pending : List Way} {footing last : Footing} {parts : List LooseText}
    (h : host.Traces pending footing parts last) (hbounded : host.IsBounded footing.way) :
    host.IsBounded last.way := by
  match h with
  | .done => exact hbounded
  | .step hpart hrest => exact hrest.isBounded (hpart.isBounded hbounded)

end

/-! ## §3 Resolving -/

section Tread

variable {pending : List Way} {footing last : Footing}
  {inside : List Way → Way → List LooseText → Except PathFault Footing}

theorem tread_blind_eq_ok_iff {way : Way} {part : LooseText} :
    host.tread pending inside ⟨way, true⟩ part = .ok last
      ↔ host.Treads pending ⟨way, true⟩ part last := by
  simp only [tread, true_or, if_true, Except.ok.injEq]
  constructor
  · rintro rfl
    exact .blind
  · intro h
    cases h
    rfl

theorem tread_up_eq_ok_iff {way : Way} :
    host.tread pending inside ⟨way, false⟩ ".." = .ok last
      ↔ host.Treads pending ⟨way, false⟩ ".." last := by
  simp only [tread, or_true, if_true, Except.ok.injEq]
  constructor
  · rintro rfl
    exact .up
  · intro h
    cases h with
    | up => rfl
    | down hname => exact absurd rfl hname
    | back _ hseen | link _ hseen => exact absurd rfl hseen.named

/-- A name is followed as the relation says if the target of a link behind it is. -/
theorem tread_name_eq_ok_iff {way : Way} {name : LooseText} (hname : name ≠ "..")
    (hinside : ∀ target, host.Sees way name target → way.down name ∉ pending →
      (inside (way.down name :: pending) (way.startOf target) target.parts = .ok last
        ↔ host.Traces (way.down name :: pending) ⟨way.startOf target, false⟩ target.parts last)) :
    host.tread pending inside ⟨way, false⟩ name = .ok last
      ↔ host.Treads pending ⟨way, false⟩ name last := by
  have hnext : host.followOn way name = way.down name := if_neg hname
  simp only [tread, hname, or_self, Bool.false_eq_true, if_false, hnext]
  constructor
  · intro h
    split at h
    · cases h
    · rename_i hpossible hunseen
      cases h
      exact .down hname hpossible (visibleLink_eq_none_iff.mp hunseen)
    · rename_i target hpossible hvisible
      have hseen := visibleLink_eq_some_iff.mp hvisible
      split_ifs at h with hold
      · cases h
        exact .back hpossible hseen hold
      · exact .link hpossible hseen hold ((hinside target hseen hold).mp h)
  · intro h
    cases h with
    | up => exact absurd rfl hname
    | down _ hpossible hunseen => simp [hpossible, visibleLink_eq_none_iff.mpr hunseen]
    | back hpossible hseen hold => simp [hpossible, visibleLink_eq_some_iff.mpr hseen, hold]
    | link hpossible hseen hnew htarget =>
      simp [hpossible, visibleLink_eq_some_iff.mpr hseen, hnew,
        (hinside _ hseen hnew).mpr htarget]

/-- One part is followed as the relation says if targets of links are. -/
theorem tread_eq_ok_iff {part : LooseText}
    (hinside : ∀ target, host.Sees footing.way part target → footing.way.down part ∉ pending →
      (inside (footing.way.down part :: pending) (footing.way.startOf target) target.parts
          = .ok last
        ↔ host.Traces (footing.way.down part :: pending) ⟨footing.way.startOf target, false⟩
          target.parts last)) :
    host.tread pending inside footing part = .ok last
      ↔ host.Treads pending footing part last := by
  obtain ⟨way, isBlind⟩ := footing
  cases isBlind with
  | true => exact tread_blind_eq_ok_iff
  | false =>
    by_cases hup : part = ".."
    · subst hup
      exact tread_up_eq_ok_iff
    · exact tread_name_eq_ok_iff hup hinside

end Tread

/-- Following parts to the bound is following them without one, as long as the bound leaves room
for all links that are not pending. -/
theorem trace_eq_ok_iff {nesting : Nat} {pending : List Way} {way : Way} {parts : List LooseText}
    {last : Footing} (hpending : host.IsStack pending) (hway : host.IsBounded way)
    (hroom : host.nestingLimit < nesting + pending.length) :
    host.trace nesting pending way parts = .ok last
      ↔ host.Traces pending ⟨way, false⟩ parts last := by
  induction nesting generalizing pending way parts last with
  | zero =>
    have hle := hpending.length_le
    omega
  | succ nesting ih =>
    rw [trace]
    -- any footing, since following a part may end blind
    suffices h : ∀ footing : Footing, host.IsBounded footing.way →
        (parts.foldlM (host.tread pending (host.trace nesting)) footing = .ok last
          ↔ host.Traces pending footing parts last) from h ⟨way, false⟩ hway
    induction parts with
    | nil =>
      intro footing _
      constructor
      · intro h
        cases h
        exact .done
      · intro h
        cases h
        rfl
    | cons part rest ihrest =>
      intro footing hfooting
      have hpart {middle : Footing} : host.tread pending (host.trace nesting) footing part
          = .ok middle ↔ host.Treads pending footing part middle := by
        refine tread_eq_ok_iff fun target hseen hnew => ?_
        exact ih (hpending.cons hfooting hseen hnew) (hfooting.startOf target)
          (by rw [List.length_cons]; omega)
      rw [List.foldlM_cons, bind_eq_ok_iff]
      constructor
      · rintro ⟨middle, hmiddle, hrest⟩
        have htreads := hpart.mp hmiddle
        exact .step htreads ((ihrest middle (htreads.isBounded hfooting)).mp hrest)
      · intro h
        cases h with
        | step htreads hrest =>
          exact ⟨_, hpart.mpr htreads, (ihrest _ (htreads.isBounded hfooting)).mpr hrest⟩

theorem resolves_iff (path : Path) {place : Location} :
    host.Resolves path.isAbsolute path.parts place
      ↔ ∃ last, host.trace (host.nestingLimit + 1) [] (Way.here.startOf path) path.parts = .ok last
        ∧ place = host.placeOf last.way := by
  have htrace {last : Footing} : host.trace (host.nestingLimit + 1) [] (Way.here.startOf path)
      path.parts = .ok last ↔ host.Traces [] ⟨Way.here.startOf path, false⟩ path.parts last :=
    trace_eq_ok_iff isStack_nil (isBounded_here.startOf path) (by simp)
  simp only [htrace]
  rfl

/-- Parts are resolved to one place at most. -/
theorem Resolves.unique {fromRoot : Bool} {parts : List LooseText} {place place' : Location}
    (h : host.Resolves fromRoot parts place) (h' : host.Resolves fromRoot parts place') :
    place = place' := by
  let path : Path := ⟨if fromRoot then .slash else .relative, parts⟩
  have hroot : fromRoot = path.isAbsolute := by cases fromRoot <;> rfl
  rw [hroot] at h h'
  obtain ⟨last, hlast, rfl⟩ := (resolves_iff path).mp h
  obtain ⟨last', hlast', rfl⟩ := (resolves_iff path).mp h'
  rw [hlast] at hlast'
  cases hlast'
  rfl

/-- A path is resolved to the place that its parts are followed to, if a system can be asked for it
and does not find too many links on its way. -/
theorem resolve_eq_ok_iff {path resolved : Path} :
    host.resolve path = .ok resolved
      ↔ ∃ place, host.Resolves path.isAbsolute path.parts place ∧ resolved = .absolute place
        ∧ resolved.fault? = none ∧ host.find resolved ≠ .tooManyLinks := by
  simp only [resolves_iff, resolve]
  cases htrace : host.trace (host.nestingLimit + 1) [] (Way.here.startOf path) path.parts with
  | error fault => simp
  | ok last =>
    simp only [Except.ok.injEq, exists_eq_left']
    constructor
    · intro h
      split at h
      · cases h
      · cases h
      · rename_i hpossible hlinks
        cases h
        exact ⟨_, rfl, rfl, hpossible, hlinks⟩
    · rintro ⟨place, rfl, rfl, hpossible, hlinks⟩
      rw [hpossible]
      split
      · rename_i hfault
        cases hfault
      · rename_i htoo
        exact absurd htoo hlinks
      · rfl

/-! ## §4 Machines without links -/

theorem placeOf_upFrom (way : Way) :
    host.placeOf (host.upFrom way) = (host.placeOf way).dropLast := by
  obtain ⟨ups, names⟩ := way
  cases names with
  | cons name names => simp [placeOf, upFrom, baseOf, List.dropLast_append_of_ne_nil]
  | nil =>
    cases ups with
    | none => rfl
    | some ups =>
      simp only [placeOf, upFrom, baseOf, Option.map_some, List.append_nil, List.dropLast_eq_take,
        List.length_take, List.take_take]
      congr 1
      omega

/-- A way goes on like the place that it leads to. -/
theorem placeOf_followOn (way : Way) (part : LooseText) :
    host.placeOf (host.followOn way part) = follow (host.placeOf way) part := by
  by_cases hpart : part = ".."
  · rw [followOn, if_pos hpart, hpart, follow_up, placeOf_upFrom]
  · rw [followOn, if_neg hpart, follow_down _ hpart]
    exact (List.append_assoc _ _ _).symm

section NoLinks

variable (hlinks : ∀ place, host.linkAt place = none)
include hlinks

theorem treads_iff_of_no_links {pending : List Way} {way : Way} {part : LooseText}
    {footing : Footing} (hpossible : PathFault.ofParts? [part] = none) :
    host.Treads pending ⟨way, false⟩ part footing
      ↔ footing = ⟨host.followOn way part, false⟩ := by
  have hunseen := not_sees_of_linkAt (hlinks (host.placeOf way ++ [part]))
  constructor
  · intro h
    cases h with
    | up => rfl
    | down hname => rw [followOn, if_neg hname]
    | back _ hseen | link _ hseen => exact absurd hseen (hunseen _)
  · rintro rfl
    by_cases hpart : part = ".."
    · subst hpart
      exact .up
    · rw [followOn, if_neg hpart]
      exact .down hpart hpossible hunseen

theorem traces_iff_of_no_links {pending : List Way} {way : Way} {parts : List LooseText}
    {footing : Footing} (hpossible : PathFault.ofParts? parts = none) :
    host.Traces pending ⟨way, false⟩ parts footing
      ↔ footing = ⟨parts.foldl host.followOn way, false⟩ := by
  rw [PathFault.ofParts?_eq_none_iff] at hpossible
  induction parts generalizing way with
  | nil =>
    constructor
    · intro h
      cases h
      rfl
    · rintro rfl
      exact .done
  | cons part rest ih =>
    obtain ⟨hpart, hrest⟩ := List.forall_mem_cons.mp hpossible
    constructor
    · intro h
      cases h with
      | step htreads htraces =>
        rw [treads_iff_of_no_links hlinks hpart] at htreads
        subst htreads
        exact (ih hrest).mp htraces
    · intro h
      exact .step ((treads_iff_of_no_links hlinks hpart).mpr rfl) ((ih hrest).mpr h)

/-- Without links parts are followed as they are written, `..` to the directory above. -/
theorem resolves_iff_of_no_links {fromRoot : Bool} {parts : List LooseText} {place : Location}
    (hpossible : PathFault.ofParts? parts = none) :
    host.Resolves fromRoot parts place
      ↔ place = parts.foldl follow (if fromRoot then [] else host.workingDirectory) := by
  have hstart : host.placeOf (if fromRoot then .root else .here)
      = if fromRoot then [] else host.workingDirectory := by
    cases fromRoot with
    | true => rfl
    | false => simp [placeOf, baseOf, Way.here]
  rw [← hstart, List.foldl_hom host.placeOf fun way part => (placeOf_followOn way part).symm]
  simp only [Resolves, traces_iff_of_no_links hlinks hpossible, exists_eq_left]

end NoLinks

/-! ## §5 Paths that lead somewhere -/

variable (host)

/-- The place is named by a way to it that has no links. -/
structure IsPlain (place : Location) : Prop where
  names : ∀ name ∈ place, name ≠ ".."
  possible : PathFault.ofParts? place = none
  unlinked : ∀ before name, before ++ [name] <+: place → host.linkAt (before ++ [name]) = none

/-- The place is a directory with such a name, and the way to it is open. -/
structure IsReached (place : Location) : Prop where
  plain : host.IsPlain place
  leads : host.Leads 0 [] place place

/-- The system knows the directory of the run by a way without links, and no link is at a place
whose path is longer than any can be. -/
structure IsSettled : Prop where
  here : host.IsPlain host.workingDirectory
  near : ∀ link ∈ host.links, (Path.absolute link.place).text.octets ≤ pathLimit

/-- Behind each of the pending links, ways from the root, at least so many others follow. -/
def Costs (pending : List Way) (count : Nat) : Prop :=
  ∀ directory name target inside middle, (⟨none, directory ++ [name]⟩ : Way) ∈ pending →
    host.linkAt (directory ++ [name]) = some target →
    host.Leads inside (if target.isAbsolute then [] else directory) target.parts middle →
    count ≤ inside

variable {host}

namespace Costs

variable {pending : List Way} {count : Nat}

theorem mono (h : host.Costs pending count) {less : Nat} (hle : less ≤ count) :
    host.Costs pending less := fun directory name target inside middle hmem hlink hleads =>
  Nat.le_trans hle (h directory name target inside middle hmem hlink hleads)

variable {place middle : Location} {name : LooseText} {target : Path} {inside : Nat}
  (hlink : host.linkAt (place ++ [name]) = some target)
  (htarget : host.Leads inside (if target.isAbsolute then [] else place) target.parts middle)
include hlink htarget

theorem not_mem (h : host.Costs pending count) (hlt : inside < count) :
    (⟨none, place ++ [name]⟩ : Way) ∉ pending := fun hmem =>
  absurd (h place name target inside middle hmem hlink htarget) (Nat.not_le_of_lt hlt)

/-- Behind a link itself as many others follow as on the way to its target. -/
theorem cons (h : host.Costs pending inside) :
    host.Costs (⟨none, place ++ [name]⟩ :: pending) inside := by
  intro directory other found count' middle' hmem hfound hleads
  rcases List.mem_cons.mp hmem with heq | hmem
  · obtain ⟨rfl, hother⟩ := List.append_inj' (Way.mk.inj heq).2 rfl
    obtain rfl := (List.cons.inj hother).1
    obtain rfl := Option.some.inj (hlink.symm.trans hfound)
    exact Nat.le_of_eq (htarget.unique hleads).1
  · exact h directory other found count' middle' hmem hfound hleads

end Costs

/-- Names lead down. -/
theorem Leads.eq_append {start place : Location} {names : List LooseText}
    (h : host.Leads 0 start names place) (hnames : ∀ name ∈ names, name ≠ "..") :
    place = start ++ names := by
  induction names generalizing start with
  | nil =>
    cases h
    exact (List.append_nil _).symm
  | cons name rest ih =>
    obtain ⟨hname, hrest⟩ := List.forall_mem_cons.mp hnames
    obtain ⟨-, -, hleads⟩ := leads_zero_cons_iff.mp h
    rw [ih hleads hrest, follow_down _ hname, List.append_assoc]
    rfl

namespace IsPlain

theorem nil : host.IsPlain [] := by
  refine ⟨by simp, rfl, fun before name hfront => ?_⟩
  simp at hfront

theorem of_front {before place : Location} (h : host.IsPlain place) (hfront : before <+: place) :
    host.IsPlain before := by
  refine ⟨fun name hname => h.names name (hfront.mem hname), ?_,
    fun first name hfirst => h.unlinked first name (hfirst.trans hfront)⟩
  have hpossible := h.possible
  rw [PathFault.ofParts?_eq_none_iff] at hpossible ⊢
  exact fun part hpart => hpossible part (hfront.mem hpart)

theorem down {place : Location} (h : host.IsPlain place) {name : LooseText} (hname : name ≠ "..")
    (hpossible : PathFault.ofParts? [name] = none) (hplain : host.linkAt (place ++ [name]) = none) :
    host.IsPlain (place ++ [name]) := by
  refine ⟨?_, ?_, fun before last hfront => ?_⟩
  · simpa [or_imp, forall_and, hname] using h.names
  · have hplace := h.possible
    rw [PathFault.ofParts?_eq_none_iff] at hplace ⊢
    simpa [or_imp, forall_and, hpossible] using hplace
  · rcases List.prefix_concat_iff.mp hfront with heq | hfront
    · rwa [heq]
    · exact h.unlinked before last hfront

/-- No link is met on the way to a place that is named like this. -/
theorem find_ne_tooManyLinks {place : Location} (h : host.IsPlain place) :
    host.find (.absolute place) ≠ .tooManyLinks := by
  unfold find
  split_ifs
  · simp
  · simp
  · cases hadvance : host.advance [] place with
    | ended lookup =>
      have hlookup : lookup ≠ .tooManyLinks := by
        rintro rfl
        exact advance_ne_tooManyLinks hadvance
      exact fun h => hlookup ((walk_of_ended hadvance).symm.trans h)
    | link directory target rest =>
      obtain ⟨before, name, rfl, hbefore, -, hlink⟩ := advance_eq_link_iff.mp hadvance
      have hnames := h.names
      simp only [List.mem_append, List.mem_cons, or_imp, forall_and, forall_eq] at hnames
      obtain rfl := hbefore.eq_append hnames.1
      rw [linkBehind_down _ hnames.2.1, h.unlinked directory name ⟨rest, by simp⟩] at hlink
      cases hlink

/-- A place that is named like this is resolved to itself. -/
theorem resolve_eq {place : Location} (h : host.IsPlain place) :
    host.resolve (.absolute place) = .ok (.absolute place) := by
  -- some names of the place have been followed, and some are left
  suffices htraces : ∀ before rest, before ++ rest = place →
      host.Traces [] ⟨⟨none, before⟩, false⟩ rest ⟨⟨none, place⟩, false⟩ from
    resolve_eq_ok_iff.mpr
      ⟨place, ⟨_, htraces [] place rfl, rfl⟩, rfl, h.possible, h.find_ne_tooManyLinks⟩
  intro before rest hplace
  induction rest generalizing before with
  | nil =>
    rw [← hplace, List.append_nil]
    exact .done
  | cons name rest ih =>
    have hfront : before ++ [name] <+: place := ⟨rest, by simpa using hplace⟩
    have hname : name ∈ place := by simp [← hplace]
    have hunseen : ∀ target, ¬ host.Sees ⟨none, before⟩ name target :=
      not_sees_of_linkAt (h.unlinked before name hfront)
    exact .step
      (.down (h.names name hname) (PathFault.ofParts?_eq_none_iff.mp h.possible name hname) hunseen)
      (ih (before ++ [name]) (by simpa using hplace))

end IsPlain

namespace IsReached

theorem nil : host.IsReached [] := ⟨.nil, .done []⟩

theorem dropLast {place : Location} (h : host.IsReached place) : host.IsReached place.dropLast := by
  rcases List.eq_nil_or_concat place with rfl | ⟨before, name, rfl⟩
  · exact h
  · rw [List.concat_eq_append, List.dropLast_concat] at *
    have hplain := h.plain.of_front (List.prefix_append before [name])
    refine ⟨hplain, ?_⟩
    obtain ⟨first, second, middle, hsum, hbefore, -⟩ := leads_append_iff.mp h.leads
    obtain rfl : first = 0 := by omega
    rwa [hbefore.eq_append hplain.names] at hbefore

theorem down {place : Location} (h : host.IsReached place) {name : LooseText} (hname : name ≠ "..")
    (hpossible : PathFault.ofParts? [name] = none) (hopen : host.Opens place name)
    (hplain : host.linkAt (place ++ [name]) = none) : host.IsReached (place ++ [name]) :=
  ⟨h.plain.down hname hpossible hplain,
    leads_append_iff.mpr ⟨0, 0, place, rfl, h.leads, .down hopen hname hplain (.done _)⟩⟩

theorem sees {place : Location} (h : host.IsReached place)
    (hnear : ∀ link ∈ host.links, (Path.absolute link.place).text.octets ≤ pathLimit)
    {name : LooseText} {target : Path} (hopen : host.Opens place name) (hname : name ≠ "..")
    (hlink : host.linkAt (place ++ [name]) = some target) :
    host.Sees ⟨none, place⟩ name target := by
  refine ⟨?_, h.leads, hopen, hname, hlink⟩
  obtain ⟨link, hmem, hplace, -⟩ := exists_link_of_linkAt hlink
  have hshort := hnear link hmem
  rwa [hplace] at hshort

end IsReached

/-- What a path from the root is followed to is what its parts lead to. -/
theorem Leads.traces
    (hnear : ∀ link ∈ host.links, (Path.absolute link.place).text.octets ≤ pathLimit)
    {count : Nat} {place last : Location} {parts : List LooseText}
    (h : host.Leads count place parts last) {pending : List Way} (hplace : host.IsReached place)
    (hparts : ∀ part ∈ parts, PathFault.ofParts? [part] = none)
    (hpending : host.Costs pending count) :
    host.Traces pending ⟨⟨none, place⟩, false⟩ parts ⟨⟨none, last⟩, false⟩
      ∧ host.IsReached last := by
  induction h generalizing pending with
  | done place => exact ⟨.done, hplace⟩
  | @up count place last rest hopen hrest ih =>
    obtain ⟨-, hparts⟩ := List.forall_mem_cons.mp hparts
    obtain ⟨htraces, hlast⟩ := ih hplace.dropLast hparts hpending
    have hup : host.upFrom ⟨none, place⟩ = ⟨none, place.dropLast⟩ := by cases place <;> rfl
    exact ⟨.step .up (by rwa [hup]), hlast⟩
  | @down count place last name rest hopen hname hplain hrest ih =>
    obtain ⟨hpossible, hparts⟩ := List.forall_mem_cons.mp hparts
    obtain ⟨htraces, hlast⟩ :=
      ih (hplace.down hname hpossible hopen hplain) hparts hpending
    exact ⟨.step (.down hname hpossible (not_sees_of_linkAt hplain)) htraces, hlast⟩
  | @link inside after place middle last name target rest hopen hname hlink htarget hrest ihtarget
      ihrest =>
    obtain ⟨hpossible, hparts⟩ := List.forall_mem_cons.mp hparts
    have hseen := hplace.sees hnear hopen hname hlink
    -- a link that is pending costs more than is left
    have hnew := hpending.not_mem hlink htarget (by omega)
    have hinside := (hpending.mono (by omega)).cons hlink htarget
    have hafter : host.Costs pending after := hpending.mono (by omega)
    have hstart : host.IsReached (if target.isAbsolute then [] else place) := by
      split
      · exact .nil
      · exact hplace
    have htargetParts : ∀ part ∈ target.parts, PathFault.ofParts? [part] = none := by
      obtain ⟨link, -, -, rfl⟩ := exists_link_of_linkAt hlink
      exact PathFault.ofParts?_eq_none_iff.mp link.isPossible
    obtain ⟨htraces, hmiddle⟩ := ihtarget hstart htargetParts hinside
    obtain ⟨hothers, hlast⟩ := ihrest hmiddle hparts hafter
    have hway : (⟨none, place⟩ : Way).startOf target
        = ⟨none, if target.isAbsolute then [] else place⟩ := by
      unfold Way.startOf
      split <;> rfl
    exact ⟨.step (.link hpossible hseen hnew (by rwa [hway])) hothers, hlast⟩

/-- A path from the root that leads somewhere is resolved to where it leads. -/
theorem IsSettled.resolve_of_leads (h : host.IsSettled) {path : Path} {count : Nat}
    {last : Location} (hroot : path.isAbsolute = true) (hpossible : path.fault? = none)
    (hleads : host.Leads count [] path.parts last) :
    host.resolve path = .ok (.absolute last) := by
  have hcosts : host.Costs [] count := by simp [Costs]
  obtain ⟨htraces, hlast⟩ :=
    hleads.traces h.near .nil (PathFault.ofParts?_eq_none_iff.mp hpossible) hcosts
  refine resolve_eq_ok_iff.mpr ⟨last, ⟨⟨⟨none, last⟩, false⟩, ?_, rfl⟩, rfl, hlast.plain.possible,
    hlast.plain.find_ne_tooManyLinks⟩
  rw [hroot]
  exact htraces

/-- A machine without links is settled if its directory is named by a way that can be asked for. -/
theorem isSettled_plain {place : Location} {nodeAt : Location → Option FileNode}
    (hnames : ∀ name ∈ place, name ≠ "..") (hpossible : PathFault.ofParts? place = none) :
    (plain place nodeAt).IsSettled where
  here := ⟨hnames, hpossible, fun _ _ _ => rfl⟩
  near := by simp [plain]

end Host

end SchemaSemver
