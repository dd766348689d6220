/-
SchemaSemver.Proofs.Check.Certificate — what a matching check certifies.

If a check ends in a match, the head version is a stable one, it is not before the base version,
and it is after it if the schema changed; a major change raised the major component by one, and any
other change from a stable base left it alone (`match_certifies_advance`). This needs that markers
hold no negative component: from version -1.0.0 a major change would lead to 1.0.0.

A missing marker never helps a head through, since what is expected is never before 1.0.0; and a
match is stable, since the check of the head against itself expects the version that it has.
-/
import SchemaSemver.Proofs.Check.Stages
import SchemaSemver.Proofs.Version.History
import SchemaSemver.Proofs.Version.Marker

namespace SchemaSemver

/-! ## §1 Steps forward -/

namespace SemVer

/-- Any change leads to a later version. -/
theorem lt_expectedAfter (version : SemVer) (bump : Bump) :
    version < version.expectedAfter (some bump) := by
  refine lt_of_le_of_ne (le_expectedAfter version _) fun heq => ?_
  by_cases h : version.major ≤ 0
  · rw [expectedAfter_of_unstable h] at heq
    rw [heq] at h
    exact absurd h (by decide)
  · rw [expectedAfter_of_stable (by omega)] at heq
    have hmajor := congrArg SemVer.major heq
    have hminor := congrArg SemVer.minor heq
    have hpatch := congrArg SemVer.patch heq
    cases bump <;> simp only [raised, bumped] at hmajor hminor hpatch <;> omega

/-- A major change raises the major component by one, also across the floor. -/
theorem major_expectedAfter_major {version : SemVer} (h : 0 ≤ version.major) :
    (version.expectedAfter (some .major)).major = version.major + 1 := by
  rw [expectedAfter_eq]
  split
  · have hzero : version.major = 0 := by omega
    rw [hzero]
    rfl
  · rfl

/-- Other changes from a stable version leave the major component alone. -/
theorem major_expectedAfter_of_ne {version : SemVer} {bump : Bump} (h : 1 ≤ version.major)
    (hbump : bump ≠ .major) : (version.expectedAfter (some bump)).major = version.major := by
  rw [expectedAfter_of_stable h]
  cases bump with
  | major => exact absurd rfl hbump
  | minor => rfl
  | patch => rfl

end SemVer

/-! ## §2 Completed checks -/

/-- A marker stands for one version, and no component of it is negative. -/
theorem RevisionRead.Marks.nonnegative {read : RevisionRead} {version : SemVer}
    (h : read.Marks version) : version.IsNonnegative := by
  unfold RevisionRead.Marks at h
  split at h
  · subst h
    exact ⟨Int.le_refl 0, Int.le_refl 0, Int.le_refl 0⟩
  · exact SemVer.nonnegative_of_parseMarker h

theorem RevisionRead.Marks.unique {read : RevisionRead} {version other : SemVer}
    (h : read.Marks version) (h' : read.Marks other) : version = other := by
  unfold RevisionRead.Marks at h h'
  split at h <;> simp_all

theorem RevisionRead.Marks.of_unread {read : RevisionRead} {version : SemVer}
    (h : read.Marks version) (hunread : read.text? = none) : version = ⟨0, 0, 0⟩ := by
  unfold RevisionRead.Marks at h
  rw [hunread] at h
  exact h

section Completed

variable {request : CheckRequest} {probe : Probe} {reader : Reader} {verdict : Verdict}

theorem firstHalt_eq_none_iff {halts : List (Option Halt)} :
    firstHalt halts = none ↔ ∀ halt ∈ halts, halt = none := by
  simp [firstHalt]

/-- A check completes only if no stage halts it. -/
theorem completed (h : (request.check probe reader).result = .ok verdict) :
    firstHalt (request.halts probe reader) = none ∧ request.Judges reader verdict := by
  have hdecided := request.decided_check probe reader
  cases hhalt : firstHalt (request.halts probe reader) with
  | some halt =>
    rw [hhalt] at hdecided
    obtain ⟨failure, hfailure, -⟩ := hdecided
    rw [h] at hfailure
    cases hfailure
  | none =>
    rw [hhalt] at hdecided
    obtain ⟨found, hfound, hjudges⟩ := hdecided
    rw [h] at hfound
    cases hfound
    exact ⟨rfl, hjudges⟩

/-- A check completes only with a store that was found open. -/
theorem available_of_completed (h : (request.check probe reader).result = .ok verdict) :
    probe = .ok .available := by
  have hprobe : probeHalt? probe = none :=
    firstHalt_eq_none_iff.mp (completed h).1 _ (by simp [CheckRequest.halts])
  rcases probe with message | availability
  · cases hprobe
  · cases availability with
    | available => rfl
    | _ => cases hprobe

theorem ExitStatus.code_eq_zero_iff (status : ExitStatus) :
    status.code = 0 ↔ status = .versionsMatch := by
  cases status <;> simp [code]

theorem Verdict.IsOn.isMatch_iff {base head : String} {baseMarker headMarker : RevisionRead}
    (h : verdict.IsOn base head baseMarker headMarker) :
    verdict.isMatch = true ↔ verdict.headVersion = verdict.expectedVersion := by
  rw [Verdict.isMatch, beq_iff_eq, ← ExitStatus.code_eq_zero_iff, h.code]
  split <;> simp_all

theorem Verdict.IsOn.head_eq_expected {base head : String} {baseMarker headMarker : RevisionRead}
    (h : verdict.IsOn base head baseMarker headMarker) (hmatch : verdict.status.code = 0) :
    verdict.headVersion = verdict.expectedVersion := by
  by_contra hne
  have hcode := h.code
  rw [if_neg hne, hmatch] at hcode
  cases hcode

/-- No expected version is before the first stable one. -/
theorem Verdict.IsOn.one_le_expected {base head : String} {baseMarker headMarker : RevisionRead}
    (h : verdict.IsOn base head baseMarker headMarker) : 1 ≤ verdict.expectedVersion.major := by
  rw [h.expected]
  exact SemVer.one_le_major_expectedAfter _ _

end Completed

/-! ## §3 The head against itself -/

namespace CheckRequest

variable (request : CheckRequest) {probe : Probe} {reader : Reader} {verdict : Verdict}

/-- The check of the head revision against itself. -/
def ofHead : CheckRequest := { request with baseRef := request.headRef }

/-- Nothing halts the check of the head against itself that did not halt the check before. -/
theorem firstHalt_ofHead (h : firstHalt (request.halts probe reader) = none)
    (hread : (reader request.headRef request.schemaFile).text?.isSome = true) :
    firstHalt (request.ofHead.halts probe reader) = none := by
  rw [firstHalt_eq_none_iff] at h ⊢
  have hprobe : probeHalt? probe = none := h _ (by simp [halts])
  have hmarker : markerHalt? (reader request.headRef request.markerFile) = none :=
    h _ (by simp [halts])
  have hschema : ∀ side, schemaHalt? side (reader request.headRef request.schemaFile) = none := by
    intro side
    obtain ⟨text, htext⟩ := Option.isSome_iff_exists.mp hread
    rw [schemaHalt?, htext]
  simp [halts, ofHead, comparisonHalts, hprobe, hmarker, hschema]

/-- A match stays one when the head is checked against itself. -/
theorem match_ofHead (h : (request.check probe reader).result = .ok verdict)
    (hmatch : verdict.status.code = 0) :
    ∃ again, (request.ofHead.check probe reader).result = .ok again ∧ again.status.code = 0
      ∧ again.expectedVersion = verdict.expectedVersion := by
  obtain ⟨hhalt, base, head, -, hhead, hon⟩ := completed h
  have hdecided := request.ofHead.decided_check probe reader
  rw [request.firstHalt_ofHead hhalt (by rw [hhead]; rfl)] at hdecided
  obtain ⟨again, hagain, base', head', hbase', hhead', hon'⟩ := hdecided
  have htexts : base' = head' := Option.some.inj (hbase'.symm.trans hhead')
  have hnone : again.change = none := hon'.changed.mpr htexts
  -- both markers of the second check are the head marker of the first
  have hbaseVersion : again.baseVersion = verdict.headVersion :=
    hon'.baseVersion.unique hon.headVersion
  have hheadVersion : again.headVersion = verdict.headVersion :=
    hon'.headVersion.unique hon.headVersion
  have hheadExpected := hon.head_eq_expected hmatch
  have hstable : 1 ≤ verdict.headVersion.major := hheadExpected ▸ hon.one_le_expected
  have hexpected : again.expectedVersion = verdict.headVersion := by
    rw [hon'.expected, hnone, hbaseVersion]
    exact SemVer.expectedAfter_of_stable hstable none
  refine ⟨again, hagain, ?_, hexpected.trans hheadExpected⟩
  rw [hon'.code, if_pos (hheadVersion.trans hexpected.symm)]

end CheckRequest

/-! ## §4 The certificate -/

/-- The head version of a verdict is an advance over its base version; `changed` says whether the
schema did change. -/
structure Verdict.IsAdvance (verdict : Verdict) (changed : Prop) : Prop where
  stable : 1 ≤ verdict.headVersion.major
  notBefore : verdict.baseVersion ≤ verdict.headVersion
  after : changed → verdict.baseVersion < verdict.headVersion
  major : ∀ outcome, verdict.change = some outcome → outcome.bump = .major →
    verdict.headVersion.major = verdict.baseVersion.major + 1
  sameMajor : ∀ outcome, verdict.change = some outcome → outcome.bump ≠ .major →
    1 ≤ verdict.baseVersion.major → verdict.headVersion.major = verdict.baseVersion.major

theorem Verdict.IsAdvance.imp {verdict : Verdict} {changed changed' : Prop}
    (h : verdict.IsAdvance changed) (himp : changed' → changed) : verdict.IsAdvance changed' where
  stable := h.stable
  notBefore := h.notBefore
  after hchanged := h.after (himp hchanged)
  major := h.major
  sameMajor := h.sameMajor

theorem Verdict.IsOn.isAdvance {verdict : Verdict} {base head : String}
    {baseMarker headMarker : RevisionRead} (h : verdict.IsOn base head baseMarker headMarker)
    (hmatch : verdict.status.code = 0) : verdict.IsAdvance (base ≠ head) := by
  have hhead : verdict.headVersion
      = verdict.baseVersion.expectedAfter (verdict.change.map Outcome.bump) :=
    (h.head_eq_expected hmatch).trans h.expected
  refine ⟨?_, ?_, ?_, ?_, ?_⟩
  · rw [hhead]
    exact SemVer.one_le_major_expectedAfter _ _
  · rw [hhead]
    exact SemVer.le_expectedAfter _ _
  · intro hchanged
    cases hchange : verdict.change with
    | none => exact absurd (h.changed.mp hchange) hchanged
    | some outcome =>
      rw [hhead, hchange]
      exact SemVer.lt_expectedAfter _ outcome.bump
  · intro outcome hchange hmajor
    rw [hhead, hchange, Option.map_some, hmajor]
    exact SemVer.major_expectedAfter_major h.baseVersion.nonnegative.major
  · intro outcome hchange hmajor hstable
    rw [hhead, hchange, Option.map_some]
    exact SemVer.major_expectedAfter_of_ne hstable hmajor

/-- **A match certifies an advance.** Take a completed check. If it ends in a match, the head
version is an advance, and the check of the head against itself ends in a match as well, with the
same expected version. If the head marker could not be read, the check does not end in a match. If
the base marker could not be read, 1.0.0 is expected, whatever changed. -/
theorem match_certifies_advance (request : CheckRequest) (probe : Probe) (reader : Reader)
    (verdict : Verdict) (h : (request.check probe reader).result = .ok verdict) :
    (verdict.status.code = 0 →
      verdict.IsAdvance ((reader request.baseRef request.schemaFile).text?
          ≠ (reader request.headRef request.schemaFile).text?)
      ∧ ∃ again, (request.ofHead.check probe reader).result = .ok again
        ∧ again.status.code = 0 ∧ again.expectedVersion = verdict.expectedVersion)
    ∧ ((reader request.headRef request.markerFile).text? = none → verdict.status.code ≠ 0)
    ∧ ((reader request.baseRef request.markerFile).text? = none →
      verdict.expectedVersion = ⟨1, 0, 0⟩) := by
  obtain ⟨-, base, head, hbase, hhead, hon⟩ := completed h
  refine ⟨fun hmatch => ⟨?_, request.match_ofHead h hmatch⟩, ?_, ?_⟩
  · rw [hbase, hhead]
    exact (hon.isAdvance hmatch).imp fun hne heq => hne (congrArg some heq)
  · intro hunread hmatch
    have hversion := hon.headVersion.of_unread hunread
    have hstable := hon.one_le_expected
    rw [← hon.head_eq_expected hmatch, hversion] at hstable
    exact absurd hstable (by decide)
  · intro hunread
    rw [hon.expected, hon.baseVersion.of_unread hunread]
    exact SemVer.expectedAfter_of_unstable (Int.le_refl 0) _

/-- A store with a field more at the head, released as 1.1.0 after 1.0.0. -/
def fieldRelease : Reader := fun ref path =>
  match ref, path with
  | "main", "schema.ver" => .found ref path "\x7b\"major\":1,\"minor\":0,\"patch\":0\x7d"
  | _, "schema.ver" => .found ref path "\x7b\"major\":1,\"minor\":1,\"patch\":0\x7d"
  | "main", _ => .found ref path "type Query\x7ba:Int\x7d"
  | _, _ => .found ref path "type Query\x7ba:Int b:Int\x7d"

/-- The release of the new field matches, so it is an advance, and it goes on to match. -/
theorem field_release_certified :
    ∃ verdict, (featureCheck.check (.ok .available) fieldRelease).result = .ok verdict
      ∧ verdict.IsAdvance True
      ∧ ∃ again, (featureCheck.ofHead.check (.ok .available) fieldRelease).result = .ok again
        ∧ again.status.code = 0 := by
  have hcode : (featureCheck.check (.ok .available) fieldRelease).result.toOption.map
      (·.status.code) = some 0 := by decide +kernel
  cases hresult : (featureCheck.check (.ok .available) fieldRelease).result with
  | error failure =>
    rw [hresult] at hcode
    cases hcode
  | ok verdict =>
    rw [hresult] at hcode
    obtain ⟨hadvance, again, hagain, hagainCode, -⟩ :=
      (match_certifies_advance _ _ _ verdict hresult).1 (Option.some.inj hcode)
    exact ⟨verdict, rfl, hadvance.imp fun _ => by decide, again, hagain, hagainCode⟩

end SchemaSemver
