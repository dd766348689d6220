/-
SchemaSemver.Proofs.Check.Report — what can be read back from a report.

A report is a list of lines, and lines of declarations stand among titles, blank lines and a
verdict. Each kind of line is told apart by how it begins: only the line of a declaration begins
with a dash behind two blanks. So the lines below a title are found again (`linesBelow`), and a line
gives back path and signature, as long as there is no blank in the path: a signature may hold any
characters, since it ends with the line.

`report_loses_nothing` puts this together. Two comparisons are reported alike exactly if they have
the same reason and list the same removals and additions; and two completed checks of one request
that are reported alike end with the same status and, where that is a mismatch, expect the same
version. The text of a version has its components between dots, which no number holds.
-/
import SchemaSemver.Check.Report
import SchemaSemver.Proofs.Change.Exactness
import SchemaSemver.Proofs.Check.Certificate
import SchemaSemver.Proofs.Schema.Identity
import SchemaSemver.Proofs.Text.Decimal
import SchemaSemver.Proofs.Text.Joined

namespace SchemaSemver

/-! ## §1 Lines of declarations -/

/-- Does the line begin like that of a declaration? -/
def isDeclarationLine (line : String) : Bool := line.toList.take 4 == [' ', ' ', '-', ' ']

/-- No blank stands in the path of any of the declarations. -/
def HavePlainPaths (declarations : List Declaration) : Prop :=
  ∀ declaration ∈ declarations, ' ' ∉ declaration.path.toList

instance (declarations : List Declaration) : Decidable (HavePlainPaths declarations) :=
  inferInstanceAs (Decidable (∀ declaration ∈ declarations, ' ' ∉ declaration.path.toList))

/-- The declarations of a schema have plain paths, since they are made of names and dots. -/
theorem havePlainPaths_extract {definitions : List TypeDefinition} (hw : WellFormed definitions)
    (hs : ∀ definition ∈ definitions, definition.IsSupported) :
    HavePlainPaths (extract definitions).declarations := by
  intro declaration hdeclaration
  obtain ⟨definition, hd, hdeclared⟩ := (mem_extract_iff hs).mp hdeclaration
  have htype : ' ' ∉ definition.name.toList := not_mem_of_isName (hw.isName_name hd) (by decide)
  rcases (TypeDefinition.mem_declarations_iff (hs definition hd)).mp hdeclared with
    ⟨heading, -, rfl⟩ | ⟨member, hm, rfl⟩
  · exact htype
  · have hname := hw.names definition hd _ (TypeDefinition.name_mem_names_of_member hm)
    have hmember : ' ' ∉ member.name.toList := not_mem_of_isName hname (by decide)
    rw [Member.declaration, toList_memberPath]
    simp [htype, hmember]

theorem Declaration.toList_line (declaration : Declaration) :
    declaration.line.toList = [' ', ' ', '-', ' '] ++ (declaration.path.toList
      ++ ' ' :: ([':', ' '] ++ declaration.signature.toList)) := by
  simp [Declaration.line, String.toList_append]

theorem isDeclarationLine_line (declaration : Declaration) :
    isDeclarationLine declaration.line = true := by
  rw [isDeclarationLine, declaration.toList_line]
  rfl

theorem line_ne {declaration : Declaration} {other : String}
    (h : isDeclarationLine other = false) : declaration.line ≠ other := by
  rintro rfl
  rw [isDeclarationLine_line] at h
  cases h

/-- A line holds the identity of its declaration, and nothing else of it. -/
theorem line_eq_of_identity_eq {first second : Declaration}
    (h : first.identity = second.identity) : first.line = second.line := by
  obtain ⟨hpath, hsignature⟩ := Prod.mk.inj h
  rw [Declaration.line, Declaration.line, hpath, hsignature]

/-- A path without a blank ends at the first one, so the line gives back path and signature. -/
theorem identity_eq_of_line_eq {first second : Declaration} (hfirst : ' ' ∉ first.path.toList)
    (hsecond : ' ' ∉ second.path.toList) (h : first.line = second.line) :
    first.identity = second.identity := by
  have htexts := congrArg String.toList h
  rw [first.toList_line, second.toList_line, List.append_cancel_left_eq] at htexts
  obtain ⟨hpath, hrest⟩ := Text.cut_unique hfirst hsecond htexts
  rw [List.append_cancel_left_eq] at hrest
  exact Prod.ext (String.toList_injective hpath) (String.toList_injective hrest)

theorem map_line_eq_iff {declarations others : List Declaration}
    (h : HavePlainPaths declarations) (h' : HavePlainPaths others) :
    declarations.map Declaration.line = others.map Declaration.line
      ↔ declarations.map Declaration.identity = others.map Declaration.identity := by
  induction declarations generalizing others with
  | nil => simp
  | cons first rest ih =>
    cases others with
    | nil => simp
    | cons second rest' =>
      obtain ⟨hfirst, hrest⟩ := List.forall_mem_cons.mp h
      obtain ⟨hsecond, hrest'⟩ := List.forall_mem_cons.mp h'
      have hline : first.line = second.line ↔ first.identity = second.identity :=
        ⟨identity_eq_of_line_eq hfirst hsecond, line_eq_of_identity_eq⟩
      simp only [List.map_cons, List.cons.injEq, hline, ih hrest hrest']

/-! ## §2 Sections -/

/-- The lines below a title, to the next blank line. -/
def linesBelow (title : String) (lines : List String) : List String :=
  ((lines.dropWhile (· != title)).drop 1).takeWhile (· != "")

theorem linesBelow_append {title : String} {front : List String} (h : title ∉ front)
    (rest : List String) : linesBelow title (front ++ rest) = linesBelow title rest := by
  have hfront : ∀ line ∈ front, (line != title) = true := by
    intro line hline
    rw [bne_iff_ne]
    rintro rfl
    exact h hline
  rw [linesBelow, List.dropWhile_append_of_pos hfront]
  rfl

theorem linesBelow_of_not_mem {title : String} {lines : List String} (h : title ∉ lines) :
    linesBelow title lines = [] := by
  have hnil := linesBelow_append h []
  rw [List.append_nil] at hnil
  exact hnil

/-- A title is not taken for the line of a declaration, nor for a blank line. -/
structure IsTitle (title : String) : Prop where
  some : title ≠ ""
  plain : isDeclarationLine title = false

theorem isTitle_removals : IsTitle "Removals:" := ⟨by decide, by decide⟩

theorem isTitle_additions : IsTitle "Additions:" := ⟨by decide, by decide⟩

theorem isDeclarationLine_reason (reason : Reason) : isDeclarationLine reason.text = false := by
  cases reason <;> decide

variable {title other : String} {declarations : List Declaration}

theorem IsTitle.not_mem_reportSection (h : IsTitle title) (hne : title ≠ other) :
    title ∉ reportSection other declarations := by
  intro hmem
  unfold reportSection at hmem
  split at hmem
  · cases hmem
  · simp only [List.mem_cons, List.mem_map] at hmem
    rcases hmem with hblank | htitle | ⟨declaration, -, hline⟩
    · exact h.some hblank
    · exact hne htitle
    · exact line_ne h.plain hline

/-- The section below a title lists its declarations, and the next section begins with a blank
line. -/
theorem linesBelow_reportSection (h : IsTitle title) (hne : title ≠ other)
    (others : List Declaration) :
    linesBelow title (reportSection title declarations ++ reportSection other others)
      = declarations.map Declaration.line := by
  have hother : title ∉ reportSection other others := h.not_mem_reportSection hne
  cases declarations with
  | nil => exact linesBelow_of_not_mem hother
  | cons first rest =>
    have hlines : ∀ line ∈ (first :: rest).map Declaration.line, (line != "") = true := by
      intro line hline
      obtain ⟨declaration, -, rfl⟩ := List.mem_map.mp hline
      rw [bne_iff_ne]
      exact line_ne (by decide)
    have hend : (reportSection other others).takeWhile (· != "") = [] := by
      unfold reportSection
      split <;> rfl
    have hblank : title ∉ [""] := by simpa using h.some
    have hcons : reportSection title (first :: rest)
        = [""] ++ title :: (first :: rest).map Declaration.line := rfl
    rw [hcons, List.append_assoc, linesBelow_append hblank, linesBelow, List.cons_append,
      List.dropWhile_cons_of_neg (by simp), List.drop_one, List.tail_cons,
      List.takeWhile_append_of_pos hlines, hend, List.append_nil]

theorem filter_reportSection (h : IsTitle title) :
    (reportSection title declarations).filter isDeclarationLine
      = declarations.map Declaration.line := by
  have hlines : (declarations.map Declaration.line).filter isDeclarationLine
      = declarations.map Declaration.line := by
    rw [List.filter_eq_self]
    intro line hline
    obtain ⟨declaration, -, rfl⟩ := List.mem_map.mp hline
    exact isDeclarationLine_line declaration
  have hblank : isDeclarationLine "" = false := rfl
  cases declarations with
  | nil => rfl
  | cons first rest =>
    have hcons : reportSection title (first :: rest)
        = "" :: title :: (first :: rest).map Declaration.line := rfl
    rw [hcons, List.filter_cons_of_neg (by simp [hblank]),
      List.filter_cons_of_neg (by simp [h.plain]), hlines]

/-! ## §3 Reports on changes -/

namespace Outcome

/-- The lines report on the change, each declaration once, in order, and below its own title. -/
structure IsListedBy (outcome : Outcome) (lines : List String) : Prop where
  empty : lines = [] ↔ outcome.bump = .patch
  reason : outcome.bump ≠ .patch → lines.head? = some outcome.reason.text
  removed : linesBelow "Removals:" lines = outcome.removed.map Declaration.line
  added : linesBelow "Additions:" lines = outcome.added.map Declaration.line
  once : lines.filter isDeclarationLine
    = outcome.removed.map Declaration.line ++ outcome.added.map Declaration.line

/-- The paths of all declarations that are reported are without blanks. -/
def HasPlainPaths (outcome : Outcome) : Prop :=
  HavePlainPaths outcome.removed ∧ HavePlainPaths outcome.added

/-- The changes have the same reason, and the same declarations were removed and added. -/
structure SaysSame (outcome outcome' : Outcome) : Prop where
  reason : outcome.reason = outcome'.reason
  removed : outcome.removed.map Declaration.identity = outcome'.removed.map Declaration.identity
  added : outcome.added.map Declaration.identity = outcome'.added.map Declaration.identity

end Outcome

/-- A change that is no patch is reported with its reason and two sections. -/
theorem Outcome.report_of_ne_patch {outcome : Outcome} (h : outcome.bump ≠ .patch) :
    outcome.report true = [outcome.reason.text]
      ++ (reportSection "Removals:" outcome.removed
        ++ reportSection "Additions:" outcome.added) := by
  rw [Outcome.report, if_neg h]
  rfl

/-- A section shows the lines of its declarations, and no more of them. -/
theorem reportSection_congr {declarations' : List Declaration}
    (h : declarations.map Declaration.line = declarations'.map Declaration.line) :
    reportSection title declarations = reportSection title declarations' := by
  have hempty : declarations.isEmpty = declarations'.isEmpty := by
    have hmaps := congrArg List.isEmpty h
    simpa using hmaps
  rw [reportSection, reportSection, hempty, h]

theorem isListedBy_report (before after : List Declaration) :
    (compareDeclarations before after).IsListedBy
      ((compareDeclarations before after).report true) := by
  by_cases hbump : (compareDeclarations before after).bump = .patch
  · obtain ⟨hremoved, hadded⟩ := (bump_eq_patch_iff before after).mp hbump
    have hreport : (compareDeclarations before after).report true = [] := if_pos hbump
    rw [hreport]
    refine ⟨by simp [hbump], fun h => absurd hbump h, ?_, ?_, ?_⟩
    all_goals simp [linesBelow, removed_compareDeclarations, added_compareDeclarations, hremoved,
      hadded]
  · rw [Outcome.report_of_ne_patch hbump]
    generalize compareDeclarations before after = outcome at hbump ⊢
    have hreason := isDeclarationLine_reason outcome.reason
    have hremovals : "Removals:" ∉ [outcome.reason.text] := by
      cases outcome.reason <;> decide
    have hadditions : "Additions:" ∉ [outcome.reason.text]
        ++ reportSection "Removals:" outcome.removed := by
      rw [List.mem_append, not_or]
      refine ⟨?_, isTitle_additions.not_mem_reportSection (by decide)⟩
      cases outcome.reason <;> decide
    refine ⟨by simp [hbump], fun _ => rfl, ?_, ?_, ?_⟩
    · rw [linesBelow_append hremovals]
      exact linesBelow_reportSection isTitle_removals (by decide) outcome.added
    · rw [← List.append_assoc, linesBelow_append hadditions]
      rw [← List.append_nil (reportSection "Additions:" outcome.added)]
      exact @linesBelow_reportSection "Additions:" "" outcome.added isTitle_additions (by decide) []
    · rw [List.filter_append, List.filter_append, filter_reportSection isTitle_removals,
        filter_reportSection isTitle_additions]
      simp [hreason]

theorem Reason.text_injective {reason reason' : Reason} (h : reason.text = reason'.text) :
    reason = reason' := by
  cases reason <;> cases reason' <;> first | rfl | exact absurd h (by decide)

theorem Reason.eq_unchanged {reason : Reason} (h : reason.bump = .patch) : reason = .unchanged := by
  cases reason with
  | unchanged => rfl
  | _ => cases h

theorem hasPlainPaths_compareDeclarations {before after : List Declaration}
    (hbefore : HavePlainPaths before) (hafter : HavePlainPaths after) :
    (compareDeclarations before after).HasPlainPaths := by
  rw [Outcome.HasPlainPaths, removed_compareDeclarations, added_compareDeclarations]
  exact ⟨fun declaration hmem => hbefore declaration (mem_of_mem_unmatched hmem),
    fun declaration hmem => hafter declaration (mem_of_mem_unmatched hmem)⟩

/-- Changes are reported alike exactly if the reports say the same. -/
theorem report_eq_iff {before after before' after' : List Declaration}
    (h : (compareDeclarations before after).HasPlainPaths)
    (h' : (compareDeclarations before' after').HasPlainPaths) :
    (compareDeclarations before after).report true
        = (compareDeclarations before' after').report true
      ↔ (compareDeclarations before after).SaysSame (compareDeclarations before' after') := by
  have hlisted := isListedBy_report before after
  have hlisted' := isListedBy_report before' after'
  have hbump := bump_compareDeclarations before after
  have hbump' := bump_compareDeclarations before' after'
  have hremoved := map_line_eq_iff h.1 h'.1
  have hadded := map_line_eq_iff h.2 h'.2
  generalize compareDeclarations before after = outcome at *
  generalize compareDeclarations before' after' = outcome' at *
  constructor
  · intro h
    rw [← h] at hlisted'
    refine ⟨?_, ?_, ?_⟩
    · by_cases hpatch : outcome.bump = .patch
      · have hpatch' := hlisted'.empty.mp (hlisted.empty.mpr hpatch)
        rw [Reason.eq_unchanged (hbump.symm.trans hpatch),
          Reason.eq_unchanged (hbump'.symm.trans hpatch')]
      · have hpatch' : outcome'.bump ≠ .patch := fun hpatch' =>
          hpatch (hlisted.empty.mp (hlisted'.empty.mpr hpatch'))
        have hhead := (hlisted.reason hpatch).symm.trans (hlisted'.reason hpatch')
        exact Reason.text_injective (Option.some.inj hhead)
    · exact hremoved.mp (hlisted.removed.symm.trans hlisted'.removed)
    · exact hadded.mp (hlisted.added.symm.trans hlisted'.added)
  · intro h
    have hsame : outcome.bump = outcome'.bump := by rw [hbump, hbump', h.reason]
    rw [Outcome.report, Outcome.report, hsame, h.reason,
      reportSection_congr (hremoved.mpr h.removed), reportSection_congr (hadded.mpr h.added)]

/-! ## §4 Reports on completed checks -/

namespace SemVer

/-- No number holds a dot, so the text of a version gives back its components. -/
theorem text_injective {version version' : SemVer} (h : version.text = version'.text) :
    version = version' := by
  have hdot (n : Int) : '.' ∉ (toString n).toList := by
    intro hmem
    rcases Text.mem_toString_int hmem with hc | hc <;> cases hc
  have htext (version : SemVer) : version.text.toList = (toString version.major).toList
      ++ '.' :: ((toString version.minor).toList ++ '.' :: (toString version.patch).toList) := by
    simp [text, String.toList_append]
  have htexts := congrArg String.toList h
  rw [htext, htext] at htexts
  obtain ⟨hmajor, hrest⟩ := Text.cut_unique (hdot _) (hdot _) htexts
  obtain ⟨hminor, hpatch⟩ := Text.cut_unique (hdot _) (hdot _) hrest
  cases version
  cases version'
  simp only [mk.injEq]
  exact ⟨Text.toString_int_injective (String.toList_injective hmajor),
    Text.toString_int_injective (String.toList_injective hminor),
    Text.toString_int_injective (String.toList_injective hpatch)⟩

end SemVer

namespace Verdict

/-- The part of the report in front of the verdict. -/
def explanation (verdict : Verdict) (listsDeclarations : Bool) : List String :=
  match verdict.change with
  | some outcome => outcome.report listsDeclarations
  | none => []

theorem report_eq_append (verdict : Verdict) (request : CheckRequest) (listsDeclarations : Bool) :
    verdict.report request listsDeclarations
      = verdict.explanation listsDeclarations ++ ["", verdict.line request] := rfl

/-- The last line tells a match from a mismatch, and one expected version from another. -/
theorem line_inj {verdict verdict' : Verdict} {request : CheckRequest}
    (h : verdict.line request = verdict'.line request) :
    verdict.isMatch = verdict'.isMatch
      ∧ (verdict.isMatch = false → verdict.expectedVersion = verdict'.expectedVersion) := by
  have hquote (text : String) : "Nothing to do here." ≠ "\"" ++ text := by
    intro heq
    have hlists := congrArg String.toList heq
    rw [String.toList_append] at hlists
    cases hlists
  unfold line at h
  cases hmatch : verdict.isMatch with
  | true =>
    cases hmatch' : verdict'.isMatch with
    | true => simp
    | false =>
      simp only [hmatch, hmatch', if_true, Bool.false_eq_true, if_false, String.append_assoc] at h
      exact absurd h (hquote _)
  | false =>
    cases hmatch' : verdict'.isMatch with
    | true =>
      simp only [hmatch, hmatch', if_true, Bool.false_eq_true, if_false, String.append_assoc] at h
      exact absurd h.symm (hquote _)
    | false =>
      simp only [hmatch, hmatch', Bool.false_eq_true, if_false, String.append_right_inj] at h
      exact ⟨rfl, fun _ => SemVer.text_injective h⟩

end Verdict

theorem ExitStatus.code_eq_one_iff (status : ExitStatus) :
    status.code = 1 ↔ status = .versionsDiffer := by
  cases status <;> simp [code]

/-- A completed check ends in a match or in a mismatch. -/
theorem status_of_completed {request : CheckRequest} {probe : Probe} {reader : Reader}
    {verdict : Verdict} (h : (request.check probe reader).result = .ok verdict) :
    verdict.status = if verdict.isMatch then .versionsMatch else .versionsDiffer := by
  obtain ⟨-, base, head, -, -, hon⟩ := completed h
  have hcode := hon.code
  split at hcode
  · rw [ExitStatus.code_eq_zero_iff] at hcode
    simp [Verdict.isMatch, hcode]
  · rw [ExitStatus.code_eq_one_iff] at hcode
    simp [Verdict.isMatch, hcode]

/-- The changes of two completed checks say the same if their explanations are equal. -/
theorem saysSame_of_explanation {request : CheckRequest} {probe probe' : Probe}
    {reader reader' : Reader} {verdict verdict' : Verdict}
    (h : (request.check probe reader).result = .ok verdict)
    (h' : (request.check probe' reader').result = .ok verdict')
    (hsame : verdict.explanation true = verdict'.explanation true) {outcome outcome' : Outcome}
    (hchange : verdict.change = some outcome) (hchange' : verdict'.change = some outcome')
    (hplain : outcome.HasPlainPaths) (hplain' : outcome'.HasPlainPaths) :
    outcome.SaysSame outcome' := by
  obtain ⟨-, base, head, -, -, hon⟩ := completed h
  obtain ⟨-, base', head', -, -, hon'⟩ := completed h'
  obtain ⟨before, after, -, -, -, -, rfl⟩ := hon.change outcome hchange
  obtain ⟨before', after', -, -, -, -, rfl⟩ := hon'.change outcome' hchange'
  rw [Verdict.explanation, Verdict.explanation, hchange, hchange'] at hsame
  exact (report_eq_iff hplain hplain').mp hsame

/-- **A report loses nothing.** A comparison of declarations is reported so that each removed and
added declaration is listed once, in order, and below its own title; nothing is reported exactly of
a patch; and where no path has a blank, equal reports have equal reasons, removals and additions.
Two completed checks of one request with equal reports end with the same status and expect the same
version if it is a mismatch; if declarations are listed, two changes say the same. -/
theorem report_loses_nothing :
    (∀ before after before' after' : List Declaration, HavePlainPaths before →
        HavePlainPaths after → HavePlainPaths before' → HavePlainPaths after' →
        ((compareDeclarations before after).report true
            = (compareDeclarations before' after').report true
          ↔ (compareDeclarations before after).SaysSame (compareDeclarations before' after')))
      ∧ (∀ before after : List Declaration, (compareDeclarations before after).IsListedBy
        ((compareDeclarations before after).report true))
      ∧ ∀ (request : CheckRequest) (probe probe' : Probe) (reader reader' : Reader)
        (verdict verdict' : Verdict) (lists lists' : Bool),
        (request.check probe reader).result = .ok verdict →
        (request.check probe' reader').result = .ok verdict' →
        verdict.report request lists = verdict'.report request lists' →
          verdict.status = verdict'.status
            ∧ (verdict.status = .versionsDiffer →
              verdict.expectedVersion = verdict'.expectedVersion)
            ∧ (lists = true → lists' = true → ∀ outcome outcome', verdict.change = some outcome →
              verdict'.change = some outcome' → outcome.HasPlainPaths → outcome'.HasPlainPaths →
                outcome.SaysSame outcome') := by
  refine ⟨?_, isListedBy_report, ?_⟩
  · intro before after before' after' hbefore hafter hbefore' hafter'
    exact report_eq_iff (hasPlainPaths_compareDeclarations hbefore hafter)
      (hasPlainPaths_compareDeclarations hbefore' hafter')
  · intro request probe probe' reader reader' verdict verdict' lists lists' h h' hreport
    rw [verdict.report_eq_append, verdict'.report_eq_append] at hreport
    obtain ⟨hexplanation, hlines⟩ := List.append_inj' hreport rfl
    have hline : verdict.line request = verdict'.line request := by simpa using hlines
    obtain ⟨hmatch, hexpected⟩ := Verdict.line_inj hline
    have hstatus := status_of_completed h
    refine ⟨?_, ?_, ?_⟩
    · rw [hstatus, status_of_completed h', hmatch]
    · intro hdiffer
      rw [hstatus] at hdiffer
      refine hexpected ?_
      cases hcase : verdict.isMatch with
      | false => rfl
      | true =>
        rw [hcase] at hdiffer
        cases hdiffer
    · rintro rfl rfl outcome outcome' hchange hchange' hplain hplain'
      exact saysSame_of_explanation h h' hexplanation hchange hchange' hplain hplain'

/-- A store in which the schema stays as it is, at version 1.0.0 before and with a marker after. -/
def settledSchema (marker : String) : Reader := fun ref path =>
  if path = "schema.graphql" then .found ref path "scalar Date"
  else if ref = "main" then .found ref path "\x7b\"major\":1,\"minor\":0,\"patch\":0\x7d"
  else .found ref path marker

/-- Two heads that were released without need are reported alike, and so are two changes with one
addition in common. -/
theorem needless_releases_reported_alike :
    let minor := settledSchema "\x7b\"major\":1,\"minor\":1,\"patch\":0\x7d"
    let patch := settledSchema "\x7b\"major\":1,\"minor\":0,\"patch\":1\x7d"
    let field : Declaration := ⟨"Query.b", "Int", "@"⟩
    let object : Declaration := ⟨"Query", "OBJECT:", "@"⟩
    let scalar : Declaration := ⟨"Date", "SCALAR", "@"⟩
    (∃ verdict verdict', (featureCheck.check (.ok .available) minor).result = .ok verdict
        ∧ (featureCheck.check (.ok .available) patch).result = .ok verdict'
        ∧ verdict.report featureCheck true = verdict'.report featureCheck true
        ∧ verdict.status = verdict'.status
        ∧ verdict.expectedVersion = verdict'.expectedVersion)
      ∧ HavePlainPaths [object, scalar, field]
      ∧ (compareDeclarations [object] [object, field]).SaysSame
        (compareDeclarations [scalar] [field, scalar]) := by
  intro minor patch field object scalar
  have hcompleted {reader : Reader} {shown : List String × ExitStatus}
      (h : (featureCheck.check (.ok .available) reader).result.toOption.map
        (fun verdict => (verdict.report featureCheck true, verdict.status)) = some shown) :
      ∃ verdict, (featureCheck.check (.ok .available) reader).result = .ok verdict
        ∧ verdict.report featureCheck true = shown.1 ∧ verdict.status = shown.2 := by
    cases hresult : (featureCheck.check (.ok .available) reader).result with
    | error failure =>
      rw [hresult] at h
      cases h
    | ok verdict =>
      rw [hresult] at h
      cases h
      exact ⟨verdict, rfl, rfl, rfl⟩
  let lines := ["", "\"feature\" version mismatch. Expected: 1.0.0"]
  obtain ⟨verdict, hverdict, hlines, hstatus⟩ := @hcompleted minor (lines, .versionsDiffer)
    (by decide +kernel)
  obtain ⟨verdict', hverdict', hlines', -⟩ := @hcompleted patch (lines, .versionsDiffer)
    (by decide +kernel)
  obtain ⟨hreports, -, hruns⟩ := report_loses_nothing
  have hreport := hlines.trans hlines'.symm
  obtain ⟨hsame, hexpected, -⟩ :=
    hruns featureCheck _ _ _ _ verdict verdict' true true hverdict hverdict' hreport
  refine ⟨⟨verdict, verdict', hverdict, hverdict', hreport, hsame, hexpected hstatus⟩, by decide,
    ?_⟩
  exact (hreports [object] [object, field] [scalar] [field, scalar] (by decide) (by decide)
    (by decide) (by decide)).mp (by decide)

end SchemaSemver
