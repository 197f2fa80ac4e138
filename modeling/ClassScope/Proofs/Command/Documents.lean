import ClassScope.Proofs.Audit.Report
import ClassScope.Proofs.Build.ModuleOrder
import ClassScope.Proofs.Command.AuditRun
import ClassScope.Proofs.Command.Failure
import ClassScope.Proofs.Command.Frame
import ClassScope.Proofs.Command.Refinement
import ClassScope.Proofs.Json.RoundTrip

/-!
# Documents that commands write

A build writes its class map, and an audit writes its report. Both are read back as what they were
written for: the names in order with their full names, and the findings by file with their numbers.
Main statements:

- `Audit.Report.readable`, `readable_classMap`: neither has anything that is not read back;
- `Audit.Report.eq_of_json_eq`: reports are told from their documents;
- `Holds`, `holds_of_write`: what is in a file that such a document was written to;
- `Setup.exists_write_classMap`: a build that puts something in the place of its class map writes it
  there;
- `documents_read_back`: the documents of all builds and audits.
-/

namespace ClassScope

/-! ## Values that are read back -/

theorem Setting.IsArgument.readable {setting : Setting} (h : setting.IsArgument) (room : Nat) :
    Json.Readable (room + 1) setting.json := by
  rcases h with rfl | ⟨s, rfl⟩
  · exact .array (by simp)
  · exact .text s

namespace Audit

theorem MarkupFinding.readable (finding : MarkupFinding) (room : Nat) :
    Json.Readable (room + 1) finding.json := by
  refine .object ?_ ?_
  · simp [Text.of_inj]
  · simp [Json.Readable.text]

theorem ScriptFinding.readable (finding : ScriptFinding) (room : Nat) :
    Json.Readable (room + 1) finding.json := by
  refine .object ?_ ?_
  · simp [Text.of_inj]
  · simp [Json.Readable.text]

/-- Findings by file are read back if no file is listed twice. -/
theorem readable_byFile {α : Type} {json : α → Json} {files : List (Text × List α)} {room : Nat}
    (hfiles : (files.map Prod.fst).Nodup) (h : ∀ a, Json.Readable room (json a)) :
    Json.Readable (room + 2) (byFile json files) := by
  refine .object ?_ fun member hmember => ?_
  · rwa [List.map_map]
  · obtain ⟨⟨name, found⟩, -, rfl⟩ := List.mem_map.1 hmember
    refine .array fun v hv => ?_
    obtain ⟨a, -, rfl⟩ := List.mem_map.1 hv
    exact h a

/-- The numbers in a report do not have more digits than a number may have that is read. -/
structure Report.Countable (report : Report) : Prop where
  /-- The number of class names. -/
  unscoped : report.unscopedCount < 10 ^ digitLimit
  /-- The number of findings in scripts. -/
  script : report.scriptCount < 10 ^ digitLimit

theorem readable_count {n room : Nat} (h : n < 10 ^ digitLimit) : Json.Readable room (.int n) :=
  .int ((Nat.length_toDigits_le_iff (by decide) (by decide)).2 h)

/-- A report is read back if no file is listed twice. -/
theorem Report.readable {report : Report} (hscope : report.scope.IsArgument)
    (hmarkup : (report.markup.map Prod.fst).Nodup)
    (hscripts : (report.scripts.map Prod.fst).Nodup) (hcount : report.Countable) (room : Nat) :
    Json.Readable (room + 4) report.json := by
  refine .object ?_ ?_
  · simp [Text.of_inj]
  · simp only [List.forall_mem_cons]
    refine ⟨hscope.readable _, ?_, ?_, ?_, ?_, nofun⟩
    · exact readable_byFile hmarkup fun finding => finding.readable room
    · exact readable_byFile hscripts fun finding => finding.readable room
    · exact readable_count hcount.unscoped
    · exact readable_count hcount.script

end Audit

/-! ## Values that tell reports apart -/

theorem Json.ofText_injective : Function.Injective Json.ofText := fun _ _ h =>
  WideText.ofText_inj.1 (Json.string.inj h)

theorem Json.ofMembers_injective : Function.Injective Json.ofMembers := by
  have hmember : Function.Injective fun member : Text × Json =>
      (WideText.ofText member.1, member.2) := by
    rintro ⟨name, value⟩ ⟨name', value'⟩ h
    simpa only [Prod.mk.injEq, WideText.ofText_inj] using h
  exact fun _ _ h => hmember.list_map (Json.object.inj h)

theorem Setting.IsArgument.eq_of_json_eq {setting other : Setting} (h : setting.IsArgument)
    (hother : other.IsArgument) (hjson : setting.json = other.json) : setting = other := by
  obtain rfl | ⟨s, rfl⟩ := h <;> obtain rfl | ⟨t, rfl⟩ := hother
  · rfl
  · cases hjson
  · cases hjson
  · rw [Json.ofText_injective hjson]

namespace Audit

theorem Issue.word_injective : Function.Injective Issue.word := by
  intro issue other
  cases issue <;> cases other <;> simp [Issue.word]

theorem MarkupFinding.json_injective : Function.Injective MarkupFinding.json := by
  rintro ⟨path, name⟩ ⟨path', name'⟩ h
  simpa [Json.ofText_injective.eq_iff] using Json.ofMembers_injective h

theorem ScriptFinding.json_injective : Function.Injective ScriptFinding.json := by
  rintro ⟨issue, snippet⟩ ⟨issue', snippet'⟩ h
  simpa [Json.ofText_injective.eq_iff, String.toList_inj, Issue.word_injective.eq_iff] using
    Json.ofMembers_injective h

/-- Findings by file are told from their value if each finding is. -/
theorem byFile_injective {α : Type} {json : α → Json} (h : Function.Injective json) :
    Function.Injective (byFile json) := by
  have hfile : Function.Injective fun file : Text × List α =>
      (file.1, Json.array (file.2.map json)) := by
    rintro ⟨name, found⟩ ⟨name', found'⟩ heq
    obtain ⟨hname, hfound⟩ := Prod.mk.inj heq
    exact Prod.ext hname (h.list_map (Json.array.inj hfound))
  exact fun _ _ hfiles => hfile.list_map (Json.ofMembers_injective hfiles)

/-- Different reports have different values. -/
theorem Report.eq_of_json_eq {report other : Report} (hscope : report.scope.IsArgument)
    (hother : other.scope.IsArgument) (h : report.json = other.json) : report = other := by
  obtain ⟨scope, markup, scripts⟩ := report
  obtain ⟨scope', markup', scripts'⟩ := other
  have hmembers := Json.ofMembers_injective h
  simp only [List.cons.injEq, Prod.mk.injEq, true_and, and_true] at hmembers
  obtain ⟨hvalue, hmarkup, hscripts, -⟩ := hmembers
  obtain rfl : scope = scope' := hscope.eq_of_json_eq hother hvalue
  rw [byFile_injective MarkupFinding.json_injective hmarkup,
    byFile_injective ScriptFinding.json_injective hscripts]

end Audit

namespace Command

/-- The class map of a registry: the names in order, each with its full name. -/
def classMapOf (registry : Registry) : List (Text × Text) := Text.sortBy Prod.fst registry.entries

/-- A class map as a value. -/
def classMapJson (members : List (Text × Text)) : Json :=
  .ofMembers (members.map fun (name, full) => (name, .ofText full))

theorem perm_classMapOf (registry : Registry) : (classMapOf registry).Perm registry.entries :=
  Text.sortBy_perm Prod.fst registry.entries

theorem nodup_classMapOf {registry : Registry} (h : registry.Valid) :
    ((classMapOf registry).map Prod.fst).Nodup :=
  ((perm_classMapOf registry).map Prod.fst).nodup_iff.2 h.nodup

/-- Each name comes before the later ones. -/
theorem pairwise_classMapOf {registry : Registry} (h : registry.Valid) :
    (classMapOf registry).Pairwise fun entry entry' =>
      Text.precedes entry.1 entry'.1 = true :=
  Text.strict_precedes.pairwise_of_ne (Text.pairwise_sortBy _ _)
    (List.pairwise_map.1 (nodup_classMapOf h))

theorem readable_classMap {registry : Registry} (h : registry.Valid) (room : Nat) :
    Json.Readable (room + 1) (classMapJson (classMapOf registry)) := by
  refine .object ?_ fun member hmember => ?_
  · rw [List.map_map]
    exact nodup_classMapOf h
  · obtain ⟨⟨name, full⟩, -, rfl⟩ := List.mem_map.1 hmember
    exact .text full

/-! ## Files with documents -/

variable {tree tree' : FileTree} {path : Path} {location : Location} {value : Json}

/-- The text of the file at the end of a path is the document of a value. -/
def Holds (tree : FileTree) (path : Path) (value : Json) : Prop :=
  (readDocument tree path).answer tree = .ok (.ok value)

/-- A document that was written inside is the one that is read. -/
theorem holds_of_write (hvalue : Json.Readable Json.depthLimit value)
    (hwrite : tree.write path (Utf8.encode (Json.print value)) = .ok tree')
    (hplace : tree.locate path = .ok (.inside location)) : Holds tree' path value := by
  obtain ⟨place, hplace', -, hstores⟩ := FileTree.stores_of_write hwrite
  cases Except.ok.inj (hplace.symm.trans hplace')
  have hread : tree'.read path = .ok (Utf8.encode (Json.print value)) := by
    refine FileTree.read_of_at? ?_
    rw [FileTree.at?_of_locate ((FileTree.locate_congr hstores.directories).2 hplace),
      FileTree.standing?, hstores.get?, if_pos rfl]
    rfl
  -- No carriage return is in the document, so its line ends are those that are read.
  have hlines := Text.unifyLineEnds_eq_self hvalue.not_mem_print
  rw [Holds, readDocument, hread]
  simp only [Utf8.decode_eq_ok_iff.2 rfl, hlines, hvalue.read_print]
  rfl

/-! ## Builds that write a class map -/

/-- Where nothing stands and no spare copy is put, changes of files put nothing. -/
theorem get?_rewriteAll_of_free {changes : List Change} {backup : Bool}
    (hfiles : ∀ change ∈ changes, ∃ place bytes, tree.locate change.path = .ok place ∧
      tree.standing? place = some (.file bytes))
    (hfree : tree.get? location = none) (hspare : ¬ location.IsSpare) :
    (rewriteAll backup changes tree).get? location = none := by
  induction changes generalizing tree with
  | nil => exact hfree
  | cons change changes ih =>
    obtain ⟨place, bytes, hplace, hfile⟩ := hfiles change List.mem_cons_self
    have hdirectories := Change.sameDirectories_apply backup hplace hfile
    refine ih (fun other hother => ?_) ?_
    · -- The other files stay files.
      obtain ⟨place', old, hplace', hfile'⟩ := hfiles other (List.mem_cons_of_mem _ hother)
      have hkept : ∃ bytes', (change.apply backup tree).standing? place' =
          some (.file bytes') := by
        by_cases hinside : place'.isInside
        · obtain ⟨location', rfl⟩ := Place.exists_of_isInside hinside
          exact Change.exists_file_apply hplace hfile location' old hfile'
        · exact ⟨old, (FileTree.standing?_outside hinside _ _).trans hfile'⟩
      obtain ⟨bytes', hkept⟩ := hkept
      exact ⟨place', bytes', (FileTree.locate_congr hdirectories).2 hplace', hkept⟩
    · rw [Change.get?_apply hplace hfile, if_neg, if_neg, hfree]
      · rintro ⟨-, hcopy, -⟩
        obtain ⟨front, rfl⟩ := FileTree.name_of_locate_spare hplace hfile hcopy
        exact hspare (by simp [Location.IsSpare])
      · rintro rfl
        rw [FileTree.standing?, hfree] at hfile
        cases hfile

namespace Setup

variable {setup : Setup} {argv : List Text} {environment : Environment}

/-- A build that puts something in the place of its class map ends well, and has written the class
map there. -/
theorem exists_write_classMap {outcome : Except Stop Session × Workspace}
    (hreaches : setup.Reaches argv environment tree) (hends : setup.Ends tree outcome)
    (hplace : tree.locate setup.classMap = .ok (.inside location))
    (hdiffers : outcome.2.tree.get? location ≠ tree.get? location) :
    ∃ session final, outcome.1 = .ok session ∧ session.registry.Valid ∧
      tree.SameDirectories final ∧
      final.write setup.classMap (Utf8.encode (classMapText session.registry)) =
        .ok outcome.2.tree := by
  have hlive : setup.live = true := by
    by_contra hlive
    -- Otherwise there is nothing to write.
    have hquiet : setup.Quiet tree := by
      rw [live_iff, not_and_or, Bool.not_eq_false] at hlive
      exact hlive.elim quiet_of_disabled quiet_of_dryRun
    exact hdiffers (by rw [hquiet.tree_of_ends hends])
  have hfree := FileTree.get?_eq_none_of_has (hreaches.unmarked (live_iff.1 hlive).1) hplace
  obtain ⟨result, space⟩ := outcome
  cases result with
  | error stop =>
    -- What a build that fails has written are files that were there, and spare copies.
    have hspare : ¬ location.IsSpare := by
      obtain ⟨directory, hchild, -⟩ := locate_classMap hplace
      obtain ⟨front, -, rfl⟩ := Place.child_eq_inside_iff.1 hchild.symm
      simpa [Location.IsSpare] using not_spareEnding_classMapName
    have hkept : space.tree.get? location = none := by
      rw [tree_of_ends_error hends]
      refine get?_rewriteAll_of_free (fun change hchange => ?_) hfree hspare
      exact exists_file_of_mem_rewritings hreaches hchange
    exact absurd (hkept.trans hfree.symm) hdiffers
  | ok session =>
    cases hends with
    | done hmodules hread hdocument hmap printed =>
      have hfinal := hmodules.sameDirectories.trans hdocument.sameDirectories
      rw [ClassMapWritten, if_pos hlive] at hmap
      exact ⟨_, _, rfl, Build.valid_finalSession _ _ _ _, hfinal, hmap⟩

/-- The class map of a build that puts something in its place is read back. -/
theorem exists_holds_classMap {outcome : Except Stop Session × Workspace}
    (hreaches : setup.Reaches argv environment tree) (hends : setup.Ends tree outcome)
    (hplace : tree.locate setup.classMap = .ok (.inside location))
    (hdiffers : outcome.2.tree.get? location ≠ tree.get? location) :
    ∃ session, outcome.1 = .ok session ∧ session.registry.Valid ∧
      Holds outcome.2.tree setup.classMap (classMapJson (classMapOf session.registry)) := by
  obtain ⟨session, final, hsession, hvalid, hdirectories, hwrite⟩ :=
    exists_write_classMap hreaches hends hplace hdiffers
  have hfinal : final.locate setup.classMap = .ok (.inside location) :=
    (FileTree.locate_congr hdirectories).2 hplace
  exact ⟨session, hsession, hvalid, holds_of_write (readable_classMap hvalid _) hwrite hfinal⟩

end Setup

/-! ## Audits that write a report -/

/-- The report that an audit delivers is read back. -/
theorem Inspection.Delivers.holds {inspection : Inspection} {report : Audit.Report}
    (h : inspection.Delivers tree report tree') (htree : tree.IsStorable)
    (hscope : inspection.scope.IsArgument) (hcount : report.Countable)
    (hplace : tree.locate inspection.out = .ok (.inside location)) :
    Holds tree' inspection.out report.json := by
  obtain ⟨hmarkup, hscripts⟩ := Audit.nodup_of_report htree h.reported
  have hscope' : report.scope.IsArgument := by rwa [Audit.scope_of_report h.reported]
  exact holds_of_write (Audit.Report.readable hscope' hmarkup hscripts hcount _) h.written hplace

/-! ## All builds and audits -/

/-- However a build is called, what it puts in the place of its class map is the document of the
names of its session, in order and each with its full name. However an audit is called, what it puts
in the tree as its report is the document of the findings in the files as they were. This document
has the scope, the findings by file and their numbers as its members, and no other report has the
same one. Only counts with more digits than are read of a number would not be read back. -/
theorem documents_read_back :
    (∀ (argv : List Text) (environment : Environment) (tree : FileTree) (printed : List Text)
      (root : Text) (location : Location),
      let run := (build argv environment).run ⟨tree, printed⟩
      let classMap := (Path.ofText root).join classMapName
      rootOf? argv = some root → tree.locate classMap = .ok (.inside location) →
      run.2.tree.get? location ≠ tree.get? location →
      ∃ session members, run.1 = .ok (some session) ∧
        members.Perm session.registry.entries ∧
        members.Pairwise (fun entry entry' => Text.precedes entry.1 entry'.1 = true) ∧
        Holds run.2.tree classMap (classMapJson members)) ∧
    ∀ (argv : List Text) (environment : Environment) (tree : FileTree) (printed : List Text)
      (inspection : Inspection) (location : Location),
      let run := (audit argv environment).run ⟨tree, printed⟩
      tree.IsStorable → inspectionFrom argv environment = .ok inspection →
      tree.locate inspection.out = .ok (.inside location) → run.1 = .ok () →
      ∃ report, Audit.report tree inspection.root inspection.scope = .ok report ∧
        (report.Countable → Holds run.2.tree inspection.out report.json) ∧
        report.json = .ofMembers
          [(Text.of "prefix", inspection.scope.json),
            (Text.of "markup", .ofMembers (report.markup.map fun (file, found) =>
              (file, .array (found.map fun finding => .ofMembers
                [(Text.of "path", .ofText finding.path),
                  (Text.of "class", .ofText finding.name)])))),
            (Text.of "scripts", .ofMembers (report.scripts.map fun (file, found) =>
              (file, .array (found.map fun finding => .ofMembers
                [(Text.of "kind", .ofText finding.issue.word.toList),
                  (Text.of "snippet", .ofText finding.snippet)])))),
            (Text.of "unprefixed_count",
              .int ((report.markup.map fun file => file.2.length).sum : Nat)),
            (Text.of "script_findings_count",
              .int ((report.scripts.map fun file => file.2.length).sum : Nat))] ∧
        ∀ other : Audit.Report, other.scope.IsArgument → other.json = report.json →
          other = report := by
  constructor
  · intro argv environment tree printed root location run classMap hroot hplace hdiffers
    by_cases hreaches : ∃ setup : Setup, setup.Reaches argv environment tree
    · obtain ⟨setup, hreaches⟩ := hreaches
      rw [rootOf?, argumentsOf?_of_reaches hreaches] at hroot
      obtain rfl : setup.arguments.root = root := by simpa using hroot
      obtain ⟨outcome, hends, hrun⟩ := ends_build hreaches printed
      have hrun : run = (outcome.1.map some, outcome.2) := hrun
      rw [hrun] at hdiffers ⊢
      obtain ⟨session, hsession, hvalid, hholds⟩ :=
        Setup.exists_holds_classMap hreaches hends hplace hdiffers
      refine ⟨session, classMapOf session.registry, ?_, perm_classMapOf _,
        pairwise_classMapOf hvalid, hholds⟩
      rw [hsession]
      rfl
    · have hidle := idle_build_of_not_reaches (not_exists.1 hreaches) printed
      exact absurd (by rw [hidle.tree]) hdiffers
  · intro argv environment tree printed inspection location run htree hinspection hplace hreturns
    have hends : inspection.Ends tree printed run := ends_audit hinspection tree printed
    generalize run = outcome at hends hreturns ⊢
    cases hends with
    | stopped h => cases hreturns
    | @done report tree' h =>
      have hargument := isArgument_scope hinspection
      have hscope : report.scope = inspection.scope := Audit.scope_of_report h.reported
      refine ⟨report, h.reported, fun hcount => h.holds htree hargument hcount hplace, ?_, ?_⟩
      · rw [Audit.Report.json, hscope, Audit.Report.unscopedCount, Audit.Report.scriptCount,
          List.length_flatMap, List.length_flatMap]
        rfl
      · intro other hother heq
        exact Audit.Report.eq_of_json_eq hother (hscope ▸ hargument) heq

/-- A site with a script that assigns a class name with a quote and a line separator. -/
def quoteSite : FileTree :=
  FileTree.empty.addFile (.ofText (Text.of "d/b.js"))
    (Utf8.encode (Text.of "x.className=\"\u2028\\"))

/-- The audit of that site. -/
def quoteInspection : Inspection where
  root := .ofText ['d']
  scope := .text (Text.of "dwp-")
  out := .ofText (Text.of "d/class_prefix_audit.json")

/-- The report on that site. -/
def quoteReport : Audit.Report where
  scope := .text (Text.of "dwp-")
  markup := []
  scripts := [(Text.of "b.js", [⟨.classNameAssignment, Text.of "x.className=\"\u2028\\"⟩])]

/-- The report is written. -/
theorem delivers_quoteReport :
    ∃ tree', quoteInspection.Delivers quoteSite quoteReport tree' := by
  have hout : quoteSite.locate quoteInspection.out =
      .ok (Place.child (.inside [['d']]) reportName) := by decide +kernel
  have hsearch : quoteSite.search quoteInspection.root = .ok [[Text.of "b.js"]] := by decide +kernel
  have hfree : quoteSite.get? ([['d']] ++ [reportName]) = none := by decide +kernel
  obtain ⟨tree', hwrite, -⟩ := FileTree.write_child hout (by decide +kernel) (by decide +kernel)
    (by rw [Place.child, FileTree.standing?, hfree]; exact (Option.some_ne_none _).symm)
    (Utf8.encode (Json.print quoteReport.json))
  have hreported : Audit.report quoteSite quoteInspection.root quoteInspection.scope =
      .ok quoteReport :=
    Audit.report_eq_ok_iff.2 ⟨_, hsearch, by decide +kernel, by decide +kernel, rfl⟩
  exact ⟨tree', by decide +kernel, hreported, hwrite⟩

/-- The build of the site with a stylesheet meets one name. -/
theorem entries_sheetSite :
    ((build sheetArguments []).run ⟨sheetSite, []⟩).1.toOption.join.map
      (fun session => session.registry.entries) = some [(['a'], Text.of "dwp-a")] := by
  rw [run_build_of_listed reaches_sheetSetup modulePaths_sheetSite]
  decide +kernel

/-- It writes a class map. -/
theorem isSome_classMap_sheetSite :
    (((build sheetArguments []).run ⟨sheetSite, []⟩).2.tree.get?
      [['d'], classMapName]).isSome = true := by
  rw [run_build_of_listed reaches_sheetSetup modulePaths_sheetSite]
  decide +kernel

/-- The class map of a site with a stylesheet, and the report on a site with a script. -/
theorem documents_read_back_sites :
    let built := (build sheetArguments []).run ⟨sheetSite, []⟩
    let audited := (audit [Text.of "--root", Text.of "d"] []).run ⟨quoteSite, []⟩
    Holds built.2.tree (.join (.ofText ['d']) classMapName)
        (classMapJson [(['a'], Text.of "dwp-a")]) ∧
      Holds audited.2.tree quoteInspection.out quoteReport.json := by
  have hinspection : inspectionFrom [Text.of "--root", Text.of "d"] [] = .ok quoteInspection := by
    decide +kernel
  have hdiffers : ((build sheetArguments []).run ⟨sheetSite, []⟩).2.tree.get?
      [['d'], classMapName] ≠ sheetSite.get? [['d'], classMapName] := by
    have hfree : sheetSite.get? [['d'], classMapName] = none := by decide +kernel
    rw [hfree]
    exact Option.isSome_iff_ne_none.1 isSome_classMap_sheetSite
  obtain ⟨hbuilds, haudits⟩ := documents_read_back
  constructor
  · obtain ⟨session, members, hsession, hperm, -, hholds⟩ := hbuilds sheetArguments [] sheetSite []
      ['d'] [['d'], classMapName] (by decide +kernel) (by decide +kernel) hdiffers
    have hentries := entries_sheetSite
    rw [hsession] at hentries
    have hentries : session.registry.entries = [(['a'], Text.of "dwp-a")] :=
      Option.some.inj hentries
    rw [hentries, List.perm_singleton] at hperm
    rwa [hperm] at hholds
  · obtain ⟨tree', hdelivers⟩ := delivers_quoteReport
    have hreturns : ((audit [Text.of "--root", Text.of "d"] []).run ⟨quoteSite, []⟩).1 = .ok () :=
      (ends_audit hinspection quoteSite []).returns hdelivers
    have hplace : quoteSite.locate quoteInspection.out = .ok (.inside [['d'], reportName]) := by
      decide +kernel
    obtain ⟨report, hreport, hholds, -⟩ := haudits [Text.of "--root", Text.of "d"] [] quoteSite []
      quoteInspection [['d'], reportName] (by decide +kernel) hinspection hplace hreturns
    cases Except.ok.inj (hreport.symm.trans hdelivers.reported)
    exact hholds ⟨by decide +kernel, by decide +kernel⟩

end Command

end ClassScope
