import ClassScope.Proofs.Audit.Report
import ClassScope.Proofs.Command.Documents

/-!
# Audits that are repeated

An audit writes its report into the site that it audits, perhaps over a file. Nothing else changes,
and unless the report takes the place of a document or a script, the next audit looks at the same
texts. So it gives the same report, and writing that again changes nothing. Main statements:

- `Audit.report_of_stores`: a file that is put elsewhere leaves the report as it is;
- `Command.Inspection.Delivers.again`: what an audit delivers once it delivers again;
- `Command.audit_again`: what an audit changes, and that it may be repeated.
-/

namespace ClassScope

/-! ## Trees with the same report -/

namespace Audit

variable {α : Type} {tree tree' : FileTree} {root : Path} {location : Location} {place : Place}
  {bytes : List UInt8} {ending : Text} {find : Text → Except Failure (List α)}
  {below below' : List (List Text)} {files : List (Text × List α)}

/-- What has another ending does not matter to the findings. -/
theorem findingsIn_filter :
    findingsIn tree root ending find (below.filter (HasEnding ending ·)) =
      findingsIn tree root ending find below := by
  induction below with
  | nil => rfl
  | cons names below ih =>
    by_cases hending : HasEnding ending names
    · rw [List.filter_cons_of_pos (by simpa using hending), findingsIn_cons hending,
        findingsIn_cons hending, ih]
    · rw [List.filter_cons_of_neg (by simpa using hending), findingsIn_cons_of_not hending, ih]

/-- The findings are the same where the texts with the ending are. -/
theorem findingsIn_congr (h : ∀ names ∈ below, HasEnding ending names →
      tree'.readText (root.extend names) = tree.readText (root.extend names)) :
    findingsIn tree' root ending find below = findingsIn tree root ending find below := by
  induction below with
  | nil => rfl
  | cons names below ih =>
    obtain ⟨hnames, hbelow⟩ := List.forall_mem_cons.1 h
    by_cases hending : HasEnding ending names
    · rw [findingsIn_cons hending, findingsIn_cons hending, findingsAt, findingsAt, hnames hending,
        ih hbelow]
    · rw [findingsIn_cons_of_not hending, findingsIn_cons_of_not hending, ih hbelow]

/-- A file that is put where nothing has the ending leaves the findings as they are. -/
theorem findingsIn_of_stores (hstores : tree.Stores place bytes tree')
    (hroot : tree.locate root = .ok (.inside location))
    (hplace : ∀ names, place = .inside (location ++ names) → ¬ HasEnding ending names)
    (h : findingsIn tree root ending find ((tree.below location).map Prod.fst) = .ok files) :
    findingsIn tree' root ending find ((tree'.below location).map Prod.fst) = .ok files := by
  have hfilter : ((tree'.below location).map Prod.fst).filter (HasEnding ending ·) =
      ((tree.below location).map Prod.fst).filter (HasEnding ending ·) :=
    FileTree.filter_below_congr fun names hending => by
      rw [hstores.get?, if_neg fun heq => hplace names heq (by simpa using hending)]
  rw [← findingsIn_filter, hfilter, findingsIn_filter, findingsIn_congr, h]
  -- What was looked at has been read, so its path leads to it, and it is not what was put.
  intro names hnames hending
  obtain ⟨found, hfound⟩ := (findingsIn_eq_ok_iff.1 h).1 names hnames hending
  obtain ⟨s, hs, -⟩ := bind_eq_ok.1 hfound
  obtain ⟨other, -, hlocate, -⟩ := FileTree.exists_file_of_readText (mapError_eq_ok.1 hs)
  obtain ⟨-, entry, hentry⟩ := FileTree.mem_names_below_iff.1 hnames
  have hother := FileTree.locate_extend hroot (fun name hname =>
    FileTree.isFileName_of_get? hentry name (List.mem_append_right location hname)) hlocate
  exact hstores.readText hlocate fun heq => hplace names (heq.symm.trans hother) hending

/-- A directory can be searched where it could be with the same directories. -/
theorem search_of_sameDirectories (h : tree.SameDirectories tree')
    (hroot : tree.locate root = .ok (.inside location))
    (hsearch : tree.search root = .ok below) :
    tree'.search root = .ok ((tree'.below location).map Prod.fst) := by
  refine (FileTree.search_eq_ok_iff ((FileTree.locate_congr h).2 hroot)).2 ⟨?_, rfl⟩
  intro names hne hdirectory
  rw [Ne, FileTree.locate_congr_nameTooLong h]
  exact ((FileTree.search_eq_ok_iff hroot).1 hsearch).1 names hne ((h _).1 hdirectory)

/-- A file that is put where no document and no script is leaves the report as it is. -/
theorem report_of_stores {scope : Setting} {report : Report} {directory : Place}
    (hstores : tree.Stores place bytes tree') (hroot : tree.locate root = .ok directory)
    (hplace : ∀ location names, directory = .inside location →
      place = .inside (location ++ names) →
        ¬ HasEnding (Text.of ".html") names ∧ ¬ HasEnding (Text.of ".js") names)
    (h : Audit.report tree root scope = .ok report) :
    Audit.report tree' root scope = .ok report := by
  have hroot' := (FileTree.locate_congr hstores.directories).2 hroot
  obtain ⟨below, hsearch, hmarkup, hscripts, hscope⟩ := report_eq_ok_iff.1 h
  rw [report_eq_ok_iff]
  obtain ⟨location, hinside, rfl⟩ | ⟨hnone, rfl⟩ := FileTree.search_cases hsearch
  · obtain rfl := Except.ok.inj (hroot.symm.trans hinside)
    refine ⟨_, search_of_sameDirectories hstores.directories hroot hsearch, ?_, ?_, hscope⟩
    · exact findingsIn_of_stores hstores hroot
        (fun names heq => (hplace location names rfl heq).1) hmarkup
    · exact findingsIn_of_stores hstores hroot
        (fun names heq => (hplace location names rfl heq).2) hscripts
  · -- Outside of the working directory a search shows nothing.
    rw [hroot] at hnone
    refine ⟨[], FileTree.search_of_not_inside ?_ ?_, hmarkup, hscripts, hscope⟩
    · exact fun location => hroot' ▸ hnone location
    · rw [hroot']
      nofun

end Audit

/-! ## One audit after another -/

namespace Command

variable {tree tree' : FileTree} {inspection : Inspection} {report : Audit.Report}

/-- No document and no script below the directory is where the report goes. -/
def Inspection.Overlooked (inspection : Inspection) (tree : FileTree) : Prop :=
  ∀ location names, tree.locate inspection.root = .ok (.inside location) →
    tree.locate inspection.out = .ok (.inside (location ++ names)) →
      ¬ Audit.HasEnding (Text.of ".html") names ∧ ¬ Audit.HasEnding (Text.of ".js") names

/-- A report that goes where reports go by default is overlooked. -/
theorem Inspection.overlooked_default (h : inspection.out = inspection.root.join reportName)
    (tree : FileTree) : inspection.Overlooked tree := by
  intro location names hroot hout
  have hname : Path.ofText reportName = ⟨[], [reportName]⟩ := by
    rw [reportName, Text.of_eq_toList]
    rfl
  have hjoin : inspection.root.join reportName = inspection.root.extend [reportName] := by
    rw [Path.join, hname]
    rfl
  rw [h, hjoin] at hout
  have hfile : ∀ name ∈ [reportName], IsFileName name := by
    rw [reportName, Text.of_eq_toList]
    decide
  have hnames := FileTree.locate_extend hroot hfile hout
  rw [Place.inside.injEq, List.append_cancel_left_eq] at hnames
  rw [hnames, reportName, Text.of_eq_toList, Text.of_eq_toList, Text.of_eq_toList]
  decide

namespace Inspection

/-- Once a report is delivered and overlooked, it is delivered again, and nothing changes. -/
theorem Delivers.again (h : inspection.Delivers tree report tree')
    (hoverlooked : inspection.Overlooked tree) : inspection.Delivers tree' report tree' := by
  obtain ⟨place, hout, hfree, hstores⟩ := FileTree.stores_of_write h.written
  obtain ⟨entry, hlook, hentry⟩ := map_eq_ok.1 h.directory
  obtain rfl : entry = some .directory := by simpa using hentry
  obtain ⟨directory, hroot, hstands⟩ := FileTree.look_eq_some_iff.1 hlook
  refine ⟨?_, ?_, FileTree.write_again h.written⟩
  · have hlook' := FileTree.look_of_locate ((FileTree.locate_congr hstores.directories).2 hroot)
    rw [(hstores.directories.standing? directory).2 hstands] at hlook'
    rw [FileTree.hasDirectory, hlook']
    rfl
  · refine Audit.report_of_stores hstores hroot ?_ h.reported
    rintro location names rfl rfl
    exact hoverlooked location names hroot hout

/-- An audit whose report can be written writes it and prints one line. -/
theorem Delivers.eq_of_ends {printed : List Text} {outcome : Except Stop Unit × Workspace}
    (h : inspection.Delivers tree report tree') (hends : inspection.Ends tree printed outcome) :
    outcome = (.ok (), ⟨tree', printed ++ [inspection.summary report]⟩) := by
  cases hends with
  | stopped hnone => exact absurd h (hnone report tree')
  | @done other tree'' hother =>
    obtain rfl := Except.ok.inj (hother.reported.symm.trans h.reported)
    obtain rfl := Except.ok.inj (hother.written.symm.trans h.written)
    rfl

/-- What an audit leaves of the files. -/
structure Leaves (inspection : Inspection) (tree tree' : FileTree) : Prop where
  /-- Only where the report goes something may be different. -/
  elsewhere : ∀ location, tree'.get? location ≠ tree.get? location →
    tree.locate inspection.out = .ok (.inside location)
  /-- No file is deleted. -/
  files : ∀ location bytes, tree.get? location = some (.file bytes) →
    ∃ bytes', tree'.get? location = some (.file bytes')
  /-- No directory is made or deleted. -/
  directories : tree.SameDirectories tree'

theorem Delivers.leaves (h : inspection.Delivers tree report tree') :
    inspection.Leaves tree tree' := by
  obtain ⟨place, hout, hfree, hstores⟩ := FileTree.stores_of_write h.written
  refine ⟨fun location hdiffers => ?_, fun location bytes hfile => ?_, hstores.directories⟩
  · rw [hstores.get?] at hdiffers
    split at hdiffers
    · rename_i hplace
      rw [hout, hplace]
    · exact absurd rfl hdiffers
  · rw [hstores.get?]
    split
    · exact ⟨_, rfl⟩
    · exact ⟨bytes, hfile⟩

end Inspection

/-- An audit changes nothing but its report and deletes nothing, and it changes nothing at all if it
does not return. If it returns and its report is overlooked, as it is in its default place, another
audit prints the same line and leaves the files exactly as they are. -/
theorem audit_again (argv : List Text) (environment : Environment) (tree : FileTree)
    (printed : List Text) :
    let outcome := (audit argv environment).run ⟨tree, printed⟩
    (outcome.1 ≠ .ok () → outcome.2.tree = tree) ∧
    (outcome.2.tree = tree ∨ ∃ inspection, inspectionFrom argv environment = .ok inspection ∧
      inspection.Leaves tree outcome.2.tree) ∧
    ∀ inspection, inspectionFrom argv environment = .ok inspection →
      (inspection.out = inspection.root.join reportName → inspection.Overlooked tree) ∧
      (outcome.1 = .ok () → inspection.Overlooked tree →
        ∃ line, outcome.2.printed = printed ++ [line] ∧ ∀ printed',
          (audit argv environment).run ⟨outcome.2.tree, printed'⟩ =
            (.ok (), ⟨outcome.2.tree, printed' ++ [line]⟩)) := by
  intro outcome
  generalize houtcome : outcome = result
  cases hinspection : inspectionFrom argv environment with
  | error stop =>
    obtain rfl : result = (.error stop, ⟨tree, printed⟩) := by
      rw [← houtcome]
      simp only [outcome, run_audit, hinspection]
    exact ⟨fun _ => rfl, .inl rfl, nofun⟩
  | ok inspection =>
    have hends : inspection.Ends tree printed result :=
      houtcome ▸ ends_audit hinspection tree printed
    have hdefault : inspection.out = inspection.root.join reportName →
        inspection.Overlooked tree :=
      fun h => Inspection.overlooked_default h tree
    cases hends with
    | stopped =>
      refine ⟨fun _ => rfl, .inl rfl, ?_⟩
      rintro _ ⟨⟩
      exact ⟨hdefault, nofun⟩
    | @done report tree' hdelivers =>
      refine ⟨absurd rfl, .inr ⟨inspection, rfl, hdelivers.leaves⟩, ?_⟩
      rintro _ ⟨⟩
      refine ⟨hdefault, fun _ hoverlooked => ⟨inspection.summary report, rfl, ?_⟩⟩
      exact fun printed' =>
        (hdelivers.again hoverlooked).eq_of_ends (ends_audit hinspection tree' printed')

/-- The audit of a site with a script may be repeated. -/
theorem audit_again_quoteSite :
    let job := audit [Text.of "--root", Text.of "d"] []
    ∃ tree' line, job.run ⟨quoteSite, []⟩ = (.ok (), ⟨tree', [line]⟩) ∧
      job.run ⟨tree', []⟩ = (.ok (), ⟨tree', [line]⟩) := by
  have hinspection : inspectionFrom [Text.of "--root", Text.of "d"] [] = .ok quoteInspection := by
    decide +kernel
  obtain ⟨tree', hdelivers⟩ := delivers_quoteReport
  have hfirst := hdelivers.eq_of_ends (ends_audit hinspection quoteSite [])
  obtain ⟨-, -, hagain⟩ := audit_again [Text.of "--root", Text.of "d"] [] quoteSite []
  obtain ⟨hdefault, hrepeats⟩ := hagain quoteInspection hinspection
  rw [hfirst] at hrepeats
  obtain ⟨line, hline, hsecond⟩ := hrepeats rfl (hdefault (by decide +kernel))
  obtain rfl : quoteInspection.summary quoteReport = line := List.singleton_inj.1 hline
  exact ⟨tree', _, hfirst, hsecond []⟩

end Command

end ClassScope
