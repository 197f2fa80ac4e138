import ClassScope.Audit.Report
import ClassScope.Proofs.File.Storage
import ClassScope.Proofs.Html.Acceptance
import ClassScope.Proofs.Text.Decoding
import Mathlib.Algebra.GroupWithZero.Nat
import Mathlib.Data.List.Permutation

/-!
# What an audit reports

An audit opens the directories below a directory and looks at everything whose name ends as that of
a document or a script. It gives a report exactly when the directories can be opened and all the
rest can be read: a directory with such a name cannot, and neither can a document that is rejected.
Then the report lists the files with findings, each once, in the order of their paths. Main
statements:

- `Audit.findingsIn_eq_ok_iff`: what is listed, and when it is;
- `Audit.Lists`, `Audit.lists_findingsIn`: the files with an ending and their findings;
- `Audit.exists_report_iff`: when there is a report;
- `Audit.report_exact`: this and what the report lists.
-/

namespace ClassScope.Audit

variable {α : Type} {tree : FileTree} {root : Path} {location : Location} {ending : Text}
  {find : Text → Except Failure (List α)} {names : List Text} {files : List (Text × List α)}

/-! ## Files with an ending -/

/-- The last of some names has an ending. -/
def HasEnding (ending : Text) (names : List Text) : Prop := ending <:+ names.getLastD []

instance (ending : Text) (names : List Text) : Decidable (HasEnding ending names) :=
  decidable_of_iff (Text.endsWith ending (names.getLastD []) = true) Text.endsWith_iff

/-- The findings in what stands at some names below a directory. -/
def findingsAt (tree : FileTree) (root : Path) (find : Text → Except Failure (List α))
    (names : List Text) : Except Failure (List α) := do
  find (← (tree.readText (root.extend names)).mapError .file)

/-- What is listed of something below a directory, if it is looked at and has findings. -/
def listed? (tree : FileTree) (root : Path) (ending : Text)
    (find : Text → Except Failure (List α)) (names : List Text) : Option (Text × List α) :=
  if HasEnding ending names then
    match findingsAt tree root find names with
    | .ok (a :: found) => some (Text.join ['/'] names, a :: found)
    | _ => none
  else none

/-- What has another ending is passed over. -/
theorem findingsIn_cons_of_not (h : ¬ HasEnding ending names) (below : List (List Text)) :
    findingsIn tree root ending find (names :: below) = findingsIn tree root ending find below := by
  rw [findingsIn, if_neg (mt Text.endsWith_iff.1 h)]

/-- Other things are read and looked at. -/
theorem findingsIn_cons (h : HasEnding ending names) (below : List (List Text)) :
    findingsIn tree root ending find (names :: below) = do
      let found ← findingsAt tree root find names
      let others ← findingsIn tree root ending find below
      return if found.isEmpty then others else (Text.join ['/'] names, found) :: others := by
  rw [findingsIn, if_pos (Text.endsWith_iff.2 h), findingsAt, bind_assoc]

/-- Findings are given when all that is looked at has some or none; then they are listed in the
order in which it came. -/
theorem findingsIn_eq_ok_iff {below : List (List Text)} :
    findingsIn tree root ending find below = .ok files ↔
      (∀ names ∈ below, HasEnding ending names →
        ∃ found, findingsAt tree root find names = .ok found) ∧
      files = below.filterMap (listed? tree root ending find) := by
  induction below generalizing files with
  | nil =>
    rw [findingsIn, Except.ok.injEq]
    simp [eq_comm]
  | cons names below ih =>
    rw [List.forall_mem_cons, List.filterMap_cons, listed?]
    by_cases hending : HasEnding ending names
    · rw [findingsIn_cons hending, if_pos hending]
      cases hfound : findingsAt tree root find names with
      | error e => simp [hending] -- Neither side holds.
      | ok found =>
        rw [ok_bind, bind_eq_ok]
        constructor
        · rintro ⟨others, hothers, hfiles⟩
          obtain ⟨hall, rfl⟩ := ih.1 hothers
          cases hfiles
          refine ⟨⟨fun _ => ⟨found, rfl⟩, hall⟩, ?_⟩
          cases found <;> rfl
        · rintro ⟨⟨-, hall⟩, rfl⟩
          refine ⟨_, ih.2 ⟨hall, rfl⟩, ?_⟩
          cases found <;> rfl
    · rw [findingsIn_cons_of_not hending, if_neg hending, ih]
      simp only [hending, false_imp_iff, true_and]

/-! ## Files that can be read -/

/-- A file with some bytes and an ending stands below the directory at a location, where a path to
the directory goes on to it. -/
structure FileBelow (tree : FileTree) (root : Path) (location : Location) (ending : Text)
    (names : List Text) (bytes : List UInt8) : Prop where
  /-- It is not the directory itself. -/
  below : names ≠ []
  /-- Its name ends so. -/
  ending : HasEnding ending names
  /-- It stands in the tree. -/
  file : tree.get? (location ++ names) = some (.file bytes)
  /-- Its path is not too long. -/
  short : FileTree.IsShort (root.extend names)

/-- All that stands below a directory with an ending is a file whose text is accepted. -/
def Readable (tree : FileTree) (root : Path) (location : Location) (ending : Text)
    (accepted : Text → Prop) : Prop :=
  ∀ names entry, names ≠ [] → HasEnding ending names →
    tree.get? (location ++ names) = some entry →
      ∃ bytes, FileBelow tree root location ending names bytes ∧ accepted (Utf8.fileText bytes)

/-- The files with an ending below a directory are listed with their findings. -/
structure Lists (tree : FileTree) (root : Path) (location : Location) (ending : Text)
    (find : Text → Except Failure (List α)) (files : List (Text × List α)) : Prop where
  /-- Those with findings are listed, and nothing else is. -/
  mem : ∀ path found, (path, found) ∈ files ↔ ∃ names bytes,
    FileBelow tree root location ending names bytes ∧ path = Text.join ['/'] names ∧
      find (Utf8.fileText bytes) = .ok found ∧ found ≠ []
  /-- No path is listed twice. -/
  once : (files.map Prod.fst).Nodup
  /-- They are listed in the order of the parts of their paths. -/
  order : files.Pairwise fun file file' =>
    Text.partsPrecede (Path.partsOf file.1) (Path.partsOf file'.1) = true

/-- What stands below a directory with an ending has findings if it is a file. -/
theorem findingsAt_eq_ok_iff (htree : tree.IsStorable)
    (hroot : tree.locate root = .ok (.inside location)) (hne : names ≠ [])
    (hending : HasEnding ending names) {entry : FileEntry}
    (h : tree.get? (location ++ names) = some entry) {found : List α} :
    findingsAt tree root find names = .ok found ↔
      ∃ bytes, FileBelow tree root location ending names bytes ∧
        find (Utf8.fileText bytes) = .ok found := by
  rw [findingsAt, FileTree.readText]
  constructor
  · intro hfound
    obtain ⟨s, hs, hfound⟩ := bind_eq_ok.1 hfound
    cases hread : tree.read (root.extend names) with
    | error e =>
      rw [hread] at hs
      cases hs
    | ok bytes =>
      obtain ⟨hshort, rfl⟩ := (htree.read_extend_eq_ok_iff hroot h).1 hread
      rw [hread] at hs
      cases hs
      exact ⟨bytes, ⟨hne, hending, h, hshort⟩, hfound⟩
  · rintro ⟨bytes, hfile, hfound⟩
    rw [(htree.read_extend_eq_ok_iff hroot hfile.file).2 ⟨hfile.short, rfl⟩]
    exact hfound

theorem findingsIn_below_isOk_iff (htree : tree.IsStorable)
    (hroot : tree.locate root = .ok (.inside location)) (ending : Text)
    (find : Text → Except Failure (List α)) :
    (∃ files, findingsIn tree root ending find ((tree.below location).map Prod.fst) = .ok files) ↔
      Readable tree root location ending fun s => ∃ found, find s = .ok found := by
  constructor
  · rintro ⟨files, h⟩ names entry hne hending hentry
    have hlisted : names ∈ (tree.below location).map Prod.fst :=
      FileTree.mem_names_below_iff.2 ⟨hne, entry, hentry⟩
    obtain ⟨found, hfound⟩ := (findingsIn_eq_ok_iff.1 h).1 names hlisted hending
    obtain ⟨bytes, hfile, hfound⟩ :=
      (findingsAt_eq_ok_iff htree hroot hne hending hentry).1 hfound
    exact ⟨bytes, hfile, found, hfound⟩
  · intro h
    refine ⟨_, findingsIn_eq_ok_iff.2 ⟨fun names hnames hending => ?_, rfl⟩⟩
    obtain ⟨hne, entry, hentry⟩ := FileTree.mem_names_below_iff.1 hnames
    obtain ⟨bytes, hfile, found, hfound⟩ := h names entry hne hending hentry
    exact ⟨found, (findingsAt_eq_ok_iff htree hroot hne hending hentry).2 ⟨bytes, hfile, hfound⟩⟩

theorem listed?_eq_some_iff {path : Text} {found : List α} :
    listed? tree root ending find names = some (path, found) ↔
      HasEnding ending names ∧ path = Text.join ['/'] names ∧
        findingsAt tree root find names = .ok found ∧ found ≠ [] := by
  rw [listed?]
  split
  · rename_i hending
    cases findingsAt tree root find names with
    | error e => simp
    | ok all =>
      cases all with
      | nil => simp
      | cons a all =>
        simp only [Option.some.injEq, Prod.mk.injEq, Except.ok.injEq, hending, true_and]
        constructor
        · rintro ⟨rfl, rfl⟩
          exact ⟨rfl, rfl, List.cons_ne_nil _ _⟩
        · rintro ⟨rfl, rfl, -⟩
          exact ⟨rfl, rfl⟩
  · rename_i hending
    simp [hending]

/-- What is listed keeps the order of the listing. -/
theorem pairwise_findingsIn (htree : tree.IsStorable)
    (h : findingsIn tree root ending find ((tree.below location).map Prod.fst) = .ok files) :
    files.Pairwise fun file file' =>
      Text.partsPrecede (Path.partsOf file.1) (Path.partsOf file'.1) = true := by
  obtain ⟨-, rfl⟩ := findingsIn_eq_ok_iff.1 h
  have horder := FileTree.pairwise_names_below tree location
  have hparts : ∀ names ∈ (tree.below location).map Prod.fst,
      Path.partsOf (Text.join ['/'] names) = names := by
    intro names hnames
    obtain ⟨hne, entry, hentry⟩ := FileTree.mem_names_below_iff.1 hnames
    exact htree.partsOf_join_below hne hentry
  -- Leaving some of the listing out keeps the order of the rest.
  refine List.Pairwise.filterMap _ ?_ (horder.imp_of_mem ?_) (R := fun names names' =>
    Text.partsPrecede (Path.partsOf (Text.join ['/'] names))
      (Path.partsOf (Text.join ['/'] names')) = true)
  · rintro names names' hlt ⟨path, found⟩ hfile ⟨path', found'⟩ hfile'
    rwa [(listed?_eq_some_iff.1 hfile).2.1, (listed?_eq_some_iff.1 hfile').2.1]
  · intro names names' hnames hnames' hlt
    rwa [hparts names hnames, hparts names' hnames']

theorem lists_findingsIn (htree : tree.IsStorable)
    (hroot : tree.locate root = .ok (.inside location))
    (h : findingsIn tree root ending find ((tree.below location).map Prod.fst) = .ok files) :
    Lists tree root location ending find files := by
  have horder := pairwise_findingsIn htree h
  refine ⟨fun path found => ?_, List.pairwise_map.2 (horder.imp ?_), horder⟩
  · obtain ⟨-, rfl⟩ := findingsIn_eq_ok_iff.1 h
    rw [List.mem_filterMap]
    constructor
    · rintro ⟨names, hnames, hlisted⟩
      obtain ⟨hending, hpath, hfound, hsome⟩ := listed?_eq_some_iff.1 hlisted
      obtain ⟨hne, entry, hentry⟩ := FileTree.mem_names_below_iff.1 hnames
      obtain ⟨bytes, hfile, hfound⟩ :=
        (findingsAt_eq_ok_iff htree hroot hne hending hentry).1 hfound
      exact ⟨names, bytes, hfile, hpath, hfound, hsome⟩
    · rintro ⟨names, bytes, hfile, hpath, hfound, hne⟩
      refine ⟨names, FileTree.mem_names_below_iff.2 ⟨hfile.below, _, hfile.file⟩, ?_⟩
      refine listed?_eq_some_iff.2 ⟨hfile.ending, hpath, ?_, hne⟩
      exact (findingsAt_eq_ok_iff htree hroot hfile.below hfile.ending hfile.file).2
        ⟨bytes, hfile, hfound⟩
  · -- A path that were listed twice would come before itself.
    rintro file file' hlt heq
    rw [heq, Text.strict_partsPrecede.irrefl] at hlt
    cases hlt

/-- The path of a listed file leads to it from the directory. -/
theorem Lists.exists_read (htree : tree.IsStorable)
    (hroot : tree.locate root = .ok (.inside location))
    (h : Lists tree root location ending find files) {path : Text}
    (hpath : path ∈ files.map Prod.fst) : ∃ bytes, tree.read (root.join path) = .ok bytes := by
  obtain ⟨⟨path, found⟩, hlisted, rfl⟩ := List.mem_map.1 hpath
  obtain ⟨names, bytes, hfile, rfl, -⟩ := (h.mem path found).1 hlisted
  refine ⟨bytes, ?_⟩
  rw [htree.join_join_below hfile.below hfile.file]
  exact (htree.read_extend_eq_ok_iff hroot hfile.file).2 ⟨hfile.short, rfl⟩

/-! ## Reports -/

/-- There are findings in a document exactly when it can be read. -/
theorem findingsInMarkup_isOk_iff (scope html : Text) :
    (∃ found, findingsInMarkup (.text scope) html = .ok found) ↔
      ∃ all, Html.tags html = .ok all := by
  rw [findingsInMarkup, markupFindings, Html.nodes]
  cases Html.tags html with
  | error e => simp
  | ok all => simp

/-- A report holds the findings in the documents and in the scripts that a search shows. -/
theorem report_eq_ok_iff {scope : Setting} {report : Report} :
    Audit.report tree root scope = .ok report ↔ ∃ below, tree.search root = .ok below ∧
      findingsIn tree root (Text.of ".html") (findingsInMarkup scope) below = .ok report.markup ∧
      findingsIn tree root (Text.of ".js") (fun code => .ok (scriptFindings code)) below =
        .ok report.scripts ∧
      report.scope = scope := by
  rw [Audit.report, bind_eq_ok]
  simp only [mapError_eq_ok]
  refine exists_congr fun below => and_congr_right fun _ => ?_
  rw [bind_eq_ok]
  constructor
  · rintro ⟨markup, hmarkup, h⟩
    obtain ⟨scripts, hscripts, h⟩ := bind_eq_ok.1 h
    cases h
    exact ⟨hmarkup, hscripts, rfl⟩
  · rintro ⟨hmarkup, hscripts, rfl⟩
    exact ⟨_, hmarkup, bind_eq_ok.2 ⟨_, hscripts, rfl⟩⟩

/-- A report says which scope it is for. -/
theorem scope_of_report {scope : Setting} {report : Report}
    (h : Audit.report tree root scope = .ok report) : report.scope = scope := by
  obtain ⟨below, -, -, -, hscope⟩ := report_eq_ok_iff.1 h
  exact hscope

/-- Below a directory of the tree all documents and scripts are listed. -/
theorem lists_of_report (htree : tree.IsStorable)
    (hroot : tree.locate root = .ok (.inside location)) {scope : Setting} {report : Report}
    (h : Audit.report tree root scope = .ok report) :
    Lists tree root location (Text.of ".html") (findingsInMarkup scope) report.markup ∧
      Lists tree root location (Text.of ".js") (fun code => .ok (scriptFindings code))
        report.scripts := by
  obtain ⟨below, hsearch, hmarkup, hscripts, -⟩ := report_eq_ok_iff.1 h
  obtain ⟨-, rfl⟩ := (htree.search_eq_ok_iff hroot).1 hsearch
  exact ⟨lists_findingsIn htree hroot hmarkup, lists_findingsIn htree hroot hscripts⟩

/-- No path is reported twice, whatever the scope is and wherever the directory is. -/
theorem nodup_of_report (htree : tree.IsStorable) {scope : Setting} {report : Report}
    (h : Audit.report tree root scope = .ok report) :
    (report.markup.map Prod.fst).Nodup ∧ (report.scripts.map Prod.fst).Nodup := by
  obtain ⟨below, hsearch, hmarkup, hscripts, -⟩ := report_eq_ok_iff.1 h
  obtain ⟨location, hroot, rfl⟩ | ⟨-, rfl⟩ := FileTree.search_cases hsearch
  · have hdocuments := lists_findingsIn htree hroot hmarkup
    have hcode := lists_findingsIn htree hroot hscripts
    exact ⟨hdocuments.once, hcode.once⟩
  · rw [← Except.ok.inj hmarkup, ← Except.ok.inj hscripts]
    exact ⟨List.nodup_nil, List.nodup_nil⟩

/-- There is a report exactly when no directory has a path that is too long, all that is called a
document or a script is a file whose path is not too long, and no document is rejected. -/
theorem exists_report_iff (htree : tree.IsStorable)
    (hroot : tree.locate root = .ok (.inside location)) (scope : Text) :
    (∃ report, Audit.report tree root (.text scope) = .ok report) ↔
      FileTree.Searchable tree root location ∧
        Readable tree root location (Text.of ".html") (fun html =>
          ∃ all, Html.tags html = .ok all) ∧
        Readable tree root location (Text.of ".js") fun _ => True := by
  have hmarkup := findingsIn_below_isOk_iff htree hroot (Text.of ".html")
    (findingsInMarkup (.text scope))
  have hscripts := findingsIn_below_isOk_iff htree hroot (Text.of ".js") fun code =>
    .ok (scriptFindings code)
  simp only [findingsInMarkup_isOk_iff] at hmarkup
  simp only [Except.ok.injEq, exists_eq'] at hscripts
  rw [← hmarkup, ← hscripts]
  simp only [report_eq_ok_iff, htree.search_eq_ok_iff hroot]
  constructor
  · rintro ⟨report, _, ⟨hsearchable, rfl⟩, hdocuments, hcode, -⟩
    exact ⟨hsearchable, ⟨_, hdocuments⟩, _, hcode⟩
  · rintro ⟨hsearchable, ⟨markup, hdocuments⟩, scripts, hcode⟩
    exact ⟨⟨.text scope, markup, scripts⟩, _, ⟨hsearchable, rfl⟩, hdocuments, hcode, rfl⟩

/-- There is a report exactly when no directory has a path that is too long, all that is called a
document or a script is a file whose path is not too long, and no document is rejected; without
marked sections and long numbers none is. The report lists the files with findings, each once in the
order of the paths, and the path of each leads to it from the directory. The counts are the numbers
of findings listed. -/
theorem report_exact (htree : tree.IsStorable)
    (hroot : tree.locate root = .ok (.inside location)) (scope : Text) :
    ((∃ report, Audit.report tree root (.text scope) = .ok report) ↔
      FileTree.Searchable tree root location ∧
        Readable tree root location (Text.of ".html") (fun html =>
          ∃ all, Html.tags html = .ok all) ∧
        Readable tree root location (Text.of ".js") fun _ => True) ∧
    (∀ html, Html.Harmless html → ∃ all, Html.tags html = .ok all) ∧
    ∀ report, Audit.report tree root (.text scope) = .ok report →
      report.scope = .text scope ∧
      Lists tree root location (Text.of ".html") (findingsInMarkup (.text scope)) report.markup ∧
      Lists tree root location (Text.of ".js") (fun code => .ok (scriptFindings code))
        report.scripts ∧
      (∀ path ∈ report.markup.map Prod.fst ++ report.scripts.map Prod.fst,
        ∃ bytes, tree.read (root.join path) = .ok bytes) ∧
      report.unscopedCount = (report.markup.map fun file => file.2.length).sum ∧
      report.scriptCount = (report.scripts.map fun file => file.2.length).sum := by
  refine ⟨exists_report_iff htree hroot scope, fun html => Html.Harmless.accepted, ?_⟩
  intro report hreport
  obtain ⟨hdocuments, hcode⟩ := lists_of_report htree hroot hreport
  refine ⟨scope_of_report hreport, hdocuments, hcode, fun path hpath => ?_, ?_, ?_⟩
  · rcases List.mem_append.1 hpath with hpath | hpath
    · exact hdocuments.exists_read htree hroot hpath
    · exact hcode.exists_read htree hroot hpath
  · exact List.length_flatMap
  · exact List.length_flatMap

/-- A site with a document, a script and a directory for more documents. -/
def cardSite : FileTree :=
  let tree := FileTree.empty.addFile (.ofText (Text.of "d/a.html")) (Utf8.encode
    (Text.of "<p class=a>"))
  (tree.addFile (.ofText (Text.of "d/b.js")) (Utf8.encode (Text.of "x.className=1"))).addDirectory
    (.ofText (Text.of "d/more"))

/-- The report on that site. -/
def cardReport : Report where
  scope := .text (Text.of "dwp-")
  markup := [(Text.of "a.html", [⟨Text.of "/p", ['a']⟩])]
  scripts := [(Text.of "b.js", [⟨.classNameAssignment, Text.of "x.className=1"⟩])]

/-- A site with a directory that is called as a script. -/
def folderSite : FileTree := FileTree.empty.addDirectory (.ofText (Text.of "d/x.js"))

/-- Names of directories that lie in each other. -/
def deepNames : List Text := List.replicate 16 (List.replicate 255 'x')

/-- A site with nothing but these directories. The path of the innermost one is too long. -/
def deepSite : FileTree := FileTree.empty.addDirectory ⟨[], ['d'] :: deepNames⟩

/-- On a document and a script there is a report, and each path in it leads to a file. A directory
that is called as a script keeps its site from having a report, and so does one whose path is too
long. -/
theorem report_exact_folder :
    Audit.report cardSite (.ofText ['d']) (.text (Text.of "dwp-")) = .ok cardReport ∧
      cardReport.unscopedCount = 1 ∧ cardReport.scriptCount = 1 ∧
      (∀ path ∈ [Text.of "a.html", Text.of "b.js"],
        ∃ bytes, cardSite.read (.join (.ofText ['d']) path) = .ok bytes) ∧
      (¬ ∃ report,
        Audit.report folderSite (.ofText ['d']) (.text (Text.of "dwp-")) = .ok report) ∧
      ¬ ∃ report, Audit.report deepSite (.ofText ['d']) (.text (Text.of "dwp-")) = .ok report := by
  have hcards : cardSite.locate (.ofText ['d']) = .ok (.inside [['d']]) := by cbv
  have hfolder : folderSite.locate (.ofText ['d']) = .ok (.inside [['d']]) := by cbv
  have hdeep : deepSite.locate (.ofText ['d']) = .ok (.inside [['d']]) := by decide +kernel
  have hcardsStorable : cardSite.IsStorable := by decide +kernel
  have hfolderStorable : folderSite.IsStorable := by decide +kernel
  have hdeepStorable : deepSite.IsStorable := by decide +kernel
  have hsearch : cardSite.search (.ofText ['d']) =
      .ok [[Text.of "a.html"], [Text.of "b.js"], [Text.of "more"]] := by cbv
  have hreport : Audit.report cardSite (.ofText ['d']) (.text (Text.of "dwp-")) =
      .ok cardReport :=
    report_eq_ok_iff.2 ⟨_, hsearch, by decide +kernel, by decide +kernel, rfl⟩
  obtain ⟨-, -, hlists⟩ := report_exact hcardsStorable hcards (Text.of "dwp-")
  obtain ⟨-, -, -, hread, hunscoped, hscript⟩ := hlists cardReport hreport
  obtain ⟨hexists, -⟩ := report_exact hfolderStorable hfolder (Text.of "dwp-")
  obtain ⟨hexists', -⟩ := report_exact hdeepStorable hdeep (Text.of "dwp-")
  refine ⟨hreport, hunscoped, hscript, hread, fun h => ?_, fun h => ?_⟩
  · -- The directory would be a file.
    obtain ⟨-, -, hcode⟩ := hexists.1 h
    have hdirectory : folderSite.get? ([['d']] ++ [Text.of "x.js"]) = some .directory := by cbv
    obtain ⟨bytes, hfile, -⟩ := hcode _ _ (by simp) (by decide +kernel) hdirectory
    have hentry := hfile.file
    rw [hdirectory] at hentry
    cases hentry
  · -- The innermost directory would have a path that is not too long.
    have hdirectory : deepSite.get? ([['d']] ++ deepNames) = some .directory := by decide +kernel
    have hshort := (hexists'.1 h).1 deepNames (by decide) hdirectory
    exact absurd hshort (by decide +kernel)

end ClassScope.Audit
