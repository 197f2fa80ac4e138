import ClassScope.Proofs.Command.Rerun
import ClassScope.Proofs.File.Storage

/-!
# Which files are modules

A build takes the files below its directory whose last suffix is that of a script or a stylesheet. A
session decides again, by how the name ends, what a module is taken for. Both agree, so a session
that puts names in scope passes no module through. Main statements:

- `Path.suffixOf_eq_iff`: the last suffix of a name;
- `Command.exists_modulePaths_iff`: when the modules can be listed;
- `Command.listsModules_modulePaths`: which modules are listed, and in which order;
- `Command.modules_counted`: this and how a build counts them.
-/

namespace ClassScope

/-! ## Suffixes -/

/-- The name ends with a suffix and does not only consist of it. -/
def HasSuffix (suffix name : Text) : Prop := ∃ stem, stem ≠ [] ∧ name = stem ++ suffix

theorem hasSuffix_iff {suffix name : Text} :
    HasSuffix suffix name ↔ suffix <:+ name ∧ suffix.length < name.length := by
  constructor
  · rintro ⟨stem, hstem, rfl⟩
    have := List.length_pos_iff.2 hstem
    exact ⟨List.suffix_append stem suffix, by rw [List.length_append]; omega⟩
  · rintro ⟨⟨stem, rfl⟩, hlength⟩
    refine ⟨stem, fun hnil => ?_, rfl⟩
    rw [hnil] at hlength
    exact absurd hlength (Nat.lt_irrefl _)

instance (suffix name : Text) : Decidable (HasSuffix suffix name) :=
  decidable_of_iff _ hasSuffix_iff.symm

namespace Path

/-- The suffix of a name with a point starts at its last point, unless there is nothing in front of
that or behind it. -/
theorem suffixOf_append {stem tail : Text} (htail : '.' ∉ tail) :
    suffixOf (stem ++ '.' :: tail) = if stem ≠ [] ∧ tail ≠ [] then '.' :: tail else [] := by
  have hpoint : ∀ c ∈ tail.reverse, decide (c ≠ '.') = true := by
    intro c hc
    rw [decide_eq_true_eq]
    rintro rfl
    exact htail (List.mem_reverse.1 hc)
  have hread : (stem ++ '.' :: tail).reverse.takeWhile (· ≠ '.') = tail.reverse := by
    rw [List.reverse_append, List.reverse_cons, List.append_assoc, List.singleton_append,
      List.takeWhile_append_of_pos hpoint, List.takeWhile_cons_of_neg (by simp), List.append_nil]
  have hlength : tail.length + 1 < (stem ++ '.' :: tail).length ↔ stem ≠ [] := by
    rw [List.length_append, List.length_cons, ← List.length_pos_iff]
    omega
  simp only [suffixOf, hread, List.reverse_reverse, hlength]

/-- A name without a point has no suffix. -/
theorem suffixOf_of_not_mem {name : Text} (h : '.' ∉ name) : suffixOf name = [] := by
  have hread : name.reverse.takeWhile (· ≠ '.') = name.reverse := by
    refine List.takeWhile_eq_self_iff.2 fun c hc => ?_
    rw [decide_eq_true_eq]
    rintro rfl
    exact h (List.mem_reverse.1 hc)
  simp only [suffixOf, hread, List.reverse_reverse]
  rw [if_neg (by omega)]

/-- The last suffix of a name is what it ends with from its last point on. -/
theorem suffixOf_eq_iff {tail name : Text} (htail : '.' ∉ tail) (hne : tail ≠ []) :
    suffixOf name = '.' :: tail ↔ HasSuffix ('.' :: tail) name := by
  constructor
  · intro h
    by_cases hpoint : '.' ∈ name.reverse
    · -- The first point from behind is the last one.
      obtain ⟨back, front, hcut, hback⟩ := List.eq_append_cons_of_mem hpoint
      obtain rfl : name = front.reverse ++ '.' :: back.reverse := by
        rw [← List.reverse_reverse name, hcut]
        simp
      rw [suffixOf_append (by rwa [List.mem_reverse])] at h
      split at h
      · rename_i hends
        exact ⟨front.reverse, hends.1, by rw [h]⟩
      · cases h
    · rw [suffixOf_of_not_mem (by rwa [List.mem_reverse] at hpoint)] at h
      cases h
  · rintro ⟨stem, hstem, rfl⟩
    rw [suffixOf_append htail, if_pos ⟨hstem, hne⟩]

end Path

namespace Command

open ModuleKind (scriptSuffix styleSuffix)

variable {tree : FileTree} {root path : Path} {paths : List Path} {name : Text}

theorem suffixOf_eq_scriptSuffix_iff :
    Path.suffixOf name = scriptSuffix ↔ HasSuffix scriptSuffix name := by
  rw [scriptSuffix, Text.of_eq_toList]
  have hpoint : '.' ∉ ['j', 's'] := by decide
  exact Path.suffixOf_eq_iff hpoint (by decide)

theorem suffixOf_eq_styleSuffix_iff :
    Path.suffixOf name = styleSuffix ↔ HasSuffix styleSuffix name := by
  rw [styleSuffix, Text.of_eq_toList]
  have hpoint : '.' ∉ ['c', 's', 's'] := by decide
  exact Path.suffixOf_eq_iff hpoint (by decide)

/-- A file is a module if its last suffix is that of a script or a stylesheet. -/
theorem isModule_iff :
    isModule path = true ↔ HasSuffix scriptSuffix path.name ∨ HasSuffix styleSuffix path.name := by
  rw [isModule, List.contains_iff_mem, moduleSuffixes, List.mem_pair,
    suffixOf_eq_scriptSuffix_iff, suffixOf_eq_styleSuffix_iff]

/-- A session takes what has the suffix of a script for one. -/
theorem ofName_script (h : HasSuffix scriptSuffix name) : ModuleKind.ofName name = .script :=
  if_pos (Text.endsWith_iff.2 (hasSuffix_iff.1 h).1)

/-- Nothing ends both as a script and as a stylesheet. -/
theorem not_hasSuffix_script (h : HasSuffix styleSuffix name) : ¬ scriptSuffix <:+ name := by
  intro hscript
  have hboth := List.suffix_of_suffix_length_le hscript (hasSuffix_iff.1 h).1
  rw [scriptSuffix, styleSuffix, Text.of_eq_toList, Text.of_eq_toList] at hboth
  exact absurd (hboth (by decide)) (by decide)

/-- A session takes what has the suffix of a stylesheet for one. -/
theorem ofName_style (h : HasSuffix styleSuffix name) : ModuleKind.ofName name = .style := by
  rw [ModuleKind.ofName, if_neg (mt Text.endsWith_iff.1 (not_hasSuffix_script h)),
    if_pos (Text.endsWith_iff.2 (hasSuffix_iff.1 h).1)]

/-! ## The modules below a directory -/

/-- Something stands below the directory that a path leads to, at the end of some names. -/
def StandsBelow (tree : FileTree) (root : Path) (names : List Text) (entry : FileEntry) : Prop :=
  ∃ location, tree.locate root = .ok (.inside location) ∧ names ≠ [] ∧
    tree.get? (location ++ names) = some entry

/-- The listed paths are those of the modules below a directory, in the order of their parts. -/
structure ListsModules (tree : FileTree) (root : Path) (paths : List Path) : Prop where
  /-- All files below the directory with the suffix of a module are listed, and nothing else is. -/
  mem : ∀ path, path ∈ paths ↔ ∃ names bytes, StandsBelow tree root names (.file bytes) ∧
    path = root.extend names ∧ (HasSuffix scriptSuffix path.name ∨ HasSuffix styleSuffix path.name)
  /-- Nothing is listed twice. -/
  once : paths.Nodup
  /-- The parts of each path come before those of the later ones. -/
  order : paths.Pairwise fun path path' => Text.partsPrecede path.parts path'.parts = true

theorem mem_listedPaths {location : Location} (hroot : tree.locate root = .ok (.inside location)) :
    path ∈ listedPaths tree root location ↔
      ∃ names entry, StandsBelow tree root names entry ∧ path = root.extend names := by
  constructor
  · intro h
    obtain ⟨⟨names, entry⟩, hitem, rfl⟩ := List.mem_map.1 h
    exact ⟨names, entry, ⟨location, hroot, FileTree.mem_below_iff.1 hitem⟩, rfl⟩
  · rintro ⟨names, entry, ⟨location', hroot', hentry⟩, rfl⟩
    cases Except.ok.inj (hroot.symm.trans hroot')
    exact List.mem_map.2 ⟨(names, entry), FileTree.mem_below_iff.2 hentry, rfl⟩

/-- All these paths start with that of the directory, so what comes behind it orders them. -/
theorem pairwise_listedPaths (tree : FileTree) (root : Path) (location : Location) :
    (listedPaths tree root location).Pairwise fun path path' =>
      Text.partsPrecede path.parts path'.parts = true := by
  refine List.pairwise_map.2 ((FileTree.pairwise_precede_below tree location).imp ?_)
  intro item item' hlt
  rwa [Path.extend, Path.extend, Text.partsPrecede, Text.strict_precedes.listPrecedes_append]

/-- Below a path that leads to no place of the tree nothing is listed, unless it is too long. -/
theorem modulePaths_of_not_inside
    (hroot : ∀ location, tree.locate root ≠ .ok (.inside location))
    (hshort : tree.locate root ≠ .error .nameTooLong) : modulePaths tree root = .ok [] := by
  rw [modulePaths, FileTree.listing_of_not_inside hroot hshort]
  rfl

/-- The modules can be listed if no path is too long, of whatever stands below the directory. -/
theorem exists_modulePaths_iff (htree : tree.IsStorable) :
    (∃ paths, modulePaths tree root = .ok paths) ↔ tree.locate root ≠ .error .nameTooLong ∧
      ∀ names entry, StandsBelow tree root names entry →
        FileTree.IsShort (root.extend names) := by
  by_cases hinside : ∃ location, tree.locate root = .ok (.inside location)
  · obtain ⟨location, hroot⟩ := hinside
    have hlook : ∀ names entry, StandsBelow tree root names entry →
        ((∃ seen, tree.look (root.extend names) = .ok seen) ↔
          FileTree.IsShort (root.extend names)) :=
      fun _ _ ⟨_, hroot', _, hentry⟩ => htree.exists_look_extend_iff hroot' hentry
    have hpaths : (∃ paths, modulePaths tree root = .ok paths) ↔
        ∃ files, tree.filesAmong (listedPaths tree root location) = .ok files := by
      rw [modulePaths_inside hroot]
      cases tree.filesAmong (listedPaths tree root location) <;> simp [Functor.map, Except.map]
    rw [hpaths, FileTree.exists_filesAmong_iff, and_iff_right (by rw [hroot]; nofun)]
    constructor
    · intro h names entry hentry
      exact (hlook names entry hentry).1
        (h _ ((mem_listedPaths hroot).2 ⟨names, entry, hentry, rfl⟩))
    · intro h path hpath
      obtain ⟨names, entry, hentry, rfl⟩ := (mem_listedPaths hroot).1 hpath
      exact (hlook names entry hentry).2 (h names entry hentry)
  · have hnone : ∀ location, tree.locate root ≠ .ok (.inside location) := not_exists.1 hinside
    constructor
    · rintro ⟨paths, h⟩
      refine ⟨fun hlong => ?_, fun names entry hentry => absurd hentry.choose_spec.1 (hnone _)⟩
      rw [modulePaths, FileTree.listing, hlong] at h
      cases h
    · exact fun h => ⟨[], modulePaths_of_not_inside hnone h.1⟩

/-- The listed paths are those of the modules. -/
theorem listsModules_modulePaths (htree : tree.IsStorable)
    (h : modulePaths tree root = .ok paths) : ListsModules tree root paths := by
  obtain ⟨hlong, hshort⟩ := (exists_modulePaths_iff htree).1 ⟨paths, h⟩
  by_cases hinside : ∃ location, tree.locate root = .ok (.inside location)
  · obtain ⟨location, hroot⟩ := hinside
    rw [modulePaths_inside hroot] at h
    obtain ⟨files, hfiles, rfl⟩ := map_eq_ok.1 h
    have hsub : (files.filter isModule).Sublist (listedPaths tree root location) :=
      List.filter_sublist.trans (FileTree.filesAmong_spec hfiles).1
    have horder := (pairwise_listedPaths tree root location).sublist hsub
    refine ⟨fun path => ?_, horder.imp ?_, horder⟩
    · rw [List.mem_filter, FileTree.mem_filesAmong_iff hfiles, isModule_iff,
        mem_listedPaths hroot]
      constructor
      · rintro ⟨⟨⟨names, entry, ⟨location', hroot', hnames, hentry⟩, rfl⟩, bytes, hlook⟩, hname⟩
        obtain ⟨-, hsame⟩ := (htree.look_extend_eq_ok_iff hroot' hentry).1 hlook
        exact ⟨names, bytes, ⟨location', hroot', hnames, hentry.trans hsame.symm⟩, rfl, hname⟩
      · rintro ⟨names, bytes, hentry, rfl, hname⟩
        refine ⟨⟨⟨names, _, hentry, rfl⟩, bytes, ?_⟩, hname⟩
        have hfits := hshort names _ hentry
        obtain ⟨location', hroot', -, hfile⟩ := hentry
        exact (htree.look_extend_eq_ok_iff hroot' hfile).2 ⟨hfits, rfl⟩
    · rintro path path' hlt rfl
      rw [Text.strict_partsPrecede.irrefl] at hlt
      cases hlt
  · have hnone : ∀ location, tree.locate root ≠ .ok (.inside location) := not_exists.1 hinside
    cases Except.ok.inj (h.symm.trans (modulePaths_of_not_inside hnone hlong))
    refine ⟨fun path => iff_of_false List.not_mem_nil ?_, .nil, .nil⟩
    rintro ⟨names, bytes, ⟨location, hroot, -⟩, -⟩
    exact hnone location hroot

/-! ## The modules of a session -/

/-- How many scripts and stylesheets there are among some paths. -/
def tallyOf (paths : List Path) : Tally where
  scripts := paths.countP fun path => HasSuffix scriptSuffix path.name
  styles := paths.countP fun path => HasSuffix styleSuffix path.name
  skipped := 0

/-- A session that puts names in scope counts a module as what its last suffix says. -/
theorem foldl_count_modules {config : Config} (henabled : config.enabled = true)
    (hmodules : ∀ path ∈ paths, isModule path = true) (tally : Tally) :
    (sourcesAt tree paths).foldl config.count tally =
      ⟨tally.scripts + (tallyOf paths).scripts, tally.styles + (tallyOf paths).styles,
        tally.skipped⟩ := by
  induction paths generalizing tally with
  | nil => rfl
  | cons path paths ih =>
    obtain ⟨hpath, hpaths⟩ := List.forall_mem_cons.1 hmodules
    rw [sourcesAt, List.map_cons, List.foldl_cons, ← sourcesAt, ih hpaths, Config.count,
      Config.kindOf, if_pos henabled]
    rcases isModule_iff.1 hpath with hscript | hstyle
    · have hother : ¬ HasSuffix styleSuffix path.name := fun hstyle =>
        not_hasSuffix_script hstyle (hasSuffix_iff.1 hscript).1
      rw [ofName_script hscript]
      simp [tallyOf, ModuleKind.count, hscript, hother, Nat.add_assoc, Nat.add_comm 1]
    · have hother : ¬ HasSuffix scriptSuffix path.name := fun hscript =>
        not_hasSuffix_script hstyle (hasSuffix_iff.1 hscript).1
      rw [ofName_style hstyle]
      simp [tallyOf, ModuleKind.count, hstyle, hother, Nat.add_assoc, Nat.add_comm 1]

/-- Where no path is too long, of whatever stands below a directory, the files with the suffix of a
module are listed, each once in the order of the parts; otherwise there is no list. A build that
gives a session that puts names in scope has counted the listed scripts and stylesheets, and has
passed no module through. -/
theorem modules_counted :
    (∀ (tree : FileTree) (root : Path), tree.IsStorable →
      ((∃ paths, modulePaths tree root = .ok paths) ↔ tree.locate root ≠ .error .nameTooLong ∧
        ∀ names entry, StandsBelow tree root names entry →
          FileTree.IsShort (root.extend names)) ∧
      ∀ paths, modulePaths tree root = .ok paths → ListsModules tree root paths) ∧
    ∀ (argv : List Text) (environment : Environment) (tree : FileTree) (printed : List Text)
      (session : Session), ((build argv environment).run ⟨tree, printed⟩).1 = .ok (some session) →
      session.enabled = true → ∃ root paths, rootOf? argv = some root ∧
        modulePaths tree (.ofText root) = .ok paths ∧ session.tally = tallyOf paths := by
  refine ⟨fun tree root htree => ⟨exists_modulePaths_iff htree, fun paths =>
    listsModules_modulePaths htree⟩, ?_⟩
  intro argv environment tree printed session hsession henabled
  by_cases hreaches : ∃ setup : Setup, setup.Reaches argv environment tree
  · obtain ⟨setup, hreaches⟩ := hreaches
    obtain ⟨outcome, hends, hrun⟩ := ends_build hreaches printed
    rw [hrun] at hsession
    cases hends with
    | @done paths mid final tree' manifest old new hmodules hread hdocument hmap lines =>
      cases hsession
      refine ⟨setup.arguments.root, paths, ?_, hmodules.listed, ?_⟩
      · rw [rootOf?, argumentsOf?_of_reaches hreaches]
        rfl
      · have hkinds : ∀ path ∈ paths, isModule path = true :=
          fun path hpath => isModule_of_mem_modulePaths hmodules.listed hpath
        exact (foldl_count_modules henabled hkinds {}).trans (by simp [tallyOf])
    | _ => cases hsession
  · exact absurd hsession
      ((idle_build_of_not_reaches (not_exists.1 hreaches) printed).none session)

/-- A site with names that look like those of modules: a point in front makes no suffix, a directory
is no module, and only the last suffix counts. -/
def oddSite : FileTree :=
  let tree : FileTree := ["d/.js", "d/..js", "d/a.b.js", "d/x.css/y.css", "d/a.js.map",
    "d/index.html"].foldl (fun tree file => tree.addFile (.ofText (Text.of file)) []) .empty
  tree.addDirectory (.ofText (Text.of "d/b.js"))

/-- What is listed on that site, and what a build counts. -/
theorem modules_counted_oddSite :
    ListsModules oddSite (.ofText ['d'])
        (["d/..js", "d/a.b.js", "d/x.css/y.css"].map fun file => .ofText (Text.of file)) ∧
      ∃ session, ((build [Text.of "--root", ['d']] []).run ⟨oddSite, []⟩).1 = .ok (some session) ∧
        session.tally = ⟨2, 1, 0⟩ := by
  obtain ⟨hlists, hcounts⟩ := modules_counted
  have hroot : oddSite.locate (.ofText ['d']) = .ok (.inside [['d']]) := by decide +kernel
  have hbelow : (oddSite.below [['d']]).map Prod.fst =
      ["..js", ".js", "a.b.js", "a.js.map", "b.js", "index.html", "x.css", "x.css/y.css"].map
        fun file => Path.partsOf (Text.of file) :=
    FileTree.names_below_eq (by decide +kernel) (by decide +kernel) (by decide +kernel)
  have hpaths : modulePaths oddSite (.ofText ['d']) = .ok
      (["d/..js", "d/a.b.js", "d/x.css/y.css"].map fun file => .ofText (Text.of file)) := by
    rw [modulePaths_of_below hroot hbelow]
    decide +kernel
  refine ⟨(hlists oddSite (.ofText ['d']) (by decide +kernel)).2 _ hpaths, ?_⟩
  have hreaches : (plainSetup none).Reaches [Text.of "--root", ['d']] [] oddSite :=
    reaches_iff.2 ⟨by decide +kernel, by decide +kernel⟩
  have hgiven : (plainSetup none).root = .ofText ['d'] := by decide +kernel
  have hrun : ((build [Text.of "--root", ['d']] []).run ⟨oddSite, []⟩).1.toOption.join.map
      Session.enabled = some true := by
    rw [run_build_of_listed hreaches (hgiven ▸ hpaths)]
    decide +kernel
  obtain ⟨session, hsession, henabled⟩ := Option.map_eq_some_iff.1 hrun
  have hreturns : ((build [Text.of "--root", ['d']] []).run ⟨oddSite, []⟩).1 =
      .ok (some session) := toOption_join_eq_some.1 hsession
  refine ⟨session, hreturns, ?_⟩
  obtain ⟨root, paths, hroot, hpaths', htally⟩ := hcounts _ _ _ _ _ hreturns henabled
  have hroot' : rootOf? [Text.of "--root", ['d']] = some ['d'] := by decide +kernel
  cases Option.some.inj (hroot'.symm.trans hroot)
  cases Except.ok.inj (hpaths.symm.trans hpaths')
  rw [htally]
  decide +kernel

/-! ## Winding paths -/

/-- A path that leads into a directory, and `n` times out of it and into it again. -/
def windingPath (n : Nat) : Path := ⟨[], ['d'] :: (List.replicate n [Path.up, ['d']]).flatten⟩

/-- A site with an empty stylesheet. -/
def styleSite : FileTree := FileTree.empty.addFile (.ofText (Text.of "d/a.css")) []

/-- Each turn makes a winding path five bytes longer. -/
theorem length_winding (n : Nat) (names : List Text) :
    (Utf8.encode (Text.join ['/'] ((windingPath n).parts ++ names))).length =
      5 * n + (Utf8.encode (Text.join ['/'] (['d'] :: names))).length := by
  induction n with
  | zero => simp [windingPath]
  | succ n ih =>
    have hturn : Text.join ['/'] ((windingPath (n + 1)).parts ++ names) =
        ['d', '/', '.', '.', '/'] ++ Text.join ['/'] ((windingPath n).parts ++ names) := by
      rw [windingPath, windingPath, List.replicate_succ]
      rfl
    rw [hturn, Utf8.encode, List.flatMap_append, List.length_append, ← Utf8.encode, ← Utf8.encode,
      ih, show (Utf8.encode ['d', '/', '.', '.', '/']).length = 5 by decide]
    omega

/-- A winding path leads into its directory if it is not too long. -/
theorem locate_windingPath {n : Nat} (h : 5 * n < FileTree.pathLimit) :
    styleSite.locate (windingPath n) = .ok (.inside [['d']]) := by
  refine FileTree.locate_eq_ok_iff.2 ⟨?_, ?_, ?_⟩
  · rw [Path.null_mem_text]
    rintro (hmem | ⟨part, hpart, hmem⟩)
    · cases hmem
    · obtain rfl | hpart := List.mem_cons.1 hpart
      · exact absurd hmem (by decide)
      · obtain ⟨turn, hturn, hpart⟩ := List.mem_flatten.1 hpart
        rw [List.eq_of_mem_replicate hturn, List.mem_pair] at hpart
        rcases hpart with rfl | rfl <;> exact absurd hmem (by decide)
  · have hlength := length_winding n []
    rw [List.append_nil, show (Utf8.encode (Text.join ['/'] [['d']])).length = 1 by decide]
      at hlength
    change (Utf8.encode (Text.join ['/'] (windingPath n).parts)).length ≤ FileTree.pathLimit
    omega
  · have hdirectory : styleSite.get? [['d']] = some .directory := by decide +kernel
    have hin : styleSite.step (.inside []) ['d'] = .ok (.inside [['d']]) := by decide +kernel
    have hout : styleSite.step (.inside [['d']]) Path.up = .ok (.inside []) := by
      rw [FileTree.step, FileTree.standing?, hdirectory]
      rfl
    change (['d'] :: (List.replicate n [Path.up, ['d']]).flatten).foldlM styleSite.step
      (.inside []) = .ok (.inside [['d']])
    rw [List.foldlM_cons, hin, ok_bind]
    induction n with
    | zero => rfl
    | succ n ih =>
      rw [List.replicate_succ, List.flatten_cons, List.foldlM_append, List.foldlM_cons, hout,
        ok_bind, List.foldlM_cons, hin, ok_bind, List.foldlM_nil]
      exact ih (by omega)

/-- Below a path that is almost too long a stylesheet stands, and yet there is no list. -/
theorem modulePaths_windingPath :
    styleSite.IsStorable ∧
      StandsBelow styleSite (windingPath 818) [Text.of "a.css"] (.file []) ∧
      HasSuffix styleSuffix (Text.of "a.css") ∧
      ¬ ∃ paths, modulePaths styleSite (windingPath 818) = .ok paths := by
  have htree : styleSite.IsStorable := by decide +kernel
  have hfile : StandsBelow styleSite (windingPath 818) [Text.of "a.css"] (.file []) :=
    ⟨[['d']], locate_windingPath (by decide), by simp, by decide +kernel⟩
  refine ⟨htree, hfile, by decide +kernel, fun h => ?_⟩
  have hshort := ((exists_modulePaths_iff htree).1 h).2 _ _ hfile
  have hlength := length_winding 818 [Text.of "a.css"]
  rw [show (Utf8.encode (Text.join ['/'] [['d'], Text.of "a.css"])).length = 7 by decide +kernel]
    at hlength
  have hlimit : 5 * 818 + 7 ≤ FileTree.pathLimit := hlength ▸ hshort
  exact absurd hlimit (by decide)

end Command

end ClassScope
