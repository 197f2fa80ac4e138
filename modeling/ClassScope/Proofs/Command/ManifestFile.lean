import ClassScope.Proofs.Command.Reading
import ClassScope.Proofs.Json.Depth
import ClassScope.Proofs.Site.Manifest
import ClassScope.Proofs.Text.Decoding

/-!
# Loading a manifest file

A manifest is loaded from a path at whose end anything may stand. A file that is missing or cannot
be read counts as an empty manifest, and one line says so; a document is read part by part. Names
that are too long and documents that are nested too deeply stop the job instead. Main statements:

- `exists_loads`: what is to be loaded from every path;
- `Loads.run_readManifest`, `StopsEarly.run_readManifest`: it is loaded where nothing stops the job
  early, and what does so;
- `readManifest_exact`: what is read of every document, and what is loaded from every path.
-/

namespace ClassScope.Command

/-- The line for a path at whose end nothing stands. -/
def notFoundLine (path : Path) : Text :=
  Text.of "[MANIFEST] not found: " ++ path.text ++ Text.of " (asset paths left as-is)"

/-- The line for a path at whose end something stands that cannot be read. -/
def unreadableLine (path : Path) (problem : String) : Text :=
  Text.of "[MANIFEST] unreadable: " ++ path.text ++ Text.of ": " ++ problem.toList ++
    Text.of " (asset paths left as-is)"

/-- How a manifest is to be loaded: what is given, or why the job stops, and the lines that are
printed. -/
inductive Loads (tree : FileTree) : Option Path → Except Stop Manifest → List Text → Prop where
  /-- Without a path the manifest is empty, and no line says so. -/
  | noPath : Loads tree none (.ok []) []
  /-- Nothing stands at the end of the path. -/
  | missing {path : Path} {fault : FileFault} (h : tree.at? path = .error fault) :
    Loads tree (some path) (.ok []) [notFoundLine path]
  /-- A directory stands at the end of the path. -/
  | directory {path : Path} (h : tree.at? path = .ok .directory) :
    Loads tree (some path) (.ok []) [unreadableLine path (FileError.message ⟨.isDirectory, path⟩)]
  /-- The bytes of the file are those of no text. -/
  | illFormed {path : Path} {bytes : List UInt8} {e : Utf8.Failure}
    (h : tree.at? path = .ok (.file bytes)) (hbytes : ∀ s, bytes ≠ Utf8.encode s)
    (hdecode : Utf8.decode bytes = .error e) :
    Loads tree (some path) (.ok []) [unreadableLine path e.message]
  /-- The text of the file is no document, whatever room there is. -/
  | invalid {path : Path} {s : Text} {room : Nat} {e : Json.Failure}
    (h : tree.at? path = .ok (.file (Utf8.encode s)))
    (hread : Json.readWithin room (Text.unifyLineEnds s) = .error e)
    (hdepth : e.fault.isDepth = false) :
    Loads tree (some path) (.ok []) [unreadableLine path (e.message (Text.unifyLineEnds s))]
  /-- The text of the file is a document, with room enough, and it is read part by part. -/
  | document {path : Path} {s : Text} {room : Nat} {document : Json}
    {result : Except Manifest.Fault Manifest}
    (h : tree.at? path = .ok (.file (Utf8.encode s)))
    (hread : Json.readWithin room (Text.unifyLineEnds s) = .ok document)
    (hresult : Manifest.Parses document result) :
    Loads tree (some path) (result.mapError fun fault => .failed (.manifest fault)) []

/-- What stops the job before a manifest is loaded. -/
inductive StopsEarly (tree : FileTree) : Option Path → Stop → Prop where
  /-- A name of the path is too long, or the path is. -/
  | longName {path : Path} (h : tree.at? path = .error .nameTooLong) :
    StopsEarly tree (some path) (.failed (.file ⟨.nameTooLong, path⟩))
  /-- Arrays and objects are nested too deeply. -/
  | deep {path : Path} {s : Text} {e : Json.Failure}
    (h : tree.at? path = .ok (.file (Utf8.encode s)))
    (hread : Json.read (Text.unifyLineEnds s) = .error e) (hdepth : e.fault.isDepth = true) :
    StopsEarly tree (some path) (.failed (.document e.fault))

variable {tree : FileTree} {path : Path} {printed lines : List Text} {s : Text}
  {answer : Except Stop Manifest} {given : Option Path} {stop : Stop}

/-- Loading starts with the document, where something is there. -/
theorem run_readManifest_of_has (hhas : tree.has path = .ok true) (printed : List Text) :
    (readManifest (some path)).run ⟨tree, printed⟩ =
      (readDocument tree path >>= fun found =>
        match found with
        | .ok document => Job.orFail .manifest (Manifest.ofJson document)
        | .error problem => do
          Job.print (unreadableLine path problem)
          return []).run ⟨tree, printed⟩ := by
  have hthere : (Job.has path).run ⟨tree, printed⟩ = (.ok true, ⟨tree, printed⟩) := by
    rw [Job.run_has, hhas]
    rfl
  rw [readManifest, Job.run_bind_ok hthere, if_pos rfl, Job.run_bind_ok (Job.run_tree _)]
  rfl

/-- A document that is found is read part by part. -/
theorem run_readManifest_of_document {document : Json} (hhas : tree.has path = .ok true)
    (hfound : readDocument tree path = pure (.ok document)) (printed : List Text) :
    (readManifest (some path)).run ⟨tree, printed⟩ =
      ((Manifest.ofJson document).mapError fun fault => .failed (.manifest fault),
        ⟨tree, printed⟩) := by
  rw [run_readManifest_of_has hhas, hfound, pure_bind]
  exact Job.run_orFail _ _ _

/-- A line says what is wrong with a file or its text. -/
theorem run_readManifest_of_problem {problem : String} (hhas : tree.has path = .ok true)
    (hfound : readDocument tree path = pure (.error problem)) (printed : List Text) :
    (readManifest (some path)).run ⟨tree, printed⟩ =
      (.ok [], ⟨tree, printed ++ [unreadableLine path problem]⟩) := by
  rw [run_readManifest_of_has hhas, hfound, pure_bind]
  exact Job.run_bind_ok (Job.run_print _ _)

/-- What is read of a document that does not stop the job is what is read with any other room with
which it is not too deep. -/
theorem read_eq_of_not_stopsEarly {room : Nat} (h : tree.at? path = .ok (.file (Utf8.encode s)))
    (hstops : ∀ stop, ¬ StopsEarly tree (some path) stop)
    (hroom : ¬ Json.TooDeep (Json.readWithin room (Text.unifyLineEnds s))) :
    Json.read (Text.unifyLineEnds s) = Json.readWithin room (Text.unifyLineEnds s) := by
  rw [Json.read_eq_readWithin]
  refine Json.readWithin_eq ?_ hroom
  rintro ⟨e, hread, hdepth⟩
  exact hstops _ (.deep h hread hdepth)

/-- Where nothing stops the job early, each way of loading is what happens, whatever was printed
before. No file is changed. -/
theorem Loads.run_readManifest (h : Loads tree given answer lines)
    (hstops : ∀ stop, ¬ StopsEarly tree given stop) (printed : List Text) :
    (readManifest given).run ⟨tree, printed⟩ = (answer, ⟨tree, printed ++ lines⟩) := by
  cases h with
  | noPath => simp [readManifest]
  | @missing path fault h =>
    have hname : fault ≠ .nameTooLong := by
      rintro rfl
      exact hstops _ (.longName h)
    have hhas : (Job.has path).run ⟨tree, printed⟩ = (.ok false, ⟨tree, printed⟩) := by
      rw [Job.run_has, FileTree.has, FileTree.look, h]
      simp
    rw [readManifest, Job.run_bind_ok hhas]
    exact Job.run_bind_ok (Job.run_print _ _)
  | directory h =>
    refine run_readManifest_of_problem (FileTree.has_of_at? h) ?_ printed
    rw [readDocument, FileTree.read, h]
  | illFormed h hbytes hdecode =>
    refine run_readManifest_of_problem (FileTree.has_of_at? h) ?_ printed
    rw [readDocument, FileTree.read_of_at? h]
    simp only [hdecode]
  | @invalid path s room e h hread hdepth =>
    have hroom : ¬ Json.TooDeep (Json.readWithin room (Text.unifyLineEnds s)) := by
      simp [hread, hdepth]
    refine run_readManifest_of_problem (FileTree.has_of_at? h) ?_ printed
    rw [readDocument, FileTree.read_of_at? h]
    simp only [Utf8.decode_eq_ok_iff.2 rfl, read_eq_of_not_stopsEarly h hstops hroom, hread, hdepth]
    rfl
  | @document path s room document result h hread hresult =>
    have hroom : ¬ Json.TooDeep (Json.readWithin room (Text.unifyLineEnds s)) := by
      simp [hread]
    rw [List.append_nil, ← hresult.ofJson_eq]
    refine run_readManifest_of_document (FileTree.has_of_at? h) ?_ printed
    rw [readDocument, FileTree.read_of_at? h]
    simp only [Utf8.decode_eq_ok_iff.2 rfl, read_eq_of_not_stopsEarly h hstops hroom, hread]

/-- What stops the job early does so, and nothing is printed. -/
theorem StopsEarly.run_readManifest (h : StopsEarly tree given stop) (printed : List Text) :
    (readManifest given).run ⟨tree, printed⟩ = (.error stop, ⟨tree, printed⟩) := by
  cases h with
  | @longName path h =>
    have hhas : (Job.has path).run ⟨tree, printed⟩ =
        (.error (.failed (.file ⟨.nameTooLong, path⟩)), ⟨tree, printed⟩) := by
      rw [Job.run_has, FileTree.has, FileTree.look, h]
      rfl
    rw [readManifest, Job.run_bind_error hhas]
  | @deep path s e h hread hdepth =>
    have hfound : readDocument tree path = throw (.failed (.document e.fault)) := by
      rw [readDocument, FileTree.read_of_at? h]
      simp only [Utf8.decode_eq_ok_iff.2 rfl, hread, hdepth]
      rfl
    rw [run_readManifest_of_has (FileTree.has_of_at? h), hfound]
    rfl

/-- No way of loading ends in one of these stops. -/
theorem StopsEarly.not_loads (h : StopsEarly tree given stop) :
    ¬ Loads tree given (.error stop) lines := by
  intro hloads
  generalize hanswer : (.error stop : Except Stop Manifest) = answer at hloads
  cases hloads with
  | @document _ _ _ _ result _ _ _ =>
    cases result with
    | ok manifest => cases hanswer
    | error fault =>
      cases hanswer
      cases h
  | _ => cases hanswer

/-- From every path something is to be loaded. -/
theorem exists_loads (tree : FileTree) (given : Option Path) :
    ∃ answer lines, Loads tree given answer lines := by
  cases given with
  | none => exact ⟨_, _, .noPath⟩
  | some path =>
    match hentry : tree.at? path with
    | .error fault => exact ⟨_, _, .missing hentry⟩
    | .ok .directory => exact ⟨_, _, .directory hentry⟩
    | .ok (.file bytes) =>
      cases hdecode : Utf8.decode bytes with
      | error e =>
        have hbytes : ∀ s, bytes ≠ Utf8.encode s := by
          intro s h
          rw [Utf8.decode_eq_ok_iff.2 h] at hdecode
          cases hdecode
        exact ⟨_, _, .illFormed hentry hbytes hdecode⟩
      | ok s =>
        obtain rfl := Utf8.decode_eq_ok_iff.1 hdecode
        obtain ⟨room, hroom⟩ := Json.exists_not_tooDeep (Text.unifyLineEnds s)
        cases hread : Json.readWithin room (Text.unifyLineEnds s) with
        | error e =>
          rw [hread, Json.tooDeep_error, Bool.not_eq_true] at hroom
          exact ⟨_, _, .invalid hentry hread hroom⟩
        | ok document =>
          obtain ⟨result, hresult⟩ := Manifest.exists_parses document
          exact ⟨_, _, .document hentry hread hresult⟩

/-- What is read of a document is an entry for each of its parts, in their order, or the fault of
the first part that has one. From every path some manifest is to be loaded. It is loaded like that,
and in no other way, exactly if no name is too long and the document is not nested too deeply.
Otherwise the job stops for that. No file is changed in any case. -/
theorem readManifest_exact (document : Json) (result : Except Manifest.Fault Manifest)
    (tree : FileTree) (given : Option Path) (printed : List Text) :
    (Manifest.ofJson document = result ↔ Manifest.Parses document result) ∧
      (∃ answer lines, Loads tree given answer lines) ∧
      ((∀ answer lines,
          (readManifest given).run ⟨tree, printed⟩ = (answer, ⟨tree, printed ++ lines⟩) ↔
            Loads tree given answer lines) ↔
        ∀ stop, ¬ StopsEarly tree given stop) ∧
      ∀ stop, StopsEarly tree given stop →
        (readManifest given).run ⟨tree, printed⟩ = (.error stop, ⟨tree, printed⟩) := by
  refine ⟨Manifest.ofJson_eq_iff, exists_loads tree given, ⟨?_, ?_⟩,
    fun stop hstop => hstop.run_readManifest printed⟩
  · -- A stop would be a way of loading, but the only errors there are faults of a part.
    intro hexact stop hstop
    refine hstop.not_loads ((hexact (.error stop) []).1 ?_)
    rw [hstop.run_readManifest, List.append_nil]
  · intro hstops answer lines
    constructor
    · intro h
      -- Some way of loading is what happens, and only one thing happens.
      obtain ⟨answer', lines', hloads⟩ := exists_loads tree given
      rw [hloads.run_readManifest hstops] at h
      cases List.append_cancel_left (congrArg (fun run => run.2.printed) h)
      cases congrArg Prod.fst h
      exact hloads
    · exact fun h => h.run_readManifest hstops printed

/-- Where a path has a name of 256 letters, the job stops, and no line says that nothing stands
there. -/
theorem readManifest_longName :
    let path := Path.ofText (List.replicate 256 'a')
    Loads .empty (some path) (.ok []) [notFoundLine path] ∧
      (readManifest (some path)).run ⟨.empty, []⟩ =
        (.error (.failed (.file ⟨.nameTooLong, path⟩)), ⟨.empty, []⟩) := by
  intro path
  have hentry : FileTree.empty.at? path = .error .nameTooLong := by decide +kernel
  obtain ⟨-, -, -, hstops⟩ := readManifest_exact .null (.ok []) .empty (some path) []
  exact ⟨.missing hentry, hstops _ (.longName hentry)⟩

end ClassScope.Command
