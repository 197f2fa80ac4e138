import ClassScope.Proofs.Outcome
import ClassScope.Site.Manifest

/-!
# The parts of a manifest

A manifest is read part by part: some items of a list and some members of an object stand for an
emitted file, and all others for none. A part has one entry, but the names of its sources may be a
value that has no first one, and then the first such part makes the reading fail. Main statements:

- `Manifest.sourceOf_eq`: the source that is read of an entry, or what is wrong with it;
- `Manifest.ofJson_eq`: what is read of a document is what its parts give one after the other;
- `Manifest.ofJson_eq_iff`: the entries of all parts are read, or the first fault.
-/

namespace ClassScope.Manifest

/-- The members of an object. -/
abbrev Fields := List (WideText × Json)

/-- The text of the first true value that some fields have under these names, if there is one. -/
def nameUnder (names : List String) (fields : Fields) : WideText :=
  ((names.map fun name => Json.member name fields).find? Json.truthy).elim [] Json.text

/-- A part of a manifest that stands for an emitted file. -/
inductive Part where
  /-- An item of a list, which has a key. -/
  | item (fields : Fields)
  /-- A member of an object, which has a kind. Its name is that of the file. -/
  | emitted (name : WideText) (fields : Fields)
  /-- A member of an object, which has no kind but a file. Its name is that of the source. -/
  | made (name : WideText) (fields : Fields)

namespace Part

/-- The first of several source names: the text of the first item of an array, or the first
character of a string. -/
def firstSource : Json → WideText
  | .array (v :: _) => v.text
  | .string (c :: _) => [c]
  | _ => []

/-- The source that some fields name: the one name of the source, else the first of several, else
the source path, else the name. -/
def sourceName (fields : Fields) : WideText :=
  let name := Json.member "originalFileName" fields
  let names := Json.member "originalFileNames" fields
  if name.truthy then name.text
  else if names.truthy then firstSource names
  else nameUnder ["src", "name"] fields

/-- What is wrong with source names that are neither false nor a list of names: a truth value and a
number have no first one, and an object has none either. -/
def namesFault? : Json → Option Fault
  | .bool true => some .boolNames
  | .int n => if n = 0 then none else some .intNames
  | .float x => if x.isZero then none else some .floatNames
  | .object (_ :: _) => some .objectNames
  | _ => none

/-- What is wrong with the source that some fields name. The names of several sources are looked at
where the one name of the source is false. -/
def sourceFault? (fields : Fields) : Option Fault :=
  if (Json.member "originalFileName" fields).truthy then none
  else namesFault? (Json.member "originalFileNames" fields)

/-- What is wrong with a part. -/
def fault? : Part → Option Fault
  | item fields => sourceFault? fields
  | emitted _ fields => sourceFault? fields
  | made _ _ => none

/-- The entry of a part. -/
def asset : Part → Asset
  | item fields =>
    ⟨nameUnder ["key"] fields, nameUnder ["kind", "type"] fields, sourceName fields⟩
  | emitted name fields => ⟨name, nameUnder ["type", "kind"] fields, sourceName fields⟩
  | made name fields =>
    let file := nameUnder ["file"] fields
    let path := nameUnder ["src"] fields
    ⟨file, kindOfFile file, if (Json.member "src" fields).truthy then path else name⟩

/-- What a part gives: its fault, or else its entry. -/
def entry (part : Part) : Except Fault Asset := part.fault?.elim (.ok part.asset) .error

/-- The part that an item of a list is, if it is an object with a key. -/
def ofItem? : Json → Option Part
  | .object fields => if (Json.member "key" fields).truthy then some (.item fields) else none
  | _ => none

/-- The part that a member of an object is, if it is an object with a kind under one of its two
names, or else with a file. -/
def ofMember? (name : WideText) : Json → Option Part
  | .object fields =>
    if (Json.member "type" fields).truthy || (Json.member "kind" fields).truthy then
      some (.emitted name fields)
    else if (Json.member "file" fields).truthy then some (.made name fields)
    else none
  | _ => none

end Part

/-- The parts of a manifest that stand for emitted files, in their order. -/
def parts : Json → List Part
  | .array items => items.filterMap Part.ofItem?
  | .object members => members.filterMap fun member => Part.ofMember? member.1 member.2
  | _ => []

/-- What is read of a document. -/
inductive Parses (document : Json) : Except Fault Manifest → Prop where
  /-- No part has a fault: there is one entry for each part, in their order. -/
  | entries (h : ∀ part ∈ parts document, part.fault? = none) :
    Parses document (.ok ((parts document).map Part.asset))
  /-- Some part has a fault, and none before it has one. -/
  | fault {front back : List Part} {part : Part} {fault : Fault}
    (hparts : parts document = front ++ part :: back) (hfront : ∀ p ∈ front, p.fault? = none)
    (hpart : part.fault? = some fault) :
    Parses document (.error fault)

variable {fields : Fields} {document : Json} {α : Type}

/-! ## One part -/

/-- The value of the first of two fields that is true has the text under both names. -/
theorem nameUnder_pair (name other : String) (fields : Fields) :
    nameUnder [name, other] fields =
      let value := (Json.member name fields).orElse (Json.member other fields)
      if value.truthy then value.text else [] := by
  cases hname : (Json.member name fields).truthy <;>
    cases hother : (Json.member other fields).truthy <;>
      simp [nameUnder, Json.orElse, hname, hother]

theorem nameUnder_singleton {name : String} (h : (Json.member name fields).truthy = true) :
    nameUnder [name] fields = (Json.member name fields).text := by
  simp [nameUnder, h]

theorem truthy_orElse (v w : Json) : (v.orElse w).truthy = (v.truthy || w.truthy) := by
  cases h : v.truthy <;> simp [Json.orElse, h]

/-- A false value has no fault. -/
theorem namesFault?_of_not_truthy {names : Json} (h : names.truthy = false) :
    Part.namesFault? names = none := by
  unfold Part.namesFault?
  split <;> simp_all [Json.truthy]

/-- A true value has a first name or a fault. -/
theorem firstName_eq {names : Json} (h : names.truthy = true) :
    firstName names = (Part.namesFault? names).elim (.ok (Part.firstSource names)) .error := by
  unfold firstName Part.namesFault? Part.firstSource
  split <;> simp_all [Json.truthy]

theorem sourceOf_eq (fields : Fields) :
    sourceOf fields = (Part.sourceFault? fields).elim (.ok (Part.sourceName fields)) .error := by
  rw [sourceOf, Part.sourceFault?, Part.sourceName, nameUnder_pair]
  cases hname : (Json.member "originalFileName" fields).truthy
  · cases hnames : (Json.member "originalFileNames" fields).truthy
    · simp [namesFault?_of_not_truthy hnames]
    · simp [firstName_eq hnames]
  · simp

/-- An item of a list gives what the part that it is gives. -/
theorem ofItem?_eq (item : Json) : ofItem? item = (Part.ofItem? item).mapM Part.entry := by
  cases item with
  | object fields =>
    -- Both ask for the key first, and look at the source names only where there is one.
    rw [ofItem?, Part.ofItem?, sourceOf_eq]
    cases hkey : (Json.member "key" fields).truthy
    · rfl
    · cases hfault : Part.sourceFault? fields <;>
        simp [hfault, Part.entry, Part.fault?, Part.asset, nameUnder_pair,
          nameUnder_singleton hkey]
  | _ => rfl

/-- A member of an object gives what the part that it is gives. -/
theorem ofMember?_eq (name : WideText) (value : Json) :
    ofMember? name value = (Part.ofMember? name value).mapM Part.entry := by
  cases value with
  | object fields =>
    -- The file is asked for only where there is no kind, and then no source name is looked at.
    rw [ofMember?, Part.ofMember?, sourceOf_eq, ← truthy_orElse]
    cases hkind : ((Json.member "type" fields).orElse (Json.member "kind" fields)).truthy
    · cases hfile : (Json.member "file" fields).truthy
      · rfl
      · cases hpath : (Json.member "src" fields).truthy <;>
          simp [hpath, Part.entry, Part.fault?, Part.asset, nameUnder_singleton hfile,
            nameUnder_singleton]
    · cases hfault : Part.sourceFault? fields <;>
        simp [hkind, hfault, Part.entry, Part.fault?, Part.asset, nameUnder_pair]
  | _ => rfl

/-! ## All parts -/

/-- What is gathered is what the parts give one after the other. -/
theorem gather_eq {assetOf : α → Except Fault (Option Asset)} {part? : α → Option Part}
    (h : ∀ a, assetOf a = (part? a).mapM Part.entry) (as : List α) :
    gather assetOf as = (as.filterMap part?).mapM Part.entry := by
  induction as with
  | nil => rfl
  | cons a as ih =>
    rw [gather, h, ih]
    cases hpart : part? a with
    | none => simp [hpart]
    | some part => simp [hpart]

/-- What is read of a document is what its parts give one after the other. -/
theorem ofJson_eq (document : Json) : ofJson document = (parts document).mapM Part.entry := by
  cases document with
  | array items => exact gather_eq ofItem?_eq items
  | object members => exact gather_eq (fun member => ofMember?_eq member.1 member.2) members
  | _ => rfl

/-- Parts without a fault have an entry each. -/
theorem mapM_entry_of_faultless {parts : List Part} (h : ∀ part ∈ parts, part.fault? = none) :
    parts.mapM Part.entry = .ok (parts.map Part.asset) := by
  induction parts with
  | nil => rfl
  | cons part parts ih =>
    obtain ⟨hpart, hparts⟩ := List.forall_mem_cons.1 h
    have hentry : part.entry = .ok part.asset := by rw [Part.entry, hpart]; rfl
    rw [List.mapM_cons, hentry, ih hparts]
    rfl

/-- The first fault of some parts is what they give, whatever comes after it. -/
theorem mapM_entry_of_fault {front : List Part} {part : Part} {fault : Fault}
    (hfront : ∀ p ∈ front, p.fault? = none) (hpart : part.fault? = some fault)
    (back : List Part) : (front ++ part :: back).mapM Part.entry = .error fault := by
  have hentry : part.entry = .error fault := by rw [Part.entry, hpart]; rfl
  rw [List.mapM_append, mapM_entry_of_faultless hfront, List.mapM_cons, hentry]
  rfl

/-- What a document parses to is what is read of it. -/
theorem Parses.ofJson_eq {result : Except Fault Manifest} (h : Parses document result) :
    ofJson document = result := by
  cases h with
  | entries h => rw [Manifest.ofJson_eq, mapM_entry_of_faultless h]
  | fault hparts hfront hpart =>
    rw [Manifest.ofJson_eq, hparts, mapM_entry_of_fault hfront hpart]

/-- Every document parses to something. -/
theorem exists_parses (document : Json) : ∃ result, Parses document result := by
  cases hfault : (parts document).findSome? Part.fault? with
  | none => exact ⟨_, .entries (List.findSome?_eq_none_iff.1 hfault)⟩
  | some fault =>
    obtain ⟨front, part, back, hparts, hpart, hfront⟩ := List.findSome?_eq_some_iff.1 hfault
    exact ⟨_, .fault hparts hfront hpart⟩

/-- What is read of a document is what the document parses to. -/
theorem ofJson_eq_iff {result : Except Fault Manifest} :
    ofJson document = result ↔ Parses document result := by
  constructor
  · rintro rfl
    obtain ⟨result, h⟩ := exists_parses document
    rwa [h.ofJson_eq]
  · exact Parses.ofJson_eq

end ClassScope.Manifest
