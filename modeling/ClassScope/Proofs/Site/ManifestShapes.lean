import ClassScope.Proofs.Site.Manifest
import ClassScope.Site.Preview
import Mathlib.Data.List.Basic

/-!
# The shapes of a manifest

The same files may be written down in three shapes. Where the shapes say the same, the same entries
are read of them, or reading fails in the same way. Main statements:

- `Manifest.entry_of_keyedBy`: a member of an object and an item that has its name as key;
- `Manifest.ofJson_bySource`, `Manifest.ofJson_byFile`: what is read of files by their sources and
  by their own names;
- `Manifest.shapes_agree`: the shapes agree.
-/

namespace ClassScope.Manifest

variable {name : WideText} {fields item : Fields} {file source : WideText} {α : Type}

/-! ## Members -/

/-- The value of the first member is found under its name. -/
theorem member_cons (name other : String) (v : Json) (fields : Fields) :
    Json.member name ((WideText.of other, v) :: fields) =
      if other = name then v else Json.member name fields := by
  by_cases h : other = name
  · simp [Json.member, Table.get?_cons, h]
  · simp [Json.member, Table.get?_cons, WideText.of_inj, h]

@[simp]
theorem member_nil (name : String) : Json.member name [] = .null := rfl

/-- The order of two names does not matter where only one of them has a true value. -/
theorem nameUnder_comm {first second : String}
    (h : (Json.member first fields).truthy ≠ (Json.member second fields).truthy) :
    nameUnder [first, second] fields = nameUnder [second, first] fields := by
  rw [nameUnder_pair, nameUnder_pair, Json.orElse, Json.orElse]
  cases hfirst : (Json.member first fields).truthy <;>
    cases hsecond : (Json.member second fields).truthy <;> simp_all

/-- An object that has a name as its key, and otherwise the members of another object. -/
structure KeyedBy (name : WideText) (fields item : Fields) : Prop where
  /-- The key is the name. -/
  key : Table.get? item (WideText.of "key") = some (.string name)
  /-- All other members are those of the object. -/
  others : ∀ other, other ≠ WideText.of "key" → Table.get? item other = Table.get? fields other

/-- A key is put into an object. -/
theorem keyedBy_put (name : WideText) (fields : Fields) :
    KeyedBy name fields (Table.put (WideText.of "key") (.string name) fields) :=
  ⟨Table.get?_put_self _ _ _, fun _ => Table.get?_put_of_ne _ _⟩

theorem KeyedBy.member_key (h : KeyedBy name fields item) :
    Json.member "key" item = .string name := by
  rw [Json.member, h.key, Option.getD_some]

/-- A key that is not empty counts as one. -/
theorem KeyedBy.truthy_key (h : KeyedBy name fields item) (hname : name ≠ []) :
    (Json.member "key" item).truthy = true := by
  simpa [h.member_key, Json.truthy] using hname

theorem KeyedBy.member_eq (h : KeyedBy name fields item) {other : String} (hother : other ≠ "key") :
    Json.member other item = Json.member other fields := by
  rw [Json.member, Json.member, h.others _ (mt WideText.of_inj.1 hother)]

/-- A member of an object gives what an item gives that has its name as key. -/
theorem entry_of_keyedBy (h : KeyedBy name fields item) (hname : name ≠ [])
    (hkind : (Json.member "type" fields).truthy ≠ (Json.member "kind" fields).truthy) :
    (Part.item item).entry = (Part.emitted name fields).entry := by
  have hkey : nameUnder ["key"] item = name := by
    rw [nameUnder_singleton (h.truthy_key hname), h.member_key, Json.text]
  -- The shapes ask for the two names of the kind in different orders.
  have hkinds : nameUnder ["kind", "type"] item = nameUnder ["type", "kind"] fields := by
    rw [nameUnder_comm hkind, nameUnder_pair, nameUnder_pair, h.member_eq (by decide),
      h.member_eq (by decide)]
  have hsource : Part.sourceName item = Part.sourceName fields := by
    simp (disch := decide) only [Part.sourceName, nameUnder_pair, h.member_eq]
  have hfault : Part.sourceFault? item = Part.sourceFault? fields := by
    simp (disch := decide) only [Part.sourceFault?, h.member_eq]
  rw [Part.entry, Part.entry, Part.fault?, Part.fault?, Part.asset, Part.asset, hkey, hkinds,
    hsource, hfault]

/-! ## Parts -/

/-- Where each member or item is a part, these are the parts. -/
theorem filterMap_map_of_some {β : Type} {part? : β → Option Part} {written : α → β}
    {part : α → Part} {as : List α} (h : ∀ a ∈ as, part? (written a) = some (part a)) :
    (as.map written).filterMap part? = as.map part := by
  rw [List.filterMap_map, ← List.filterMap_eq_map]
  exact List.filterMap_congr h

/-- Parts that give the same one by one give the same. -/
theorem mapM_entry_congr {part part' : α → Part} {as : List α}
    (h : ∀ a ∈ as, (part a).entry = (part' a).entry) :
    (as.map part).mapM Part.entry = (as.map part').mapM Part.entry := by
  induction as with
  | nil => rfl
  | cons a as ih =>
    obtain ⟨hhead, htail⟩ := List.forall_mem_cons.1 h
    rw [List.map_cons, List.map_cons, List.mapM_cons, List.mapM_cons, hhead, ih htail]

/-- An object whose members have a kind each is read as the list of items with their names as keys.
-/
theorem ofJson_of_keyedBy {members : List (WideText × Fields)} {item : WideText × Fields → Fields}
    (h : ∀ member ∈ members, member.1 ≠ [] ∧
      (Json.member "type" member.2).truthy ≠ (Json.member "kind" member.2).truthy ∧
      KeyedBy member.1 member.2 (item member)) :
    ofJson (.object (members.map fun member => (member.1, .object member.2))) =
      ofJson (.array (members.map fun member => .object (item member))) := by
  have hmembers : ∀ member ∈ members, Part.ofMember? member.1 (.object member.2) =
      some (.emitted member.1 member.2) := by
    intro member hmember
    obtain ⟨-, hkind, -⟩ := h member hmember
    have hsome : ((Json.member "type" member.2).truthy || (Json.member "kind" member.2).truthy) =
        true := by
      revert hkind
      cases (Json.member "type" member.2).truthy <;> simp
    rw [Part.ofMember?, if_pos hsome]
  have hitems : ∀ member ∈ members, Part.ofItem? (.object (item member)) =
      some (.item (item member)) := by
    intro member hmember
    obtain ⟨hname, -, hkeyed⟩ := h member hmember
    rw [Part.ofItem?, if_pos (hkeyed.truthy_key hname)]
  rw [ofJson_eq, ofJson_eq, parts, parts, filterMap_map_of_some hmembers,
    filterMap_map_of_some hitems]
  refine mapM_entry_congr fun member hmember => ?_
  obtain ⟨hname, hkind, hkeyed⟩ := h member hmember
  exact (entry_of_keyedBy hkeyed hname hkind).symm

/-! ## Files with their sources -/

/-- The kind that the ending of a file name says. -/
def kindByEnding (file : WideText) : WideText :=
  if WideText.of ".js" <:+ file ∨ WideText.of ".mjs" <:+ file then WideText.of "chunk"
  else WideText.of "asset"

theorem kindOfFile_eq (file : WideText) : kindOfFile file = kindByEnding file := by
  simp [kindOfFile, kindByEnding, chunkSuffixes, Text.endsWith_iff]

theorem kindByEnding_ne_nil (file : WideText) : kindByEnding file ≠ [] := by
  rw [kindByEnding]
  split <;> simp [WideText.of, WideText.ofText, Text.of_eq_toList]

/-- The manifest in which the sources of some files have the file each, for pairs of a source and
its file. -/
def bySource (pairs : List (WideText × WideText)) : Json :=
  .object (pairs.map fun pair =>
    (pair.1, .object [(WideText.of "file", .string pair.2), (WideText.of "src", .string pair.1)]))

/-- The manifest in which some files have their kind and their source each, for pairs of a source
and its file. -/
def byFile (pairs : List (WideText × WideText)) : Json :=
  .object (pairs.map fun pair =>
    (pair.2, .object [(WideText.of "type", .string (kindByEnding pair.2)),
      (WideText.of "originalFileName", .string pair.1)]))

/-- The entry of a file with its source. -/
def ofPair (pair : WideText × WideText) : Asset := ⟨pair.2, kindByEnding pair.2, pair.1⟩

/-- Members that have the entry of their pair each give these entries. -/
theorem ofJson_of_pairs {pairs : List (WideText × WideText)}
    {written : WideText × WideText → WideText × Json} (part : WideText × WideText → Part)
    (h : ∀ pair ∈ pairs, Part.ofMember? (written pair).1 (written pair).2 = some (part pair) ∧
      (part pair).fault? = none ∧ (part pair).asset = ofPair pair) :
    ofJson (.object (pairs.map written)) = .ok (pairs.map ofPair) := by
  rw [ofJson_eq, parts, filterMap_map_of_some fun pair hpair => (h pair hpair).1,
    mapM_entry_of_faultless (List.forall_mem_map.2 fun pair hpair => (h pair hpair).2.1),
    List.map_map]
  exact congrArg _ (List.map_congr_left fun pair hpair => (h pair hpair).2.2)

/-- A manifest of files by their sources has an entry for each. -/
theorem ofJson_bySource {pairs : List (WideText × WideText)} (h : ∀ pair ∈ pairs, pair.2 ≠ []) :
    ofJson (bySource pairs) = .ok (pairs.map ofPair) := by
  refine ofJson_of_pairs (fun pair => .made pair.1
    [(WideText.of "file", .string pair.2), (WideText.of "src", .string pair.1)])
    fun pair hpair => ⟨?_, rfl, ?_⟩
  · simp [Part.ofMember?, member_cons, Json.truthy, h pair hpair]
  · -- Without a source the name of the member is none either.
    cases hsource : pair.1 <;>
      simp [Part.asset, member_cons, nameUnder, Json.truthy, Json.text, h pair hpair,
        kindOfFile_eq, ofPair, hsource]

/-- A manifest of files by their own names has an entry for each. -/
theorem ofJson_byFile (pairs : List (WideText × WideText)) :
    ofJson (byFile pairs) = .ok (pairs.map ofPair) := by
  refine ofJson_of_pairs (fun pair => .emitted pair.2
    [(WideText.of "type", .string (kindByEnding pair.2)),
      (WideText.of "originalFileName", .string pair.1)])
    fun pair _ => ⟨?_, ?_, ?_⟩
  · simp [Part.ofMember?, member_cons, Json.truthy, kindByEnding_ne_nil]
  · simp [Part.fault?, Part.sourceFault?, member_cons, Part.namesFault?]
  · have hkind := kindByEnding_ne_nil pair.2
    rw [Part.asset, ofPair, nameUnder_pair, Part.sourceName, nameUnder_pair]
    -- The other names have no values here.
    simp only [member_cons, member_nil, String.reduceEq, if_true, if_false]
    cases hsource : pair.1 <;> simp [Json.orElse, Json.truthy, Json.text, hkind]

/-! ## Agreement -/

/-- The shapes agree. An object whose members have a kind each, under just one of its two names,
gives what the list gives in which the items have the names of the members as keys: the same
entries, or the same fault. Files with their sources have the same entries by their sources and by
their own names, so they give the preview image the same address. -/
theorem shapes_agree :
    (∀ (members : List (WideText × Fields)) (item : WideText × Fields → Fields),
      (∀ member ∈ members, member.1 ≠ [] ∧
        (Json.member "type" member.2).truthy ≠ (Json.member "kind" member.2).truthy ∧
        KeyedBy member.1 member.2 (item member)) →
      ofJson (.object (members.map fun member => (member.1, .object member.2))) =
        ofJson (.array (members.map fun member => .object (item member)))) ∧
    ∀ pairs : List (WideText × WideText), (∀ pair ∈ pairs, pair.2 ≠ []) →
      ofJson (bySource pairs) = .ok (pairs.map ofPair) ∧
      ofJson (byFile pairs) = .ok (pairs.map ofPair) ∧
      ∀ baseUrl marker path html,
        (Preview.link · baseUrl marker path html) <$> ofJson (bySource pairs) =
          (Preview.link · baseUrl marker path html) <$> ofJson (byFile pairs) := by
  refine ⟨fun members item h => ofJson_of_keyedBy h, fun pairs h => ?_⟩
  have hsource := ofJson_bySource h
  have hfile := ofJson_byFile pairs
  exact ⟨hsource, hfile, fun baseUrl marker path html => by rw [hsource, hfile]⟩

/-- An image and a script, each with its kind under one of its two names. -/
def imageMembers : List (WideText × Fields) :=
  [(WideText.of "a.png", [(WideText.of "type", .string (WideText.of "asset")),
      (WideText.of "originalFileNames", .array [.string (WideText.of "a.svg")])]),
    (WideText.of "b.js", [(WideText.of "kind", .string (WideText.of "chunk"))])]

/-- An image with unusable names behind them. -/
def faultyMembers : List (WideText × Fields) :=
  imageMembers ++ [(WideText.of "c.png", [(WideText.of "kind", .string (WideText.of "asset")),
    (WideText.of "originalFileNames", .bool true)])]

/-- The object with some members. -/
def objectOf (members : List (WideText × Fields)) : Json :=
  .object (members.map fun member => (member.1, .object member.2))

/-- The list with the names of these members as keys. -/
def listOf (members : List (WideText × Fields)) : Json :=
  .array (members.map fun member =>
    .object (Table.put (WideText.of "key") (.string member.1) member.2))

/-- An image and a script have their entries in this order in all shapes. With a third member whose
names are unusable an object and a list fail alike. -/
theorem shapes_agree_image :
    ofJson (objectOf imageMembers) = ofJson (listOf imageMembers) ∧
    ofJson (listOf imageMembers) =
      .ok [⟨WideText.of "a.png", WideText.of "asset", WideText.of "a.svg"⟩,
        ⟨WideText.of "b.js", WideText.of "chunk", []⟩] ∧
    ofJson (objectOf faultyMembers) = ofJson (listOf faultyMembers) ∧
    ofJson (listOf faultyMembers) = .error .boolNames ∧
    let pairs := [(WideText.of "a.svg", WideText.of "a.png"),
      (WideText.of "b.ts", WideText.of "b.js")]
    ofJson (bySource pairs) = ofJson (byFile pairs) ∧
      ofJson (byFile pairs) =
        .ok [⟨WideText.of "a.png", WideText.of "asset", WideText.of "a.svg"⟩,
          ⟨WideText.of "b.js", WideText.of "chunk", WideText.of "b.ts"⟩] := by
  have hmembers : ∀ member ∈ faultyMembers, member.1 ≠ [] ∧
      (Json.member "type" member.2).truthy ≠ (Json.member "kind" member.2).truthy := by
    decide +kernel
  have hagree : ∀ members : List (WideText × Fields), members ⊆ faultyMembers →
      ofJson (objectOf members) = ofJson (listOf members) := fun members hsub =>
    shapes_agree.1 members _ fun member hmember =>
      ⟨(hmembers member (hsub hmember)).1, (hmembers member (hsub hmember)).2, keyedBy_put _ _⟩
  obtain ⟨hsource, hfile, -⟩ := shapes_agree.2 [(WideText.of "a.svg", WideText.of "a.png"),
    (WideText.of "b.ts", WideText.of "b.js")] (by decide +kernel)
  refine ⟨hagree imageMembers (List.subset_append_left _ _), by decide +kernel,
    hagree faultyMembers (List.Subset.refl _), by decide +kernel, ?_, ?_⟩
  · rw [hsource, hfile]
  · rw [hfile]
    decide +kernel

end ClassScope.Manifest
