import ClassScope.Json.Value

/-!
# Asset manifests

A bundler writes down which files it emitted. Three shapes of this list are understood: an object of
emitted names with a kind each, an object of source names with the emitted `file` each, and a list
of objects with a `key` each. All give the same entries. Names are wide, as the strings of the list
are.
-/

namespace ClassScope

/-- An emitted file. -/
structure Asset where
  /-- The name it was emitted under. -/
  key : WideText
  /-- What kind of file it is. -/
  kind : WideText
  /-- The source it was made from. -/
  source : WideText
  deriving DecidableEq, Repr

/-- The file is an asset, which holds no code. -/
def Asset.isAsset (entry : Asset) : Bool := entry.kind == WideText.of "asset"

/-- The files that a bundler emitted, in its order. -/
abbrev Manifest := List Asset

namespace Manifest

/-- Why the names of the sources of an entry cannot be used. -/
inductive Fault where
  /-- A truth value stands where the names should. -/
  | boolNames
  /-- An integer stands where the names should. -/
  | intNames
  /-- A number with a fraction or exponent stands where the names should. -/
  | floatNames
  /-- An object stands where the names should, and it has no first one. -/
  | objectNames
  deriving DecidableEq, Repr

/-- The wording of a fault. -/
def Fault.message : Fault → String
  | .boolNames => "'bool' object is not subscriptable"
  | .intNames => "'int' object is not subscriptable"
  | .floatNames => "'float' object is not subscriptable"
  | .objectNames => "0"

/-- The first of several source names. -/
def firstName : Json → Except Fault WideText
  | .array (v :: _) => .ok v.text
  | .string (c :: _) => .ok [c]
  | .bool true => .error .boolNames
  | .int _ => .error .intNames
  | .float _ => .error .floatNames
  | .object (_ :: _) => .error .objectNames
  | _ => .ok []

/-- The source of an entry: its one source name, else the first of several, else its source path,
else its name. -/
def sourceOf (members : List (WideText × Json)) : Except Fault WideText :=
  let name := Json.member "originalFileName" members
  let names := Json.member "originalFileNames" members
  if name.truthy then .ok name.text
  else if names.truthy then firstName names
  else
    let path := (Json.member "src" members).orElse (Json.member "name" members)
    .ok (if path.truthy then path.text else [])

/-- The entry of an item of a list, if the item is an object with a key. -/
def ofItem? : Json → Except Fault (Option Asset)
  | .object members =>
    let key := Json.member "key" members
    let kind := (Json.member "kind" members).orElse (Json.member "type" members)
    if key.truthy then do
      let source ← sourceOf members
      return some ⟨key.text, if kind.truthy then kind.text else [], source⟩
    else .ok none
  | _ => .ok none

/-- The suffixes of emitted files that hold code. -/
def chunkSuffixes : List WideText := [WideText.of ".js", WideText.of ".mjs"]

/-- The kind of an emitted file that has none written down. -/
def kindOfFile (file : WideText) : WideText :=
  if chunkSuffixes.any (Text.endsWith · file) then WideText.of "chunk" else WideText.of "asset"

/-- The entry of a member of an object, if its value is an object with a kind or with a file. -/
def ofMember? (key : WideText) : Json → Except Fault (Option Asset)
  | .object members =>
    let kind := (Json.member "type" members).orElse (Json.member "kind" members)
    let file := Json.member "file" members
    let path := Json.member "src" members
    if kind.truthy then do
      let source ← sourceOf members
      return some ⟨key, kind.text, source⟩
    else if file.truthy then
      .ok (some ⟨file.text, kindOfFile file.text, if path.truthy then path.text else key⟩)
    else .ok none
  | _ => .ok none

/-- The entries that some parts of a manifest give, up to the first fault. -/
def gather {α : Type} (assetOf : α → Except Fault (Option Asset)) :
    List α → Except Fault Manifest
  | [] => .ok []
  | part :: parts => do
    let entry ← assetOf part
    let rest ← gather assetOf parts
    return entry.toList ++ rest

/-- The entries of a manifest. A value of any other shape has none. -/
def ofJson : Json → Except Fault Manifest
  | .array items => gather ofItem? items
  | .object members => gather (fun member => ofMember? member.1 member.2) members
  | _ => .ok []

/-- The first asset with `marker` in the name it was emitted under. -/
def markedAsset? (marker : Text) (manifest : Manifest) : Option Asset :=
  manifest.find? fun entry =>
    entry.isAsset && Text.occurs (WideText.ofText marker) entry.key

end Manifest

end ClassScope
