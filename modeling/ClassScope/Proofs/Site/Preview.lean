import ClassScope.Proofs.Naming.Cuts
import ClassScope.Site.Preview

/-!
# The address of the preview image

Markup is cut into the `content` attributes with the address of the preview image and gaps. Where an
address could not be taken for the text in front of a value, a new address brings no such attribute
about: the attribute would start in a gap, where it was before, or in what was put for another one,
and there only the new address stands behind the word. Main statements:

- `Preview.reads_contentAttribute`: what is read as an attribute with an address;
- `Preview.IsCut.not_stands`: after a new address was put, the old one is nowhere;
- `Preview.link_cut`: what the pass does, and that a second pass does nothing.
-/

namespace ClassScope

/-! ## Marked assets -/

/-- The file is an asset with the marker in the name it was emitted under. -/
def Asset.IsMarked (marker : Text) (entry : Asset) : Prop :=
  entry.kind = WideText.of "asset" ∧ WideText.ofText marker <:+: entry.key

theorem Manifest.isMarked_iff {marker : Text} {entry : Asset} :
    (entry.isAsset && Text.occurs (WideText.ofText marker) entry.key) = true ↔
      entry.IsMarked marker := by
  rw [Bool.and_eq_true, Text.occurs_iff, Asset.isAsset, beq_iff_eq, Asset.IsMarked]

namespace Preview

open Form (hits replacePieces)

variable {old baseUrl marker path : Text} {new html r s : WideText} {before : Option CodePoint}
  {ps : List (Piece CodePoint Unit)} {manifest front back : Manifest} {asset : Asset}

/-! ## Attributes with an address -/

/-- A word may start behind a character, if one is there: it is no word character. -/
def StartsWord (before : Option CodePoint) : Prop := before.any CodePoint.isWord = false

instance (before : Option CodePoint) : Decidable (StartsWord before) :=
  inferInstanceAs (Decidable (_ = false))

/-- The pieces are a cut of markup behind a character into the attributes with an address and gaps.
-/
abbrev IsCut (address : Text) (before : Option CodePoint) (ps : List (Piece CodePoint Unit))
    (html : WideText) : Prop :=
  (contentAttribute address).IsCutAfter (fun before _ => StartsWord before) before ps html

/-- The attribute with an address stands somewhere in markup behind a character. -/
def Stands (address : WideText) (before : Option CodePoint) (html : WideText) : Prop :=
  ∃ u v, html = u ++ (writeContent address ++ v) ∧ StartsWord (u.getLast?.or before)

theorem reads_contentAttribute (address : Text) :
    (contentAttribute address).ReadsAfter fun before _ => StartsWord before := by
  intro before s a r
  cases hword : before.any CodePoint.isWord <;>
    simp [contentAttribute, hword, StartsWord, Text.after?_eq_some_iff]

/-- Markup has a cut into the attributes with an address and gaps. -/
theorem exists_isCut (address : Text) (html : WideText) : ∃ ps, IsCut address none ps html :=
  ⟨_, (reads_contentAttribute address).isCutAfter_pieces none html⟩

/-- What stands in front of the quotes of a `content` attribute. -/
def contentHead : WideText := WideText.of "content="

/-- The quote around the value of a `content` attribute. -/
def quote : CodePoint := .char '\x22'

theorem quote_not_mem_contentHead : quote ∉ contentHead := by decide +kernel

theorem writeContent_append (value r : WideText) :
    writeContent value ++ r = contentHead ++ quote :: (value ++ quote :: r) := by
  simp [writeContent, contentHead, quote, WideText.of, WideText.ofText, Text.of_eq_toList]

/-- The address cannot be taken for the text in front of a value, nor does it end the value. -/
structure Plain (address : WideText) : Prop where
  /-- It has no double quote. -/
  no_quote : quote ∉ address
  /-- The text in front of a value does not stand in it. -/
  no_head : ¬ contentHead <:+: address

/-! ## After a new address was put -/

/-- Markup with a new address put for the old one, by its pieces. -/
abbrev readdressed (new : WideText) (ps : List (Piece CodePoint Unit)) : WideText :=
  replacePieces (fun _ => writeContent new) ps

/-- What stands in front of the first quote stood there before, and what is behind it was put by a
cut, unless the quote is the first one of an attribute. -/
theorem IsCut.exists_of_readdressed_eq_append (hcut : IsCut old before ps html) (hs : quote ∉ s)
    (hend : ¬ contentHead <:+ s) (h : readdressed new ps = s ++ quote :: r) :
    ∃ qs t, html = s ++ quote :: t ∧ IsCut old (some quote) qs t ∧ readdressed new qs = r := by
  induction hcut generalizing s with
  | nil => simp [readdressed, replacePieces] at h
  | @gap before c ps html _ hrest ih =>
    cases s with
    | nil =>
      obtain ⟨rfl, rfl⟩ := List.cons.inj h
      exact ⟨ps, html, rfl, hrest, rfl⟩
    | cons d s =>
      obtain ⟨rfl, hbehind⟩ := List.cons.inj h
      obtain ⟨qs, t, rfl, hqs, hr⟩ := ih (fun hmem => hs (List.mem_cons_of_mem c hmem))
        (fun hsuffix => hend (hsuffix.trans (List.suffix_cons c s))) hbehind
      exact ⟨qs, t, rfl, hqs, hr⟩
  | hit =>
    have hfront : contentHead ++ quote :: (new ++ quote :: _) = s ++ quote :: r :=
      (writeContent_append new _).symm.trans h
    obtain ⟨rfl, -⟩ := Text.append_cons_inj quote_not_mem_contentHead hs hfront
    exact absurd (List.suffix_refl _) hend

/-- An end of an attribute that goes on like an attribute is all of it, or nothing. -/
theorem eq_of_suffix_writeContent (hnew : Plain new) {w : WideText} (hw : w <:+ writeContent new)
    (h : w ++ r = contentHead ++ quote :: s) : w = [] ∨ w = writeContent new := by
  have hwrite : writeContent new = contentHead ++ quote :: (new ++ [quote]) := by
    rw [← List.append_nil (writeContent new), writeContent_append]
  rw [hwrite] at hw ⊢
  rcases List.suffix_or_suffix_of_suffix hw (List.suffix_append contentHead _) with hbehind | hfront
  · rcases List.suffix_cons_iff.1 hbehind with rfl | hbehind
    · -- It starts with a quote.
      obtain ⟨hnil, -⟩ := Text.append_cons_inj List.not_mem_nil quote_not_mem_contentHead h
      exact absurd hnil.symm (by decide +kernel)
    · rcases List.suffix_concat_iff.1 hbehind with rfl | ⟨t, rfl, ht⟩
      · exact .inl rfl
      · -- The new address would end with the text in front of a value.
        rw [List.append_assoc, List.singleton_append] at h
        obtain ⟨rfl, -⟩ := Text.append_cons_inj (fun hmem => hnew.no_quote (ht.subset hmem))
          quote_not_mem_contentHead h
        exact absurd ht.isInfix hnew.no_head
  · obtain ⟨t, rfl⟩ := hfront
    have ht : t <:+ contentHead := List.suffix_append_self_iff.1 hw
    rw [List.append_assoc, List.cons_append] at h
    obtain ⟨rfl, -⟩ := Text.append_cons_inj (fun hmem => quote_not_mem_contentHead (ht.subset hmem))
      quote_not_mem_contentHead h
    exact .inr rfl

/-- The character in front of what stands behind a first character. -/
theorem getLast?_cons_or {c : CodePoint} {u : WideText} :
    (c :: u).getLast?.or before = u.getLast?.or (some c) := by
  rw [List.getLast?_cons]
  cases u.getLast? <;> rfl

/-- Behind an attribute stands its closing quote. -/
theorem getLast?_writeContent_or (value : WideText) :
    (writeContent value).getLast?.or before = some quote := by
  rw [writeContent, ← List.append_assoc, List.getLast?_concat, Option.some_or, quote]

/-- An attribute with the old address that starts at a character that was kept was there before. -/
theorem IsCut.prefix_of_readdressed {c : CodePoint} (hcut : IsCut old (some c) ps html)
    (hold : Plain (.ofText old))
    (h : c :: readdressed new ps = writeContent (.ofText old) ++ r) :
    writeContent (.ofText old) <+: c :: html := by
  obtain ⟨d, tail, hhead⟩ : ∃ d tail, contentHead = d :: tail :=
    List.exists_cons_of_ne_nil (by decide +kernel)
  have hquote : quote ∉ tail :=
    fun hmem => quote_not_mem_contentHead (hhead ▸ List.mem_cons_of_mem d hmem)
  have hend : ¬ contentHead <:+ tail := by
    intro hsuffix
    have := hsuffix.length_le
    rw [hhead, List.length_cons] at this
    omega
  rw [writeContent_append, hhead] at h
  obtain ⟨rfl, hbehind⟩ := List.cons.inj h
  -- First the text in front of the value was there, then the value.
  obtain ⟨qs, t, rfl, hqs, hvalue⟩ := hcut.exists_of_readdressed_eq_append hquote hend hbehind
  obtain ⟨-, t, rfl, -⟩ := hqs.exists_of_readdressed_eq_append hold.no_quote
    (fun hsuffix => hold.no_head hsuffix.isInfix) hvalue
  refine ⟨t, ?_⟩
  rw [writeContent_append, hhead, List.cons_append]

/-- After a new address was put, no attribute with the old one stands in the markup. -/
theorem IsCut.not_stands (hcut : IsCut old before ps html) (hold : Plain (.ofText old))
    (hnew : Plain new) (hne : new ≠ .ofText old) :
    ¬ Stands (.ofText old) before (readdressed new ps) := by
  induction hcut with
  | nil =>
    rintro ⟨u, v, h, -⟩
    simp [readdressed, replacePieces, writeContent] at h
  | gap first rest ih =>
    rintro ⟨u, v, h, hstart⟩
    cases u with
    | nil => exact first () hstart (IsCut.prefix_of_readdressed rest hold h)
    | cons d u =>
      obtain ⟨rfl, hbehind⟩ := List.cons.inj h
      rw [getLast?_cons_or] at hstart
      exact ih ⟨u, v, hbehind, hstart⟩
  | @hit before _ ps html _ rest ih =>
    rintro ⟨u, v, h, hstart⟩
    have h : writeContent new ++ readdressed new ps = u ++ (writeContent (.ofText old) ++ v) := h
    rw [show (contentAttribute old).write () = writeContent (.ofText old) from rfl,
      getLast?_writeContent_or] at ih
    rcases List.append_eq_append_iff.1 h with ⟨w, rfl, hbehind⟩ | ⟨w, hw, hbehind⟩
    · -- It starts behind what was put for this attribute.
      rw [List.getLast?_append, Option.or_assoc, getLast?_writeContent_or] at hstart
      exact ih ⟨w, v, hbehind, hstart⟩
    · have hsuffix : w <:+ writeContent new := hw ▸ List.suffix_append u w
      rcases eq_of_suffix_writeContent hnew hsuffix
        (hbehind.symm.trans (writeContent_append _ v)) with rfl | rfl
      · exact ih ⟨[], v, hbehind.symm, by decide +kernel⟩
      · -- It starts with what was put, where the new address stands behind the word.
        rw [writeContent_append, writeContent_append, List.append_cancel_left_eq,
          List.cons.injEq] at hbehind
        exact hne (Text.append_cons_inj hold.no_quote hnew.no_quote hbehind.2).1.symm

/-- Where no attribute with the old address stands, nothing is put. -/
theorem IsCut.readdressed_eq_self (hcut : IsCut old before ps html)
    (h : ¬ Stands (.ofText old) before html) : readdressed new ps = html := by
  induction hcut with
  | nil => rfl
  | gap _ _ ih =>
    refine congrArg (_ :: ·) (ih ?_)
    rintro ⟨u, v, rfl, hstart⟩
    exact h ⟨_ :: u, v, rfl, by rwa [getLast?_cons_or]⟩
  | hit valid _ _ => exact absurd ⟨[], _, rfl, valid⟩ h

theorem readdress_eq (hcut : IsCut old none ps html) :
    readdress old new html = (readdressed new ps, (hits ps).length) := by
  rw [(reads_contentAttribute old).isCutAfter_iff.1 hcut]
  rfl

/-- A second time nothing is put, if neither address could be taken for the text around a value. -/
theorem readdress_readdress (hold : Plain (.ofText old)) (hnew : Plain new) :
    (readdress old new (readdress old new html).1).1 = (readdress old new html).1 := by
  obtain ⟨ps, hcut⟩ := exists_isCut old html
  by_cases hne : new = .ofText old
  · -- An address that is put for itself changes nothing.
    have hself (html : WideText) : (readdress old new html).1 = html := by
      obtain ⟨ps, hcut⟩ := exists_isCut old html
      rw [readdress_eq hcut, hne]
      exact hcut.text
    rw [hself, hself]
  · have hnot := hcut.not_stands hold hnew hne
    obtain ⟨qs, hqs⟩ := exists_isCut old (readdressed new ps)
    rw [readdress_eq hcut, readdress_eq hqs]
    exact hqs.readdressed_eq_self hnot

/-! ## The address that is put -/

theorem link_of_no_asset (h : ∀ entry ∈ manifest, ¬ entry.IsMarked marker) :
    link manifest baseUrl marker path html = html := by
  have hnone : manifest.markedAsset? marker = none := by
    refine List.find?_eq_none.2 fun entry hentry hmarked => ?_
    exact h entry hentry (Manifest.isMarked_iff.1 hmarked)
  rw [link, hnone]

theorem link_of_asset (hfront : ∀ entry ∈ front, ¬ entry.IsMarked marker)
    (hasset : asset.IsMarked marker) :
    link (front ++ asset :: back) baseUrl marker path html =
      (readdress path (WideText.ofText baseUrl ++ asset.key) html).1 := by
  have hsome : Manifest.markedAsset? marker (front ++ asset :: back) = some asset := by
    refine List.find?_eq_some_iff_append.2 ⟨Manifest.isMarked_iff.2 hasset, front, back, rfl, ?_⟩
    intro entry hentry
    rw [Bool.not_eq_true', Bool.eq_false_iff]
    exact fun hmarked => hfront entry hentry (Manifest.isMarked_iff.1 hmarked)
  rw [link, hsome]

/-- Markup has one cut into the `content` attributes with an address, where the word does not go on
to the left, and gaps. Putting a new address for it replaces the attributes of the cut, keeps the
gaps, and counts the attributes. The address of the preview image is replaced by that of the first
asset with the marker in its name, if there is one, and otherwise kept. If neither address could be
taken for the text around a value, a second pass does nothing, and the old address is nowhere any
more, unless it is also the new one. -/
theorem link_cut (manifest : Manifest) (baseUrl marker path : Text) (html : WideText) :
    (∃! ps, IsCut path none ps html) ∧
      (∀ ps, IsCut path none ps html → ∀ new,
        readdress path new html =
          (replacePieces (fun _ => writeContent new) ps, (hits ps).length)) ∧
      ((∀ entry ∈ manifest, ¬ entry.IsMarked marker) →
        link manifest baseUrl marker path html = html) ∧
      ∀ front asset back, manifest = front ++ asset :: back →
        (∀ entry ∈ front, ¬ entry.IsMarked marker) → asset.IsMarked marker →
        let new := WideText.ofText baseUrl ++ asset.key
        link manifest baseUrl marker path html = (readdress path new html).1 ∧
          (Plain (WideText.ofText path) → Plain new →
            link manifest baseUrl marker path (link manifest baseUrl marker path html) =
                link manifest baseUrl marker path html ∧
              (new ≠ WideText.ofText path →
                ¬ Stands (WideText.ofText path) none
                  (link manifest baseUrl marker path html))) := by
  refine ⟨(reads_contentAttribute path).existsUnique_isCutAfter none html,
    fun ps hcut new => readdress_eq hcut, link_of_no_asset, ?_⟩
  rintro front asset back rfl hfront hasset new
  have hlink (html : WideText) :
      link (front ++ asset :: back) baseUrl marker path html = (readdress path new html).1 :=
    link_of_asset hfront hasset
  refine ⟨hlink html, fun hold hnew => ⟨?_, fun hne => ?_⟩⟩
  · rw [hlink, hlink, readdress_readdress hold hnew]
  · obtain ⟨ps, hcut⟩ := exists_isCut path html
    rw [hlink, readdress_eq hcut]
    exact hcut.not_stands hold hnew hne

/-- Characters that mean something to a pattern or to a replacement stand for themselves. An address
in an attribute whose word goes on to the left is kept, and so is one with another character for the
point. -/
theorem link_cut_literal :
    let chunk : Asset := ⟨WideText.of "og.js", WideText.of "chunk", []⟩
    let image : Asset := ⟨WideText.of "og-\\1.png", WideText.of "asset", []⟩
    let base := Text.of "\\g<0>/"
    let path := Text.of "./a+.png"
    let kept := WideText.of " \u00e9content=\"./a+.png\" content=\"x/a+.png\""
    let html := WideText.of "content=\"./a+.png\"content=\"./a+.png\"" ++ kept
    let output :=
      WideText.of "content=\"\\g<0>/og-\\1.png\"content=\"\\g<0>/og-\\1.png\"" ++ kept
    let new := WideText.ofText base ++ image.key
    IsCut path none (.hit () :: .hit () :: kept.map .gap) html ∧
      (∀ entry ∈ [chunk], ¬ entry.IsMarked (Text.of "og")) ∧ image.IsMarked (Text.of "og") ∧
      Plain (WideText.ofText path) ∧ Plain new ∧ new ≠ WideText.ofText path ∧
      link [chunk, image] base (Text.of "og") path html = output ∧
      readdress path new html = (output, 2) ∧
      link [chunk, image] base (Text.of "og") path output = output ∧
      ¬ Stands (WideText.ofText path) none output := by
  intro chunk image base path kept html output new
  have hcut : IsCut path none (.hit () :: .hit () :: kept.map .gap) html :=
    (reads_contentAttribute path).isCutAfter_iff.2 (by decide +kernel)
  have hchunk : ∀ entry ∈ [chunk], ¬ entry.IsMarked (Text.of "og") := by
    rw [List.forall_mem_singleton, Asset.IsMarked]
    decide +kernel
  have himage : image.IsMarked (Text.of "og") := by
    rw [Asset.IsMarked]
    decide +kernel
  have hold : Plain (WideText.ofText path) := ⟨by decide +kernel, by decide +kernel⟩
  have hnew : Plain new := ⟨by decide +kernel, by decide +kernel⟩
  have hne : new ≠ WideText.ofText path := by decide +kernel
  obtain ⟨-, hreaddress, -, hasset⟩ :=
    link_cut [chunk, image] base (Text.of "og") path html
  have hput := hreaddress _ hcut new
  rw [show (replacePieces (fun _ => writeContent new) _, (hits _).length) = (output, 2) by
    decide +kernel] at hput
  obtain ⟨hlink, hagain⟩ := hasset [chunk] image [] rfl hchunk himage
  obtain ⟨hsecond, hgone⟩ := hagain hold hnew
  have hfirst : link [chunk, image] base (Text.of "og") path html = output := by rw [hlink, hput]
  rw [hfirst] at hsecond hgone
  exact ⟨hcut, hchunk, himage, hold, hnew, hne, hfirst, hput, hsecond, hgone hne⟩

end Preview

end ClassScope
