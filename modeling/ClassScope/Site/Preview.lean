import ClassScope.Naming.Form
import ClassScope.Site.Manifest

/-!
# The preview image

A page names its preview image in `content` attributes, by the address that the image has in the
sources. In the built site the address is that of the file that was emitted for it. The markup is
wide from here on, since the name of that file is.
-/

namespace ClassScope.Preview

/-- The text of a `content` attribute with a value. -/
def writeContent (value : WideText) : WideText :=
  WideText.of "content=\"" ++ (value ++ [.char '\x22'])

/-- The `content` attributes with one given value. The word may not go on to the left. -/
def contentAttribute (value : Text) : Form CodePoint Unit where
  write _ := writeContent (WideText.ofText value)
  read before s :=
    if before.any CodePoint.isWord then none
    else (Text.after? (writeContent (WideText.ofText value)) s).map ((), ·)
  sound := by
    intro before s _ r h
    split at h
    · simp at h
    · simp only [Option.map_eq_some_iff, Prod.mk.injEq, true_and, exists_eq_right] at h
      exact ⟨Text.after?_eq_some_iff.1 h, by simp [writeContent]⟩

/-- The markup with `old` replaced by `new` as the value of `content` attributes, and how often that
was done. -/
def readdress (old : Text) (new html : WideText) : WideText × Nat :=
  let form := contentAttribute old
  (form.substitute (fun _ => writeContent new) html, (form.find html).length)

/-- The markup in which `path`, the address of the preview image, is replaced by the address of the
first asset with `marker` in its name. Without such an asset nothing is done. -/
def link (manifest : Manifest) (baseUrl marker path : Text) (html : WideText) : WideText :=
  match manifest.markedAsset? marker with
  | none => html
  | some asset => (readdress path (WideText.ofText baseUrl ++ asset.key) html).1

end ClassScope.Preview
