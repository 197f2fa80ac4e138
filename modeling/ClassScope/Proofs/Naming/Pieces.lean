import ClassScope.Naming.Form
import Mathlib.Tactic.Common

/-!
# Finding and replacing

How the instances that are found in a text, and the text with its instances replaced, follow from
what can be read at the front of the text. This is stated for forms that do not look at the
character in front of an instance (`Form.ContextFree`), as most do not. Main statements:

- `Form.find_of_read`, `Form.find_of_not_read`, and the same for `substitute`: one step of the scan;
- `Form.Skips`: a stretch in which no instance starts, whatever follows it;
- `Form.scan_induction`, `Form.scan_induction_two`: induction along the scan for one form and for
  two;
- `Form.exists_of_mem_find`: what is found stands in the text;
- `Form.length_substitute`: how long the text becomes;
- `Form.substitute_substitute`: when two replacements one after the other are one;
- `Form.find_substitute`: what is found after a replacement.
-/

namespace ClassScope.Form

variable {σ α : Type} {form : Form σ α} {s r : List σ} {a : α} {replace : α → List σ}

/-- Whether an instance can be read does not depend on the character in front of it. -/
def ContextFree (form : Form σ α) : Prop := ∀ before s, form.read before s = form.read none s

/-- The pieces of a text do not depend on the character in front of it. -/
theorem pieces_eq_of_contextFree (h : form.ContextFree) (before : Option σ) (s : List σ) :
    form.pieces before s = form.pieces none s := by
  cases hread : form.read none s with
  | some found =>
    obtain ⟨a, r⟩ := found
    rw [form.pieces_of_read hread, form.pieces_of_read (h before s ▸ hread)]
  | none =>
    cases s with
    | nil => rw [pieces_nil, pieces_nil]
    | cons c s => rw [form.pieces_of_not_read hread, form.pieces_of_not_read (h before _ ▸ hread)]

/-! ## One step -/

@[simp]
theorem find_nil : form.find [] = [] := by
  simp [find, hits]

@[simp]
theorem substitute_nil : form.substitute replace [] = [] := by
  simp [substitute]

/-- An instance at the front of a text is found first. -/
theorem find_of_read (h : form.ContextFree) (hread : form.read none s = some (a, r)) :
    form.find s = a :: form.find r := by
  rw [find, form.pieces_of_read hread, hits, pieces_eq_of_contextFree h, find]

/-- An instance at the front of a text is replaced. -/
theorem substitute_of_read (h : form.ContextFree) (hread : form.read none s = some (a, r)) :
    form.substitute replace s = replace a ++ form.substitute replace r := by
  rw [substitute, form.pieces_of_read hread, List.flatMap_cons, pieces_eq_of_contextFree h,
    substitute]

/-- Where no instance is at the front, the first character is passed over. -/
theorem find_of_not_read (h : form.ContextFree) {c : σ} (hread : form.read none (c :: s) = none) :
    form.find (c :: s) = form.find s := by
  rw [find, form.pieces_of_not_read hread, hits, pieces_eq_of_contextFree h, find]

/-- Where no instance is at the front, the first character is kept. -/
theorem substitute_of_not_read (h : form.ContextFree) {c : σ}
    (hread : form.read none (c :: s) = none) :
    form.substitute replace (c :: s) = c :: form.substitute replace s := by
  rw [substitute, form.pieces_of_not_read hread, List.flatMap_cons, List.singleton_append,
    pieces_eq_of_contextFree h, substitute]

/-- A stretch in which no instance starts is passed over. -/
theorem find_append_of_not_read (h : form.ContextFree) {t : List σ}
    (hread : ∀ v, v ≠ [] → v <:+ t → form.read none (v ++ s) = none) :
    form.find (t ++ s) = form.find s := by
  induction t with
  | nil => rfl
  | cons c t ih =>
    have hfirst : form.read none (c :: (t ++ s)) = none :=
      hread (c :: t) (List.cons_ne_nil c t) (List.suffix_refl _)
    rw [List.cons_append, find_of_not_read h hfirst]
    exact ih fun v hv hsuffix => hread v hv (hsuffix.trans (List.suffix_cons c t))

/-- A stretch in which no instance starts is kept. -/
theorem substitute_append_of_not_read (h : form.ContextFree) {t : List σ}
    (hread : ∀ v, v ≠ [] → v <:+ t → form.read none (v ++ s) = none) :
    form.substitute replace (t ++ s) = t ++ form.substitute replace s := by
  induction t with
  | nil => rfl
  | cons c t ih =>
    have hfirst : form.read none (c :: (t ++ s)) = none :=
      hread (c :: t) (List.cons_ne_nil c t) (List.suffix_refl _)
    rw [List.cons_append, substitute_of_not_read h hfirst, List.cons_append]
    exact congrArg (c :: ·)
      (ih fun v hv hsuffix => hread v hv (hsuffix.trans (List.suffix_cons c t)))

/-! ## Stretches in which no instance starts -/

/-- No instance starts in the text, whatever follows it. -/
def Skips (form : Form σ α) (t : List σ) : Prop :=
  ∀ v, v ≠ [] → v <:+ t → ∀ s, form.read none (v ++ s) = none

theorem skips_nil : form.Skips [] := by
  intro v hv hsuffix
  exact absurd (List.suffix_nil.1 hsuffix) hv

namespace Skips

variable {t u : List σ}

/-- A text is skipped if no instance is at its front, and what follows its first character is
skipped. -/
theorem cons {c : σ} (hfirst : ∀ s, form.read none (c :: (t ++ s)) = none) (ht : form.Skips t) :
    form.Skips (c :: t) := by
  intro v hv hsuffix s
  rcases List.suffix_cons_iff.1 hsuffix with rfl | hsuffix
  · exact hfirst s
  · exact ht v hv hsuffix s

/-- Characters that no instance starts with may stand in front of a text that is skipped. -/
theorem append_left (ht : ∀ c ∈ t, ∀ s, form.read none (c :: s) = none) (hu : form.Skips u) :
    form.Skips (t ++ u) := by
  induction t with
  | nil => exact hu
  | cons c t ih =>
    obtain ⟨hc, ht⟩ := List.forall_mem_cons.1 ht
    exact cons (fun s => hc (t ++ u ++ s)) (ih ht)

/-- Characters that no instance starts with are skipped. -/
theorem of_first (ht : ∀ c ∈ t, ∀ s, form.read none (c :: s) = none) : form.Skips t := by
  rw [← List.append_nil t]
  exact append_left ht skips_nil

/-- A text is skipped as far as a character if no instance is read over that character. -/
theorem of_last {d : σ} (ht : ∀ v, v <:+ t → ∀ s, form.read none (v ++ d :: s) = none) :
    form.Skips (t ++ [d]) := by
  induction t with
  | nil => exact cons (ht [] List.nil_suffix) skips_nil
  | cons c t ih =>
    rw [List.cons_append]
    refine cons (fun s => ?_) (ih fun v hv => ht v (hv.trans (List.suffix_cons c t)))
    rw [List.append_assoc]
    exact ht (c :: t) (List.suffix_refl _) s

theorem find_append (ht : form.Skips t) (h : form.ContextFree) (s : List σ) :
    form.find (t ++ s) = form.find s :=
  find_append_of_not_read h fun v hv hsuffix => ht v hv hsuffix s

theorem substitute_append (ht : form.Skips t) (h : form.ContextFree) (s : List σ) :
    form.substitute replace (t ++ s) = t ++ form.substitute replace s :=
  substitute_append_of_not_read h fun v hv hsuffix => ht v hv hsuffix s

end Skips

/-! ## Whole texts -/

/-- What holds of the empty text, and of a text when it holds of the text after its first instance
or, where none is at the front, after its first character, holds of all texts. -/
theorem scan_induction (form : Form σ α) {motive : List σ → Prop} (nil : motive [])
    (hit : ∀ s a r, form.read none s = some (a, r) → motive r → motive s)
    (gap : ∀ c s, form.read none (c :: s) = none → motive s → motive (c :: s)) (s : List σ) :
    motive s := by
  match hread : form.read none s with
  | some (a, r) => exact hit s a r hread (scan_induction form nil hit gap r)
  | none =>
    match s with
    | [] => exact nil
    | c :: s => exact gap c s hread (scan_induction form nil hit gap s)
termination_by s.length
decreasing_by
  · exact form.length_lt_of_read hread
  · simp

/-- What holds of the empty text, and of a text when it holds of the text after the instance of one
of two forms at its front or, where there is none of either, after its first character, holds of all
texts. -/
theorem scan_induction_two {β : Type} (form : Form σ α) (other : Form σ β)
    {motive : List σ → Prop} (nil : motive [])
    (hit : ∀ s a r, form.read none s = some (a, r) → motive r → motive s)
    (otherHit : ∀ s b r, form.read none s = none → other.read none s = some (b, r) →
      motive r → motive s)
    (gap : ∀ c s, form.read none (c :: s) = none → other.read none (c :: s) = none →
      motive s → motive (c :: s)) (s : List σ) :
    motive s := by
  match hread : form.read none s, hother : other.read none s with
  | some (a, r), _ => exact hit s a r hread (scan_induction_two form other nil hit otherHit gap r)
  | none, some (b, r) =>
    exact otherHit s b r hread hother (scan_induction_two form other nil hit otherHit gap r)
  | none, none =>
    match s with
    | [] => exact nil
    | c :: s => exact gap c s hread hother (scan_induction_two form other nil hit otherHit gap s)
termination_by s.length
decreasing_by
  · exact form.length_lt_of_read hread
  · exact other.length_lt_of_read hother
  · simp

/-- What is found stands in the text, and can be read where it stands. -/
theorem exists_of_mem_find (h : form.ContextFree) (ha : a ∈ form.find s) :
    ∃ u v, s = u ++ (form.write a ++ v) ∧ form.read none (form.write a ++ v) = some (a, v) := by
  induction s using form.scan_induction with
  | nil => simp at ha
  | hit s b r hread ih =>
    rw [find_of_read h hread] at ha
    have hs := (form.sound hread).1
    rcases List.mem_cons.1 ha with rfl | ha
    · exact ⟨[], r, hs, hs ▸ hread⟩
    · obtain ⟨u, v, hr, hreadv⟩ := ih ha
      exact ⟨form.write b ++ u, v, by rw [hs, hr, List.append_assoc], hreadv⟩
  | gap c s hread ih =>
    rw [find_of_not_read h hread] at ha
    obtain ⟨u, v, hs, hreadv⟩ := ih ha
    exact ⟨c :: u, v, by rw [hs, List.cons_append], hreadv⟩

/-- A text in which every instance is replaced by itself is kept. -/
theorem substitute_eq_self (h : form.ContextFree)
    (hsame : ∀ a ∈ form.find s, replace a = form.write a) : form.substitute replace s = s := by
  induction s using form.scan_induction with
  | nil => exact substitute_nil
  | hit s a r hread ih =>
    rw [find_of_read h hread] at hsame
    obtain ⟨ha, hrest⟩ := List.forall_mem_cons.1 hsame
    rw [substitute_of_read h hread, ha, ih hrest]
    exact (form.sound hread).1.symm
  | gap c s hread ih =>
    rw [find_of_not_read h hread] at hsame
    rw [substitute_of_not_read h hread, ih hsame]

/-- Where some instances become longer by the same length and the others keep theirs, the text
becomes longer by that length for each of the former. -/
theorem length_substitute (h : form.ContextFree) {grows : α → Bool} {added : Nat}
    (hadded : ∀ a, (replace a).length = (form.write a).length + if grows a then added else 0)
    (s : List σ) :
    (form.substitute replace s).length = s.length + (form.find s).countP grows * added := by
  induction s using form.scan_induction with
  | nil => simp
  | hit s a r hread ih =>
    have hs := congrArg List.length (form.sound hread).1
    rw [List.length_append] at hs
    rw [substitute_of_read h hread, find_of_read h hread, List.length_append, ih, hadded, hs,
      List.countP_cons, Nat.add_mul]
    split <;> omega
  | gap c s hread ih =>
    rw [substitute_of_not_read h hread, find_of_not_read h hread, List.length_cons, ih,
      List.length_cons]
    omega

/-! ## What is there after a replacement -/

/-- An instance that is found stands, replaced, in the text that the replacement gives. -/
theorem infix_substitute_of_mem_find (h : form.ContextFree) (ha : a ∈ form.find s) :
    replace a <:+: form.substitute replace s := by
  induction s using form.scan_induction with
  | nil => simp at ha
  | hit s b r hread ih =>
    rw [find_of_read h hread] at ha
    rw [substitute_of_read h hread]
    rcases List.mem_cons.1 ha with rfl | ha
    · exact (List.prefix_append _ _).isInfix
    · exact (ih ha).trans (List.suffix_append _ _).isInfix
  | gap c s hread ih =>
    rw [find_of_not_read h hread] at ha
    rw [substitute_of_not_read h hread]
    exact List.infix_cons (ih ha)

/-- A character at the front after a replacement was there before, if nothing that is put for an
instance starts with it. -/
theorem exists_of_substitute_eq_cons (h : form.ContextFree) {c : σ}
    (hput : ∀ a t, form.read none s = some (a, t) → ∃ d u, replace a = d :: u ∧ d ≠ c)
    (heq : form.substitute replace s = c :: r) :
    ∃ t, s = c :: t ∧ form.substitute replace t = r := by
  match hread : form.read none s with
  | some (a, t) =>
    obtain ⟨d, u, ha, hd⟩ := hput a t hread
    rw [substitute_of_read h hread, ha, List.cons_append, List.cons.injEq] at heq
    exact absurd heq.1 hd
  | none =>
    cases s with
    | nil => simp at heq
    | cons d s =>
      rw [substitute_of_not_read h hread, List.cons.injEq] at heq
      exact ⟨s, by rw [heq.1], heq.2⟩

/-- Where every instance keeps its first character, so does the text. -/
theorem head?_substitute (h : form.ContextFree)
    (hhead : ∀ a, (replace a).head? = (form.write a).head?) (s : List σ) :
    (form.substitute replace s).head? = s.head? := by
  match hread : form.read none s with
  | some (a, r) =>
    obtain ⟨rfl, hne⟩ := form.sound hread
    rw [substitute_of_read h hread, List.head?_append, List.head?_append, hhead,
      List.head?_eq_some_head hne, Option.some_or, Option.some_or]
  | none =>
    cases s with
    | nil => rw [substitute_nil]
    | cons c s => rw [substitute_of_not_read h hread, List.head?_cons, List.head?_cons]

/-- Two replacements one after the other are one, if the second one makes of what the first one has
put for an instance what the one puts for it, and finds nothing at a character that the first one
has kept. -/
theorem substitute_substitute (h : form.ContextFree) {first second both : α → List σ}
    (hit : ∀ {s a r}, form.read none s = some (a, r) →
      form.substitute second (first a ++ form.substitute first r) =
        both a ++ form.substitute second (form.substitute first r))
    (gap : ∀ {c s}, form.read none (c :: s) = none →
      form.read none (c :: form.substitute first s) = none) (s : List σ) :
    form.substitute second (form.substitute first s) = form.substitute both s := by
  induction s using form.scan_induction with
  | nil => rw [substitute_nil, substitute_nil, substitute_nil]
  | hit s a r hread ih =>
    rw [substitute_of_read h hread, hit hread, ih, substitute_of_read h hread]
  | gap c s hread ih =>
    rw [substitute_of_not_read h hread, substitute_of_not_read h (gap hread), ih,
      substitute_of_not_read h hread]

/-- The instances that are found after a replacement are those from before, each turned into another
one, if what is put for an instance is the other one, and nothing is found at a character that the
replacement has kept. -/
theorem find_substitute (h : form.ContextFree) {f : α → α}
    (hit : ∀ {s a r}, form.read none s = some (a, r) →
      form.read none (replace a ++ form.substitute replace r) =
        some (f a, form.substitute replace r))
    (gap : ∀ {c s}, form.read none (c :: s) = none →
      form.read none (c :: form.substitute replace s) = none) (s : List σ) :
    form.find (form.substitute replace s) = (form.find s).map f := by
  induction s using form.scan_induction with
  | nil => rw [substitute_nil, find_nil, List.map_nil]
  | hit s a r hread ih =>
    rw [substitute_of_read h hread, find_of_read h (hit hread), ih, find_of_read h hread,
      List.map_cons]
  | gap c s hread ih =>
    rw [substitute_of_not_read h hread, find_of_not_read h (gap hread), ih,
      find_of_not_read h hread]

end ClassScope.Form
