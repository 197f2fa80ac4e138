import ClassScope.Text.Basic

/-!
# Order of texts

Texts are ordered by their first difference, character by character and by code point; lists of
texts are ordered part by part in the same way. A sort keeps equal keys in the order they came in.

Main statements: both orders tell any two different keys apart and chain (`strict_precedes`,
`strict_partsPrecede`), so a sort leaves no item behind one that comes after it (`pairwise_sortBy`,
`pairwise_sortByParts`).
-/

namespace ClassScope

/-- An order that chains and puts one of any two different items before the other, but not both. -/
structure Strict {α : Type} (lt : α → α → Bool) : Prop where
  /-- No item comes before itself. -/
  irrefl : ∀ a, lt a a = false
  /-- What comes before a predecessor is a predecessor. -/
  trans : ∀ {a b c}, lt a b = true → lt b c = true → lt a c = true
  /-- Items of which none comes before the other are equal. -/
  eq_of_not : ∀ {a b}, lt a b = false → lt b a = false → a = b

/-- A list comes before another one, by the first place where the order of the items tells them
apart; a list comes before those that it starts. -/
def listPrecedes {α : Type} (lt : α → α → Bool) : List α → List α → Bool
  | _, [] => false
  | [], _ :: _ => true
  | a :: s, b :: t => lt a b || (!lt b a && listPrecedes lt s t)

namespace Strict

variable {α : Type} {lt : α → α → Bool}

/-- Of two items, only one comes before the other. -/
theorem asymm (h : Strict lt) {a b : α} (hab : lt a b = true) : lt b a = false := by
  rw [← Bool.not_eq_true]
  intro hba
  have := h.trans hab hba
  rw [h.irrefl] at this
  cases this

/-- The order of lists is as good as the order of their items. -/
theorem list (h : Strict lt) : Strict (listPrecedes lt) where
  irrefl s := by
    induction s with
    | nil => rfl
    | cons a s ih => simp [listPrecedes, h.irrefl, ih]
  trans {s t u} hst htu := by
    induction s generalizing t u with
    | nil => cases t <;> cases u <;> simp_all [listPrecedes]
    | cons a s ih =>
      match t, u with
      | [], _ => simp [listPrecedes] at hst
      | _ :: _, [] => simp [listPrecedes] at htu
      | b :: t, c :: u =>
        simp only [listPrecedes, Bool.or_eq_true, Bool.and_eq_true, Bool.not_eq_true'] at hst htu ⊢
        rcases hst with hab | ⟨hba, hst⟩ <;> rcases htu with hbc | ⟨hcb, htu⟩
        · exact .inl (h.trans hab hbc)
        · -- Where neither item comes first they are equal, so the other comparison decides.
          by_cases hbc : lt b c = true
          · exact .inl (h.trans hab hbc)
          · rw [← h.eq_of_not (by simpa using hbc) hcb]
            exact .inl hab
        · by_cases hab : lt a b = true
          · exact .inl (h.trans hab hbc)
          · rw [h.eq_of_not (by simpa using hab) hba]
            exact .inl hbc
        · by_cases hab : lt a b = true <;> by_cases hbc : lt b c = true
          · exact .inl (h.trans hab hbc)
          · rw [← h.eq_of_not (by simpa using hbc) hcb]
            exact .inl hab
          · rw [h.eq_of_not (by simpa using hab) hba]
            exact .inl hbc
          · rw [h.eq_of_not (by simpa using hab) hba, h.eq_of_not (by simpa using hbc) hcb]
            exact .inr ⟨h.irrefl c, ih hst htu⟩
  eq_of_not {s t} hst hts := by
    induction s generalizing t with
    | nil => cases t <;> simp_all [listPrecedes]
    | cons a s ih =>
      match t with
      | [] => simp [listPrecedes] at hts
      | b :: t =>
        simp only [listPrecedes, Bool.or_eq_false_iff] at hst hts
        rw [h.eq_of_not hst.1 hts.1,
          ih (by simpa [hts.1] using hst.2) (by simpa [hst.1] using hts.2)]

/-- Of two lists that start alike, what they go on with decides. -/
theorem listPrecedes_append (h : Strict lt) (r s t : List α) :
    listPrecedes lt (r ++ s) (r ++ t) = listPrecedes lt s t := by
  induction r with
  | nil => rfl
  | cons a r ih => simp [listPrecedes, h.irrefl, ih]

/-- A sort leaves no item behind one whose key comes after its own. -/
theorem pairwise_mergeSort {β : Type} (h : Strict lt) (key : β → α) (items : List β) :
    (items.mergeSort fun a b => !lt (key b) (key a)).Pairwise
      fun a b => lt (key b) (key a) = false := by
  have chain : ∀ a b c : β, (!lt (key b) (key a)) = true → (!lt (key c) (key b)) = true →
      (!lt (key c) (key a)) = true := by
    intro a b c hba hcb
    simp only [Bool.not_eq_true'] at *
    by_cases hca : lt (key c) (key a) = true
    · -- The key of `b` comes after that of `a` or is equal to it; neither leaves `c` behind `b`.
      by_cases hab : lt (key a) (key b) = true
      · rw [h.trans hca hab] at hcb
        cases hcb
      · rw [h.eq_of_not (by simpa using hab) hba, hcb] at hca
        cases hca
    · simpa using hca
  have total : ∀ a b : β, ((!lt (key b) (key a)) || !lt (key a) (key b)) = true := by
    intro a b
    by_cases hab : lt (key a) (key b) = true
    · simp [h.asymm hab]
    · simp [show lt (key a) (key b) = false by simpa using hab]
  exact (List.pairwise_mergeSort chain total items).imp (by simp)

/-- Where no key comes after a later one and no two are equal, each comes before the later ones. -/
theorem pairwise_of_ne {β : Type} (h : Strict lt) {key : β → α} {items : List β}
    (hsorted : items.Pairwise fun a b => lt (key b) (key a) = false)
    (hne : items.Pairwise fun a b => key a ≠ key b) :
    items.Pairwise fun a b => lt (key a) (key b) = true := by
  refine (List.pairwise_and_iff.2 ⟨hsorted, hne⟩).imp ?_
  rintro a b ⟨hba, hab⟩
  rw [← Bool.not_eq_false]
  exact fun hlt => hab (h.eq_of_not hlt hba)

/-- Lists with the same items are the same if each item comes before the later ones in both. -/
theorem eq_of_pairwise (h : Strict lt) {s t : List α} (hs : s.Pairwise fun a b => lt a b = true)
    (ht : t.Pairwise fun a b => lt a b = true) (hmem : ∀ a, a ∈ s ↔ a ∈ t) : s = t := by
  have hnodup : ∀ {u : List α}, u.Pairwise (fun a b => lt a b = true) → u.Nodup := by
    intro u hu
    refine hu.imp ?_
    rintro a b hab rfl
    rw [h.irrefl] at hab
    cases hab
  refine List.Perm.eq_of_pairwise ?_ hs ht
    ((List.perm_ext_iff_of_nodup (hnodup hs) (hnodup ht)).2 hmem)
  intro a b _ _ hab hba
  rw [h.asymm hab] at hba
  cases hba

end Strict

namespace Text

/-- A text comes before another one. -/
def precedes : Text → Text → Bool := listPrecedes fun a b => a.toNat < b.toNat

/-- A list of texts comes before another one. -/
def partsPrecede : List Text → List Text → Bool := listPrecedes precedes

/-- The items in the order of the texts that `key` gives them. -/
def sortBy {α : Type} (key : α → Text) (items : List α) : List α :=
  items.mergeSort fun a b => !precedes (key b) (key a)

/-- The items in the order of the lists of texts that `key` gives them. -/
def sortByParts {α : Type} (key : α → List Text) (items : List α) : List α :=
  items.mergeSort fun a b => !partsPrecede (key b) (key a)

/-- Characters with the same code point are equal, so texts are told apart. -/
theorem strict_precedes : Strict precedes := by
  refine Strict.list ⟨by simp, ?_, ?_⟩
  · intro a b c hab hbc
    simp only [decide_eq_true_eq] at *
    omega
  · intro a b hab hba
    simp only [decide_eq_false_iff_not] at hab hba
    have : a.toNat = b.toNat := by omega
    rw [← Char.ofNat_toNat a, ← Char.ofNat_toNat b, this]

/-- Lists of texts are told apart too. -/
theorem strict_partsPrecede : Strict partsPrecede := strict_precedes.list

/-- After sorting, no key stands behind one that comes after it. -/
theorem pairwise_sortBy {α : Type} (key : α → Text) (items : List α) :
    (sortBy key items).Pairwise fun a b => precedes (key b) (key a) = false :=
  strict_precedes.pairwise_mergeSort key items

/-- After sorting by parts, no key stands behind one that comes after it. -/
theorem pairwise_sortByParts {α : Type} (key : α → List Text) (items : List α) :
    (sortByParts key items).Pairwise fun a b => partsPrecede (key b) (key a) = false :=
  strict_partsPrecede.pairwise_mergeSort key items

/-- Sorting keeps every item and adds none. -/
theorem sortBy_perm {α : Type} (key : α → Text) (items : List α) :
    (sortBy key items).Perm items :=
  List.mergeSort_perm _ _

/-- Sorting by parts keeps every item and adds none. -/
theorem sortByParts_perm {α : Type} (key : α → List Text) (items : List α) :
    (sortByParts key items).Perm items :=
  List.mergeSort_perm _ _

end Text

end ClassScope
