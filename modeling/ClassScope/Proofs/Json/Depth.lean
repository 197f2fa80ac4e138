import ClassScope.Json.Reader
import Mathlib.Tactic.Common

/-!
# Reading with more room

A document is read with room for so many arrays and objects in one another. More room changes
nothing but that deeper documents are read, so what a document is does not depend on it. Main
statements:

- `Json.allAgree`: what is read of a value, of items and of members with more room;
- `Json.noneTooDeep`: with as much room as fuel nothing is too deep;
- `Json.readWithin_eq`, `Json.exists_not_tooDeep`: what is read of a text with any two rooms that
  are enough, and that there is one.
-/

namespace ClassScope.Json

variable {β γ : Type} {fuel room more : Nat} {s : Text}

/-- Reading fails because values are nested too deeply. -/
def TooDeep (read : Except Failure β) : Prop := ∃ e, read = .error e ∧ e.fault.isDepth = true

@[simp]
theorem not_tooDeep_ok (b : β) : ¬ TooDeep (.ok b) := by
  rintro ⟨e, h, -⟩
  cases h

@[simp]
theorem tooDeep_error {e : Failure} :
    TooDeep (.error e : Except Failure β) ↔ e.fault.isDepth = true := by
  simp [TooDeep]

@[simp]
theorem tooDeep_fail {fault : Fault} {rest : Text} :
    TooDeep (fail fault rest : Read β) ↔ fault.isDepth = true :=
  tooDeep_error

/-- A failure that is passed on is as deep as it was. -/
theorem not_tooDeep_of_eq {read : Except Failure β} {e : Failure} (h : ¬ TooDeep read)
    (hread : read = .error e) : ¬ TooDeep (.error e : Except Failure γ) := by
  rw [hread, tooDeep_error] at h
  rwa [tooDeep_error]

/-- What is read with more room is what is read with less, unless that fails for its depth. -/
def Agrees (less more : Except Failure β) : Prop := TooDeep less ∨ more = less

theorem Agrees.refl (read : Except Failure β) : Agrees read read := .inr rfl

theorem Agrees.of_tooDeep {e : Failure} (h : e.fault.isDepth = true) (more : Except Failure β) :
    Agrees (.error e) more := .inl ⟨e, rfl, h⟩

/-! ## More room -/

/-- The three readers agree in some fuel, whatever the room. -/
structure AllAgree (fuel more : Nat) : Prop where
  /-- On values. -/
  value : ∀ room s, Agrees (readValue fuel room s) (readValue fuel (room + more) s)
  /-- On the items of an array. -/
  items : ∀ room s, Agrees (readItems fuel room s) (readItems fuel (room + more) s)
  /-- On the members of an object. -/
  members : ∀ room members s,
    Agrees (readMembers fuel room members s) (readMembers fuel (room + more) members s)

theorem readValue_of_plain (hquote : s.head? ≠ some '\x22') (harray : s.head? ≠ some '[')
    (hobject : s.head? ≠ some '\x7b') : readValue (fuel + 1) room s = readPlain s := by
  unfold readValue
  split <;> simp_all

theorem AllAgree.array (h : AllAgree fuel more) (room : Nat) (s : Text) :
    Agrees (readValue (fuel + 1) room ('[' :: s))
      (readValue (fuel + 1) (room + more) ('[' :: s)) := by
  cases room with
  | zero =>
    -- Without room an array is too deep, and with more room it may be anything.
    rw [readValue]
    exact .of_tooDeep rfl _
  | succ room =>
    rw [Nat.add_right_comm]
    simp only [readValue]
    split
    · exact .refl _
    · obtain ⟨e, hread, he⟩ | hread := h.items room (skipSpace s)
      · rw [hread]
        exact .of_tooDeep he _
      · rw [hread]
        exact .refl _

theorem AllAgree.object (h : AllAgree fuel more) (room : Nat) (s : Text) :
    Agrees (readValue (fuel + 1) room ('\x7b' :: s))
      (readValue (fuel + 1) (room + more) ('\x7b' :: s)) := by
  cases room with
  | zero =>
    rw [readValue]
    exact .of_tooDeep rfl _
  | succ room =>
    rw [Nat.add_right_comm]
    simp only [readValue]
    split
    · exact .refl _
    · obtain ⟨e, hread, he⟩ | hread := h.members room [] (skipSpace s)
      · rw [hread]
        exact .of_tooDeep he _
      · rw [hread]
        exact .refl _

theorem AllAgree.value_succ (h : AllAgree fuel more) (room : Nat) (s : Text) :
    Agrees (readValue (fuel + 1) room s) (readValue (fuel + 1) (room + more) s) := by
  by_cases harray : s.head? = some '['
  · obtain ⟨r, rfl⟩ := List.head?_eq_some_iff.1 harray
    exact h.array room r
  by_cases hobject : s.head? = some '\x7b'
  · obtain ⟨r, rfl⟩ := List.head?_eq_some_iff.1 hobject
    exact h.object room r
  by_cases hquote : s.head? = some '\x22'
  · obtain ⟨r, rfl⟩ := List.head?_eq_some_iff.1 hquote
    simp only [readValue]
    exact .refl _
  · rw [readValue_of_plain hquote harray hobject, readValue_of_plain hquote harray hobject]
    exact .refl _

theorem AllAgree.items_succ (h : AllAgree fuel more) (room : Nat) (s : Text) :
    Agrees (readItems (fuel + 1) room s) (readItems (fuel + 1) (room + more) s) := by
  simp only [readItems]
  obtain ⟨e, hread, he⟩ | hread := h.value room s
  · rw [hread]
    exact .of_tooDeep he _
  · rw [hread]
    split
    · exact .refl _
    · split
      · exact .refl _
      · obtain ⟨e, hrest, he⟩ | hrest := h.items room (skipSpace ‹_›)
        · rw [hrest]
          exact .of_tooDeep he _
        · rw [hrest]
          exact .refl _
      · exact .refl _

theorem AllAgree.members_succ (h : AllAgree fuel more) (room : Nat)
    (members : List (WideText × Json)) (s : Text) :
    Agrees (readMembers (fuel + 1) room members s)
      (readMembers (fuel + 1) (room + more) members s) := by
  simp only [readMembers]
  split
  · split
    · exact .refl _
    · split
      · rename_i r _
        obtain ⟨e, hread, he⟩ | hread := h.value room (skipSpace r)
        · rw [hread]
          exact .of_tooDeep he _
        · rw [hread]
          split
          · exact .refl _
          · split
            · exact .refl _
            · exact h.members _ _ _
            · exact .refl _
      · exact .refl _
  · exact .refl _

/-- More room changes nothing but that more is read. -/
theorem allAgree (fuel more : Nat) : AllAgree fuel more := by
  -- Each reader calls the others with less fuel, so they are followed together.
  induction fuel with
  | zero =>
    constructor
    · intro room s
      rw [readValue, readValue]
      exact .refl _
    · intro room s
      rw [readItems, readItems]
      exact .refl _
    · intro room members s
      rw [readMembers, readMembers]
      exact .refl _
  | succ fuel ih => exact ⟨ih.value_succ, ih.items_succ, ih.members_succ⟩

/-! ## Room enough -/

theorem not_tooDeep_readUnit (unit : Nat) (s : Text) : ¬ TooDeep (readUnit unit s) := by
  unfold readUnit
  split
  · split
    · simp [Fault.isDepth]
    · split <;> simp
  · simp

theorem not_tooDeep_readEscape (opening s : Text) : ¬ TooDeep (readEscape opening s) := by
  unfold readEscape
  split
  · split
    · simp [Fault.isDepth]
    · exact not_tooDeep_readUnit _ _
  · split <;> simp [Fault.isDepth]
  · simp [Fault.isDepth]

theorem not_tooDeep_readPoints (opening s : Text) : ¬ TooDeep (readPoints opening s) := by
  fun_induction readPoints opening s with
  | case3 s _ failure h => exact not_tooDeep_of_eq (not_tooDeep_readEscape _ _) h
  | _ => simp_all [Fault.isDepth]

theorem not_tooDeep_readPlain (s : Text) : ¬ TooDeep (readPlain s) := by
  unfold readPlain
  split <;> simp [Fault.isDepth]

/-- With as much room as fuel nothing is too deep. -/
structure NoneTooDeep (fuel : Nat) : Prop where
  /-- No value is. -/
  value : ∀ {room}, fuel ≤ room → ∀ s, ¬ TooDeep (readValue fuel room s)
  /-- No items of an array are. -/
  items : ∀ {room}, fuel ≤ room → ∀ s, ¬ TooDeep (readItems fuel room s)
  /-- No members of an object are. -/
  members : ∀ {room}, fuel ≤ room → ∀ members s, ¬ TooDeep (readMembers fuel room members s)

theorem NoneTooDeep.value_succ (h : NoneTooDeep fuel) (hroom : fuel + 1 ≤ room) (s : Text) :
    ¬ TooDeep (readValue (fuel + 1) room s) := by
  -- There is room for one array or object more, and the fuel goes down with it.
  unfold readValue
  split
  · split
    · exact not_tooDeep_of_eq (not_tooDeep_readPoints _ _) ‹_›
    · simp
  · cases hroom
  · split
    · simp
    · split
      · exact not_tooDeep_of_eq (h.items (Nat.le_of_succ_le_succ hroom) _) ‹_›
      · simp
  · cases hroom
  · split
    · simp
    · split
      · exact not_tooDeep_of_eq (h.members (Nat.le_of_succ_le_succ hroom) _ _) ‹_›
      · simp
  · exact not_tooDeep_readPlain _

theorem NoneTooDeep.items_succ (h : NoneTooDeep fuel) (hroom : fuel + 1 ≤ room) (s : Text) :
    ¬ TooDeep (readItems (fuel + 1) room s) := by
  have hroom := Nat.le_of_succ_le hroom
  rw [readItems]
  split
  · exact not_tooDeep_of_eq (h.value hroom _) ‹_›
  · split
    · simp
    · split
      · exact not_tooDeep_of_eq (h.items hroom _) ‹_›
      · simp
    · simp [Fault.isDepth]

theorem NoneTooDeep.members_succ (h : NoneTooDeep fuel) (hroom : fuel + 1 ≤ room)
    (members : List (WideText × Json)) (s : Text) :
    ¬ TooDeep (readMembers (fuel + 1) room members s) := by
  have hroom := Nat.le_of_succ_le hroom
  unfold readMembers
  split
  · split
    · exact not_tooDeep_of_eq (not_tooDeep_readPoints _ _) ‹_›
    · split
      · split
        · exact not_tooDeep_of_eq (h.value hroom _) ‹_›
        · split
          · simp
          · exact h.members hroom _ _
          · simp [Fault.isDepth]
      · simp [Fault.isDepth]
  · simp [Fault.isDepth]

theorem noneTooDeep (fuel : Nat) : NoneTooDeep fuel := by
  induction fuel with
  | zero => constructor <;> intros <;> simp [readValue, readItems, readMembers, Fault.isDepth]
  | succ fuel ih => exact ⟨ih.value_succ, ih.items_succ, ih.members_succ⟩

/-! ## Documents -/

/-- The document that a text is, with room for so many arrays and objects in one another. -/
def readWithin (room : Nat) (s : Text) : Except Failure Json :=
  if s.head? = some '\ufeff' then .error ⟨.byteOrderMark, s⟩
  else
    match readValue (2 * s.length + 2) room (skipSpace s) with
    | .error failure => .error failure
    | .ok (value, r) =>
      match skipSpace r with
      | [] => .ok value
      | r => .error ⟨.extraText, r⟩

theorem read_eq_readWithin (s : Text) : read s = readWithin depthLimit s := rfl

theorem agrees_readWithin (room more : Nat) (s : Text) :
    Agrees (readWithin room s) (readWithin (room + more) s) := by
  unfold readWithin
  split
  · exact .refl _
  · obtain ⟨e, hread, he⟩ | hread := (allAgree (2 * s.length + 2) more).value room (skipSpace s)
    · rw [hread]
      exact .of_tooDeep he _
    · rw [hread]
      exact .refl _

/-- What is read with some room, and not too deep, is read with any room with which reading is not
too deep. -/
theorem readWithin_eq {room other : Nat} (h : ¬ TooDeep (readWithin room s))
    (hother : ¬ TooDeep (readWithin other s)) : readWithin room s = readWithin other s := by
  obtain ⟨more, rfl⟩ | ⟨more, rfl⟩ :=
    (Nat.le_total room other).imp Nat.exists_eq_add_of_le Nat.exists_eq_add_of_le
  · exact ((agrees_readWithin room more s).resolve_left h).symm
  · exact (agrees_readWithin other more s).resolve_left hother

/-- Some room is enough for any text. -/
theorem exists_not_tooDeep (s : Text) : ∃ room, ¬ TooDeep (readWithin room s) := by
  refine ⟨2 * s.length + 2, ?_⟩
  unfold readWithin
  split
  · simp [Fault.isDepth]
  · split
    · exact not_tooDeep_of_eq ((noneTooDeep _).value (Nat.le_refl _) _) ‹_›
    · split
      · simp
      · simp [Fault.isDepth]

end ClassScope.Json
