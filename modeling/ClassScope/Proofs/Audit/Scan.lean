import ClassScope.Proofs.Audit.Calls
import ClassScope.Proofs.Naming.Quotations

/-!
# Which class list calls the audit finds

The arguments of a class list call go up to the next closing parenthesis, whatever stands in them.
So the audit finds a call that stands in a script, unless it stands in the arguments of another one.
Main statements:

- `Audit.AnyCall.mem_find_iff`: the calls that are found;
- `Script.SameCalls.inCall_iff`: what stands in a call before a pass does so after it.
-/

namespace ClassScope

namespace Audit

/-! ## The front of a call -/

namespace AnyCall

variable {call other : AnyCall} {s t u v w r : Text}

/-- What stands in front of the arguments of a call. -/
def head (call : AnyCall) : Text := Text.of "classList." ++ (call.method ++ ['('])

/-- The text of a call without the closing parenthesis. -/
def front (call : AnyCall) : Text := call.head ++ call.arguments

theorem write_append_eq_front (call : AnyCall) (r : Text) :
    call.write ++ r = call.front ++ ')' :: r := by
  simp [write, front, head]

theorem ne_of_isWord {c d : Char} (hc : Text.isWord c = true) (hd : Text.isWord d = false) :
    c ≠ d := by
  rintro rfl
  rw [hc] at hd
  cases hd

/-- There is neither a quote nor a closing parenthesis in front of the arguments. -/
theorem Valid.of_mem_head (h : call.Valid) {c : Char} (hc : c ∈ call.head) :
    Text.isQuote c = false ∧ c ≠ ')' := by
  have hname : (Text.of "classList.").Unquoted ∧ ')' ∉ Text.of "classList." := by
    rw [Text.of_eq_toList]
    decide
  rcases List.mem_append.1 hc with hc | hc
  · exact ⟨hname.1 c hc, fun h => hname.2 (h ▸ hc)⟩
  rcases List.mem_append.1 hc with hc | hc
  · have hword := h.method c hc
    have hquote : Text.isQuote c = false := by
      simp only [Text.isQuote, Bool.or_eq_false_iff, beq_eq_false_iff_ne]
      exact ⟨⟨ne_of_isWord hword (by decide), ne_of_isWord hword (by decide)⟩,
        ne_of_isWord hword (by decide)⟩
    exact ⟨hquote, ne_of_isWord hword (by decide)⟩
  · rw [List.mem_singleton.1 hc]
    decide

theorem Valid.unquoted_head (h : call.Valid) : call.head.Unquoted :=
  fun _ hc => (h.of_mem_head hc).1

/-- The method with other arguments. -/
theorem Valid.withArguments (h : call.Valid) (hs : ')' ∉ s) : Valid ⟨call.method, s⟩ :=
  { h with arguments := hs }

/-- There is no closing parenthesis in a call but the last character. -/
theorem Valid.not_mem_front (h : call.Valid) : ')' ∉ call.front := by
  intro hmem
  rcases List.mem_append.1 hmem with hmem | hmem
  · exact (h.of_mem_head hmem).2 rfl
  · exact h.arguments hmem

/-- A call that is cut at a quote is cut in its arguments. -/
theorem Valid.exists_front_eq (h : call.Valid) {q : Char} (hq : Text.isQuote q = true)
    (heq : call.front = t ++ q :: u) : ∃ other : AnyCall, other.Valid ∧ other.front = t := by
  rw [front] at heq
  rcases List.append_eq_append_iff.1 heq with ⟨z, rfl, hz⟩ | ⟨z, hz, hu⟩
  · exact ⟨⟨call.method, z⟩, h.withArguments fun hmem =>
      h.arguments (hz ▸ List.mem_append_left _ hmem), rfl⟩
  · cases z with
    | nil =>
      refine ⟨⟨call.method, []⟩, h.withArguments List.not_mem_nil, ?_⟩
      rw [front, List.append_nil, ← List.append_nil t, ← hz]
      rfl
    | cons d z =>
      rw [List.cons_append, List.cons.injEq] at hu
      have hquote := (h.of_mem_head (c := q) (by rw [hz, hu.1]; simp)).1
      rw [hq] at hquote
      cases hquote

/-- No call starts inside of what stands in front of the arguments of a call. -/
theorem Valid.head_append_ne (h : call.Valid) (hhead : call.head = u ++ w) (hu : u ≠ [])
    (hw : w ≠ []) : call.head ++ t ≠ u ++ (other.head ++ s) := by
  have hname : Text.of "classList." = Text.of "classList" ++ ['.'] := by
    simp [Text.of_eq_toList]
  have hword : ∀ c ∈ Text.of "classList", Text.isWord c = true := by
    simp [Text.of_eq_toList, Text.isWord_of_ascii, Text.isAsciiWord, Text.isAsciiLetter]
  have hpoint : Text.isWord '.' = false := by decide
  have hhead' : call.head = Text.of "classList" ++ '.' :: (call.method ++ ['(']) := by
    rw [head, hname, List.append_assoc, List.singleton_append]
  intro heq
  rw [hhead', List.append_assoc, List.cons_append, head, hname] at heq
  rcases Text.all_or_cut Text.isWord u with hfirst | ⟨front, c, back, rfl, hfront, hc⟩
  · -- The point would stand too far behind.
    have hcut := Text.append_cons_inj_of (s := u ++ Text.of "classList") (t := Text.of "classList")
      (List.forall_mem_append.2 ⟨hfirst, hword⟩) hword hpoint hpoint (by simpa using heq.symm)
    exact hu (List.append_left_eq_self.1 hcut.1)
  · -- Behind the point there is a word and a parenthesis, and no second point.
    obtain ⟨-, -, hmethod⟩ := Text.append_cons_inj_of hword hfront hpoint hc
      (hhead'.symm.trans (by simpa using hhead))
    have hback : ∀ d ∈ back, Text.isWord d = true := by
      rcases List.append_eq_append_iff.1 hmethod with ⟨x, rfl, hx⟩ | ⟨x, hx, -⟩
      · rcases List.append_eq_singleton_iff.1 hx.symm with ⟨rfl, -⟩ | ⟨-, rfl⟩
        · simpa using h.method
        · exact absurd rfl hw
      · exact fun d hd => h.method d (hx ▸ List.mem_append_left x hd)
    obtain ⟨-, -, hrest⟩ := Text.append_cons_inj_of (u := call.method ++ ['('] ++ t)
      hword hfront hpoint hc (by simpa using heq)
    have hcut := Text.append_cons_inj_of (s := call.method) (c := '(') (u := t)
      (t := back ++ Text.of "classList") h.method
      (List.forall_mem_append.2 ⟨hback, hword⟩) (by decide) hpoint (by simpa using hrest)
    exact absurd hcut.2.1 (by decide)

end AnyCall

/-! ## What stands in the arguments of a call -/

/-- What stands behind this text stands in the arguments of a call. -/
def InCall (s : Text) : Prop := ∃ call : AnyCall, call.Valid ∧ call.front <:+ s

variable {s t u u' : Text} {c q : Char}

theorem not_inCall_nil : ¬ InCall [] := by
  rintro ⟨call, -, hfront⟩
  have hnil := List.suffix_nil.1 hfront
  rw [AnyCall.front, AnyCall.head] at hnil
  simp at hnil

theorem InCall.append_left (h : InCall s) (t : Text) : InCall (t ++ s) := by
  obtain ⟨call, hcall, hfront⟩ := h
  exact ⟨call, hcall, hfront.trans (List.suffix_append t s)⟩

/-- A closing parenthesis ends a call. -/
theorem inCall_append_parenthesis : InCall (t ++ ')' :: u) ↔ InCall u := by
  constructor
  · rintro ⟨call, hcall, hfront⟩
    exact ⟨call, hcall, Text.suffix_of_suffix_append_cons hcall.not_mem_front hfront⟩
  · intro h
    simpa using h.append_left (t ++ [')'])

/-- A call that is open behind a quote has started behind it, or it was open in front of it. -/
theorem inCall_append_quote (hq : Text.isQuote q = true) :
    InCall (t ++ q :: u) ↔ InCall u ∨ (InCall t ∧ ')' ∉ u) := by
  constructor
  · rintro ⟨call, hcall, hfront⟩
    rcases List.suffix_or_suffix_of_suffix hfront (List.suffix_append t (q :: u)) with
      hsuffix | ⟨x, hx⟩
    · rcases List.suffix_cons_iff.1 hsuffix with hall | hsuffix
      · -- A call does not start with a quote.
        obtain ⟨other, hother, hnil⟩ := hcall.exists_front_eq (t := []) hq hall
        exact absurd ⟨other, hother, hnil ▸ List.suffix_refl _⟩ not_inCall_nil
      · exact .inl ⟨call, hcall, hsuffix⟩
    · obtain ⟨other, hother, rfl⟩ := hcall.exists_front_eq hq hx.symm
      obtain ⟨y, hy⟩ := hfront
      refine .inr ⟨⟨other, hother, y, ?_⟩, fun hmem => hcall.not_mem_front ?_⟩
      · rw [← hx, ← List.append_assoc] at hy
        exact List.append_cancel_right hy
      · rw [← hx]
        exact List.mem_append_right _ (List.mem_cons_of_mem q hmem)
  · rintro (h | ⟨⟨call, hcall, hfront⟩, hu⟩)
    · simpa using h.append_left (t ++ [q])
    · obtain ⟨x, rfl⟩ := hfront
      refine ⟨⟨call.method, call.arguments ++ q :: u⟩, hcall.withArguments fun hmem => ?_, x,
        by simp [AnyCall.front, AnyCall.head]⟩
      rcases List.mem_append.1 hmem with hmem | hmem
      · exact hcall.arguments hmem
      · rcases List.mem_cons.1 hmem with rfl | hmem
        · exact absurd hq (by decide)
        · exact hu hmem

/-! ## The calls that are found -/

namespace AnyCall

variable {call : AnyCall} {r v : Text}

/-- A call that stands in a text that starts with a call stands behind that one, if it does not
stand in its arguments and is not that one. -/
theorem Valid.behind (h : call.Valid) {other : AnyCall} (hu : ¬ InCall u) (hne : u ≠ [])
    (heq : call.write ++ r = u ++ (other.write ++ v)) :
    ∃ t, u = call.write ++ t ∧ r = t ++ (other.write ++ v) := by
  rw [write_append_eq_front, front, List.append_assoc] at heq
  rcases List.append_eq_append_iff.1 heq with ⟨x, rfl, hx⟩ | ⟨x, hx, hrest⟩
  · rcases List.append_eq_append_iff.1 hx with ⟨y, rfl, hy⟩ | ⟨y, hy, hrest⟩
    · cases y with
      | nil => exact absurd ⟨call, h, by simp [front]⟩ hu
      | cons c y =>
        rw [List.cons_append, List.cons.injEq] at hy
        exact ⟨y, by rw [← hy.1]; simp [write, head], hy.2⟩
    · have hx : ')' ∉ x := fun hmem => h.arguments (hy ▸ List.mem_append_left _ hmem)
      exact absurd ⟨⟨call.method, x⟩, h.withArguments hx, List.suffix_refl _⟩ hu
  · cases x with
    | nil =>
      rw [List.append_nil] at hx
      refine absurd ⟨⟨call.method, []⟩, h.withArguments List.not_mem_nil, ?_⟩ hu
      rw [front, List.append_nil, ← hx]
      exact List.suffix_refl _
    | cons c x =>
      have hnot : call.head ++ (call.arguments ++ ')' :: r) ≠
          u ++ (other.head ++ (other.arguments ++ ')' :: v)) :=
        h.head_append_ne hx hne (List.cons_ne_nil c x)
      refine absurd ?_ hnot
      rw [hx, List.append_assoc, ← hrest, write_append_eq_front, front, List.append_assoc]

/-- A call that stands in a script is found, unless it stands in the arguments of a call. -/
theorem mem_find_iff {code : Text} :
    call ∈ anyCall.find code ↔
      call.Valid ∧ ∃ u v, code = u ++ (call.write ++ v) ∧ ¬ InCall u := by
  constructor
  · intro h
    refine ⟨valid_of_mem_find h, ?_⟩
    induction code using anyCall.scan_induction with
    | nil => simp at h
    | hit code other r hread ih =>
      obtain ⟨rfl, hother⟩ := read?_eq_some_iff.1 hread
      rw [Form.find_of_read contextFree_anyCall hread] at h
      rcases List.mem_cons.1 h with rfl | h
      · exact ⟨[], r, rfl, not_inCall_nil⟩
      · obtain ⟨u, v, rfl, hu⟩ := ih h
        refine ⟨other.write ++ u, v, by simp, ?_⟩
        rwa [write_append_eq_front, inCall_append_parenthesis]
    | gap c s hread ih =>
      rw [Form.find_of_not_read contextFree_anyCall hread] at h
      obtain ⟨u, v, rfl, hu⟩ := ih h
      refine ⟨c :: u, v, rfl, ?_⟩
      rintro ⟨other, hother, hfront⟩
      rcases List.suffix_cons_iff.1 hfront with hall | hfront
      · -- The call at the front would be read, as far as the end of the call that is found.
        have hvalid : Valid ⟨other.method, other.arguments ++ call.front⟩ := by
          refine hother.withArguments fun hmem => ?_
          rcases List.mem_append.1 hmem with hmem | hmem
          · exact hother.arguments hmem
          · exact (valid_of_mem_find h).not_mem_front hmem
        have hsome : anyCall.read none (c :: (u ++ (call.write ++ v))) =
            some (⟨other.method, other.arguments ++ call.front⟩, v) := by
          refine read?_eq_some_iff.2 ⟨?_, hvalid⟩
          rw [← List.cons_append, ← hall, write_append_eq_front, write_append_eq_front]
          simp [front, head]
        rw [hread] at hsome
        cases hsome
      · exact hu ⟨other, hother, hfront⟩
  · rintro ⟨hcall, u, v, hcode, hu⟩
    induction code using anyCall.scan_induction generalizing u with
    | nil => simp [write] at hcode
    | hit code other r hread ih =>
      rw [Form.find_of_read contextFree_anyCall hread]
      obtain ⟨rfl, hother⟩ := read?_eq_some_iff.1 hread
      by_cases hne : u = []
      · rw [hne, List.nil_append] at hcode
        have hsame : read? (call.write ++ v) = some (call, v) := read?_eq_some_iff.2 ⟨rfl, hcall⟩
        rw [← hcode, show read? _ = _ from hread] at hsame
        rw [(Prod.mk.inj (Option.some.inj hsame)).1]
        exact List.mem_cons_self
      · obtain ⟨t, rfl, hr⟩ := hother.behind hu hne hcode
        rw [write_append_eq_front, inCall_append_parenthesis] at hu
        exact List.mem_cons_of_mem other (ih t hr hu)
    | gap c s hread ih =>
      rw [Form.find_of_not_read contextFree_anyCall hread]
      cases u with
      | nil =>
        rw [hcode, show anyCall.read none ([] ++ (call.write ++ v)) = some (call, v) from
          read?_eq_some_iff.2 ⟨rfl, hcall⟩] at hread
        cases hread
      | cons d u =>
        rw [List.cons_append, List.cons.injEq] at hcode
        exact ih u hcode.2 fun h => hu (h.append_left [d])

end AnyCall

end Audit

/-! ## Passes over calls -/

namespace Script.SameCalls

variable {u u' : Text}

theorem mem_parenthesis_iff (h : SameCalls u u') : ')' ∈ u ↔ ')' ∈ u' := by
  induction h with
  | refl => rfl
  | quote hq h ih => simp [ih]
  | call h ih => simp

/-- What stands in a call before the pass does so after it. -/
theorem inCall_iff (h : SameCalls u u') : Audit.InCall u ↔ Audit.InCall u' := by
  induction h with
  | refl => rfl
  | quote hq h ih => rw [Audit.inCall_append_quote hq, Audit.inCall_append_quote hq, ih,
      h.mem_parenthesis_iff]
  | call h ih => rw [Audit.inCall_append_parenthesis, Audit.inCall_append_parenthesis, ih]

end Script.SameCalls

end ClassScope
