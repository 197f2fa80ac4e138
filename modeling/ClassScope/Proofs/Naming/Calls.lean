import ClassScope.Proofs.Naming.Pieces
import ClassScope.Proofs.Naming.Quotes

/-!
# Calls with a quoted argument

Class list calls and lookups by id have one shape: a head without quotes, up to the opening
parenthesis, and a quoted argument (`Form.IsCall`). A scan from left to right misses a call only
where another one has taken its opening quote for a closing one, and then the argument starts with a
parenthesis. Main statements:

- `Script.calls_meet`: how two calls in one text can lie;
- `Form.IsCall.exists_mem_find`: which calls are found;
- `Form.IsCall.substitute_cut`: what a pass over calls makes of a text as far as its first quote;
- `Script.isCall_classListCall`, `Script.isCall_idLookup`: the two forms.
-/

namespace ClassScope

namespace Script

/-! ## Heads and arguments -/

/-- What stands in front of the argument of a call. -/
structure IsHead (head : Text) : Prop where
  /-- There is no quote in it. -/
  unquoted : head.Unquoted
  /-- It does not start with a closing parenthesis. -/
  first : head.head? ≠ some ')'
  /-- It ends with the opening parenthesis. -/
  last : head.getLast? = some '('

instance (head : Text) : Decidable (IsHead head) :=
  decidable_of_iff (head.Unquoted ∧ head.head? ≠ some ')' ∧ head.getLast? = some '(')
    ⟨fun h => ⟨h.1, h.2.1, h.2.2⟩, fun h => ⟨h.unquoted, h.first, h.last⟩⟩

theorem IsHead.ne_nil {head : Text} (h : IsHead head) : head ≠ [] := by
  rintro rfl
  simpa using h.last

theorem IsHead.exists_eq_cons {head : Text} (h : IsHead head) : ∃ c s, head = c :: s ∧ c ≠ ')' := by
  obtain ⟨c, s, rfl⟩ := List.exists_cons_of_ne_nil h.ne_nil
  exact ⟨c, s, rfl, fun hc => h.first (by rw [hc]; rfl)⟩

variable {head other u v r : Text} {a b : Argument}

/-- Where a call stands in a text that starts with a call: behind that one, or it is that one, or it
starts in the argument of that one and shares a quote with it. -/
theorem calls_meet (hhead : IsHead head) (hother : IsHead other) (ha : a.Valid) (hb : b.Valid)
    (h : other ++ (b.write ++ r) = u ++ (head ++ (a.write ++ v))) :
    (∃ t, u = other ++ (b.write ++ t) ∧ r = t ++ (head ++ (a.write ++ v))) ∨
      (other = u ++ head ∧ b = a ∧ r = v) ∨
      ∃ s t, b.value = s ++ head ∧ a.value = ')' :: t ∧ r = t ++ a.closing :: ')' :: v := by
  rw [Argument.write_append, Argument.write_append] at h
  -- The quotes in `u` tell how far the second call is behind the head of the first one.
  rcases Text.unquoted_or_cut u with hu | ⟨front, q, u, rfl, hu, hq⟩
  · -- None: the heads end at the same quote, so the arguments start and end at the same quotes.
    rw [← List.append_assoc u] at h
    obtain ⟨hheads, hopening, harguments⟩ :=
      Text.append_quote_inj hother.unquoted (hu.append hhead.unquoted) hb.opening ha.opening h
    obtain ⟨hvalue, hclosing, hrest⟩ :=
      Text.append_quote_inj hb.value ha.value hb.closing ha.closing harguments
    refine .inr (.inl ⟨hheads, ?_, by simpa using hrest⟩)
    obtain ⟨opening, value, closing⟩ := b
    subst hopening hvalue hclosing
    rfl
  rw [List.append_assoc, List.cons_append] at h
  obtain ⟨rfl, rfl, harguments⟩ := Text.append_quote_inj hother.unquoted hu hb.opening hq h
  -- One at least, the opening quote of the first argument. Without another one the second head
  -- starts in that argument.
  rcases Text.unquoted_or_cut u with hu | ⟨value, q, u, rfl, hu, hq⟩
  · -- The second head ends at the closing quote of the first argument.
    rw [← List.append_assoc u] at harguments
    obtain ⟨hvalue, -, hrest⟩ :=
      Text.append_quote_inj hb.value (hu.append hhead.unquoted) hb.closing ha.opening harguments
    obtain ⟨c, t, hc⟩ := List.exists_cons_of_ne_nil ha.ne_nil
    rw [hc, List.cons_append, List.cons.injEq] at hrest
    exact .inr (.inr ⟨u, t, hvalue, by rw [hc, hrest.1], hrest.2⟩)
  · rw [List.append_assoc, List.cons_append] at harguments
    obtain ⟨hvalue, hclosing, hrest⟩ :=
      Text.append_quote_inj hb.value hu hb.closing hq harguments
    cases u with
    | nil =>
      -- The second head would start with the closing parenthesis of the first call.
      obtain ⟨c, s, rfl, hc⟩ := hhead.exists_eq_cons
      rw [List.nil_append, List.cons_append, List.cons.injEq] at hrest
      exact absurd hrest.1.symm hc
    | cons c u =>
      rw [List.cons_append, List.cons.injEq] at hrest
      refine .inl ⟨u, ?_, ?_⟩
      · rw [Argument.write_append, hvalue, hclosing, hrest.1]
      · simp only [Argument.write_append, hrest.2]

end Script

open Script

/-! ## Forms of calls -/

/-- The instances of the form are the calls with one of some heads and a valid argument. -/
structure Form.IsCall {α : Type} (form : Form Char α) (argument : α → Argument)
    (heads : List Text) : Prop where
  /-- What stands in front of a call does not matter. -/
  contextFree : form.ContextFree
  /-- The heads are heads. -/
  isHead : ∀ head ∈ heads, IsHead head
  /-- What is read is a head and a valid argument. -/
  of_read : ∀ {s r x}, form.read none s = some (x, r) →
    ∃ head ∈ heads, s = head ++ ((argument x).write ++ r) ∧ (argument x).Valid
  /-- A head and a valid argument are read. -/
  exists_read : ∀ {head a} r, head ∈ heads → a.Valid →
    ∃ x, form.read none (head ++ (a.write ++ r)) = some (x, r) ∧ argument x = a

namespace Form.IsCall

variable {α : Type} {form : Form Char α} {argument : α → Argument} {heads : List Text}

/-- A call that is found stands in the text. -/
theorem exists_of_mem_find (h : form.IsCall argument heads) {s : Text} {x : α}
    (hx : x ∈ form.find s) :
    (argument x).Valid ∧
      ∃ head ∈ heads, ∃ u v, s = u ++ (head ++ ((argument x).write ++ v)) := by
  obtain ⟨u, v, rfl, hread⟩ := Form.exists_of_mem_find h.contextFree hx
  obtain ⟨head, hhead, hs, hvalid⟩ := h.of_read hread
  exact ⟨hvalid, head, hhead, u, v, by rw [hs]⟩

/-- The argument of a call stands in the text. -/
theorem infix_of_mem_find (h : form.IsCall argument heads) {s : Text} {x : α}
    (hx : x ∈ form.find s) : (argument x).value <:+: s := by
  obtain ⟨-, head, -, u, v, rfl⟩ := h.exists_of_mem_find hx
  refine ⟨u ++ head ++ [(argument x).opening], (argument x).closing :: ')' :: v, ?_⟩
  simp [Argument.write_append]

/-- A call that stands in the text is found, unless its argument starts with a parenthesis. -/
theorem exists_mem_find (h : form.IsCall argument heads) {head u v : Text} {a : Argument}
    (hhead : head ∈ heads) (ha : a.Valid) (hfirst : a.value.head? ≠ some ')') :
    ∃ x ∈ form.find (u ++ (head ++ (a.write ++ v))), argument x = a := by
  obtain ⟨s, hs⟩ : ∃ s, s = u ++ (head ++ (a.write ++ v)) := ⟨_, rfl⟩
  rw [← hs]
  induction s using form.scan_induction generalizing u with
  | nil =>
    have := (h.isHead head hhead).ne_nil
    simp_all
  | hit s x r hread ih =>
    -- Only a call that shares a quote with the one read here is missed.
    rw [Form.find_of_read h.contextFree hread]
    obtain ⟨other, hother, rfl, hx⟩ := h.of_read hread
    rcases calls_meet (h.isHead head hhead) (h.isHead other hother) ha hx hs with
      ⟨t, -, hr⟩ | ⟨-, hsame, -⟩ | ⟨-, t, -, hvalue, -⟩
    · obtain ⟨y, hy, hya⟩ := ih hr
      exact ⟨y, List.mem_cons_of_mem x hy, hya⟩
    · exact ⟨x, List.mem_cons_self, hsame⟩
    · rw [hvalue] at hfirst
      exact absurd rfl hfirst
  | gap c s hread ih =>
    rw [Form.find_of_not_read h.contextFree hread]
    cases u with
    | nil =>
      -- The call would be read here.
      obtain ⟨x, hx, -⟩ := h.exists_read v hhead ha
      rw [List.nil_append] at hs
      rw [hs, hx] at hread
      cases hread
    | cons d u =>
      rw [List.cons_append, List.cons.injEq] at hs
      exact ih hs.2

/-- A head ends with its parenthesis. -/
theorem not_suffix_of_getLast? (h : form.IsCall argument heads) {t : Text}
    (hlast : t.getLast? ≠ some '(') : ∀ head ∈ heads, ¬ head <:+ t := by
  rintro head hhead ⟨w, rfl⟩
  rw [List.getLast?_append, (h.isHead head hhead).last] at hlast
  exact hlast rfl

/-- No call starts with a closing parenthesis. -/
theorem read_parenthesis (h : form.IsCall argument heads) (s : Text) :
    form.read none (')' :: s) = none := by
  by_contra hread
  obtain ⟨⟨x, r⟩, hread⟩ := Option.ne_none_iff_exists'.1 hread
  obtain ⟨head, hhead, hs, -⟩ := h.of_read hread
  obtain ⟨c, t, rfl, hc⟩ := (h.isHead head hhead).exists_eq_cons
  rw [List.cons_append, List.cons.injEq] at hs
  exact hc hs.1.symm

/-- What is read goes up to a quote, and what stands in front of the first quote is a head. -/
theorem read_append_quote (h : form.IsCall argument heads) {q : Char} {s t : Text}
    (ht : t.Unquoted) (hnot : t ∉ heads) (hq : Text.isQuote q = true) :
    form.read none (t ++ q :: s) = none := by
  by_contra hread
  obtain ⟨⟨x, r⟩, hread⟩ := Option.ne_none_iff_exists'.1 hread
  obtain ⟨head, hhead, hs, hx⟩ := h.of_read hread
  rw [Argument.write_append] at hs
  rw [(Text.append_quote_inj ht (h.isHead head hhead).unquoted hq hx.opening hs).1] at hnot
  exact hnot hhead

/-- No call starts with a quote. -/
theorem read_quote (h : form.IsCall argument heads) {q : Char} (hq : Text.isQuote q = true)
    (s : Text) : form.read none (q :: s) = none :=
  h.read_append_quote (t := []) Text.unquoted_nil (fun hhead => (h.isHead [] hhead).ne_nil rfl) hq

/-- In a stretch up to a quote no call starts, unless a head stands in front of the quote. -/
theorem skips_append_quote (h : form.IsCall argument heads) {q : Char} {t : Text}
    (ht : t.Unquoted) (hends : ∀ head ∈ heads, ¬ head <:+ t) (hq : Text.isQuote q = true) :
    form.Skips (t ++ [q]) :=
  .of_last fun v hv _ => h.read_append_quote (ht.of_suffix hv) (fun hhead => hends v hhead hv) hq

theorem find_append_quote (h : form.IsCall argument heads) {q : Char} {s t : Text}
    (ht : t.Unquoted) (hends : ∀ head ∈ heads, ¬ head <:+ t) (hq : Text.isQuote q = true) :
    form.find (t ++ q :: s) = form.find s := by
  rw [List.append_cons]
  exact (h.skips_append_quote ht hends hq).find_append h.contextFree s

theorem substitute_append_quote (h : form.IsCall argument heads) {replace : α → Text} {q : Char}
    {s t : Text} (ht : t.Unquoted) (hends : ∀ head ∈ heads, ¬ head <:+ t)
    (hq : Text.isQuote q = true) :
    form.substitute replace (t ++ q :: s) = t ++ q :: form.substitute replace s := by
  rw [List.append_cons t, List.append_cons t q (form.substitute replace s)]
  exact (h.skips_append_quote ht hends hq).substitute_append h.contextFree s

/-- A call that is read is its head with its argument. -/
theorem write_of_read (h : form.IsCall argument heads) {s r : Text} {x : α}
    (hread : form.read none s = some (x, r)) :
    ∃ head ∈ heads, form.write x = head ++ (argument x).write ∧ (argument x).Valid := by
  obtain ⟨head, hhead, hs, hx⟩ := h.of_read hread
  refine ⟨head, hhead, ?_, hx⟩
  have := (form.sound hread).1.symm.trans hs
  rwa [← List.append_assoc, List.append_cancel_right_eq] at this

/-- A text without quotes is kept. -/
theorem substitute_of_unquoted (h : form.IsCall argument heads) {replace : α → Text} {s : Text}
    (hs : s.Unquoted) : form.substitute replace s = s := by
  refine Form.substitute_eq_self h.contextFree fun x hx => ?_
  obtain ⟨hvalid, head, -, u, v, rfl⟩ := h.exists_of_mem_find hx
  have hopening := hvalid.opening
  rw [hs (argument x).opening (by simp [Argument.write])] at hopening
  cases hopening

/-- The first quote of a text opens the argument of a call, or the text is kept as far as it. -/
theorem substitute_cut (h : form.IsCall argument heads) (replace : α → Text) {s t : Text} {q : Char}
    (ht : t.Unquoted) (hq : Text.isQuote q = true) :
    form.substitute replace (t ++ q :: s) = t ++ q :: form.substitute replace s ∨
      ∃ w, ∃ head ∈ heads, ∃ x r, t = w ++ head ∧ q :: s = (argument x).write ++ r ∧
        (argument x).Valid ∧ form.write x = head ++ (argument x).write ∧
        form.substitute replace (t ++ q :: s) = w ++ (replace x ++ form.substitute replace r) := by
  induction t with
  | nil => exact .inl (Form.substitute_of_not_read h.contextFree (h.read_quote hq s))
  | cons c t ih =>
    match hread : form.read none (c :: (t ++ q :: s)) with
    | some (x, r) =>
      obtain ⟨head, hhead, hwrite, hx⟩ := h.write_of_read hread
      have hs := (form.sound hread).1
      rw [hwrite, List.append_assoc, Argument.write_append, ← List.cons_append] at hs
      obtain ⟨hfront, hopening, hrest⟩ :=
        Text.append_quote_inj ht (h.isHead head hhead).unquoted hq hx.opening hs
      refine .inr ⟨[], head, hhead, x, r, hfront, ?_, hx, hwrite, ?_⟩
      · rw [Argument.write_append, hopening, hrest]
      · exact Form.substitute_of_read h.contextFree hread
    | none =>
      have hkept : form.substitute replace (c :: t ++ q :: s) =
          c :: form.substitute replace (t ++ q :: s) :=
        Form.substitute_of_not_read h.contextFree hread
      rw [hkept]
      rcases ih (List.forall_mem_cons.1 ht).2 with ih |
        ⟨w, head, hhead, x, r, rfl, hs, hx, hwrite, ih⟩
      · exact .inl (by rw [ih]; rfl)
      · exact .inr ⟨c :: w, head, hhead, x, r, rfl, hs, hx, hwrite, by rw [ih]; rfl⟩

end Form.IsCall

/-! ## The two forms -/

namespace Script

/-- The heads of class list calls. -/
def callHeads : List Text :=
  Method.all.map fun method => Text.of "classList." ++ (method.word ++ ['('])

/-- The head of a lookup by id. -/
def lookupHead : Text := Text.of "getElementById("

theorem Method.mem_all (method : Method) : method ∈ Method.all := by
  cases method <;> decide

/-- The name of a method is read where it stands, with its parenthesis. -/
theorem Method.read?_word_append (method : Method) (s : Text) :
    Method.read? (method.word ++ '(' :: s) = some (method, s) := by
  have hsame : ∀ m : Method, Text.after? (m.word ++ ['(']) (method.word ++ '(' :: s) =
      if m = method then some s else none := by
    intro m
    split
    · rename_i hm
      rw [hm, Text.after?_eq_some_iff]
      simp
    · rename_i hm
      -- No name of a method, with its parenthesis, starts with that of another one.
      revert hm
      cases m <;> cases method <;> simp [word, Text.of_eq_toList, Text.after?]
  unfold Method.read?
  cases method <;> simp [Method.all, hsame, List.findSome?]

/-- What is read is a method and a valid argument. -/
theorem ClassListCall.read?_eq_some_iff {s r : Text} {call : ClassListCall} :
    read? s = some (call, r) ↔ s = call.write ++ r ∧ call.argument.Valid := by
  constructor
  · intro h
    have hread : classListCall.read none s = some (call, r) := h
    refine ⟨(classListCall.sound hread).1, ?_⟩
    simp only [read?, Option.bind_eq_bind, Option.bind_eq_some_iff, Option.some.injEq,
      Prod.mk.injEq, Prod.exists] at h
    obtain ⟨t, -, method, w, -, argument, v, hv, rfl, -⟩ := h
    exact (Argument.read?_eq_some_iff.1 hv).2
  · rintro ⟨rfl, hvalid⟩
    have hargument : Argument.read? (call.argument.write ++ r) = some (call.argument, r) :=
      Argument.read?_eq_some_iff.2 ⟨rfl, hvalid⟩
    simp [read?, write, Method.read?_word_append, hargument]

/-- What is read is a valid argument. -/
theorem readIdLookup?_eq_some_iff {s r : Text} {a : Argument} :
    readIdLookup? s = some (a, r) ↔ s = writeIdLookup a ++ r ∧ a.Valid := by
  simp only [readIdLookup?, writeIdLookup, Option.bind_eq_bind, Option.bind_eq_some_iff,
    Text.after?_eq_some_iff, Argument.read?_eq_some_iff, List.append_assoc]
  constructor
  · rintro ⟨t, rfl, rfl, hvalid⟩
    exact ⟨rfl, hvalid⟩
  · rintro ⟨rfl, hvalid⟩
    exact ⟨_, rfl, rfl, hvalid⟩

/-- The head of a class list call. -/
def ClassListCall.head (call : ClassListCall) : Text :=
  Text.of "classList." ++ (call.method.word ++ ['('])

theorem ClassListCall.head_mem (call : ClassListCall) : call.head ∈ callHeads :=
  List.mem_map_of_mem (Method.mem_all call.method)

theorem ClassListCall.isHead_head (call : ClassListCall) : IsHead call.head := by
  have h : ∀ head ∈ callHeads, IsHead head := by decide +kernel
  exact h call.head call.head_mem

theorem ClassListCall.write_append (call : ClassListCall) (r : Text) :
    call.write ++ r = call.head ++ (call.argument.write ++ r) := by
  simp [write, head]

theorem isCall_classListCall : classListCall.IsCall ClassListCall.argument callHeads where
  contextFree _ _ := rfl
  isHead := by decide +kernel
  of_read {s r call} h := by
    obtain ⟨rfl, hvalid⟩ := ClassListCall.read?_eq_some_iff.1 h
    exact ⟨call.head, call.head_mem, call.write_append r, hvalid⟩
  exists_read {head a} r hhead ha := by
    obtain ⟨method, -, rfl⟩ := List.mem_map.1 hhead
    refine ⟨⟨method, a⟩, ClassListCall.read?_eq_some_iff.2 ⟨?_, ha⟩, rfl⟩
    exact (ClassListCall.write_append ⟨method, a⟩ r).symm

theorem isCall_idLookup : idLookup.IsCall id [lookupHead] where
  contextFree _ _ := rfl
  isHead := by decide +kernel
  of_read {s r a} h := by
    obtain ⟨rfl, hvalid⟩ := readIdLookup?_eq_some_iff.1 h
    exact ⟨lookupHead, List.mem_singleton_self _, List.append_assoc _ _ _, hvalid⟩
  exists_read {head a} r hhead ha := by
    rw [List.mem_singleton.1 hhead]
    exact ⟨a, readIdLookup?_eq_some_iff.2 ⟨(List.append_assoc _ _ _).symm, ha⟩, rfl⟩

end Script

end ClassScope
