import ClassScope.Proofs.Naming.Selectors

/-!
# Where the names of a script come from

The second and the third pass over a script run on what the pass before left, so they may take its
output for a name. In a scope without quotes this happens in one way only: a selector literal that
is the argument of a call (`Script.calledNames`) is put in the scope by the first pass and taken for
a name, point and all, by a later one. Main statements:

- `Script.lookup_of_callsInScope`, `Script.lookup_callsInScope`: lookups by id after and before the
  pass over class list calls;
- `Script.infix_or_called_of_mem_laterNames`: a name that a later pass finds stands in the script,
  unless it is such a selector;
- `Script.mem_laterNames_of_called`: a later pass finds each such selector.
-/

namespace ClassScope

open Registry (fullName)

namespace Script

/-! ## The pass over class list calls -/

variable {scope : Setting} {code s t r u v : Text} {a b : Argument} {call : ClassListCall}

/-- A call after the pass: the name is in the scope, and the quotes are single ones. -/
def ClassListCall.inScope (scope : Setting) (call : ClassListCall) : ClassListCall :=
  ⟨call.method, '\x27', fullName scope call.argument.value, '\x27'⟩

@[simp]
theorem ClassListCall.head_inScope : (call.inScope scope).head = call.head := rfl

theorem ClassListCall.valid_inScope (hscope : scope.asText.Unquoted) (h : call.argument.Valid) :
    (call.inScope scope).argument.Valid where
  opening := rfl
  value := hscope.append h.value
  ne_nil := List.append_ne_nil_of_right_ne_nil _ h.ne_nil
  closing := rfl

/-- A call at the front of a script is put in the scope. -/
theorem callsInScope_of_read (h : classListCall.read none code = some (call, r)) :
    callsInScope scope code = (call.inScope scope).write ++ callsInScope scope r :=
  Form.substitute_of_read isCall_classListCall.contextFree h

/-- Where no call is at the front, the first character is kept. -/
theorem callsInScope_of_not_read {c : Char} (h : classListCall.read none (c :: s) = none) :
    callsInScope scope (c :: s) = c :: callsInScope scope s :=
  Form.substitute_of_not_read isCall_classListCall.contextFree h

/-- A stretch up to a quote is kept, unless the head of a call stands in front of the quote. -/
theorem callsInScope_append_quote {q : Char} (ht : t.Unquoted)
    (hends : ∀ head ∈ callHeads, ¬ head <:+ t) (hq : Text.isQuote q = true) :
    callsInScope scope (t ++ q :: s) = t ++ q :: callsInScope scope s :=
  isCall_classListCall.substitute_append_quote ht hends hq

/-- A call after the pass, with what follows it. -/
theorem ClassListCall.write_inScope_append (call : ClassListCall) (r : Text) :
    (call.inScope scope).write ++ r = call.head ++ ((call.inScope scope).argument.write ++ r) := by
  rw [write_append, head_inScope]

/-- What stands in front of the first quote after the pass stood in front of the first quote before
it. What follows the quote is that after the pass, or the quote opens the argument of a call and the
scope follows it. -/
theorem exists_of_callsInScope_eq_append_quote {q : Char} (ht : t.Unquoted)
    (hq : Text.isQuote q = true) (h : callsInScope scope code = t ++ q :: r) :
    ∃ q' s, code = t ++ q' :: s ∧ Text.isQuote q' = true ∧
      (callsInScope scope s = r ∨ (∃ head ∈ callHeads, head <:+ t) ∧ scope.asText <+: r) := by
  induction code using classListCall.scan_induction generalizing t with
  | nil => simp [callsInScope] at h
  | hit code call s hread ih =>
    obtain ⟨rfl, hvalid⟩ := ClassListCall.read?_eq_some_iff.1 hread
    rw [callsInScope_of_read hread, ClassListCall.write_inScope_append,
      Argument.write_append] at h
    obtain ⟨rfl, -, hr⟩ := Text.append_quote_inj call.isHead_head.unquoted ht rfl hq h
    refine ⟨call.argument.opening, call.argument.value ++ call.argument.closing :: ')' :: s, ?_,
      hvalid.opening, .inr ⟨⟨call.head, call.head_mem, List.suffix_refl _⟩, ?_⟩⟩
    · rw [ClassListCall.write_append, Argument.write_append]
    · rw [← hr]
      exact (List.prefix_append _ _).trans (List.prefix_append _ _)
  | gap c s hread ih =>
    rw [callsInScope_of_not_read hread] at h
    cases t with
    | nil =>
      rw [List.nil_append, List.cons.injEq] at h
      exact ⟨q, s, by rw [h.1, List.nil_append], hq, .inl h.2⟩
    | cons d t =>
      rw [List.cons_append, List.cons.injEq] at h
      obtain ⟨q', s', rfl, hq', hrest⟩ := ih (List.forall_mem_cons.1 ht).2 h.2
      refine ⟨q', s', by rw [h.1, List.cons_append], hq', hrest.imp_right ?_⟩
      rintro ⟨⟨head, hhead, hsuffix⟩, hscope⟩
      exact ⟨⟨head, hhead, hsuffix.trans (List.suffix_cons d t)⟩, hscope⟩

/-- A closing parenthesis at the front after the pass was there before. -/
theorem exists_of_callsInScope_eq_cons (h : callsInScope scope code = ')' :: r) :
    ∃ s, code = ')' :: s := by
  -- A head does not start with that parenthesis.
  have hput : ∀ call : ClassListCall, ∃ c s, (call.inScope scope).write = c :: s ∧ c ≠ ')' := by
    intro call
    obtain ⟨c, head, hhead, hc⟩ := call.isHead_head.exists_eq_cons
    refine ⟨c, head ++ (call.inScope scope).argument.write, ?_, hc⟩
    rw [← List.append_nil (ClassListCall.write _), ClassListCall.write_inScope_append, hhead,
      List.append_nil, List.cons_append]
  obtain ⟨s, hs, -⟩ := Form.exists_of_substitute_eq_cons isCall_classListCall.contextFree
    (fun call _ _ => hput call) h
  exact ⟨s, hs⟩

/-! ## Lookups after the pass -/

theorem not_suffix_lookupHead : ∀ head ∈ callHeads, ¬ head <:+ lookupHead := by decide +kernel

theorem lookupHead_not_suffix : ∀ head ∈ callHeads, ¬ lookupHead <:+ head := by decide +kernel

theorem isHead_lookupHead : IsHead lookupHead :=
  isCall_idLookup.isHead lookupHead (List.mem_singleton_self _)

/-- A lookup that is found stands in the text. -/
theorem stands_of_mem_find (h : a ∈ idLookup.find code) :
    a.Valid ∧ lookupHead ++ a.write <:+: code := by
  obtain ⟨ha, head, hhead, u, v, rfl⟩ := isCall_idLookup.exists_of_mem_find h
  rw [List.mem_singleton.1 hhead]
  exact ⟨ha, u, v, by simp⟩

/-- A lookup that stands in the text is found, unless its argument starts with a parenthesis. -/
theorem mem_find_of_stands (ha : a.Valid) (hfirst : a.value.head? ≠ some ')')
    (h : lookupHead ++ a.write <:+: code) : a ∈ idLookup.find code := by
  obtain ⟨u, v, rfl⟩ := h
  obtain ⟨found, hfound, rfl⟩ := isCall_idLookup.exists_mem_find (u := u) (v := v)
    (List.mem_singleton_self _) ha hfirst
  simpa using hfound

/-- An argument that a call before it cannot cut and that no call starts in. -/
structure Argument.Apart (a : Argument) : Prop where
  /-- It does not start with a closing parenthesis. -/
  first : a.value.head? ≠ some ')'
  /-- It does not end with an opening parenthesis. -/
  last : a.value.getLast? ≠ some '('

/-- A lookup in a text that starts with a call stands behind the call, or its argument starts with
the closing parenthesis of the call. -/
theorem lookup_meets_call (ha : a.Valid) (hb : b.Valid)
    (h : call.head ++ (b.write ++ r) = u ++ (lookupHead ++ (a.write ++ v))) :
    (∃ t, r = t ++ (lookupHead ++ (a.write ++ v))) ∨
      ∃ t, a.value = ')' :: t ∧ r = t ++ a.closing :: ')' :: v := by
  rcases calls_meet isHead_lookupHead call.isHead_head ha hb h with
    ⟨t, -, hr⟩ | ⟨hheads, -⟩ | ⟨-, t, -, hvalue, hr⟩
  · exact .inl ⟨t, hr⟩
  · exact absurd (hheads ▸ List.suffix_append u lookupHead)
      (lookupHead_not_suffix call.head call.head_mem)
  · exact .inr ⟨t, hvalue, hr⟩

/-- A lookup at the front after the pass over class list calls was at the front before, unless a
call starts in its argument; up to the closing quote it was there in any case. -/
theorem front_lookup_of_callsInScope (ha : a.Valid)
    (h : callsInScope scope code = lookupHead ++ (a.write ++ v)) :
    (∃ w, code = lookupHead ++ (a.write ++ w)) ∨
      ¬ a.Apart ∧ a.value.StandsQuoted code := by
  rw [Argument.write_append] at h
  obtain ⟨q, s, rfl, hq, -⟩ :=
    exists_of_callsInScope_eq_append_quote isHead_lookupHead.unquoted ha.opening h
  rw [callsInScope_append_quote isHead_lookupHead.unquoted not_suffix_lookupHead hq] at h
  obtain ⟨-, rfl, hvalue⟩ := Text.append_quote_inj isHead_lookupHead.unquoted
    isHead_lookupHead.unquoted hq ha.opening h
  obtain ⟨q', s, rfl, hq', -⟩ := exists_of_callsInScope_eq_append_quote ha.value ha.closing hvalue
  by_cases hlast : a.value.getLast? = some '('
  · exact .inr ⟨fun hapart => hapart.last hlast, lookupHead, a.opening, q', s, rfl, hq, hq'⟩
  · -- The pass keeps the argument and the parenthesis behind it.
    rw [callsInScope_append_quote ha.value
      (isCall_classListCall.not_suffix_of_getLast? hlast) hq'] at hvalue
    obtain ⟨-, rfl, hclosing⟩ := Text.append_quote_inj ha.value ha.value hq' ha.closing hvalue
    obtain ⟨s, rfl⟩ := exists_of_callsInScope_eq_cons hclosing
    exact .inl ⟨s, by rw [Argument.write_append]⟩

/-- A lookup that is there after the pass over class list calls was there before, or its argument
stood between two quotes, as the end of one argument and the beginning of another one. -/
theorem lookup_of_callsInScope (hscope : scope.asText.Unquoted) (ha : a.Valid)
    (h : lookupHead ++ a.write <:+: callsInScope scope code) :
    lookupHead ++ a.write <:+: code ∨ ¬ a.Apart ∧ a.value.StandsQuoted code := by
  obtain ⟨u, v, h⟩ := h
  simp only [List.append_assoc] at h
  induction code using classListCall.scan_induction generalizing u with
  | nil =>
    simp only [callsInScope, Form.substitute_nil, List.append_eq_nil_iff] at h
    exact absurd h.2.1 isHead_lookupHead.ne_nil
  | hit code call r hread ih =>
    obtain ⟨rfl, hvalid⟩ := ClassListCall.read?_eq_some_iff.1 hread
    rw [callsInScope_of_read hread, ClassListCall.write_inScope_append] at h
    rcases lookup_meets_call ha (ClassListCall.valid_inScope hscope hvalid) h.symm with
      ⟨t, hr⟩ | ⟨t, hvalue, hr⟩
    · rcases ih t hr.symm with hstands | ⟨hapart, hquoted⟩
      · exact .inl (hstands.trans (List.suffix_append call.write r).isInfix)
      · exact .inr ⟨hapart, hquoted.append_left call.write⟩
    · -- The argument goes from the closing quote of the call to the next quote behind it.
      have ht : Text.Unquoted t := (List.forall_mem_cons.1 (hvalue ▸ ha.value)).2
      obtain ⟨q, w, rfl, hq, -⟩ := exists_of_callsInScope_eq_append_quote ht ha.closing hr
      refine .inr ⟨fun hapart => hapart.first (by rw [hvalue]; rfl),
        call.head ++ call.argument.opening :: call.argument.value, call.argument.closing, q, w, ?_,
        hvalid.closing, hq⟩
      rw [ClassListCall.write_append, Argument.write_append, hvalue]
      simp
  | gap c s hread ih =>
    -- The lookup stands here, or behind the first character.
    cases u with
    | nil =>
      refine (front_lookup_of_callsInScope ha h.symm).imp_left ?_
      rintro ⟨w, hw⟩
      exact ⟨[], w, by rw [hw, List.nil_append, List.append_assoc]⟩
    | cons d u =>
      rw [callsInScope_of_not_read hread, List.cons_append, List.cons.injEq] at h
      rcases ih u h.2 with hstands | ⟨hapart, hquoted⟩
      · exact .inl (List.infix_cons hstands)
      · exact .inr ⟨hapart, hquoted.append_left [c]⟩

/-- A lookup at the front is kept by the pass over class list calls, unless a call starts in its
argument. -/
theorem callsInScope_lookup_append (ha : a.Valid) (hlast : a.value.getLast? ≠ some '(') :
    callsInScope scope (lookupHead ++ (a.write ++ r)) =
      lookupHead ++ (a.write ++ callsInScope scope r) := by
  rw [Argument.write_append, Argument.write_append,
    callsInScope_append_quote isHead_lookupHead.unquoted not_suffix_lookupHead ha.opening,
    callsInScope_append_quote ha.value
      (isCall_classListCall.not_suffix_of_getLast? hlast) ha.closing,
    callsInScope_of_not_read (isCall_classListCall.read_parenthesis r)]

/-- A lookup that is there before the pass over class list calls is there after it, unless a call
cuts its argument or starts in it. -/
theorem lookup_callsInScope (ha : a.Valid) (hapart : a.Apart)
    (h : lookupHead ++ a.write <:+: code) :
    lookupHead ++ a.write <:+: callsInScope scope code := by
  obtain ⟨u, v, h⟩ := h
  simp only [List.append_assoc] at h
  induction code using classListCall.scan_induction generalizing u with
  | nil =>
    simp only [List.append_eq_nil_iff] at h
    exact absurd h.2.1 isHead_lookupHead.ne_nil
  | hit code call r hread ih =>
    obtain ⟨rfl, hvalid⟩ := ClassListCall.read?_eq_some_iff.1 hread
    rw [ClassListCall.write_append] at h
    rcases lookup_meets_call ha hvalid h.symm with ⟨t, hr⟩ | ⟨t, hvalue, -⟩
    · rw [callsInScope_of_read hread]
      exact (ih t hr.symm).trans (List.suffix_append _ _).isInfix
    · exact absurd (by rw [hvalue]; rfl) hapart.first
  | gap c s hread ih =>
    cases u with
    | nil =>
      rw [← h, List.nil_append, callsInScope_lookup_append ha hapart.last]
      exact ⟨[], callsInScope scope v, by rw [List.nil_append, List.append_assoc]⟩
    | cons d u =>
      rw [List.cons_append, List.cons.injEq] at h
      rw [callsInScope_of_not_read hread]
      exact List.infix_cons (ih u h.2)

/-! ## The names of the three passes -/

/-- The names that the second and the third pass find, each in what the one before left. -/
def laterNames (scope : Setting) (code : Text) : List Text :=
  callNames (selectorsInScope scope code) ++
    lookupNames (callsInScope scope (selectorsInScope scope code))

/-- The names of a script are those in its selector literals and those that the later passes
find. -/
theorem mem_names_iff {name : Text} :
    name ∈ names scope code ↔ name ∈ selectorNames code ∨ name ∈ laterNames scope code :=
  List.mem_append

/-- The name of a selector literal stands in the script. -/
theorem infix_of_mem_selectorNames {name : Text} (h : name ∈ selectorNames code) :
    name <:+: code := by
  obtain ⟨l, hl, rfl⟩ := List.mem_map.1 h
  obtain ⟨u, v, rfl, -⟩ := Form.exists_of_mem_find contextFree_selectorLiteral hl
  refine ⟨u ++ [l.quote, '.'], l.quote :: v, ?_⟩
  change _ = u ++ (l.write ++ v)
  rw [SelectorLiteral.write_append]
  simp

/-- The names in the selector literals that later passes take for names again: those that are the
argument of a class list call, and those that are looked up as an id and are hyphenated in the
scope. -/
def calledNames (scope : Setting) (code : Text) : List Text :=
  (classListCall.find code).filterMap (·.argument.selected?) ++
    ((idLookup.find code).filterMap Argument.selected?).filter ('-' ∈ fullName scope ·)

/-- A selector in the scope holds a hyphen where its name does. -/
theorem hyphen_mem_selectorInScope {name : Text} :
    '-' ∈ selectorInScope scope name ↔ '-' ∈ fullName scope name := by
  simp [selectorInScope]

/-- A selector in the scope is cut by no call. -/
theorem apart_of_value_eq {name : Text} (hname : IsIdentifier name)
    (h : a.value = selectorInScope scope name) : a.Apart where
  first := by simp [h, selectorInScope]
  last := by
    rw [h]
    exact getLast?_append_name hname.ne_nil hname.chars ('.' :: scope.asText)

/-- The argument of a lookup that is found after the second pass stands in the script, or it is a
selector in the scope and was a selector literal before. -/
theorem value_of_mem_find_callsInScope (hscope : scope.asText.Unquoted)
    (h : a ∈ idLookup.find (callsInScope scope (selectorsInScope scope code))) :
    a.value <:+: code ∨
      ∃ b ∈ idLookup.find code, ∃ name, b.selected? = some name ∧
        a.value = selectorInScope scope name := by
  obtain ⟨ha, hafter⟩ := stands_of_mem_find h
  rcases lookup_of_callsInScope hscope ha hafter with hbefore | ⟨hapart, hquoted⟩
  · -- The lookup was there before the second pass.
    have hquoted : a.value.StandsQuoted (selectorsInScope scope code) := by
      obtain ⟨u, v, hcode⟩ := hbefore
      refine ⟨u ++ lookupHead, a.opening, a.closing, ')' :: v, ?_, ha.opening, ha.closing⟩
      rw [← hcode]
      simp [Argument.write]
    rcases infix_of_selectorsInScope hscope ha.value hquoted with hstands | ⟨name, hname, hvalue⟩
    · exact .inl hstands
    · -- A scan finds it there, for its argument is a selector.
      have hfirst := (apart_of_value_eq hname hvalue).first
      exact isCall_idLookup.value_of_mem_find hscope (mem_find_of_stands ha hfirst hbefore)
  · rcases infix_of_selectorsInScope hscope ha.value hquoted with hstands | ⟨name, hname, hvalue⟩
    · exact .inl hstands
    · exact absurd (apart_of_value_eq hname hvalue) hapart

/-- A name that the second or the third pass finds stands in the script, unless it is a selector
that an earlier pass has put in the scope. -/
theorem infix_or_called_of_mem_laterNames (hscope : scope.asText.Unquoted) {name : Text}
    (h : name ∈ laterNames scope code) :
    name <:+: code ∨ ∃ called ∈ calledNames scope code, name = selectorInScope scope called := by
  rcases List.mem_append.1 h with hcall | hlookup
  · obtain ⟨call, hmem, rfl⟩ := List.mem_map.1 hcall
    refine (isCall_classListCall.value_of_mem_find hscope hmem).imp_right ?_
    rintro ⟨source, hsource, name, hselected, hvalue⟩
    exact ⟨name, List.mem_append_left _ (List.mem_filterMap.2 ⟨source, hsource, hselected⟩),
      hvalue⟩
  · -- A point is no hyphen, so the hyphen of the id is in the full name.
    obtain ⟨hmem, hhyphen⟩ := List.mem_filter.1 hlookup
    obtain ⟨a, ha, rfl⟩ := List.mem_map.1 hmem
    refine (value_of_mem_find_callsInScope hscope ha).imp_right ?_
    rintro ⟨source, hsource, name, hselected, hvalue⟩
    have hfull : '-' ∈ fullName scope name :=
      hyphen_mem_selectorInScope.1 (by simpa [hvalue] using hhyphen)
    exact ⟨name, List.mem_append_right _ (List.mem_filter.2
      ⟨List.mem_filterMap.2 ⟨source, hsource, hselected⟩, by simpa using hfull⟩), hvalue⟩

/-- A selector that the first pass puts in the scope as the argument of a call is a name for a later
pass. -/
theorem mem_laterNames_of_called (hscope : scope.asText.Unquoted) {called : Text}
    (h : called ∈ calledNames scope code) :
    selectorInScope scope called ∈ laterNames scope code := by
  rw [laterNames, List.mem_append]
  rcases List.mem_append.1 h with hcall | hlookup
  · obtain ⟨call, hcall, hselected⟩ := List.mem_filterMap.1 hcall
    obtain ⟨after, hafter, hargument⟩ :=
      isCall_classListCall.exists_mem_find_selectorsInScope hscope hcall
    refine .inl (List.mem_map.2 ⟨after, hafter, ?_⟩)
    rw [hargument, Argument.inScope_of_selected hselected, selectorInScope]
  · obtain ⟨hlookup, hhyphen⟩ := List.mem_filter.1 hlookup
    obtain ⟨a, ha, hselected⟩ := List.mem_filterMap.1 hlookup
    obtain ⟨after, hafter, hargument⟩ := isCall_idLookup.exists_mem_find_selectorsInScope hscope ha
    rw [id_eq, id_eq, Argument.inScope_of_selected hselected] at hargument
    have hvalue : after.value = selectorInScope scope called := congrArg Argument.value hargument
    -- No call cuts the lookup, so it is still there after the second pass.
    have hname := ((Argument.selected?_eq_some_iff (stands_of_mem_find ha).1).1 hselected).1
    have hapart := apart_of_value_eq hname hvalue
    obtain ⟨hvalid, hstands⟩ := stands_of_mem_find hafter
    have hafter : lookupHead ++ after.write <:+:
        callsInScope scope (selectorsInScope scope code) :=
      lookup_callsInScope hvalid hapart hstands
    have hfound := mem_find_of_stands hvalid hapart.first hafter
    refine .inr (List.mem_filter.2 ⟨List.mem_map.2 ⟨after, hfound, hvalue⟩, ?_⟩)
    simpa using hyphen_mem_selectorInScope.2 (by simpa using hhyphen)

example : laterNames (.text (Text.of "dwp-")) (Text.of "getElementById('.a')") =
    [Text.of ".dwp-a"] := by decide +kernel

/-- Without a hyphen in the scope the same lookup is kept. -/
example : laterNames (.text (Text.of "p_")) (Text.of "getElementById('.a')") = [] := by
  decide +kernel

end Script

end ClassScope
