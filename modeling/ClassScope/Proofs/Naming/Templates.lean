import ClassScope.Proofs.Naming.IdLookups

/-!
# Template literals

To the passes over calls a backtick is a quote like the two others, so a template literal is a
literal argument for them, with its interpolations and all. What they put for a call is in single
quotes, where an interpolation is plain text. Only a lookup whose template has no hyphen is kept.
Main statements:

- `Form.PutsSingleQuotes.template_of_substitute`: a call with a template that is there after a pass
  was there before, and the pass has kept it;
- `Script.call_selectorsInScope`: the first pass keeps a call whose argument is no selector;
- `Script.keepsTemplate_iff`: which calls with an interpolated template a script keeps.
-/

namespace ClassScope

/-- The text holds an interpolation. -/
def Text.Interpolated (s : Text) : Prop := ∃ u v w, s = u ++ '$' :: '\x7b' :: (v ++ '\x7d' :: w)

theorem Text.Interpolated.ne_nil {s : Text} (h : s.Interpolated) : s ≠ [] := by
  obtain ⟨u, v, w, rfl⟩ := h
  exact List.append_ne_nil_of_right_ne_nil u (List.cons_ne_nil _ _)

theorem Text.Interpolated.dollar_mem {s : Text} (h : s.Interpolated) : '$' ∈ s := by
  obtain ⟨u, v, w, rfl⟩ := h
  exact List.mem_append_right u List.mem_cons_self

namespace Script

/-- A template literal as the argument of a call. -/
def template (body : Text) : Argument := ⟨'\x60', body, '\x60'⟩

theorem valid_template {body : Text} (hbody : body.Unquoted) (hne : body ≠ []) :
    (template body).Valid where
  opening := rfl
  value := hbody
  ne_nil := hne
  closing := rfl

/-- The text of a template literal, with what follows the call. -/
theorem template_write_append (body r : Text) :
    (template body).write ++ r = '\x60' :: (body ++ '\x60' :: ')' :: r) :=
  Argument.write_append (template body) r

end Script

open Script

/-! ## Passes that put single quotes -/

/-- A pass over calls keeps some of them, and for another one it puts a call whose argument is in
single quotes. -/
structure Form.PutsSingleQuotes {α : Type} (form : Form Char α) (argument : α → Argument)
    (heads : List Text) (replace : α → Text) (Kept : α → Prop) : Prop where
  /-- The form is that of calls. -/
  isCall : form.IsCall argument heads
  /-- What is put for a call that is kept. -/
  kept : ∀ x, Kept x → replace x = form.write x
  /-- What is put for another one. -/
  quoted : ∀ x, (argument x).Valid → ¬ Kept x →
    ∃ head a, IsHead head ∧ Argument.Valid a ∧ a.opening = '\x27' ∧ replace x = head ++ a.write

namespace Form.PutsSingleQuotes

variable {α : Type} {form : Form Char α} {argument : α → Argument} {heads : List Text}
  {replace : α → Text} {Kept : α → Prop} {head body code s t r v : Text}

/-- What is put for a call that is read. -/
theorem of_read (h : form.PutsSingleQuotes argument heads replace Kept) {x : α}
    (hread : form.read none s = some (x, r)) :
    ∃ head a, IsHead head ∧ Argument.Valid a ∧ replace x = head ++ a.write ∧
      (a.opening = '\x27' ∨ a = argument x ∧ Kept x) := by
  obtain ⟨head, hhead, hwrite, hx⟩ := h.isCall.write_of_read hread
  by_cases hkept : Kept x
  · exact ⟨head, argument x, h.isCall.isHead head hhead, hx, (h.kept x hkept).trans hwrite,
      .inr ⟨rfl, hkept⟩⟩
  · obtain ⟨newHead, a, hnew, ha, hopening, hput⟩ := h.quoted x hx hkept
    exact ⟨newHead, a, hnew, ha, hput, .inl hopening⟩

/-- A backtick that is the first quote after the pass was there before. What follows it is that
after the pass, or it opens the argument of a call that is kept. -/
theorem exists_of_substitute_eq_backtick (h : form.PutsSingleQuotes argument heads replace Kept)
    (ht : t.Unquoted) (heq : form.substitute replace s = t ++ '\x60' :: r) :
    ∃ s', s = t ++ '\x60' :: s' ∧
      (form.substitute replace s' = r ∨
        ∃ a : Argument, ∃ v, a.Valid ∧ s' = a.value ++ a.closing :: ')' :: v ∧
          r = a.value ++ a.closing :: ')' :: form.substitute replace v) := by
  have hbacktick : Text.isQuote '\x60' = true := rfl
  rcases Text.unquoted_or_cut s with hs | ⟨w, q, s, rfl, hw, hq⟩
  · -- A text without quotes is kept, and this one has the backtick.
    rw [h.isCall.substitute_of_unquoted hs] at heq
    exact absurd (by rw [heq]; simp) (hs.not_mem hbacktick)
  rcases h.isCall.substitute_cut replace (s := s) hw hq with hkept |
    ⟨w, head, hhead, x, v, rfl, hs, hx, hwrite, hcall⟩
  · rw [hkept] at heq
    obtain ⟨rfl, rfl, hrest⟩ := Text.append_quote_inj hw ht hq hbacktick heq
    exact ⟨s, rfl, .inl hrest⟩
  rw [hcall] at heq
  by_cases hkept : Kept x
  · rw [h.kept x hkept, hwrite, List.append_assoc, ← List.append_assoc,
      Argument.write_append] at heq
    obtain ⟨rfl, hopening, hrest⟩ := Text.append_quote_inj hw ht hx.opening hbacktick heq
    rw [Argument.write_append, List.cons.injEq] at hs
    exact ⟨s, by rw [hs.1, hopening], .inr ⟨argument x, v, hx, hs.2, hrest.symm⟩⟩
  · -- The first quote would be a single one.
    obtain ⟨newHead, a, hnew, ha, hopening, hput⟩ := h.quoted x hx hkept
    rw [hput, List.append_assoc, ← List.append_assoc, Argument.write_append] at heq
    obtain ⟨-, hquote, -⟩ := Text.append_quote_inj (hw.of_append_left.append hnew.unquoted) ht
      ha.opening hbacktick heq
    rw [hopening] at hquote
    exact absurd hquote (by decide)

/-- A closing parenthesis at the front after the pass was there before. -/
theorem exists_of_substitute_eq_parenthesis (h : form.PutsSingleQuotes argument heads replace Kept)
    (heq : form.substitute replace s = ')' :: r) : ∃ s', s = ')' :: s' := by
  -- A head does not start with that parenthesis.
  have hput : ∀ x t, form.read none s = some (x, t) → ∃ c u, replace x = c :: u ∧ c ≠ ')' := by
    intro x t hread
    obtain ⟨newHead, a, hnew, -, hput, -⟩ := h.of_read hread
    obtain ⟨c, w, rfl, hc⟩ := hnew.exists_eq_cons
    exact ⟨c, w ++ a.write, hput, hc⟩
  obtain ⟨s', hs, -⟩ := Form.exists_of_substitute_eq_cons h.isCall.contextFree hput heq
  exact ⟨s', hs⟩

/-- The body of a template at the front after the pass, with its closing backtick and the
parenthesis, was there before. -/
theorem exists_of_substitute_eq_template (h : form.PutsSingleQuotes argument heads replace Kept)
    (hbody : body.Unquoted) (heq : form.substitute replace s = body ++ '\x60' :: ')' :: v) :
    ∃ v', s = body ++ '\x60' :: ')' :: v' := by
  obtain ⟨s, rfl, hrest | ⟨a, v', ha, rfl, hrest⟩⟩ := h.exists_of_substitute_eq_backtick hbody heq
  · obtain ⟨v', rfl⟩ := h.exists_of_substitute_eq_parenthesis hrest
    exact ⟨v', rfl⟩
  · -- The argument of a call that is kept starts with the parenthesis.
    obtain ⟨c, value, hc⟩ := List.exists_cons_of_ne_nil ha.ne_nil
    rw [hc, List.cons_append, List.cons.injEq] at hrest
    exact ⟨value ++ a.closing :: ')' :: v', by rw [hc, ← hrest.1, List.cons_append]⟩

/-- A call with a template at the front after the pass was at the front before. -/
theorem exists_of_substitute_eq_call (h : form.PutsSingleQuotes argument heads replace Kept)
    (hhead : IsHead head) (hbody : body.Unquoted)
    (heq : form.substitute replace s = head ++ ((template body).write ++ v)) :
    ∃ v', s = head ++ ((template body).write ++ v') := by
  rw [template_write_append] at heq
  obtain ⟨s, rfl, hrest | ⟨a, v', ha, rfl, hrest⟩⟩ :=
    h.exists_of_substitute_eq_backtick hhead.unquoted heq
  · obtain ⟨v', rfl⟩ := h.exists_of_substitute_eq_template hbody hrest
    exact ⟨v', by rw [template_write_append]⟩
  · obtain ⟨hvalue, hclosing, -⟩ := Text.append_quote_inj hbody ha.value rfl ha.closing hrest
    exact ⟨v', by rw [template_write_append, hvalue, hclosing]⟩

/-- A call with a template that is there after the pass was there before, and if it is a call for
the pass, the pass has kept it. -/
theorem template_of_substitute (h : form.PutsSingleQuotes argument heads replace Kept)
    (hhead : IsHead head) (hbody : body.Unquoted) (hne : body ≠ []) (hfirst : body.head? ≠ some ')')
    (hstands : head ++ (template body).write <:+: form.substitute replace code) :
    head ++ (template body).write <:+: code ∧
      (head ∈ heads → ∃ x, argument x = template body ∧ Kept x) := by
  have hvalid := valid_template hbody hne
  obtain ⟨u, v, heq⟩ := hstands
  simp only [List.append_assoc] at heq
  -- Along the scan; `u` is what stands in front of the call after the pass.
  induction code using form.scan_induction generalizing u with
  | nil =>
    rw [Form.substitute_nil, List.append_eq_nil_iff, List.append_eq_nil_iff] at heq
    exact absurd heq.2.1 hhead.ne_nil
  | hit s x r hread ih =>
    -- The call stands behind what is put for the one read here, or it is that.
    obtain ⟨newHead, a, hnew, ha, hput, hkept⟩ := h.of_read hread
    have hs := (form.sound hread).1
    rw [Form.substitute_of_read h.isCall.contextFree hread, hput, List.append_assoc] at heq
    rcases calls_meet hhead hnew hvalid ha heq.symm with
      ⟨t, -, hr⟩ | ⟨hheads, rfl, -⟩ | ⟨-, t, -, hvalue, -⟩
    · obtain ⟨hstands, hcall⟩ := ih t hr.symm
      refine ⟨hstands.trans ?_, hcall⟩
      rw [hs]
      exact (List.suffix_append _ _).isInfix
    · -- Its backtick is no single quote, so it is kept.
      rcases hkept with hopening | ⟨hargument, hkept⟩
      · exact absurd (show '\x60' = '\x27' from hopening) (by decide)
      refine ⟨?_, fun _ => ⟨x, hargument.symm, hkept⟩⟩
      rw [hs, ← h.kept x hkept, hput, hheads]
      exact ⟨u, r, by simp⟩
    · -- It does not start in the argument of that, for then its body starts with the parenthesis.
      exact absurd (congrArg List.head? hvalue) hfirst
  | gap c s hread ih =>
    cases u with
    | nil =>
      -- The call would be read here, if it were one for the pass.
      obtain ⟨v', hs⟩ := h.exists_of_substitute_eq_call hhead hbody heq.symm
      refine ⟨⟨[], v', by rw [hs]; simp⟩, fun hmem => ?_⟩
      obtain ⟨x, hx, -⟩ := h.isCall.exists_read v' hmem hvalid
      rw [hs, hx] at hread
      cases hread
    | cons d u =>
      rw [Form.substitute_of_not_read h.isCall.contextFree hread, List.cons_append,
        List.cons.injEq] at heq
      obtain ⟨hstands, hcall⟩ := ih u heq.2
      exact ⟨List.infix_cons hstands, hcall⟩

end Form.PutsSingleQuotes

namespace Script

variable {scope : Setting} {p code head body : Text} {a : Argument}

/-- The pass over class list calls keeps none of them. -/
theorem putsSingleQuotes_classListCall (hp : p.Unquoted) :
    classListCall.PutsSingleQuotes ClassListCall.argument callHeads
      (fun call => (call.inScope (.text p)).write) (fun _ => False) where
  isCall := isCall_classListCall
  kept _ := False.elim
  quoted call hcall _ := by
    refine ⟨call.head, (call.inScope (.text p)).argument, call.isHead_head,
      ClassListCall.valid_inScope hp hcall, rfl, ?_⟩
    have hwrite : (call.inScope (.text p)).write ++ [] =
        call.head ++ ((call.inScope (.text p)).argument.write ++ []) :=
      ClassListCall.write_inScope_append call []
    rwa [List.append_nil, List.append_nil] at hwrite

/-- The pass over lookups keeps those by an id without a hyphen. -/
theorem putsSingleQuotes_idLookup (hp : p.Unquoted) :
    idLookup.PutsSingleQuotes id [lookupHead] (lookupInScope (.text p)) ('-' ∉ ·.value) where
  isCall := isCall_idLookup
  kept _ hhyphen := if_neg hhyphen
  quoted a ha hhyphen := by
    refine ⟨queryHead, ⟨'\x27', '.' :: (p ++ a.value), '\x27'⟩, isHead_queryHead,
      ⟨rfl, unquoted_selector (hp.append ha.value), List.cons_ne_nil _ _, rfl⟩, rfl, ?_⟩
    have hwrite := lookupInScope_append (p := p) (not_not.1 hhyphen) []
    rw [List.append_nil] at hwrite
    rw [hwrite, Argument.write]
    simp

/-! ## The first pass -/

/-- A call in a text that is cut at its first quote stands behind that quote, unless its head stands
in front of it. -/
theorem call_behind_quote {q : Char} {s t u v : Text} (hhead : IsHead head) (ha : a.Valid)
    (ht : t.Unquoted) (hends : ¬ head <:+ t) (hq : Text.isQuote q = true)
    (heq : t ++ q :: s = u ++ (head ++ (a.write ++ v))) :
    ∃ u', s = u' ++ (head ++ (a.write ++ v)) := by
  rcases Text.unquoted_or_cut u with hu | ⟨u, q', u', rfl, hu, hq'⟩
  · rw [Argument.write_append, ← List.append_assoc] at heq
    obtain ⟨rfl, -, -⟩ :=
      Text.append_quote_inj ht (hu.append hhead.unquoted) hq ha.opening heq
    exact absurd (List.suffix_append u head) hends
  · rw [List.append_assoc, List.cons_append] at heq
    exact ⟨u', (Text.append_quote_inj ht hu hq hq' heq).2.2⟩

/-- A call stands after the pass over selector literals where it stood before, if its argument is no
selector literal. -/
theorem call_selectorsInScope (scope : Setting) (hhead : IsHead head) (ha : a.Valid)
    (hselected : a.selected? = none) (hstands : head ++ a.write <:+: code) :
    head ++ a.write <:+: selectorsInScope scope code := by
  obtain ⟨u, v, heq⟩ := hstands
  simp only [List.append_assoc] at heq
  induction code using selectorLiteral.scan_induction generalizing u with
  | nil =>
    rw [List.append_eq_nil_iff, List.append_eq_nil_iff] at heq
    exact absurd heq.2.1 hhead.ne_nil
  | hit s l r hread ih =>
    obtain ⟨hs, hquote, hname⟩ := SelectorLiteral.read?_eq_some_iff.1 hread
    have hselector := unquoted_selector hname.unquoted
    rw [hs, SelectorLiteral.write_append] at heq
    -- The call stands behind both quotes of the literal, for a head does not end like a name.
    have hname : ¬ head <:+ '.' :: l.name := by
      rintro ⟨w, hw⟩
      have hlast := hhead.last
      rw [← List.getLast?_append_of_ne_nil w hhead.ne_nil, hw] at hlast
      exact getLast?_append_name hname.ne_nil hname.chars ['.'] hlast
    obtain ⟨u, hopening⟩ := call_behind_quote (t := []) hhead ha Text.unquoted_nil
      (fun hsuffix => hhead.ne_nil (List.suffix_nil.1 hsuffix)) hquote heq.symm
    obtain ⟨u, hclosing⟩ := call_behind_quote hhead ha hselector hname hquote hopening
    rw [selectorsInScope_of_read hread, ← List.cons_append, List.append_cons]
    exact (ih u hclosing.symm).trans (List.suffix_append _ _).isInfix
  | gap c s hread ih =>
    cases u with
    | nil =>
      rw [← heq, List.nil_append, selectorsInScope_append hhead.unquoted,
        selectorsInScope_write ha, Argument.inScope_of_not_selected hselected]
      exact ⟨[], selectorsInScope scope v, by simp⟩
    | cons d u =>
      rw [List.cons_append, List.cons.injEq] at heq
      rw [selectorsInScope_of_not_read hread]
      exact List.infix_cons (ih u heq.2)

/-! ## The three passes -/

theorem dollar_not_mem {name : Text} (h : IsIdentifier name) : '$' ∉ name :=
  fun hmem => absurd (h.chars '$' hmem) (by decide)

/-- An interpolated template is no selector literal. -/
theorem selected?_template (hbody : body.Unquoted) (hcomputed : body.Interpolated) :
    (template body).selected? = none := by
  cases hselected : (template body).selected? with
  | none => rfl
  | some name =>
    obtain ⟨hname, hvalue, -⟩ :=
      (Argument.selected?_eq_some_iff (valid_template hbody hcomputed.ne_nil)).1 hselected
    have hdollar : '$' ∈ '.' :: name := hvalue ▸ hcomputed.dollar_mem
    exact absurd (List.mem_of_ne_of_mem (by decide) hdollar) (dollar_not_mem hname)

/-- An interpolated template is the name in no selector literal. -/
theorem not_mem_selectorNames (hcomputed : body.Interpolated) : body ∉ selectorNames code := by
  intro hmem
  obtain ⟨l, hl, rfl⟩ := List.mem_map.1 hmem
  exact dollar_not_mem (reads_selectorLiteral.valid_of_mem_find hl).name hcomputed.dollar_mem

/-- The names that a script enters in a fresh registry. -/
theorem mem_names_rename_iff {name : Text} :
    name ∈ (rename code (.empty (.text p))).2.names ↔ name ∈ names (.text p) code := by
  rw [looksUp_rename (.text p) code _ (Registry.valid_empty _) rfl, Registry.mem_names_enter]
  simp [Registry.names, Registry.empty]

/-- The template of a class list call is a name for the second pass. -/
theorem mem_callNames_of_template (hhead : head ∈ callHeads) (hbody : body.Unquoted)
    (hcomputed : body.Interpolated) (hfirst : body.head? ≠ some ')')
    (hstands : head ++ (template body).write <:+: code) :
    body ∈ callNames (selectorsInScope scope code) := by
  have hvalid := valid_template hbody hcomputed.ne_nil
  have hhead' := isCall_classListCall.isHead head hhead
  obtain ⟨u, v, hafter⟩ :=
    call_selectorsInScope scope hhead' hvalid (selected?_template hbody hcomputed) hstands
  obtain ⟨call, hcall, hargument⟩ :=
    isCall_classListCall.exists_mem_find (u := u) (v := v) hhead hvalid hfirst
  rw [← hafter]
  refine List.mem_map.2 ⟨call, by simpa using hcall, ?_⟩
  rw [hargument]
  rfl

/-- The lookup by a template is found by the third pass, if no call starts in the template. -/
theorem mem_find_of_template (scope : Setting) (hbody : body.Unquoted)
    (hcomputed : body.Interpolated) (hapart : (template body).Apart)
    (hstands : lookupHead ++ (template body).write <:+: code) :
    template body ∈ idLookup.find (callsInScope scope (selectorsInScope scope code)) := by
  have hvalid := valid_template hbody hcomputed.ne_nil
  have hafter : lookupHead ++ (template body).write <:+: selectorsInScope scope code :=
    call_selectorsInScope scope isHead_lookupHead hvalid (selected?_template hbody hcomputed)
      hstands
  exact mem_find_of_stands hvalid hapart.first (lookup_callsInScope hvalid hapart hafter)

/-- No pass leaves a class list call with a template, nor a lookup by a template with a hyphen, in a
scope without quotes. -/
theorem lookup_of_template_inScope (hp : p.Unquoted) (hhead : head ∈ lookupHead :: callHeads)
    (hbody : body.Unquoted) (hne : body ≠ []) (hfirst : body.head? ≠ some ')')
    (hstands : head ++ (template body).write <:+: inScope (.text p) code) :
    head = lookupHead ∧ '-' ∉ body := by
  have hheads : ∀ head ∈ lookupHead :: callHeads, IsHead head :=
    List.forall_mem_cons.2 ⟨isHead_lookupHead, isCall_classListCall.isHead⟩
  -- Back through the third pass and the second one.
  obtain ⟨hcalls, hlookup⟩ := (putsSingleQuotes_idLookup hp).template_of_substitute
    (hheads head hhead) hbody hne hfirst hstands
  obtain ⟨-, hcall⟩ := (putsSingleQuotes_classListCall hp).template_of_substitute
    (hheads head hhead) hbody hne hfirst hcalls
  rcases List.mem_cons.1 hhead with rfl | hhead
  · obtain ⟨a, hargument, hkept⟩ := hlookup (List.mem_singleton_self _)
    rw [show a = template body from hargument] at hkept
    exact ⟨rfl, hkept⟩
  · obtain ⟨-, -, hkept⟩ := hcall hhead
    exact hkept.elim

/-- A call with a template stands in the script after the three passes, and the template is not
entered for a class name. -/
def KeepsTemplate (p code head body : Text) : Prop :=
  head ++ (template body).write <:+: renamed rename p code ∧
    body ∉ (rename code (.empty (.text p))).2.names

/-- The three passes keep a call with an interpolated template, and do not enter the template for a
class name, exactly if the call is a lookup, the template has no hyphen, and no class list call has
the same argument. In a scope without quotes the call is still there exactly if it is a lookup and
the template has no hyphen. A lookup whose template ends with a parenthesis, which may be that of a
class list call, is left out, and so is a template that starts with one, which a call before it may
take for its own. -/
theorem keepsTemplate_iff (p : Text) (hhead : head ∈ lookupHead :: callHeads)
    (hbody : body.Unquoted) (hcomputed : body.Interpolated) (hfirst : body.head? ≠ some ')')
    (hlast : head = lookupHead → body.getLast? ≠ some '(')
    (hstands : head ++ (template body).write <:+: code) :
    (KeepsTemplate p code head body ↔
      head = lookupHead ∧ '-' ∉ body ∧ body ∉ callNames (selectorsInScope (.text p) code)) ∧
    (p.Unquoted →
      (head ++ (template body).write <:+: renamed rename p code ↔
        head = lookupHead ∧ '-' ∉ body)) := by
  have hrenamed : renamed rename p code = inScope (.text p) code :=
    (looksUp_rename (.text p) code).renamed_eq
  -- A lookup without a hyphen is found by the third pass, which puts the lookup itself for it.
  have hkept : head = lookupHead → '-' ∉ body →
      head ++ (template body).write <:+: inScope (.text p) code := by
    rintro rfl hhyphen
    have hfound := mem_find_of_template (.text p) hbody hcomputed ⟨hfirst, hlast rfl⟩ hstands
    have hput : lookupInScope (.text p) (template body) <:+: inScope (.text p) code :=
      Form.infix_substitute_of_mem_find isCall_idLookup.contextFree hfound
    rwa [show lookupInScope (.text p) (template body) = writeIdLookup (template body) from
      if_neg hhyphen] at hput
  rw [KeepsTemplate, hrenamed, mem_names_rename_iff, mem_names_iff, laterNames, List.mem_append,
    not_or, not_or]
  constructor
  · constructor
    · -- Any other call is found by the second or by the third pass, and the template is entered.
      rintro ⟨-, -, hcalls, hlookups⟩
      rcases List.mem_cons.1 hhead with rfl | hhead
      · refine ⟨rfl, fun hhyphen => hlookups ?_, hcalls⟩
        have hfound := mem_find_of_template (.text p) hbody hcomputed ⟨hfirst, hlast rfl⟩ hstands
        exact List.mem_filter.2 ⟨List.mem_map_of_mem hfound, by simpa using hhyphen⟩
      · exact absurd (mem_callNames_of_template hhead hbody hcomputed hfirst hstands) hcalls
    · -- A template that is entered is a name of one of the passes, and of the first one it is none.
      rintro ⟨hlookup, hhyphen, hcalls⟩
      refine ⟨hkept hlookup hhyphen, not_mem_selectorNames hcomputed, hcalls, fun hmem => ?_⟩
      exact hhyphen (by simpa using (List.mem_filter.1 hmem).2)
  · intro hp
    constructor
    · exact lookup_of_template_inScope hp hhead hbody hcomputed.ne_nil hfirst
    · rintro ⟨hlookup, hhyphen⟩
      exact hkept hlookup hhyphen

/-- The class of a button and the id of a row, both computed: the second pass makes a constant of
the first one, and the second one has no hyphen and is kept. -/
theorem keepsTemplate_button_row :
    let code := Text.of "classList.add(`btn-$\x7bkind\x7d`);getElementById(`row$\x7bi\x7d`)"
    let output := Text.of "classList.add('dwp-btn-$\x7bkind\x7d');getElementById(`row$\x7bi\x7d`)"
    let add := Text.of "classList.add("
    let button := Text.of "btn-$\x7bkind\x7d"
    let row := Text.of "row$\x7bi\x7d"
    button.Interpolated ∧ add ++ (template button).write <:+: code ∧
      row.Interpolated ∧ lookupHead ++ (template row).write <:+: code ∧
      renamed rename (Text.of "dwp-") code = output ∧
      ¬ KeepsTemplate (Text.of "dwp-") code add button ∧
      ¬ add ++ (template button).write <:+: output ∧
      KeepsTemplate (Text.of "dwp-") code lookupHead row := by
  intro code output add button row
  have hbutton : button.Interpolated := ⟨Text.of "btn-", Text.of "kind", [], by decide +kernel⟩
  have hrow : row.Interpolated := ⟨Text.of "row", ['i'], [], by decide +kernel⟩
  have hadd : add ≠ lookupHead := by decide +kernel
  have hbuttonStands : add ++ (template button).write <:+: code := by decide +kernel
  have hrowStands : lookupHead ++ (template row).write <:+: code := by decide +kernel
  have houtput : renamed rename (Text.of "dwp-") code = output := by decide +kernel
  obtain ⟨hkeepsButton, htextButton⟩ := keepsTemplate_iff (Text.of "dwp-")
    (show add ∈ lookupHead :: callHeads by decide +kernel) (by decide +kernel) hbutton
    (by decide +kernel) (fun h => absurd h hadd) hbuttonStands
  obtain ⟨hkeepsRow, -⟩ := keepsTemplate_iff (Text.of "dwp-")
    (List.mem_cons_self : lookupHead ∈ lookupHead :: callHeads) (by decide +kernel) hrow
    (by decide +kernel) (by decide +kernel) hrowStands
  rw [houtput] at htextButton
  refine ⟨hbutton, hbuttonStands, hrow, hrowStands, houtput, fun h => hadd (hkeepsButton.1 h).1,
    fun h => hadd ((htextButton (by decide +kernel)).1 h).1, hkeepsRow.2 ⟨rfl, ?_, ?_⟩⟩
  · decide +kernel
  · decide +kernel

end Script

end ClassScope
