import ClassScope.Proofs.Naming.Calls
import ClassScope.Proofs.Naming.Passes

/-!
# The pass over selector literals

What the first of the three passes over a script leaves for the other two. In a scope without quotes
the pass keeps where the quotes of the script are, so it makes no calls and takes none away; but the
argument of a call may be a selector literal, and then the call has a new argument. Main statements:

- `Form.IsCall.map_find_selectorsInScope`: the calls after the pass are those before it, each with
  its argument in the scope;
- `Script.infix_of_selectorsInScope`: what is quoted after the pass stands in the script, unless it
  is a selector in the scope.
-/

namespace ClassScope

open Registry (fullName)

namespace Script

/-- The text of a selector literal, with what follows it. -/
theorem SelectorLiteral.write_append (l : SelectorLiteral) (r : Text) :
    l.write ++ r = l.quote :: (('.' :: l.name) ++ l.quote :: r) := by
  simp [write]

/-- The selector of a name, in the scope. -/
def selectorInScope (scope : Setting) (name : Text) : Text := '.' :: fullName scope name

theorem contextFree_selectorLiteral : selectorLiteral.ContextFree := fun _ _ => rfl

theorem not_isQuote_point : Text.isQuote '.' = false := by decide

/-- A selector has no quote. -/
theorem unquoted_selector {name : Text} (h : name.Unquoted) : Text.Unquoted ('.' :: name) :=
  List.forall_mem_cons.2 ⟨not_isQuote_point, h⟩

/-- A quoted stretch is a selector literal if it is a point with an identifier, between two quotes
that are alike. -/
theorem SelectorLiteral.read?_quoted_iff {q q' : Char} {value s r : Text} {l : SelectorLiteral}
    (hq : Text.isQuote q = true) (hvalue : value.Unquoted) (hq' : Text.isQuote q' = true) :
    read? (q :: (value ++ q' :: s)) = some (l, r) ↔
      IsIdentifier l.name ∧ value = '.' :: l.name ∧ q = l.quote ∧ q' = l.quote ∧ s = r := by
  rw [read?_eq_some_iff, write_append, List.cons.injEq]
  constructor
  · rintro ⟨⟨hopening, h⟩, hquote, hname⟩
    obtain ⟨hvalue, hclosing, hrest⟩ :=
      Text.append_quote_inj hvalue (unquoted_selector hname.unquoted) hq' hquote h
    exact ⟨hname, hvalue, hopening, hclosing, hrest⟩
  · rintro ⟨hname, rfl, rfl, rfl, rfl⟩
    exact ⟨⟨rfl, rfl⟩, hq, hname⟩

theorem unquoted_selectorInScope {scope : Setting} {name : Text} (hscope : scope.asText.Unquoted)
    (hname : IsIdentifier name) : (selectorInScope scope name).Unquoted :=
  unquoted_selector (hscope.append hname.unquoted)

/-- What ends with a name does not end with a parenthesis. -/
theorem getLast?_append_name {name : Text} (hne : name ≠ [])
    (hchars : ∀ c ∈ name, isIdentifierChar c = true) (front : Text) :
    (front ++ name).getLast? ≠ some '(' := by
  intro hlast
  rw [List.getLast?_append_of_ne_nil front hne] at hlast
  have := hchars '(' (List.mem_of_getLast? hlast)
  revert this
  decide

namespace Argument

/-- The name of the selector literal that the argument is, if it is one. -/
def selected? (a : Argument) : Option Text := (SelectorLiteral.read? a.write).map (·.1.name)

/-- The argument after the pass over selector literals. -/
def inScope (scope : Setting) (a : Argument) : Argument :=
  match a.selected? with
  | some name => { a with value := selectorInScope scope name }
  | none => a

variable {a : Argument} {name : Text}

/-- An argument is a selector literal if it is a point with an identifier, between two quotes that
are alike. -/
theorem selected?_eq_some_iff (ha : a.Valid) :
    a.selected? = some name ↔
      IsIdentifier name ∧ a.value = '.' :: name ∧ a.closing = a.opening := by
  have hwrite : a.write = a.opening :: (a.value ++ a.closing :: [')']) := by
    rw [← List.append_nil a.write, write_append]
  simp only [selected?, hwrite, Option.map_eq_some_iff, Prod.exists,
    SelectorLiteral.read?_quoted_iff ha.opening ha.value ha.closing]
  constructor
  · rintro ⟨l, r, ⟨hname, hvalue, hopening, hclosing, -⟩, rfl⟩
    exact ⟨hname, hvalue, hclosing.trans hopening.symm⟩
  · rintro ⟨hname, hvalue, hclosing⟩
    exact ⟨⟨a.opening, name⟩, [')'], ⟨hname, hvalue, rfl, hclosing, rfl⟩, rfl⟩

/-- An argument without a point at its front is no selector literal. -/
theorem selected?_eq_none (ha : a.Valid) (hfirst : a.value.head? ≠ some '.') :
    a.selected? = none := by
  by_contra hsome
  obtain ⟨name, hselected⟩ := Option.ne_none_iff_exists'.1 hsome
  rw [((selected?_eq_some_iff ha).1 hselected).2.1] at hfirst
  exact hfirst rfl

theorem inScope_of_selected {scope : Setting} (h : a.selected? = some name) :
    a.inScope scope = { a with value := selectorInScope scope name } := by
  rw [inScope, h]

theorem inScope_of_not_selected {scope : Setting} (h : a.selected? = none) :
    a.inScope scope = a := by
  rw [inScope, h]

/-- In a scope without quotes an argument stays valid. -/
theorem Valid.inScope (ha : a.Valid) {scope : Setting} (hscope : scope.asText.Unquoted) :
    (a.inScope scope).Valid := by
  cases hselected : a.selected? with
  | none => rwa [inScope_of_not_selected hselected]
  | some name =>
    rw [inScope_of_selected hselected]
    have hname := ((selected?_eq_some_iff ha).1 hselected).1
    exact { ha with
      value := unquoted_selectorInScope hscope hname
      ne_nil := List.cons_ne_nil _ _ }

end Argument

/-! ## The text after the pass -/

variable {scope : Setting} {code s t r : Text} {l : SelectorLiteral}

@[simp]
theorem selectorsInScope_nil : selectorsInScope scope [] = [] := Form.substitute_nil

/-- A selector literal at the front of a script is put in the scope. -/
theorem selectorsInScope_of_read (h : selectorLiteral.read none code = some (l, r)) :
    selectorsInScope scope code =
      l.quote :: (selectorInScope scope l.name ++ l.quote :: selectorsInScope scope r) := by
  rw [selectorsInScope, Form.substitute_of_read contextFree_selectorLiteral h,
    SelectorLiteral.write_append, selectorsInScope, selectorInScope]

/-- Where no selector literal is at the front, the first character is kept. -/
theorem selectorsInScope_of_not_read {c : Char} (h : selectorLiteral.read none (c :: s) = none) :
    selectorsInScope scope (c :: s) = c :: selectorsInScope scope s :=
  Form.substitute_of_not_read contextFree_selectorLiteral h

/-- A selector literal starts with a quote and a point. -/
theorem read_selectorLiteral_eq_none {c : Char} (h : Text.isQuote c = false ∨ s.head? ≠ some '.') :
    selectorLiteral.read none (c :: s) = none := by
  by_contra hread
  obtain ⟨⟨l, r⟩, hread⟩ := Option.ne_none_iff_exists'.1 hread
  obtain ⟨hs, hquote, -⟩ := SelectorLiteral.read?_eq_some_iff.1 hread
  rw [SelectorLiteral.write_append, List.cons.injEq] at hs
  rcases h with h | h
  · rw [hs.1, hquote] at h
    cases h
  · rw [hs.2] at h
    exact h rfl

/-- No selector literal starts in a stretch without quotes. -/
theorem skips_of_unquoted (ht : t.Unquoted) : selectorLiteral.Skips t :=
  .of_first fun c hc _ => read_selectorLiteral_eq_none (.inl (ht c hc))

/-- A stretch without quotes is kept, whatever is put for the literals. -/
theorem substitute_selectorLiteral_append {replace : SelectorLiteral → Text} (ht : t.Unquoted) :
    selectorLiteral.substitute replace (t ++ s) =
      t ++ selectorLiteral.substitute replace s :=
  (skips_of_unquoted ht).substitute_append contextFree_selectorLiteral s

/-- A stretch without quotes is kept. -/
theorem selectorsInScope_append (ht : t.Unquoted) :
    selectorsInScope scope (t ++ s) = t ++ selectorsInScope scope s :=
  substitute_selectorLiteral_append ht

/-- A stretch without quotes that is there after the pass was there before. -/
theorem exists_of_selectorsInScope_eq_append (ht : t.Unquoted)
    (h : selectorsInScope scope code = t ++ r) :
    ∃ s, code = t ++ s ∧ selectorsInScope scope s = r := by
  induction t generalizing code with
  | nil => exact ⟨code, rfl, h⟩
  | cons c t ih =>
    obtain ⟨hc, ht⟩ := List.forall_mem_cons.1 ht
    -- A literal in the scope starts with its quote, so the character was there before.
    obtain ⟨code, rfl, hrest⟩ := Form.exists_of_substitute_eq_cons contextFree_selectorLiteral
      (fun l _ hread => ⟨l.quote, _, rfl, fun hquote => by
        rw [← hquote, (SelectorLiteral.read?_eq_some_iff.1 hread).2.1] at hc
        cases hc⟩) h
    obtain ⟨s, rfl, hs⟩ := ih ht hrest
    exact ⟨s, rfl, hs⟩

/-- An argument that is a selector literal is read as one, as far as the parenthesis. -/
theorem Argument.read_of_selected {a : Argument} {name : Text} (ha : a.Valid)
    (hselected : a.selected? = some name) :
    selectorLiteral.read none (a.write ++ r) = some (⟨a.opening, name⟩, ')' :: r) := by
  obtain ⟨hname, hvalue, hclosing⟩ := (selected?_eq_some_iff ha).1 hselected
  rw [write_append]
  exact (SelectorLiteral.read?_quoted_iff ha.opening ha.value ha.closing).2
    ⟨hname, hvalue, rfl, hclosing, rfl⟩

/-- No selector literal starts in an argument that is none: not at either of its two quotes, and not
in between. -/
theorem Argument.skips_write {a : Argument} (ha : a.Valid) (hselected : a.selected? = none) :
    selectorLiteral.Skips a.write := by
  have hopening (s : Text) : selectorLiteral.read none (a.write ++ s) = none := by
    by_contra hread
    obtain ⟨⟨l, r⟩, hread⟩ := Option.ne_none_iff_exists'.1 hread
    rw [write_append] at hread
    obtain ⟨hname, hvalue, hopening, hclosing, -⟩ :=
      (SelectorLiteral.read?_quoted_iff ha.opening ha.value ha.closing).1 hread
    rw [(selected?_eq_some_iff ha).2 ⟨hname, hvalue, hclosing.trans hopening.symm⟩] at hselected
    cases hselected
  have hclosing (s : Text) : selectorLiteral.read none (a.closing :: ')' :: s) = none :=
    read_selectorLiteral_eq_none (.inr (by simp))
  exact .cons hopening (.append_left
    (fun c hc _ => read_selectorLiteral_eq_none (.inl (ha.value c hc)))
    (.cons hclosing (skips_of_unquoted (by decide))))

/-- An argument at the front of a script is put in the scope. -/
theorem selectorsInScope_write {a : Argument} (ha : a.Valid) :
    selectorsInScope scope (a.write ++ r) =
      (a.inScope scope).write ++ selectorsInScope scope r := by
  cases hselected : a.selected? with
  | some name =>
    -- The argument is a literal, and the pass reads it.
    have hclosing := ((Argument.selected?_eq_some_iff ha).1 hselected).2.2
    have hrest : selectorsInScope scope (')' :: r) = ')' :: selectorsInScope scope r :=
      selectorsInScope_of_not_read (read_selectorLiteral_eq_none (.inl (by decide)))
    rw [Argument.inScope_of_selected hselected,
      selectorsInScope_of_read (Argument.read_of_selected ha hselected), hrest,
      Argument.write_append, hclosing]
  | none =>
    rw [Argument.inScope_of_not_selected hselected]
    exact (Argument.skips_write ha hselected).substitute_append contextFree_selectorLiteral r

/-- Where an argument is at the front after the pass, there was one before. -/
theorem exists_of_selectorsInScope_eq_write (hscope : scope.asText.Unquoted) {a : Argument}
    (ha : a.Valid) (h : selectorsInScope scope code = a.write ++ r) :
    ∃ b s, code = Argument.write b ++ s ∧ b.Valid := by
  have hparenthesis : Text.Unquoted [')'] := by decide
  rw [Argument.write_append] at h
  match hread : selectorLiteral.read none code with
  | some (l, s) =>
    -- The argument is a literal in the scope, with the parenthesis behind it.
    obtain ⟨hcode, hquote, hname⟩ := SelectorLiteral.read?_eq_some_iff.1 hread
    rw [selectorsInScope_of_read hread, List.cons.injEq] at h
    obtain ⟨-, -, hrest⟩ := Text.append_quote_inj
      (unquoted_selectorInScope hscope hname) ha.value hquote ha.closing h.2
    obtain ⟨s, rfl, -⟩ := exists_of_selectorsInScope_eq_append (t := [')']) hparenthesis hrest
    refine ⟨⟨l.quote, '.' :: l.name, l.quote⟩, s, ?_, ?_⟩
    · rw [hcode, SelectorLiteral.write_append, Argument.write_append]
      rfl
    · exact ⟨hquote, unquoted_selector hname.unquoted, List.cons_ne_nil _ _, hquote⟩
  | none =>
    cases code with
    | nil => simp at h
    | cons c code =>
      rw [selectorsInScope_of_not_read hread, List.cons.injEq] at h
      obtain ⟨s, rfl, hs⟩ := exists_of_selectorsInScope_eq_append ha.value h.2
      -- A selector literal cannot start at the closing quote, for no point is behind it.
      obtain ⟨s, rfl⟩ : ∃ t, s = a.closing :: ')' :: t := by
        match hread : selectorLiteral.read none s with
        | some (l, t) =>
          rw [selectorsInScope_of_read hread] at hs
          simp [selectorInScope] at hs
        | none =>
          cases s with
          | nil => simp at hs
          | cons d s =>
            rw [selectorsInScope_of_not_read hread, List.cons.injEq] at hs
            obtain ⟨t, rfl, -⟩ :=
              exists_of_selectorsInScope_eq_append (t := [')']) hparenthesis hs.2
            exact ⟨t, by rw [hs.1]; rfl⟩
      refine ⟨⟨c, a.value, a.closing⟩, s, ?_, ?_⟩
      · rw [Argument.write_append]
      · exact { ha with opening := h.1 ▸ ha.opening }

/-- What stands between quotes after the pass stands in the script, unless it is a selector in the
scope. -/
theorem infix_of_selectorsInScope (hscope : scope.asText.Unquoted) {value : Text}
    (hvalue : value.Unquoted) (h : value.StandsQuoted (selectorsInScope scope code)) :
    value <:+: code ∨ ∃ name, IsIdentifier name ∧ value = selectorInScope scope name := by
  obtain ⟨u, q, q', r, h, hq, hq'⟩ := h
  -- What follows the opening quote, as far as the closing one, was there before the pass.
  have hfront : ∀ {s}, selectorsInScope scope s = value ++ q' :: r → value <:+: s := by
    intro s hs
    obtain ⟨t, rfl, -⟩ := exists_of_selectorsInScope_eq_append hvalue hs
    exact (List.prefix_append value t).isInfix
  induction code using selectorLiteral.scan_induction generalizing u with
  | nil => simp at h
  | hit s l t hread ih =>
    obtain ⟨hs, hquote, hname⟩ := SelectorLiteral.read?_eq_some_iff.1 hread
    have hselector := unquoted_selectorInScope hscope hname
    have ht : t <:+: s := by
      rw [hs]
      exact (List.suffix_append _ _).isInfix
    rw [selectorsInScope_of_read hread] at h
    cases u with
    | nil =>
      rw [List.nil_append, List.cons.injEq] at h
      exact .inr ⟨l.name, hname, (Text.append_quote_inj hselector hvalue hquote hq' h.2).1.symm⟩
    | cons c u =>
      rw [List.cons_append, List.cons.injEq] at h
      rcases Text.unquoted_or_cut u with hu | ⟨u, q'', v, rfl, hu, hq''⟩
      · -- The stretch starts at the closing quote of the literal.
        obtain ⟨-, -, hrest⟩ := Text.append_quote_inj hselector hu hquote hq h.2
        exact .inl ((hfront hrest).trans ht)
      · rw [List.append_assoc, List.cons_append] at h
        obtain ⟨-, -, hrest⟩ := Text.append_quote_inj hselector hu hquote hq'' h.2
        exact (ih v hrest).imp_left fun hstands => hstands.trans ht
  | gap c s hread ih =>
    rw [selectorsInScope_of_not_read hread] at h
    cases u with
    | nil =>
      rw [List.nil_append, List.cons.injEq] at h
      exact .inl (List.infix_cons (hfront h.2))
    | cons d u =>
      rw [List.cons_append, List.cons.injEq] at h
      exact (ih u h.2).imp_left List.infix_cons

end Script

/-! ## Calls after the pass -/

open Script

namespace Form.IsCall

variable {α : Type} {form : Form Char α} {argument : α → Argument} {heads : List Text}
  {scope : Setting} {code : Text}

/-- No call starts in a selector literal, whatever stands in front of the name. -/
theorem skips_literal (h : form.IsCall argument heads) {q : Char} {front name : Text}
    (hq : Text.isQuote q = true) (hfront : front.Unquoted) (hne : name ≠ [])
    (hchars : ∀ c ∈ name, isIdentifierChar c = true) :
    form.Skips (SelectorLiteral.write ⟨q, front ++ name⟩) := by
  have hname : name.Unquoted := fun c hc => isQuote_of_isIdentifierChar (hchars c hc)
  have hends := h.not_suffix_of_getLast? (getLast?_append_name hne hchars ('.' :: front))
  exact .cons (fun s => h.read_quote hq _)
    (h.skips_append_quote (unquoted_selector (hfront.append hname)) hends hq)

/-- No call starts in a selector literal. -/
theorem skips_write (h : form.IsCall argument heads) {l : SelectorLiteral}
    (hquote : Text.isQuote l.quote = true) (hname : IsIdentifier l.name) : form.Skips l.write := by
  have hskips := h.skips_literal hquote Text.unquoted_nil hname.ne_nil hname.chars
  exact hskips

/-- Where neither a call nor a selector literal is read, no call is read after the pass over what
follows the first character. -/
theorem read_cons_selectorsInScope (h : form.IsCall argument heads)
    (hscope : scope.asText.Unquoted) {c : Char} {s : Text} (hread : form.read none (c :: s) = none)
    (hliteral : selectorLiteral.read none (c :: s) = none) :
    form.read none (c :: selectorsInScope scope s) = none := by
  by_contra hsome
  obtain ⟨⟨y, r⟩, hy⟩ := Option.ne_none_iff_exists'.1 hsome
  obtain ⟨head, hhead, hs, hvalid⟩ := h.of_read hy
  rw [← selectorsInScope_of_not_read hliteral] at hs
  obtain ⟨t, hcode, ht⟩ :=
    exists_of_selectorsInScope_eq_append (h.isHead head hhead).unquoted hs
  obtain ⟨b, t, rfl, hb⟩ := exists_of_selectorsInScope_eq_write hscope hvalid ht
  obtain ⟨x, hx, -⟩ := h.exists_read t hhead hb
  rw [hcode, hx] at hread
  cases hread

/-- The calls of a script after the pass over its selector literals are those before it, each with
its argument in the scope. -/
theorem map_find_selectorsInScope (h : form.IsCall argument heads)
    (hscope : scope.asText.Unquoted) (code : Text) :
    (form.find (selectorsInScope scope code)).map argument =
      (form.find code).map fun x => (argument x).inScope scope := by
  induction code using form.scan_induction_two selectorLiteral with
  | nil => simp
  | hit s x r hread ih =>
    obtain ⟨head, hhead, rfl, hx⟩ := h.of_read hread
    obtain ⟨y, hy, hargument⟩ :=
      h.exists_read (selectorsInScope scope r) hhead (hx.inScope hscope)
    rw [selectorsInScope_append (h.isHead head hhead).unquoted, selectorsInScope_write hx,
      Form.find_of_read h.contextFree hy, Form.find_of_read h.contextFree hread, List.map_cons,
      List.map_cons, ih, hargument]
  | otherHit s l r hread hliteral ih =>
    -- No call starts in a literal, and none in a literal in the scope.
    obtain ⟨rfl, hquote, hname⟩ := SelectorLiteral.read?_eq_some_iff.1 hliteral
    have hbefore := h.skips_write hquote hname
    have hafter := h.skips_literal hquote hscope hname.ne_nil hname.chars
    rw [selectorsInScope, Form.substitute_of_read contextFree_selectorLiteral hliteral, fullName,
      hafter.find_append h.contextFree, hbefore.find_append h.contextFree]
    exact ih
  | gap c s hread hliteral ih =>
    rw [selectorsInScope_of_not_read hliteral,
      Form.find_of_not_read h.contextFree (h.read_cons_selectorsInScope hscope hread hliteral),
      Form.find_of_not_read h.contextFree hread, ih]

/-- A call is still there after the first pass, with its argument in the scope. -/
theorem exists_mem_find_selectorsInScope (h : form.IsCall argument heads)
    (hscope : scope.asText.Unquoted) {x : α} (hx : x ∈ form.find code) :
    ∃ y ∈ form.find (selectorsInScope scope code), argument y = (argument x).inScope scope := by
  have hmem : (argument x).inScope scope ∈
      (form.find (selectorsInScope scope code)).map argument := by
    rw [h.map_find_selectorsInScope hscope]
    exact List.mem_map_of_mem hx
  exact List.mem_map.1 hmem

/-- The argument of a call after the first pass stands in the script, or it is a selector in the
scope and was a selector literal before. -/
theorem value_of_mem_find (h : form.IsCall argument heads) (hscope : scope.asText.Unquoted) {y : α}
    (hy : y ∈ form.find (selectorsInScope scope code)) :
    (argument y).value <:+: code ∨
      ∃ x ∈ form.find code, ∃ name, (argument x).selected? = some name ∧
        (argument y).value = selectorInScope scope name := by
  have hmem := List.mem_map_of_mem (f := argument) hy
  rw [h.map_find_selectorsInScope hscope, List.mem_map] at hmem
  obtain ⟨x, hx, hxy⟩ := hmem
  rw [← hxy]
  cases hselected : (argument x).selected? with
  | none =>
    -- The pass has kept the argument.
    rw [Argument.inScope_of_not_selected hselected]
    exact .inl (h.infix_of_mem_find hx)
  | some name =>
    rw [Argument.inScope_of_selected hselected]
    exact .inr ⟨x, hx, name, hselected, rfl⟩

end Form.IsCall

end ClassScope
