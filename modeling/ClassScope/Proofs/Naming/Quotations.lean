import ClassScope.Proofs.Naming.Composition
import ClassScope.Proofs.Text.Blank

/-!
# Quotations that are no calls

A quoted text, with what stands in front of it and behind it, is kept by a pass over calls if it is
no call for the pass. A call next to it may take its closing quote for an opening one, but then the
argument of that call starts with what stands behind the quotation, and no scope does. Main
statements:

- `Form.PutsCalls.exists_of_substitute`: a quotation that is there after a pass was there before;
- `Form.PutsCalls.exists_substitute`: a quotation that does not end like the head of a call is there
  after a pass if it was there before;
- `Script.putsCalls_classListCall`, `Script.putsCalls_idLookup`: the two passes over calls.
-/

namespace ClassScope

open Registry (fullName)

namespace Text

variable {s t : Text} {q : Char}

theorem Unquoted.of_append_left (h : Unquoted (s ++ t)) : s.Unquoted :=
  (List.forall_mem_append.1 h).1

theorem Unquoted.not_mem (hs : s.Unquoted) (hq : isQuote q = true) : q ∉ s := by
  intro hmem
  rw [hs q hmem] at hq
  cases hq

end Text

namespace Script

/-! ## Quotations -/

/-- A quoted text with the stretches in front of it and behind it. -/
structure Quotation where
  /-- The stretch in front of the opening quote. -/
  front : Text
  /-- The opening quote. -/
  opening : Char
  /-- The text between the quotes. -/
  body : Text
  /-- The closing quote. -/
  closing : Char
  /-- The stretch behind the closing quote. -/
  back : Text

/-- The text of a quotation. -/
def Quotation.write (x : Quotation) : Text :=
  x.front ++ x.opening :: (x.body ++ x.closing :: x.back)

/-- A character that may stand between a quotation and the end of the call it is in. -/
def isBackChar (c : Char) : Bool := Text.isBlank c || c == ')'

/-- The quotation stands in parentheses, with blanks around it perhaps. -/
structure Quotation.Valid (x : Quotation) : Prop where
  /-- There is no quote in front of it. -/
  front : x.front.Unquoted
  /-- What stands in front of it does not start with a closing parenthesis. -/
  first : ∀ c ∈ x.front.head?, c ≠ ')'
  /-- Something stands in front of it. -/
  front_ne_nil : x.front ≠ []
  /-- It starts with a quote. -/
  opening : Text.isQuote x.opening = true
  /-- There is no quote in it. -/
  body : x.body.Unquoted
  /-- It does not start with a closing parenthesis. -/
  body_first : ∀ c ∈ x.body.head?, c ≠ ')'
  /-- It ends with a quote. -/
  closing : Text.isQuote x.closing = true
  /-- Only blanks and closing parentheses stand behind it. -/
  back : ∀ c ∈ x.back, isBackChar c = true
  /-- Something stands behind it. -/
  back_ne_nil : x.back ≠ []

/-- The quotation is not the argument of a call with one of some heads. -/
def Quotation.Clear (heads : List Text) (x : Quotation) : Prop :=
  ∀ head ∈ heads, ∀ u w, u ++ x.front = w ++ head → x.back.head? ≠ some ')'

/-- What stands in front of one place before and after a pass, with the same quotes, and calls at
the same places. -/
inductive SameCalls : Text → Text → Prop where
  /-- The text is kept. -/
  | refl (u : Text) : SameCalls u u
  /-- The text is kept as far as a quote. -/
  | quote {t u u' : Text} {q : Char} (hq : Text.isQuote q = true) (h : SameCalls u u') :
      SameCalls (t ++ q :: u) (t ++ q :: u')
  /-- There are calls on both sides. -/
  | call {t t' u u' : Text} (h : SameCalls u u') : SameCalls (t ++ ')' :: u) (t' ++ ')' :: u')

/-- A text that starts with an argument is longer than what follows the argument. -/
theorem Argument.length_lt_of_eq_append {a : Argument} {s r : Text} (h : s = a.write ++ r) :
    r.length < s.length := by
  rw [h, write_append]
  simp
  omega

namespace Quotation

variable {x : Quotation} {u v t s r : Text} {q : Char} {a : Argument}

theorem Clear.of_mem {heads : List Text} (h : x.Clear heads) {head : Text} (hhead : head ∈ heads) :
    x.Clear [head] := by
  intro other hother
  rw [List.mem_singleton.1 hother]
  exact h head hhead

theorem write_append (x : Quotation) (v : Text) :
    x.write ++ v = x.front ++ x.opening :: (x.body ++ x.closing :: (x.back ++ v)) := by
  simp [write]

/-- A quotation in a text that is cut at its first quote starts there or stands behind that
quote. -/
theorem Valid.cut (hx : x.Valid) (ht : t.Unquoted) (hq : Text.isQuote q = true)
    (h : t ++ q :: s = u ++ (x.write ++ v)) :
    (t = u ++ x.front ∧ q = x.opening ∧ s = x.body ++ x.closing :: (x.back ++ v)) ∨
      ∃ u', u = t ++ q :: u' ∧ s = u' ++ (x.write ++ v) := by
  rcases Text.unquoted_or_cut u with hu | ⟨u, q', u', rfl, hu, hq'⟩
  · rw [write_append, ← List.append_assoc] at h
    exact .inl (Text.append_quote_inj ht (hu.append hx.front) hq hx.opening h)
  · rw [List.append_assoc, List.cons_append] at h
    obtain ⟨rfl, rfl, hs⟩ := Text.append_quote_inj ht hu hq hq' h
    exact .inr ⟨u', rfl, hs⟩

/-- A quotation in a text that starts with a call stands behind the call, if it is not its
argument. -/
theorem Valid.behind_call (hx : x.Valid) {head w : Text} (hclear : x.Clear [head])
    (ht : Text.Unquoted (w ++ head)) (ha : a.Valid)
    (h : (w ++ head) ++ (a.write ++ r) = u ++ (x.write ++ v)) :
    ∃ u', u = (w ++ head ++ a.opening :: (a.value ++ [a.closing])) ++ ')' :: u' ∧
      r = u' ++ (x.write ++ v) := by
  rw [Argument.write_append] at h
  rcases hx.cut ht ha.opening h with ⟨hfront, -, hrest⟩ | ⟨u, rfl, hrest⟩
  · -- It starts at the opening quote, so it ends at the closing one, and a parenthesis follows.
    obtain ⟨-, -, hback⟩ := Text.append_quote_inj ha.value hx.body ha.closing hx.closing hrest
    obtain ⟨c, back, hc⟩ := List.exists_cons_of_ne_nil hx.back_ne_nil
    rw [hc, List.cons_append, List.cons.injEq] at hback
    exact absurd (by rw [hc, ← hback.1]; rfl)
      (hclear head (List.mem_singleton_self _) u w hfront.symm)
  rcases hx.cut ha.value ha.closing hrest with ⟨-, -, hbehind⟩ | ⟨u, rfl, hbehind⟩
  · -- It starts at the closing quote, with the parenthesis.
    cases hbody : x.body with
    | nil =>
      rw [hbody, List.nil_append, List.cons.injEq] at hbehind
      have hclosing := hx.closing
      rw [← hbehind.1] at hclosing
      exact absurd hclosing (by decide)
    | cons c body =>
      rw [hbody, List.cons_append, List.cons.injEq] at hbehind
      exact absurd hbehind.1.symm (hx.body_first c (by rw [hbody]; rfl))
  cases u with
  | nil =>
    -- What stands in front of it does not start with the parenthesis.
    obtain ⟨c, front, hc⟩ := List.exists_cons_of_ne_nil hx.front_ne_nil
    rw [List.nil_append, write_append, hc, List.cons_append, List.cons.injEq] at hbehind
    exact absurd hbehind.1.symm (hx.first c (by rw [hc]; rfl))
  | cons c u =>
    rw [List.cons_append, List.cons.injEq] at hbehind
    refine ⟨u, ?_, hbehind.2⟩
    rw [← hbehind.1]
    simp

end Quotation

end Script

open Script

/-! ## Passes over calls -/

/-- A pass over calls keeps a call, or it puts another call for it, whose argument starts with a
character that does not stand behind a quotation. -/
structure Form.PutsCalls {α : Type} (form : Form Char α) (argument : α → Argument)
    (heads : List Text) (replace : α → Text) : Prop where
  /-- The form is that of calls with some of the heads. -/
  isCall : ∃ old ⊆ heads, form.IsCall argument old
  /-- The heads are heads. -/
  isHead : ∀ head ∈ heads, IsHead head
  /-- No head starts with a character that stands behind a quotation. -/
  head_first : ∀ head ∈ heads, ∀ c ∈ head.head?, isBackChar c = false
  /-- What is put for a call. -/
  replaced : ∀ x, (argument x).Valid → replace x = form.write x ∨
    ∃ head ∈ heads, ∃ a : Argument, replace x = head ++ a.write ∧ a.Valid ∧
      ∀ c ∈ a.value.head?, isBackChar c = false

namespace Form.PutsCalls

variable {α : Type} {form : Form Char α} {argument : α → Argument} {heads : List Text}
  {replace : α → Text} {x : Quotation} {code s t u v back : Text} {q : Char}

theorem contextFree (h : form.PutsCalls argument heads replace) : form.ContextFree :=
  h.isCall.choose_spec.2.contextFree

/-- A call that is read at the front, and what is put for it. -/
theorem of_read (h : form.PutsCalls argument heads replace) {y : α} {r : Text}
    (hread : form.read none s = some (y, r)) :
    ∃ head ∈ heads, ∃ a : Argument, s = head ++ (a.write ++ r) ∧ a.Valid ∧
      ∃ newHead ∈ heads, ∃ b : Argument, replace y = newHead ++ b.write ∧ b.Valid ∧
        (newHead = head ∧ b = a ∨ ∀ c ∈ b.value.head?, isBackChar c = false) := by
  obtain ⟨old, hold, hform⟩ := h.isCall
  obtain ⟨head, hhead, hs, ha⟩ := hform.of_read hread
  refine ⟨head, hold hhead, argument y, hs, ha, ?_⟩
  rcases h.replaced y ha with hsame | ⟨newHead, hnew, b, hb, hvalid, hfirst⟩
  · have hwrite : form.write y = head ++ (argument y).write := by
      have := (form.sound hread).1.symm.trans hs
      rwa [← List.append_assoc, List.append_cancel_right_eq] at this
    exact ⟨head, hold hhead, argument y, hsame.trans hwrite, ha, .inl ⟨rfl, rfl⟩⟩
  · exact ⟨newHead, hnew, b, hb, hvalid, .inr hfirst⟩

/-- A text without quotes is kept. -/
theorem substitute_of_unquoted (h : form.PutsCalls argument heads replace) (hs : s.Unquoted) :
    form.substitute replace s = s := by
  obtain ⟨old, -, hform⟩ := h.isCall
  exact hform.substitute_of_unquoted hs

/-- The first quote of a text opens the argument of a call, or the text is kept as far as it. -/
theorem substitute_cut (h : form.PutsCalls argument heads replace) (ht : t.Unquoted)
    (hq : Text.isQuote q = true) :
    form.substitute replace (t ++ q :: s) = t ++ q :: form.substitute replace s ∨
      ∃ w, ∃ head ∈ heads, ∃ a : Argument, ∃ r, t = w ++ head ∧ q :: s = a.write ++ r ∧ a.Valid ∧
        ∃ newHead ∈ heads, ∃ b : Argument,
          form.substitute replace (t ++ q :: s) =
            (w ++ newHead) ++ (b.write ++ form.substitute replace r) ∧ b.Valid ∧
          (newHead = head ∧ b = a ∨ ∀ c ∈ b.value.head?, isBackChar c = false) := by
  obtain ⟨old, hold, hform⟩ := h.isCall
  rcases hform.substitute_cut replace (s := s) ht hq with hkept |
    ⟨w, head, hhead, y, r, rfl, hs, hy, hwrite, hcall⟩
  · exact .inl hkept
  refine .inr ⟨w, head, hold hhead, argument y, r, rfl, hs, hy, ?_⟩
  rcases h.replaced y hy with hsame | ⟨newHead, hnew, b, hb, hvalid, hfirst⟩
  · refine ⟨head, hold hhead, argument y, ?_, hy, .inl ⟨rfl, rfl⟩⟩
    rw [hcall, hsame, hwrite, List.append_assoc, List.append_assoc]
  · refine ⟨newHead, hnew, b, ?_, hvalid, .inr hfirst⟩
    rw [hcall, hb, List.append_assoc, List.append_assoc]

/-- Blanks and parentheses at the front after the pass were there before. -/
theorem exists_of_substitute_eq_back (h : form.PutsCalls argument heads replace)
    (hback : ∀ c ∈ back, isBackChar c = true) (heq : form.substitute replace s = back ++ v) :
    ∃ v', s = back ++ v' := by
  induction back generalizing s with
  | nil => exact ⟨s, rfl⟩
  | cons c back ih =>
    obtain ⟨hc, hback⟩ := List.forall_mem_cons.1 hback
    -- What is put for a call starts with a head.
    have hput : ∀ y r, form.read none s = some (y, r) → ∃ d u, replace y = d :: u ∧ d ≠ c := by
      intro y r hread
      obtain ⟨-, -, a, -, -, newHead, hnew, b, hb, -⟩ := h.of_read hread
      obtain ⟨d, newHead, rfl, -⟩ := (h.isHead newHead hnew).exists_eq_cons
      refine ⟨d, newHead ++ b.write, hb, ?_⟩
      rintro rfl
      rw [h.head_first _ hnew d rfl] at hc
      cases hc
    obtain ⟨s, rfl, hrest⟩ := Form.exists_of_substitute_eq_cons h.contextFree hput heq
    obtain ⟨v', rfl⟩ := ih hback hrest
    exact ⟨v', rfl⟩

/-- Blanks and parentheses at the front are kept. -/
theorem substitute_back_append (h : form.PutsCalls argument heads replace)
    (hback : ∀ c ∈ back, isBackChar c = true) (s : Text) :
    form.substitute replace (back ++ s) = back ++ form.substitute replace s := by
  refine Form.Skips.substitute_append (.of_first fun c hc v => ?_) h.contextFree s
  by_contra hsome
  obtain ⟨⟨y, r⟩, hread⟩ := Option.ne_none_iff_exists'.1 hsome
  obtain ⟨head, hhead, a, hs, -⟩ := h.of_read hread
  obtain ⟨d, head, rfl, -⟩ := (h.isHead head hhead).exists_eq_cons
  rw [List.cons_append, List.cons.injEq] at hs
  have hd := h.head_first _ hhead d rfl
  rw [← hs.1, hback c hc] at hd
  cases hd

/-- A quoted text at the front after the pass, with blanks and parentheses behind it, was there
before. -/
theorem exists_of_substitute_eq_body (h : form.PutsCalls argument heads replace) {body : Text}
    (hbody : body.Unquoted) (hq : Text.isQuote q = true) (hback : ∀ c ∈ back, isBackChar c = true)
    (hne : back ≠ []) (heq : form.substitute replace s = body ++ q :: (back ++ v)) :
    ∃ v', s = body ++ q :: (back ++ v') := by
  rcases Text.unquoted_or_cut s with hs | ⟨t, q', s, rfl, ht, hq'⟩
  · rw [h.substitute_of_unquoted hs] at heq
    exact ⟨v, heq⟩
  rcases h.substitute_cut (s := s) ht hq' with hkept |
    ⟨w, head, hhead, a, r, rfl, hs, ha, newHead, hnew, b, hcall, hb, hfirst⟩
  · rw [hkept] at heq
    obtain ⟨rfl, rfl, hrest⟩ := Text.append_quote_inj ht hbody hq' hq heq
    obtain ⟨v', rfl⟩ := h.exists_of_substitute_eq_back hback hrest
    exact ⟨v', rfl⟩
  · rw [hcall, Argument.write_append] at heq
    have hfront : Text.Unquoted (w ++ newHead) :=
      ht.of_append_left.append (h.isHead newHead hnew).unquoted
    obtain ⟨rfl, rfl, hrest⟩ := Text.append_quote_inj hfront hbody hb.opening hq heq
    rcases hfirst with ⟨rfl, rfl⟩ | hfirst
    · -- The call is kept, and what stands behind the quoted text is the front of its argument.
      have hunquoted : Text.Unquoted back := by
        intro c hc
        rcases Bool.or_eq_true_iff.1 (hback c hc) with hblank | hparenthesis
        · exact Text.isQuote_of_isBlank hblank
        · rw [beq_iff_eq.1 hparenthesis]
          decide
      have hprefix : back <+: b.value :=
        Text.prefix_of_append_cons (hunquoted.not_mem hb.closing) hrest.symm
      obtain ⟨rest, hrest⟩ := hprefix
      rw [Argument.write_append, List.cons.injEq] at hs
      rw [hs.1, hs.2, ← hrest]
      exact ⟨rest ++ b.closing :: ')' :: r, by simp⟩
    · -- The new argument does not start with what stands there.
      obtain ⟨c, back, rfl⟩ := List.exists_cons_of_ne_nil hne
      obtain ⟨d, value, hd⟩ := List.exists_cons_of_ne_nil hb.ne_nil
      rw [hd, List.cons_append, List.cons_append, List.cons.injEq] at hrest
      have hc := hback c List.mem_cons_self
      rw [← hrest.1, hfirst d (by rw [hd]; rfl)] at hc
      cases hc

/-- A quotation that is there after the pass was there before. -/
theorem exists_of_substitute (h : form.PutsCalls argument heads replace) (hx : x.Valid)
    (hclear : x.Clear heads) {code u v : Text}
    (heq : form.substitute replace code = u ++ (x.write ++ v)) :
    ∃ u' v', code = u' ++ (x.write ++ v') ∧ SameCalls u' u := by
  rcases Text.unquoted_or_cut code with hunquoted | ⟨t, q, s, hcode, ht, hq⟩
  · rw [h.substitute_of_unquoted hunquoted] at heq
    exact ⟨u, v, heq, .refl u⟩
  rw [hcode] at heq
  rcases h.substitute_cut (s := s) ht hq with hkept |
    ⟨w, head, -, a, r, rfl, hs, -, newHead, hnew, b, hcall, hb, -⟩
  · have hlength : s.length < code.length := by simp [hcode]; omega
    rw [hkept] at heq
    rcases hx.cut ht hq heq with ⟨rfl, rfl, hrest⟩ | ⟨u, rfl, hrest⟩
    · obtain ⟨v', rfl⟩ :=
        h.exists_of_substitute_eq_body hx.body hx.closing hx.back hx.back_ne_nil hrest
      exact ⟨u, v', by rw [hcode, x.write_append, List.append_assoc], .refl u⟩
    · obtain ⟨u', v', hs, hsame⟩ := exists_of_substitute h hx hclear hrest
      exact ⟨t ++ q :: u', v', by rw [hcode, hs]; simp, .quote hq hsame⟩
  · -- Behind a call the text before the pass is a shorter one.
    have hfront : Text.Unquoted (w ++ newHead) :=
      ht.of_append_left.append (h.isHead newHead hnew).unquoted
    rw [hcall] at heq
    obtain ⟨u, rfl, hrest⟩ := hx.behind_call (hclear.of_mem hnew) hfront hb heq
    have hlength : r.length < code.length := by
      have := Argument.length_lt_of_eq_append hs
      rw [hcode, List.length_append]
      omega
    obtain ⟨u', v', hr, hsame⟩ := exists_of_substitute h hx hclear hrest
    refine ⟨(w ++ head ++ a.opening :: (a.value ++ [a.closing])) ++ ')' :: u', v', ?_, .call hsame⟩
    rw [hcode, hs, hr, Argument.write_append]
    simp
termination_by code.length

/-- A quotation that does not end like a head is there after the pass if it was there before. -/
theorem exists_substitute (h : form.PutsCalls argument heads replace) (hx : x.Valid)
    (hclear : x.Clear heads) (hlast : x.body.getLast? ≠ some '(') {code u v : Text}
    (heq : code = u ++ (x.write ++ v)) :
    ∃ u' v', form.substitute replace code = u' ++ (x.write ++ v') ∧ SameCalls u u' := by
  rcases Text.unquoted_or_cut code with hunquoted | ⟨t, q, s, hcode, ht, hq⟩
  · exact ⟨u, v, (h.substitute_of_unquoted hunquoted).trans heq, .refl u⟩
  rw [hcode] at heq ⊢
  rcases h.substitute_cut (s := s) ht hq with hkept |
    ⟨w, head, hhead, a, r, rfl, hs, ha, newHead, -, b, hcall, -, -⟩
  · have hlength : s.length < code.length := by simp [hcode]; omega
    rcases hx.cut ht hq heq with ⟨rfl, rfl, rfl⟩ | ⟨u, rfl, hrest⟩
    · -- No call starts at the closing quote either.
      obtain ⟨old, -, hform⟩ := h.isCall
      refine ⟨u, form.substitute replace v, ?_, .refl u⟩
      rw [hkept, hform.substitute_append_quote hx.body (hform.not_suffix_of_getLast? hlast)
        hx.closing, h.substitute_back_append hx.back, x.write_append, List.append_assoc]
    · obtain ⟨u', v', hrest, hsame⟩ := exists_substitute h hx hclear hlast hrest
      exact ⟨t ++ q :: u', v', by rw [hkept, hrest]; simp, .quote hq hsame⟩
  · rw [hs] at heq
    obtain ⟨u, rfl, hrest⟩ := hx.behind_call (hclear.of_mem hhead) ht ha heq
    have hlength : r.length < code.length := by
      have := Argument.length_lt_of_eq_append hs
      rw [hcode, List.length_append]
      omega
    obtain ⟨u', v', hrest, hsame⟩ := exists_substitute h hx hclear hlast hrest
    refine ⟨(w ++ newHead ++ b.opening :: (b.value ++ [b.closing])) ++ ')' :: u', v', ?_,
      .call hsame⟩
    rw [hcall, hrest, Argument.write_append]
    simp
termination_by code.length

end Form.PutsCalls

/-! ## The two passes -/

namespace Script

variable {p : Text}

/-- The head of a class query that is put for a lookup. -/
def queryHead : Text := Text.of "querySelector("

theorem isHead_queryHead : IsHead queryHead := by
  rw [queryHead, Text.of_eq_toList]
  decide

/-- No head starts with a character that stands behind a quotation. -/
theorem not_isBackChar_head? {head : Text} (h : head ∈ [lookupHead, queryHead] ++ callHeads) :
    ∀ c ∈ head.head?, isBackChar c = false := by
  have hall : ([lookupHead, queryHead] ++ callHeads).all (·.head?.all (!isBackChar ·)) = true := by
    decide +kernel
  intro c hc
  simpa [Option.mem_def.1 hc] using List.all_eq_true.1 hall head h

/-- What the scope adds to the name in a class list call starts with a letter. -/
theorem putsCalls_classListCall (hp : IsIdentifier p) :
    classListCall.PutsCalls ClassListCall.argument callHeads
      fun call => (call.inScope (.text p)).write where
  isCall := ⟨callHeads, List.Subset.refl _, isCall_classListCall⟩
  isHead := isCall_classListCall.isHead
  head_first head hhead := not_isBackChar_head? (by simp [hhead])
  replaced call hcall := by
    refine .inr ⟨call.head, call.head_mem, (call.inScope (.text p)).argument, ?_,
      ClassListCall.valid_inScope hp.unquoted hcall, ?_⟩
    · rw [← List.append_nil (ClassListCall.write _), ClassListCall.write_inScope_append,
        List.append_nil]
    · intro c hc
      obtain ⟨d, s, rfl⟩ := List.exists_cons_of_ne_nil hp.ne_nil
      obtain rfl := Option.some.inj hc
      rw [isBackChar, Markup.isBlank_of_isIdentifierChar (hp.chars _ List.mem_cons_self),
        Bool.false_or, beq_eq_false_iff_ne]
      rintro rfl
      exact absurd (hp.chars _ List.mem_cons_self) (by decide)

/-- What is put for a lookup starts with a point. -/
theorem putsCalls_idLookup_of_unquoted (hp : p.Unquoted) :
    idLookup.PutsCalls id [lookupHead, queryHead] (lookupInScope (.text p)) where
  isCall := ⟨[lookupHead], by simp, isCall_idLookup⟩
  isHead := List.forall_mem_cons.2 ⟨isHead_lookupHead, List.forall_mem_singleton.2 isHead_queryHead⟩
  head_first head hhead := not_isBackChar_head? (List.mem_append_left callHeads hhead)
  replaced a ha := by
    unfold lookupInScope
    split
    · refine .inr ⟨queryHead, by simp, ⟨'\x27', '.' :: fullName (.text p) a.value, '\x27'⟩, ?_,
        ⟨rfl, unquoted_selector (hp.append ha.value), List.cons_ne_nil _ _, rfl⟩, ?_⟩
      · simp [queryHead, Argument.write, Text.of_eq_toList]
      · intro c hc
        obtain rfl := Option.some.inj hc
        decide
    · exact .inl rfl

theorem putsCalls_idLookup (hp : IsIdentifier p) :
    idLookup.PutsCalls id [lookupHead, queryHead] (lookupInScope (.text p)) :=
  putsCalls_idLookup_of_unquoted hp.unquoted

end Script

end ClassScope
