import ClassScope.Proofs.Audit.Scan
import ClassScope.Proofs.Naming.Recovery

/-!
# What the renaming of a script misses

The audit is there to report the class list calls that the renaming of a script could not reach. The
two go by rules of their own: the renaming takes a literal that fills the parentheses, the audit
takes a literal with blanks around it for a name that was renamed. So a call with a blank beside its
literal is neither renamed nor reported. Main statements:

- `Audit.AnyCall.find_selectorsInScope`: the calls of a script after the pass over selector
  literals;
- `Audit.spacedName_of_substitute`, `Audit.spacedName_substitute`: calls with blanks after and
  before a pass over calls;
- `Audit.covered_iff`: the renaming and the audit leave out nothing but such calls;
- `Audit.covered_rename`: which scripts are covered when they have been renamed.
-/

namespace ClassScope

open Registry (fullName)
open Script

/-! ## The pass over selector literals -/

namespace Script

variable {scope : Setting} {p s t r : Text} {l : SelectorLiteral}

/-- There is no parenthesis in a selector literal. -/
theorem SelectorLiteral.not_mem_write (hquote : Text.isQuote l.quote = true)
    (hname : ∀ c ∈ l.name, isIdentifierChar c = true) : ')' ∉ l.write := by
  intro hmem
  have hne : l.quote ≠ ')' := by
    intro h
    rw [h] at hquote
    exact absurd hquote (by decide)
  have hchar : ')' ∉ l.name := fun h => absurd (hname _ h) (by decide)
  simp [write, hne.symm, hchar] at hmem

/-- The pass goes through a text in parentheses and through what stands behind it, each on its
own. -/
theorem selectorsInScope_append_parenthesis (s t : Text) :
    selectorsInScope scope (s ++ ')' :: t) =
      selectorsInScope scope s ++ ')' :: selectorsInScope scope t := by
  induction s using selectorLiteral.scan_induction with
  | nil =>
    rw [List.nil_append, selectorsInScope_nil]
    exact selectorsInScope_of_not_read (read_selectorLiteral_eq_none (.inl (by decide)))
  | hit s l r hread ih =>
    obtain ⟨rfl, hl⟩ := SelectorLiteral.read?_eq_some_iff.1 hread
    have hread' : selectorLiteral.read none (l.write ++ r ++ ')' :: t) = some (l, r ++ ')' :: t) :=
      SelectorLiteral.read?_eq_some_iff.2 ⟨List.append_assoc _ _ _, hl⟩
    rw [selectorsInScope_of_read hread', ih, selectorsInScope_of_read hread]
    simp
  | gap c s hread ih =>
    have hread' : selectorLiteral.read none (c :: (s ++ ')' :: t)) = none := by
      by_contra hsome
      obtain ⟨⟨l, r⟩, hl⟩ := Option.ne_none_iff_exists'.1 hsome
      obtain ⟨hs, hquote, hname⟩ := SelectorLiteral.read?_eq_some_iff.1 hl
      -- The literal would end in front of the parenthesis.
      obtain ⟨x, hx⟩ := Text.prefix_of_append_cons (t := c :: s)
        (SelectorLiteral.not_mem_write hquote hname.chars) hs.symm
      have hread' : selectorLiteral.read none (c :: s) = some (l, x) :=
        SelectorLiteral.read?_eq_some_iff.2 ⟨hx.symm, hquote, hname⟩
      rw [hread] at hread'
      cases hread'
    rw [List.cons_append, selectorsInScope_of_not_read hread', ih,
      selectorsInScope_of_not_read hread, List.cons_append]

/-- A closing parenthesis after the pass was there before. -/
theorem parenthesis_mem_of_mem_selectorsInScope (hp : IsIdentifier p)
    (h : ')' ∈ selectorsInScope (.text p) s) : ')' ∈ s := by
  induction s using selectorLiteral.scan_induction with
  | nil => simp at h
  | hit s l r hread ih =>
    obtain ⟨rfl, hquote, hname⟩ := SelectorLiteral.read?_eq_some_iff.1 hread
    have hfull : ')' ∉ (l.inScope (.text p)).write :=
      SelectorLiteral.not_mem_write hquote (hp.fullName hname).chars
    rw [selectorsInScope_eq_write_inScope hread] at h
    exact List.mem_append_right _ (ih ((List.mem_append.1 h).resolve_left hfull))
  | gap c s hread ih =>
    rw [selectorsInScope_of_not_read hread] at h
    exact (List.mem_cons.1 h).elim (fun hc => hc ▸ List.mem_cons_self)
      fun h => List.mem_cons_of_mem c (ih h)

end Script

namespace Audit

/-! ## The calls of a script after the pass -/

namespace AnyCall

variable {p code r : Text} {call : AnyCall} {l : SelectorLiteral}

/-- A call with what the pass over selector literals makes of its arguments. -/
def inScope (scope : Setting) (call : AnyCall) : AnyCall :=
  ⟨call.method, selectorsInScope scope call.arguments⟩

/-- No call starts in a selector literal. -/
theorem find_write_append (hquote : Text.isQuote l.quote = true)
    (hname : ∀ c ∈ l.name, isIdentifierChar c = true) :
    anyCall.find (l.write ++ r) = anyCall.find r := by
  refine Form.find_append_of_not_read contextFree_anyCall fun v hv hsuffix => ?_
  by_contra hsome
  obtain ⟨⟨call, r'⟩, hread⟩ := Option.ne_none_iff_exists'.1 hsome
  obtain ⟨hs, hcall⟩ := read?_eq_some_iff.1 hread
  -- What stands in front of the arguments is a part of the literal, without the closing quote.
  obtain ⟨x, hx⟩ := hsuffix
  obtain ⟨v, last, rfl⟩ := (List.eq_nil_or_concat v).resolve_left hv
  rw [SelectorLiteral.write, List.concat_eq_append, ← List.append_assoc] at hx
  obtain ⟨hx, hlast⟩ := List.append_inj' hx rfl
  rw [List.singleton_inj.1 hlast, List.concat_eq_append, List.append_assoc, List.singleton_append,
    write_append_eq_front, front, List.append_assoc] at hs
  obtain ⟨y, rfl⟩ := Text.prefix_of_append_cons (hcall.unquoted_head.not_mem hquote) hs.symm
  -- It holds a point behind a word, and the literal has its only point at the front.
  have hpoint : '.' ∉ l.name := fun h => absurd (hname _ h) (by decide)
  have hhead : call.head = Text.of "classList" ++ '.' :: (call.method ++ ['(']) := by
    simp [head, Text.of_eq_toList]
  have hlength : (Text.of "classList").length = 9 := by simp [Text.of_eq_toList]
  have hcut : (x ++ Text.of "classList") ++ '.' :: (call.method ++ '(' :: y) =
      [l.quote] ++ '.' :: l.name := by
    rw [hhead] at hx
    simpa using hx
  rcases List.append_eq_append_iff.1 hcut with ⟨w, hw, -⟩ | ⟨w, hw, hrest⟩
  · have := congrArg List.length hw
    simp [hlength] at this
    omega
  · cases w with
    | nil =>
      have := congrArg List.length hw
      simp [hlength] at this
    | cons c w =>
      rw [List.cons_append, List.cons.injEq] at hrest
      exact hpoint (by rw [hrest.2]; simp)

/-- The calls of a script after the pass over its selector literals are those before it, each with
its arguments in the scope. -/
theorem find_selectorsInScope (hp : IsIdentifier p) (code : Text) :
    anyCall.find (selectorsInScope (.text p) code) =
      (anyCall.find code).map (inScope (.text p)) := by
  induction code using anyCall.scan_induction_two selectorLiteral with
  | nil => simp
  | hit s call r hread ih =>
    obtain ⟨rfl, hcall⟩ := read?_eq_some_iff.1 hread
    have hafter : anyCall.read none (selectorsInScope (.text p) (call.write ++ r)) =
        some (call.inScope (.text p), selectorsInScope (.text p) r) := by
      refine read?_eq_some_iff.2 ⟨?_, hcall.withArguments fun hmem =>
        hcall.arguments (parenthesis_mem_of_mem_selectorsInScope hp hmem)⟩
      rw [write_append_eq_front, write_append_eq_front, front, List.append_assoc,
        selectorsInScope_append hcall.unquoted_head, selectorsInScope_append_parenthesis,
        ← List.append_assoc]
      rfl
    rw [Form.find_of_read contextFree_anyCall hafter, Form.find_of_read contextFree_anyCall hread,
      ih, List.map_cons]
  | otherHit s l r hread hliteral ih =>
    -- No call starts in a literal, and none in a literal in the scope.
    obtain ⟨rfl, hquote, hname⟩ := SelectorLiteral.read?_eq_some_iff.1 hliteral
    rw [selectorsInScope_eq_write_inScope hliteral,
      find_write_append (l := l.inScope (.text p)) hquote (hp.fullName hname).chars, ih,
      find_write_append hquote hname.chars]
  | gap c s hread hliteral ih =>
    have hnone : anyCall.read none (c :: selectorsInScope (.text p) s) = none := by
      -- A call that is read after the pass was there before it.
      by_contra hsome
      obtain ⟨⟨call, r⟩, hcall⟩ := Option.ne_none_iff_exists'.1 hsome
      obtain ⟨hs, hvalid⟩ := read?_eq_some_iff.1 hcall
      rw [← selectorsInScope_of_not_read hliteral, write_append_eq_front, front,
        List.append_assoc] at hs
      obtain ⟨t, hcode, ht⟩ := exists_of_selectorsInScope_eq_append hvalid.unquoted_head hs
      have hmem : ')' ∈ t :=
        parenthesis_mem_of_mem_selectorsInScope hp (by rw [ht]; simp)
      obtain ⟨arguments, v, rfl, harguments⟩ := List.eq_append_cons_of_mem hmem
      have hbefore : anyCall.read none (c :: s) = some (⟨call.method, arguments⟩, v) := by
        refine read?_eq_some_iff.2 ⟨?_, hvalid.withArguments harguments⟩
        rw [hcode, write_append_eq_front, front, List.append_assoc]
        rfl
      rw [hread] at hbefore
      cases hbefore
    rw [selectorsInScope_of_not_read hliteral, Form.find_of_not_read contextFree_anyCall hnone,
      Form.find_of_not_read contextFree_anyCall hread, ih]

end AnyCall

/-! ## Literals -/

namespace PaddedLiteral

variable {p : Text} {l : PaddedLiteral} {call : AnyCall}

/-- The literal is not the whole of the argument: there is a blank beside it. -/
def Spaced (l : PaddedLiteral) : Prop := l.before ++ l.after ≠ []

/-- A literal as the argument of a call with some head. -/
def quotation (l : PaddedLiteral) (head : Text) : Quotation :=
  ⟨head ++ l.before, l.quote, l.body, l.quote, l.after ++ [')']⟩

/-- A literal with another text between the quotes. -/
theorem Valid.withBody (hl : l.Valid) {body : Text} (hbody : body.Unquoted) (hne : body ≠ []) :
    Valid { l with body := body } :=
  { hl with body := hbody, ne_nil := hne }

/-- A pass over selector literals keeps a literal, or it puts another name for that in it. -/
theorem Valid.substitute_write (hl : l.Valid) {f : SelectorLiteral → SelectorLiteral}
    (hquote : ∀ m, (f m).quote = m.quote) (hname : ∀ m, IsIdentifier m.name → (f m).name.Unquoted) :
    ∃ body, selectorLiteral.substitute (fun m => (f m).write) l.write =
        PaddedLiteral.write { l with body := body } ∧ Valid { l with body := body } ∧
      (body = l.body ∨ ∃ name, IsIdentifier name ∧ l.body = '.' :: name ∧
        body = '.' :: (f ⟨l.quote, name⟩).name) := by
  have hafter : selectorLiteral.substitute (fun m => (f m).write) l.after = l.after := by
    have h : selectorLiteral.substitute (fun m => (f m).write) (l.after ++ []) = _ :=
      substitute_selectorLiteral_append hl.after.unquoted
    rwa [List.append_nil, Form.substitute_nil, List.append_nil] at h
  have hend : selectorLiteral.substitute (fun m => (f m).write) (l.quote :: l.after) =
      l.quote :: l.after := by
    have hnone : selectorLiteral.read none (l.quote :: l.after) = none := by
      refine read_selectorLiteral_eq_none (.inr fun hpoint => ?_)
      exact absurd (hl.after '.' (List.mem_of_mem_head? hpoint)) (by decide)
    rw [Form.substitute_of_not_read contextFree_selectorLiteral hnone, hafter]
  match hread : selectorLiteral.read none (l.quote :: (l.body ++ l.quote :: l.after)) with
  | some (m, r) =>
    obtain ⟨hm, hbody, hsame, -, rfl⟩ :=
      (SelectorLiteral.read?_quoted_iff hl.quote hl.body hl.quote).1 hread
    refine ⟨'.' :: (f ⟨l.quote, m.name⟩).name, ?_,
      hl.withBody (unquoted_selector (hname _ hm)) (List.cons_ne_nil _ _),
      .inr ⟨m.name, hm, hbody, rfl⟩⟩
    rw [write, substitute_selectorLiteral_append hl.before.unquoted,
      Form.substitute_of_read contextFree_selectorLiteral hread, hafter, write, hsame]
    simp [SelectorLiteral.write, hquote]
  | none =>
    refine ⟨l.body, ?_, hl, .inl rfl⟩
    rw [write, substitute_selectorLiteral_append hl.before.unquoted,
      Form.substitute_of_not_read contextFree_selectorLiteral hread,
      substitute_selectorLiteral_append hl.body, hend]

/-- The call of a method whose calls are renamed is its head and a quotation. -/
theorem exists_write_eq (hrenamed : call.IsRenamed) (hargument : call.arguments = l.write) :
    ∃ head ∈ callHeads, call.write = (l.quotation head).write := by
  obtain ⟨method, hmethod, hword⟩ := List.mem_map.1 hrenamed
  refine ⟨_, List.mem_map_of_mem hmethod, ?_⟩
  rw [AnyCall.write, hargument, ← hword]
  simp [quotation, Quotation.write, write]

variable {head : Text}

theorem Valid.quotation (hl : l.Valid) (hhead : head ∈ callHeads) (hcall : call.Valid)
    (hargument : call.arguments = l.write) : (l.quotation head).Valid where
  front := (isCall_classListCall.isHead head hhead).unquoted.append hl.before.unquoted
  first := by
    obtain ⟨c, t, rfl, hc⟩ := (isCall_classListCall.isHead head hhead).exists_eq_cons
    rintro d hd
    obtain rfl := Option.some.inj hd
    exact hc
  front_ne_nil := List.append_ne_nil_of_left_ne_nil
    (isCall_classListCall.isHead head hhead).ne_nil _
  opening := hl.quote
  body := hl.body
  body_first := by
    rintro c hc rfl
    refine hcall.arguments ?_
    rw [hargument, write]
    exact List.mem_append_right _ (List.mem_cons_of_mem _
      (List.mem_append_left _ (List.mem_of_mem_head? hc)))
  closing := hl.quote
  back := by
    intro c hc
    rcases List.mem_append.1 hc with hc | hc
    · rw [isBackChar, hl.after c hc, Bool.true_or]
    · rw [List.mem_singleton.1 hc]
      decide
  back_ne_nil := by simp [PaddedLiteral.quotation]

/-- A call with blanks is no call for a pass. -/
theorem Spaced.clear (hspaced : l.Spaced) (hl : l.Valid) {heads : List Text}
    (hheads : ∀ other ∈ heads, IsHead other) : (l.quotation head).Clear heads := by
  intro other hother u w hfront hback
  by_cases hafter : l.after = []
  · -- A blank stands in front of the quote, where a head has its parenthesis.
    have hne : l.before ≠ [] := fun h => hspaced (by rw [h, hafter, List.append_nil])
    have hlast := congrArg List.getLast? hfront
    rw [PaddedLiteral.quotation, ← List.append_assoc, List.getLast?_append_of_ne_nil _ hne,
      List.getLast?_append, (hheads other hother).last, Option.some_or] at hlast
    exact absurd (hl.before '(' (List.mem_of_getLast? hlast)) (by decide)
  · obtain ⟨c, after, hc⟩ := List.exists_cons_of_ne_nil hafter
    rw [PaddedLiteral.quotation, hc] at hback
    have hblank := hl.after c (by rw [hc]; exact List.mem_cons_self)
    rw [Option.some.inj hback] at hblank
    exact absurd hblank (by decide)

end PaddedLiteral

/-! ## Calls that are not covered -/

/-- Of the calls of the methods whose calls are renamed, those that are not reported have a literal
in the scope as their argument. -/
def Covered (p code : Text) : Prop :=
  ∀ call ∈ anyCall.find code, call.IsRenamed → ¬ Reported code call →
    ∃ l : PaddedLiteral, l.Valid ∧ call.arguments = l.write ∧ p <+: l.body

/-- The name is in a literal with a blank beside it, which is the argument of a call of one of the
methods whose calls are renamed. -/
def SpacedName (code name : Text) : Prop :=
  ∃ call ∈ anyCall.find code, call.IsRenamed ∧
    ∃ l : PaddedLiteral, l.Valid ∧ call.arguments = l.write ∧ l.Spaced ∧ l.body = name

variable {p code name : Text}

/-- The name in a call without blanks is in the scope after the passes: the pass over lookups makes
no call, and the pass over calls finds all that it makes. -/
theorem prefix_of_not_spaced (hp : IsIdentifier p) {call : AnyCall} {l : PaddedLiteral}
    (hcall : call ∈ anyCall.find (Script.inScope (.text p) code)) (hrenamed : call.IsRenamed)
    (hl : l.Valid) (hargument : call.arguments = l.write) (hspaced : ¬ l.Spaced) :
    p <+: l.body := by
  obtain ⟨hvalid, u, v, hcode, -⟩ := AnyCall.mem_find_iff.1 hcall
  obtain ⟨head, hhead, hwrite⟩ := PaddedLiteral.exists_write_eq hrenamed hargument
  have hx := hl.quotation hhead hvalid hargument
  obtain ⟨hbefore, hafter⟩ := List.append_eq_nil_iff.1 (not_not.1 hspaced)
  -- Before the pass over lookups the call was there already.
  have hclear : (l.quotation head).Clear [lookupHead, queryHead] := by
    intro other hother u w hfront _
    rw [PaddedLiteral.quotation, hbefore, List.append_nil] at hfront
    have hsuffix := List.suffix_append u head
    rw [hfront] at hsuffix
    have hneither : ∀ other ∈ [lookupHead, queryHead], ∀ head ∈ callHeads,
        ¬ head <:+ other ∧ ¬ other <:+ head := by decide +kernel
    rcases List.suffix_or_suffix_of_suffix hsuffix (List.suffix_append w other) with h | h
    · exact (hneither other hother head hhead).1 h
    · exact (hneither other hother head hhead).2 h
  rw [hwrite] at hcode
  obtain ⟨u, v, hcode, -⟩ := (putsCalls_idLookup hp).exists_of_substitute hx hclear hcode
  -- So the pass over calls has put it there.
  have hquotation : (l.quotation head).write ++ v =
      head ++ ((⟨l.quote, l.body, l.quote⟩ : Argument).write ++ v) := by
    rw [Quotation.write_append, Argument.write_append]
    simp [PaddedLiteral.quotation, hbefore, hafter]
  rw [hquotation] at hcode
  have hvalidArgument : (⟨l.quote, l.body, l.quote⟩ : Argument).Valid :=
    ⟨hl.quote, hl.body, hl.ne_nil, hl.quote⟩
  obtain ⟨found, hfound, hsame⟩ := isCall_classListCall.exists_mem_find (u := u) (v := v) hhead
    hvalidArgument fun hfirst => hx.body_first ')' hfirst rfl
  rw [← hcode, find_callsInScope hp] at hfound
  obtain ⟨call, -, rfl⟩ := List.mem_map.1 hfound
  rw [← show _ = l.body from congrArg Argument.value hsame]
  exact List.prefix_append p call.argument.value

/-- A script after the passes is covered exactly if the names in calls with blanks are in the
scope. -/
theorem covered_iff (hp : IsIdentifier p) :
    Covered p (Script.inScope (.text p) code) ↔
      ∀ name, SpacedName (Script.inScope (.text p) code) name → p <+: name := by
  constructor
  · rintro h name ⟨call, hcall, hrenamed, l, hl, hargument, -, rfl⟩
    have hissue : call.issue? = none := AnyCall.issue?_eq_none_iff.2 ⟨hrenamed, l, hl, hargument⟩
    obtain ⟨other, hother, hargument', hbegins⟩ :=
      h call hcall hrenamed fun hreported => (reported_iff hcall).1 hreported hissue
    rwa [hl.body_eq hother (hargument.symm.trans hargument')]
  · intro h call hcall hrenamed hreported
    have hissue : call.issue? = none := by
      by_contra hissue
      exact hreported ((reported_iff hcall).2 hissue)
    obtain ⟨-, l, hl, hargument⟩ := AnyCall.issue?_eq_none_iff.1 hissue
    refine ⟨l, hl, hargument, ?_⟩
    by_cases hspaced : l.Spaced
    · exact h l.body ⟨call, hcall, hrenamed, l, hl, hargument, hspaced, rfl⟩
    · exact prefix_of_not_spaced hp hcall hrenamed hl hargument hspaced

section PutsCalls

variable {α : Type} {form : Form Char α} {argument : α → Argument} {heads : List Text}
  {replace : α → Text}

/-- A pass over calls puts no call with blanks into a script. -/
theorem spacedName_of_substitute (h : form.PutsCalls argument heads replace)
    (hname : SpacedName (form.substitute replace code) name) : SpacedName code name := by
  obtain ⟨call, hcall, hrenamed, l, hl, hargument, hspaced, rfl⟩ := hname
  obtain ⟨hvalid, u, v, hcode, hu⟩ := AnyCall.mem_find_iff.1 hcall
  obtain ⟨head, hhead, hwrite⟩ := PaddedLiteral.exists_write_eq hrenamed hargument
  rw [hwrite] at hcode
  obtain ⟨u', v', hcode', hsame⟩ := h.exists_of_substitute
    (hl.quotation hhead hvalid hargument) (hspaced.clear hl h.isHead) hcode
  refine ⟨call, AnyCall.mem_find_iff.2 ⟨hvalid, u', v', ?_, ?_⟩, hrenamed, l, hl, hargument,
    hspaced, rfl⟩
  · rw [hcode', hwrite]
  · rwa [hsame.inCall_iff]

/-- A pass over calls keeps the calls with blanks, if the name does not end like the head of a
call. -/
theorem spacedName_substitute (h : form.PutsCalls argument heads replace)
    (hlast : name.getLast? ≠ some '(') (hname : SpacedName code name) :
    SpacedName (form.substitute replace code) name := by
  obtain ⟨call, hcall, hrenamed, l, hl, hargument, hspaced, rfl⟩ := hname
  obtain ⟨hvalid, u, v, hcode, hu⟩ := AnyCall.mem_find_iff.1 hcall
  obtain ⟨head, hhead, hwrite⟩ := PaddedLiteral.exists_write_eq hrenamed hargument
  rw [hwrite] at hcode
  obtain ⟨u', v', hcode', hsame⟩ := h.exists_substitute
    (hl.quotation hhead hvalid hargument) (hspaced.clear hl h.isHead) hlast hcode
  refine ⟨call, AnyCall.mem_find_iff.2 ⟨hvalid, u', v', ?_, ?_⟩, hrenamed, l, hl, hargument,
    hspaced, rfl⟩
  · rw [hcode', hwrite]
  · rwa [← hsame.inCall_iff]

end PutsCalls

/-- A call with blanks has them after the pass over selector literals. If its literal is a selector,
the scope stands behind the point. -/
theorem exists_spacedName_selectorsInScope (hp : IsIdentifier p) (hname : SpacedName code name) :
    ∃ after, SpacedName (selectorsInScope (.text p) code) after ∧
      (after = name ∨ ∃ n, name = '.' :: n ∧ IsIdentifier n ∧ after = '.' :: (p ++ n)) := by
  obtain ⟨call, hcall, hrenamed, l, hl, hargument, hspaced, rfl⟩ := hname
  obtain ⟨body, hwrite, hvalid, hbody⟩ := hl.substitute_write
    (f := SelectorLiteral.inScope (.text p)) (fun _ => rfl)
    fun m hm => (hp.fullName hm).unquoted
  have hafter : call.inScope (.text p) ∈ anyCall.find (selectorsInScope (.text p) code) := by
    rw [AnyCall.find_selectorsInScope hp]
    exact List.mem_map_of_mem hcall
  refine ⟨body, ⟨_, hafter, hrenamed, { l with body := body }, hvalid, ?_, hspaced, rfl⟩, ?_⟩
  · rw [AnyCall.inScope, hargument]
    exact hwrite
  · rcases hbody with rfl | ⟨n, hn, hpoint, rfl⟩
    · exact .inl rfl
    · exact .inr ⟨n, hpoint, hn, rfl⟩

/-- A call with blanks after the pass over selector literals had them before. -/
theorem exists_spacedName_of_selectorsInScope (hp : IsIdentifier p)
    (hname : SpacedName (selectorsInScope (.text p) code) name) :
    ∃ before, SpacedName code before ∧
      (before = name ∨ ∃ n n', before = '.' :: n ∧ name = '.' :: n') := by
  obtain ⟨after, hafter, hrenamed, l, hl, hargument, hspaced, rfl⟩ := hname
  rw [AnyCall.find_selectorsInScope hp] at hafter
  obtain ⟨call, hcall, rfl⟩ := List.mem_map.1 hafter
  obtain ⟨body, hwrite, hvalid, hbody⟩ := hl.substitute_write (f := SelectorLiteral.withoutScope p)
    (fun _ => rfl) fun m hm => hm.unquoted.of_suffix (Text.withoutFront_suffix p m.name)
  have hbefore : call.arguments = PaddedLiteral.write { l with body := body } := by
    rw [← hwrite, ← hargument]
    exact (removeFromSelectors_selectorsInScope hp call.arguments).symm
  refine ⟨body, ⟨call, hcall, hrenamed, { l with body := body }, hvalid, hbefore, hspaced, rfl⟩, ?_⟩
  rcases hbody with rfl | ⟨n, -, hpoint, rfl⟩
  · exact .inl rfl
  · exact .inr ⟨_, n, rfl, hpoint⟩

/-- A script that has been renamed is covered exactly if each name that it has in a call with a
blank beside the literal starts with the scope. The passes bring no such name in, so the script is
covered if each such name that it had before starts with the scope; and they take none away, unless
one ends like the head of a call. -/
theorem covered_rename {p : Text} (hp : IsIdentifier p) (code : Text) :
    (Covered p (renamed Script.rename p code) ↔
      ∀ name, SpacedName (renamed Script.rename p code) name → p <+: name) ∧
    ((∀ name, SpacedName code name → p <+: name) → Covered p (renamed Script.rename p code)) ∧
    ((∀ name, SpacedName code name → name.getLast? ≠ some '(') →
      Covered p (renamed Script.rename p code) → ∀ name, SpacedName code name → p <+: name) := by
  have hpoint : ∀ s, ¬ p <+: '.' :: s := by
    intro s hs
    obtain ⟨c, t, rfl⟩ := List.exists_cons_of_ne_nil hp.ne_nil
    have hc := hp.chars c List.mem_cons_self
    rw [(List.cons_prefix_cons.1 hs).1] at hc
    exact absurd hc (by decide)
  rw [(Script.looksUp_rename (.text p) code).renamed_eq]
  refine ⟨covered_iff hp, fun h => (covered_iff hp).2 fun name hname => ?_,
    fun hlast hcovered name hname => ?_⟩
  · obtain ⟨before, hbefore, rfl | ⟨n, n', rfl, -⟩⟩ :=
      exists_spacedName_of_selectorsInScope hp
        (spacedName_of_substitute (putsCalls_classListCall hp)
          (spacedName_of_substitute (putsCalls_idLookup hp) hname))
    · exact h before hbefore
    · exact absurd (h _ hbefore) (hpoint n)
  · obtain ⟨after, hafter, hsame⟩ := exists_spacedName_selectorsInScope hp hname
    have hafterLast : after.getLast? ≠ some '(' := by
      rcases hsame with rfl | ⟨n, -, hn, rfl⟩
      · exact hlast after hname
      · exact getLast?_append_name hn.ne_nil hn.chars ('.' :: p)
    have hbegins := (covered_iff hp).1 hcovered after
      (spacedName_substitute (putsCalls_idLookup hp) hafterLast
        (spacedName_substitute (putsCalls_classListCall hp) hafterLast hafter))
    rcases hsame with rfl | ⟨n, -, -, rfl⟩
    · exact hbegins
    · exact absurd hbegins (hpoint _)

/-- With blanks beside its literal a call is neither renamed nor reported. -/
theorem covered_rename_blanks :
    IsIdentifier (Text.of "dwp-") ∧
      renamed Script.rename (Text.of "dwp-") (Text.of "classList.add( 'open' )") =
        Text.of "classList.add( 'open' )" ∧
      scriptFindings (Text.of "classList.add( 'open' )") = [] ∧
      ¬ Covered (Text.of "dwp-")
        (renamed Script.rename (Text.of "dwp-") (Text.of "classList.add( 'open' )")) := by
  have hp : IsIdentifier (Text.of "dwp-") := by decide +kernel
  have hkept : renamed Script.rename (Text.of "dwp-") (Text.of "classList.add( 'open' )") =
      Text.of "classList.add( 'open' )" := by decide +kernel
  refine ⟨hp, hkept, by decide +kernel, fun hcovered => ?_⟩
  have hall := (covered_rename hp (Text.of "classList.add( 'open' )")).1.1 hcovered
  rw [hkept] at hall
  have hname : SpacedName (Text.of "classList.add( 'open' )") (Text.of "open") := by
    refine ⟨⟨Text.of "add", Text.of " 'open' "⟩, by decide +kernel, by decide +kernel,
      ⟨[' '], '\x27', Text.of "open", [' ']⟩, ⟨by decide, by decide, by decide +kernel,
        by decide +kernel, by decide⟩, by decide +kernel, List.cons_ne_nil _ _, rfl⟩
  exact absurd (hall _ hname) (by decide +kernel)

end Audit

end ClassScope
