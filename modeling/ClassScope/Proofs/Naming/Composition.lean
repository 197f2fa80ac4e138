import ClassScope.Proofs.Naming.Markup
import ClassScope.Proofs.Naming.ScriptNames
import ClassScope.Proofs.Naming.Stylesheet

/-!
# Scopes one after the other

A text in a scope that is put in a second scope is in the scope that is the second one followed by
the first one, if the first one is an identifier; for markup it only has to fit into a value. For
every pass this needs two things: an instance in the first scope is an instance again, with the
longer name; and no instance starts at a character that the first pass has kept, for up to the end
of such an instance the text would be the one from before. Main statements:

- `Stylesheet.inScope_inScope`, `Script.selectorsInScope_selectorsInScope`,
  `Script.callsInScope_callsInScope`, `Markup.attributesInScope_attributesInScope`: the four passes;
- `renamed_renamed`: the four passes as they run, each time with a fresh registry.
-/

namespace ClassScope

open Registry (fullName)

/-! ## Names in two scopes -/

/-- A name that is put in two scopes is in the scope that joins them. -/
theorem Registry.fullName_fullName (p q name : Text) :
    fullName (.text q) (fullName (.text p) name) = fullName (.text (q ++ p)) name :=
  (List.append_assoc q p name).symm

namespace IsIdentifier

variable {p name : Text}

/-- An identifier with identifier characters behind it is one. -/
theorem append (hp : IsIdentifier p) (hname : ∀ c ∈ name, isIdentifierChar c = true) :
    IsIdentifier (p ++ name) := by
  obtain ⟨letter, others⟩ := hp
  exact .intro letter (List.forall_mem_append.2 ⟨others, hname⟩)

/-- An identifier in the scope of an identifier is one. -/
theorem fullName (hp : IsIdentifier p) (hname : IsIdentifier name) :
    IsIdentifier (fullName (.text p) name) := hp.append hname.chars

end IsIdentifier

/-- Whether there is an identifier at the front depends on the first character only. -/
theorem readIdentifier?_eq_none_of_head? {s t : Text} (hhead : s.head? = t.head?)
    (h : readIdentifier? s = none) : readIdentifier? t = none := by
  cases s with
  | nil =>
    rw [List.head?_eq_none_iff.1 hhead.symm]
    rfl
  | cons c s =>
    cases t with
    | nil => rfl
    | cons d t =>
      rw [List.head?_cons, List.head?_cons, Option.some.injEq] at hhead
      subst hhead
      by_cases letter : Text.isAsciiLetter c = true
      · simp [readIdentifier?, letter] at h
      · rw [readIdentifier?, if_neg letter]

/-! ## Stylesheets -/

namespace Stylesheet

variable {p : Text}

/-- A stylesheet in a scope starts as it did before. -/
theorem head?_inScope (scope : Setting) (css : Text) : (inScope scope css).head? = css.head? := by
  refine Form.head?_substitute contextFree_selector ?_ css
  exact fun _ => rfl

/-- A stylesheet that is put in two scopes is in the scope that joins them. -/
theorem inScope_inScope (hp : IsIdentifier p) (q css : Text) :
    inScope (.text q) (inScope (.text p) css) = inScope (.text (q ++ p)) css := by
  refine Form.substitute_substitute contextFree_selector (fun {css name r} hread => ?_)
    (fun {c s} hread => ?_) css
  · -- The full name goes as far as the name did, for the rest starts as before.
    have hname : IsIdentifier name ∧ ∀ c ∈ r.head?, isIdentifierChar c = false := by
      obtain ⟨rfl, -⟩ := selector.sound hread
      change readIdentifier? (name ++ r) = some (name, r) at hread
      obtain ⟨hname, -, hend⟩ := readIdentifier?_eq_some_iff.1 hread
      exact ⟨hname, hend⟩
    have hfull : selector.read none ('.' :: fullName (.text p) name ++ inScope (.text p) r) =
        some (fullName (.text p) name, inScope (.text p) r) := by
      refine readIdentifier?_eq_some_iff.2 ⟨hp.fullName hname.1, rfl, ?_⟩
      rw [head?_inScope]
      exact hname.2
    refine (Form.substitute_of_read contextFree_selector hfull).trans ?_
    rw [Registry.fullName_fullName]
    rfl
  · rw [read_selector_cons] at hread ⊢
    by_cases hc : c = '.'
    · rw [if_pos hc] at hread ⊢
      exact readIdentifier?_eq_none_of_head? (head?_inScope _ s).symm hread
    · rw [if_neg hc]

end Stylesheet

namespace Script

variable {p : Text}

/-! ## Selector literals -/

/-- A script with its selector literals in a scope starts as it did before. -/
theorem head?_selectorsInScope (scope : Setting) (code : Text) :
    (selectorsInScope scope code).head? = code.head? := by
  refine Form.head?_substitute contextFree_selectorLiteral ?_ code
  exact fun _ => rfl

/-- Where no selector literal is read, none is read after the pass over what follows the first
character. -/
theorem read_cons_selectorsInScope {scope : Setting} {c : Char} {s : Text}
    (hread : selectorLiteral.read none (c :: s) = none) :
    selectorLiteral.read none (c :: selectorsInScope scope s) = none := by
  by_contra hsome
  obtain ⟨⟨l, r⟩, hl⟩ := Option.ne_none_iff_exists'.1 hsome
  obtain ⟨hs, hquote, hname⟩ := SelectorLiteral.read?_eq_some_iff.1 hl
  rw [SelectorLiteral.write_append, List.cons.injEq] at hs
  obtain ⟨rfl, hs⟩ := hs
  -- The point, the name and the quote behind it were there before.
  obtain ⟨t, rfl, ht⟩ :=
    exists_of_selectorsInScope_eq_append (unquoted_selector hname.unquoted) hs
  have hclosing : t.head? = some l.quote := by
    rw [← head?_selectorsInScope scope, ht, List.head?_cons]
  obtain ⟨t, rfl⟩ := List.head?_eq_some_iff.1 hclosing
  have hbefore : SelectorLiteral.read? (l.write ++ t) = some (l, t) :=
    SelectorLiteral.read?_eq_some_iff.2 ⟨rfl, hquote, hname⟩
  rw [SelectorLiteral.write_append] at hbefore
  cases hread.symm.trans hbefore

/-- A selector literal with its name in the scope. -/
def SelectorLiteral.inScope (scope : Setting) (l : SelectorLiteral) : SelectorLiteral :=
  ⟨l.quote, fullName scope l.name⟩

/-- A selector literal at the front is put in the scope. -/
theorem selectorsInScope_eq_write_inScope {scope : Setting} {l : SelectorLiteral} {code r : Text}
    (hread : selectorLiteral.read none code = some (l, r)) :
    selectorsInScope scope code = (l.inScope scope).write ++ selectorsInScope scope r :=
  Form.substitute_of_read contextFree_selectorLiteral hread

/-- A selector literal in a scope that is an identifier is a selector literal. -/
theorem SelectorLiteral.read_inScope (hp : IsIdentifier p) {l : SelectorLiteral} {code s : Text}
    (hread : selectorLiteral.read none code = some (l, s)) (r : Text) :
    selectorLiteral.read none ((l.inScope (.text p)).write ++ r) =
      some (l.inScope (.text p), r) := by
  obtain ⟨-, hquote, hname⟩ := SelectorLiteral.read?_eq_some_iff.1 hread
  exact (SelectorLiteral.read?_eq_some_iff (l := l.inScope (.text p))).2
    ⟨rfl, hquote, hp.fullName hname⟩

/-- A script whose selector literals are put in two scopes has them in the scope that joins them. -/
theorem selectorsInScope_selectorsInScope (hp : IsIdentifier p) (q code : Text) :
    selectorsInScope (.text q) (selectorsInScope (.text p) code) =
      selectorsInScope (.text (q ++ p)) code := by
  refine Form.substitute_substitute contextFree_selectorLiteral (fun {code l r} hread => ?_)
    read_cons_selectorsInScope code
  refine (Form.substitute_of_read contextFree_selectorLiteral
    (SelectorLiteral.read_inScope hp hread _)).trans ?_
  rw [SelectorLiteral.inScope, Registry.fullName_fullName]

/-! ## Calls -/

/-- Behind its first character a head holds no head. -/
theorem not_suffix_tail : ∀ other ∈ callHeads, ∀ head ∈ callHeads, ¬ head <:+ other.tail := by
  decide +kernel

/-- Where no call is read, none is read after the pass over what follows the first character, if the
scope is an identifier. -/
theorem read_cons_callsInScope (hp : IsIdentifier p) {c : Char} {s : Text}
    (hread : classListCall.read none (c :: s) = none) :
    classListCall.read none (c :: callsInScope (.text p) s) = none := by
  by_contra hsome
  obtain ⟨⟨call, r⟩, hcall⟩ := Option.ne_none_iff_exists'.1 hsome
  obtain ⟨head, hhead, hs, hvalid⟩ := isCall_classListCall.of_read hcall
  obtain ⟨d, t, rfl, -⟩ := (isCall_classListCall.isHead head hhead).exists_eq_cons
  rw [Argument.write_append, List.cons_append, List.cons.injEq] at hs
  obtain ⟨rfl, hs⟩ := hs
  have ht : Text.Unquoted t :=
    (List.forall_mem_cons.1 (isCall_classListCall.isHead _ hhead).unquoted).2
  -- The head was there before, with a quote behind it.
  obtain ⟨q, s, rfl, hq, -⟩ := exists_of_callsInScope_eq_append_quote ht hvalid.opening hs
  rw [callsInScope_append_quote ht (not_suffix_tail _ hhead) hq] at hs
  obtain ⟨-, -, hs⟩ := Text.append_quote_inj ht ht hq hvalid.opening hs
  -- So was the argument, for the scope does not start with a parenthesis.
  obtain ⟨q', s, rfl, hq', hrest⟩ :=
    exists_of_callsInScope_eq_append_quote hvalid.value hvalid.closing hs
  have hrest : callsInScope (.text p) s = ')' :: r := by
    refine hrest.resolve_right ?_
    rintro ⟨-, hstart⟩
    obtain ⟨letter, -⟩ := hp
    rw [Setting.asText, List.cons_prefix_cons] at hstart
    rw [hstart.1] at letter
    exact absurd letter (by decide)
  obtain ⟨s, rfl⟩ := exists_of_callsInScope_eq_cons hrest
  have hargument : Argument.Valid ⟨q, call.argument.value, q'⟩ :=
    { hvalid with opening := hq, closing := hq' }
  obtain ⟨before, hbefore, -⟩ := isCall_classListCall.exists_read s hhead hargument
  rw [Argument.write_append, List.cons_append, hread] at hbefore
  cases hbefore

/-- A class list call in a scope that is an identifier is a class list call. -/
theorem ClassListCall.read_inScope (hp : IsIdentifier p) {call : ClassListCall} {code s : Text}
    (hread : classListCall.read none code = some (call, s)) (r : Text) :
    classListCall.read none ((call.inScope (.text p)).write ++ r) =
      some (call.inScope (.text p), r) := by
  obtain ⟨-, hvalid⟩ := ClassListCall.read?_eq_some_iff.1 hread
  exact ClassListCall.read?_eq_some_iff.2 ⟨rfl, ClassListCall.valid_inScope hp.unquoted hvalid⟩

/-- A script whose class list calls are put in two scopes has them in the scope that joins them. -/
theorem callsInScope_callsInScope (hp : IsIdentifier p) (q code : Text) :
    callsInScope (.text q) (callsInScope (.text p) code) = callsInScope (.text (q ++ p)) code := by
  refine Form.substitute_substitute isCall_classListCall.contextFree (fun {code call r} hread => ?_)
    (read_cons_callsInScope hp) code
  refine (callsInScope_of_read (ClassListCall.read_inScope hp hread _)).trans ?_
  rw [ClassListCall.inScope, ClassListCall.inScope, Registry.fullName_fullName]
  rfl

/-- The calls that are found after the pass are those from before it, in the scope. -/
theorem find_callsInScope (hp : IsIdentifier p) (code : Text) :
    classListCall.find (callsInScope (.text p) code) =
      (classListCall.find code).map (ClassListCall.inScope (.text p)) :=
  Form.find_substitute isCall_classListCall.contextFree
    (fun hread => ClassListCall.read_inScope hp hread _) (read_cons_callsInScope hp) code

end Script

/-! ## Markup -/

namespace Markup

variable {p html r s t value : Text}

/-- What stands in front of the quotes of a class attribute, without its first letter. -/
def attributeTail : Text := Text.of "lass="

theorem not_mem_attributeTail : 'c' ∉ attributeTail ∧ '\x22' ∉ attributeTail := by decide +kernel

theorem writeClassAttribute_append (value r : Text) :
    writeClassAttribute value ++ r =
      'c' :: (attributeTail ++ '\x22' :: (value ++ '\x22' :: r)) := by
  simp [writeClassAttribute, attributeTail, Text.of_eq_toList]

/-- A class attribute starts with its first letter. -/
theorem read_classAttribute_eq_none {c : Char} (hc : c ≠ 'c') (s : Text) :
    classAttribute.read none (c :: s) = none := by
  by_contra hsome
  obtain ⟨⟨value, r⟩, hread⟩ := Option.ne_none_iff_exists'.1 hsome
  obtain ⟨hs, -⟩ := readClassAttribute?_eq_some_iff.1 hread
  rw [writeClassAttribute_append, List.cons.injEq] at hs
  exact hc hs.1

/-- The value of an attribute with its names in the scope. -/
def valueInScope (scope : Setting) (value : Text) : Text :=
  Text.join [' '] ((Text.words value).map (fullName scope))

variable {scope : Setting}

/-- A class attribute at the front of some markup is put in the scope. -/
theorem attributesInScope_of_read (h : classAttribute.read none html = some (value, r)) :
    attributesInScope scope html =
      writeClassAttribute (valueInScope scope value) ++ attributesInScope scope r :=
  Form.substitute_of_read contextFree_classAttribute h

/-- Where no class attribute is at the front, the first character is kept. -/
theorem attributesInScope_of_not_read {c : Char} (h : classAttribute.read none (c :: s) = none) :
    attributesInScope scope (c :: s) = c :: attributesInScope scope s :=
  Form.substitute_of_not_read contextFree_classAttribute h

/-- A stretch without the first letter of a class attribute is kept. -/
theorem attributesInScope_append (ht : 'c' ∉ t) (s : Text) :
    attributesInScope scope (t ++ s) = t ++ attributesInScope scope s := by
  have hskips : classAttribute.Skips t :=
    .of_first fun c hc r => read_classAttribute_eq_none (fun hfirst => ht (hfirst ▸ hc)) r
  exact hskips.substitute_append contextFree_classAttribute s

/-- What stands in front of a value is kept, but for the first letter. -/
theorem attributesInScope_attributeTail (s : Text) :
    attributesInScope scope (attributeTail ++ '\x22' :: s) =
      attributeTail ++ '\x22' :: attributesInScope scope s := by
  rw [attributesInScope_append not_mem_attributeTail.1]
  exact congrArg (attributeTail ++ ·) (attributesInScope_append (t := ['\x22']) (by decide) s)

/-- What stands in front of the first double quote after the pass stood there before. -/
theorem exists_of_attributesInScope_eq_append (ht : '\x22' ∉ t)
    (h : attributesInScope scope html = t ++ '\x22' :: r) : ∃ s, html = t ++ '\x22' :: s := by
  induction html using classAttribute.scan_induction generalizing t with
  | nil => simp [attributesInScope] at h
  | hit html value s hread ih =>
    -- The first double quote is that in front of the value.
    obtain ⟨rfl, -⟩ := readClassAttribute?_eq_some_iff.1 hread
    rw [attributesInScope_of_read hread, writeClassAttribute_append, ← List.cons_append] at h
    have hfront : '\x22' ∉ 'c' :: attributeTail := by
      simpa using not_mem_attributeTail.2
    obtain ⟨rfl, -⟩ := Text.append_cons_inj hfront ht h
    exact ⟨_, writeClassAttribute_append value s⟩
  | gap c s hread ih =>
    rw [attributesInScope_of_not_read hread] at h
    cases t with
    | nil =>
      rw [List.nil_append, List.cons.injEq] at h
      exact ⟨s, by rw [h.1, List.nil_append]⟩
    | cons d t =>
      rw [List.cons_append, List.cons.injEq] at h
      obtain ⟨s, rfl⟩ := ih (fun hmem => ht (List.mem_cons_of_mem d hmem)) h.2
      exact ⟨s, by rw [h.1, List.cons_append]⟩

/-- Where no class attribute is read, none is read after the pass over what follows the first
character. -/
theorem read_cons_attributesInScope {c : Char} (hread : classAttribute.read none (c :: s) = none) :
    classAttribute.read none (c :: attributesInScope scope s) = none := by
  by_contra hsome
  obtain ⟨⟨value, r⟩, hvalue⟩ := Option.ne_none_iff_exists'.1 hsome
  obtain ⟨hs, hquote, hne⟩ := readClassAttribute?_eq_some_iff.1 hvalue
  rw [writeClassAttribute_append, List.cons.injEq] at hs
  obtain ⟨rfl, hs⟩ := hs
  obtain ⟨s, rfl⟩ := exists_of_attributesInScope_eq_append not_mem_attributeTail.2 hs
  rw [attributesInScope_attributeTail, List.append_cancel_left_eq, List.cons.injEq] at hs
  obtain ⟨s, rfl⟩ := exists_of_attributesInScope_eq_append hquote hs.2
  have hbefore : readClassAttribute? (writeClassAttribute value ++ s) = some (value, s) :=
    readClassAttribute?_eq_some_iff.2 ⟨rfl, hquote, hne⟩
  rw [writeClassAttribute_append] at hbefore
  cases hread.symm.trans hbefore

/-! ### Values in two scopes -/

/-- The words of a value in a scope without blanks are the full names. -/
theorem words_valueInScope (hp : ∀ c ∈ p, Text.isBlank c = false) (value : Text) :
    Text.words (valueInScope (.text p) value) = (Text.words value).map (fullName (.text p)) := by
  refine Text.words_join fun full hfull => ?_
  obtain ⟨name, hname, rfl⟩ := List.mem_map.1 hfull
  obtain ⟨hne, hblank⟩ := Text.no_blank_of_mem_words hname
  exact ⟨List.append_ne_nil_of_right_ne_nil p hne, List.forall_mem_append.2 ⟨hp, hblank⟩⟩

/-- A scope that may stand in a value: its blanks would part a name, its double quotes end the
value. -/
structure FitsValues (p : Text) : Prop where
  /-- It has no blank. -/
  no_blank : ∀ c ∈ p, Text.isBlank c = false
  /-- It has no double quote. -/
  no_quote : '\x22' ∉ p

theorem fitsValues_of_isIdentifier (hp : IsIdentifier p) : FitsValues p where
  no_blank c hc := isBlank_of_isIdentifierChar (hp.chars c hc)
  no_quote hmem := absurd (hp.chars _ hmem) (by decide)

/-- A value that is put in two scopes is in the scope that joins them. -/
theorem valueInScope_valueInScope (hp : FitsValues p) (q value : Text) :
    valueInScope (.text q) (valueInScope (.text p) value) =
      valueInScope (.text (q ++ p)) value := by
  rw [valueInScope, words_valueInScope hp.no_blank, List.map_map, valueInScope]
  exact congrArg (Text.join [' '])
    (List.map_congr_left fun name _ => Registry.fullName_fullName p q name)

/-- A value that is left empty in a scope is left empty in every scope. -/
theorem valueInScope_eq_nil (hp : FitsValues p) (h : valueInScope (.text p) value = []) :
    valueInScope scope value = [] := by
  have hwords := words_valueInScope hp.no_blank value
  rw [h] at hwords
  rw [valueInScope, List.map_eq_nil_iff.1 hwords.symm]
  rfl

/-- The characters of a value in a scope. -/
theorem mem_valueInScope {c : Char} (h : c ∈ valueInScope (.text p) value) :
    c = ' ' ∨ c ∈ p ∨ c ∈ value := by
  by_cases hspace : c = ' '
  · exact .inl hspace
  obtain ⟨full, hfull, hmem⟩ := (Text.mem_join (by simpa using hspace)).1 h
  obtain ⟨name, hname, rfl⟩ := List.mem_map.1 hfull
  exact .inr ((List.mem_append.1 hmem).imp_right fun hmem =>
    (Text.infix_of_mem_words hname).subset hmem)

/-- A value in a scope has no double quote. -/
theorem not_mem_valueInScope (hp : FitsValues p) (hvalue : '\x22' ∉ value) :
    '\x22' ∉ valueInScope (.text p) value := by
  intro hmem
  rcases mem_valueInScope hmem with hspace | hmem | hmem
  · exact absurd hspace (by decide)
  · exact hp.no_quote hmem
  · exact hvalue hmem

/-- An attribute with an empty value is kept. -/
theorem attributesInScope_writeClassAttribute_nil (s : Text) :
    attributesInScope scope (writeClassAttribute [] ++ s) =
      writeClassAttribute [] ++ attributesInScope scope s := by
  have hnone : classAttribute.read none (writeClassAttribute [] ++ s) = none := by
    by_contra hsome
    obtain ⟨⟨value, r⟩, hread⟩ := Option.ne_none_iff_exists'.1 hsome
    obtain ⟨hs, hquote, hne⟩ := readClassAttribute?_eq_some_iff.1 hread
    -- The value would start with the closing quote.
    obtain ⟨c, value, rfl⟩ := List.exists_cons_of_ne_nil hne
    simp only [writeClassAttribute_append, List.cons.injEq, List.append_cancel_left_eq,
      List.nil_append, List.cons_append, true_and] at hs
    exact hquote (hs.1 ▸ List.mem_cons_self)
  rw [writeClassAttribute_append] at hnone ⊢
  rw [attributesInScope_of_not_read hnone, attributesInScope_attributeTail, List.nil_append,
    attributesInScope_of_not_read (read_classAttribute_eq_none (by decide) s),
    writeClassAttribute_append, List.nil_append]

/-- Markup whose attributes are put in two scopes has them in the scope that joins them, if the
first one fits into values. -/
theorem FitsValues.attributesInScope_attributesInScope (hp : FitsValues p) (q html : Text) :
    attributesInScope (.text q) (attributesInScope (.text p) html) =
      attributesInScope (.text (q ++ p)) html := by
  refine Form.substitute_substitute contextFree_classAttribute (fun {html value r} hread => ?_)
    read_cons_attributesInScope html
  obtain ⟨-, hquote, -⟩ := readClassAttribute?_eq_some_iff.1 hread
  change attributesInScope (.text q) (writeClassAttribute (valueInScope (.text p) value) ++
    attributesInScope (.text p) r) = writeClassAttribute (valueInScope (.text (q ++ p)) value) ++
      attributesInScope (.text q) (attributesInScope (.text p) r)
  by_cases hne : valueInScope (.text p) value = []
  · -- A value of blanks is left empty, and an attribute with an empty value is no instance.
    rw [hne, attributesInScope_writeClassAttribute_nil, valueInScope_eq_nil hp hne]
  · have hfull : classAttribute.read none (writeClassAttribute (valueInScope (.text p) value) ++
        attributesInScope (.text p) r) =
        some (valueInScope (.text p) value, attributesInScope (.text p) r) :=
      readClassAttribute?_eq_some_iff.2 ⟨rfl, not_mem_valueInScope hp hquote, hne⟩
    rw [attributesInScope_of_read hfull, valueInScope_valueInScope hp]

theorem attributesInScope_attributesInScope (hp : IsIdentifier p) (q html : Text) :
    attributesInScope (.text q) (attributesInScope (.text p) html) =
      attributesInScope (.text (q ++ p)) html :=
  (fitsValues_of_isIdentifier hp).attributesInScope_attributesInScope q html

end Markup

/-! ## The passes as they run -/

/-- What a pass makes of a text, with a fresh registry of a scope. -/
def renamed (pass : Text → Naming Text) (scope : Text) (s : Text) : Text :=
  (pass s (.empty (.text scope))).1

theorem Naming.LooksUp.renamed_eq {pass : Text → Naming Text} {scope s value : Text}
    {names : List Text} (h : (pass s).LooksUp (.text scope) names value) :
    renamed pass scope s = value := by
  rw [renamed, h (.empty (.text scope)) (Registry.valid_empty _) rfl]

/-- The passes over one form of class names. -/
def passes : List (Text → Naming Text) :=
  [Stylesheet.rename, Script.renameSelectors, Script.renameCalls, Markup.renameAttributes]

/-- A text that one of the passes has put in the scope `p`, an identifier, and then puts in the
scope `q`, is the text that it puts in the scope `q ++ p`. -/
theorem renamed_renamed {p : Text} (hp : IsIdentifier p) (q s : Text) :
    ∀ pass ∈ passes, renamed pass q (renamed pass p s) = renamed pass (q ++ p) s := by
  have hstyle (scope s : Text) :
      renamed Stylesheet.rename scope s = Stylesheet.inScope (.text scope) s :=
    (Stylesheet.looksUp_rename (.text scope) s).renamed_eq
  have hselectors (scope s : Text) :
      renamed Script.renameSelectors scope s = Script.selectorsInScope (.text scope) s :=
    (Script.looksUp_renameSelectors (.text scope) s).renamed_eq
  have hcalls (scope s : Text) :
      renamed Script.renameCalls scope s = Script.callsInScope (.text scope) s :=
    (Script.looksUp_renameCalls (.text scope) s).renamed_eq
  have hattributes (scope s : Text) :
      renamed Markup.renameAttributes scope s = Markup.attributesInScope (.text scope) s :=
    (Markup.looksUp_renameAttributes (.text scope) s).renamed_eq
  simp only [passes, List.forall_mem_cons, List.not_mem_nil, false_implies, implies_true, and_true,
    hstyle, hselectors, hcalls, hattributes]
  exact ⟨Stylesheet.inScope_inScope hp q s, Script.selectorsInScope_selectorsInScope hp q s,
    Script.callsInScope_callsInScope hp q s, Markup.attributesInScope_attributesInScope hp q s⟩

/-- The second scope may hold a quote, and the argument of one call may run into the next call. -/
theorem renamed_renamed_running_on :
    IsIdentifier (Text.of "p-") ∧
      (∀ pass ∈ passes,
        renamed pass (Text.of "q'")
            (renamed pass (Text.of "p-") (Text.of "classList.add('classList.add(') class=' '")) =
          renamed pass (Text.of "q'p-") (Text.of "classList.add('classList.add(') class=' '")) ∧
      renamed Script.renameCalls (Text.of "q'p-") (Text.of "classList.add('classList.add(')") =
        Text.of "classList.add('q'p-classList.add(')" := by
  have hp : IsIdentifier (Text.of "p-") := by decide +kernel
  refine ⟨hp, fun pass hpass => ?_, by decide +kernel⟩
  have h := renamed_renamed hp (Text.of "q'")
    (Text.of "classList.add('classList.add(') class=' '") pass hpass
  rwa [show Text.of "q'" ++ Text.of "p-" = Text.of "q'p-" by decide +kernel] at h

end ClassScope
