import ClassScope.Proofs.Naming.Agreement
import ClassScope.Proofs.Naming.Cuts

/-!
# Independent passes

Two passes may change places in a text if neither form finds anything in the instances of the other
one (`Form.Apart`) and what either pass puts leaves the instances of the other form alone
(`Form.Spares`). The pass over selector literals and the pass over class list calls always do the
latter, and the former as well unless a selector literal is the argument of a call, where the two
share their quotes. Main statements:

- `Form.Apart.find_substitute`, `Form.Apart.substitute_comm`: what such passes find, and what they
  give, does not depend on their order;
- `Script.callsInScope_selectorsInScope_iff`: the first two passes over a script give the same text
  in either order exactly if no call has a selector literal for its argument;
- `Script.renameSelectors_renameCalls_either_order`: the two passes as they run.
-/

namespace ClassScope

open Registry (fullName)

/-! ## Two forms in one text -/

namespace Form

variable {σ α β : Type} {form : Form σ α} {other : Form σ β} {Valid : α → Prop}
  {OtherValid : β → Prop} {replace : α → List σ} {put : β → List σ} {s : List σ}

/-- A text of instances of two forms and gaps, where no instance of one form starts in an instance
of the other one. -/
inductive Apart (form : Form σ α) (Valid : α → Prop) (other : Form σ β) (OtherValid : β → Prop) :
    List σ → Prop
  /-- The empty text. -/
  | nil : Apart form Valid other OtherValid []
  /-- An instance of the first form. -/
  | hit {a : α} {r : List σ} (valid : Valid a) (skips : other.Skips (form.write a))
      (rest : Apart form Valid other OtherValid r) :
      Apart form Valid other OtherValid (form.write a ++ r)
  /-- An instance of the second form. -/
  | otherHit {b : β} {r : List σ} (valid : OtherValid b) (skips : form.Skips (other.write b))
      (rest : Apart form Valid other OtherValid r) :
      Apart form Valid other OtherValid (other.write b ++ r)
  /-- A gap, where no instance of either form starts. -/
  | gap {c : σ} {r : List σ} (unread : form.read none (c :: r) = none)
      (otherUnread : other.read none (c :: r) = none)
      (rest : Apart form Valid other OtherValid r) : Apart form Valid other OtherValid (c :: r)

/-- What a pass puts for the instances of a form leaves the instances of another form alone. -/
structure Spares (form : Form σ α) (Valid : α → Prop) (replace : α → List σ) (other : Form σ β) :
    Prop where
  /-- No instance of the other form starts in what is put for an instance. -/
  replaced : ∀ a, Valid a → other.Skips (replace a)
  /-- None comes about at a character that is kept. -/
  kept : ∀ {c s}, form.read none (c :: s) = none → other.read none (c :: s) = none →
    other.read none (c :: form.substitute replace s) = none

/-- Two forms are apart in a text if neither of them finds anything in what the other one finds. -/
theorem apart_of_skips (hform : form.Reads Valid) (hother : other.Reads OtherValid)
    (hskips : ∀ a ∈ form.find s, other.Skips (form.write a))
    (hskips' : ∀ b ∈ other.find s, form.Skips (other.write b)) :
    Apart form Valid other OtherValid s := by
  have hfree := hform.contextFree
  have hfree' := hother.contextFree
  induction s using form.scan_induction_two other with
  | nil => exact .nil
  | hit s a r hread ih =>
    obtain ⟨rfl, ha⟩ := (hform none s a r).1 hread
    rw [find_of_read hfree hread] at hskips
    obtain ⟨hfirst, hskips⟩ := List.forall_mem_cons.1 hskips
    rw [hfirst.find_append hfree'] at hskips'
    exact .hit ha hfirst (ih hskips hskips')
  | otherHit s b r hnone hread ih =>
    obtain ⟨rfl, hb⟩ := (hother none s b r).1 hread
    rw [find_of_read hfree' hread] at hskips'
    obtain ⟨hfirst, hskips'⟩ := List.forall_mem_cons.1 hskips'
    rw [hfirst.find_append hfree] at hskips
    exact .otherHit hb hfirst (ih hskips hskips')
  | gap c s hnone hnone' ih =>
    rw [find_of_not_read hfree hnone] at hskips
    rw [find_of_not_read hfree' hnone'] at hskips'
    exact .gap hnone hnone' (ih hskips hskips')

namespace Apart

theorem symm (h : Apart form Valid other OtherValid s) : Apart other OtherValid form Valid s := by
  induction h with
  | nil => exact .nil
  | hit valid skips _ ih => exact .otherHit valid skips ih
  | otherHit valid skips _ ih => exact .hit valid skips ih
  | gap unread otherUnread _ ih => exact .gap otherUnread unread ih

/-- The instances of a form are the same before and after a pass that spares them. -/
theorem find_substitute (h : Apart form Valid other OtherValid s) (hform : form.Reads Valid)
    (hother : other.Reads OtherValid) (hspares : form.Spares Valid replace other) :
    other.find (form.substitute replace s) = other.find s := by
  have hfree := hform.contextFree
  have hfree' := hother.contextFree
  induction h with
  | nil => rw [substitute_nil]
  | @hit a r ha skips _ ih =>
    -- Neither the instance nor what is put for it holds one of the other form.
    rw [substitute_of_read hfree (hform.read_valid ha r),
      (hspares.replaced a ha).find_append hfree', ih, skips.find_append hfree']
  | @otherHit b r hb skips _ ih =>
    -- The pass keeps the instance of the other form, so it is read there again.
    rw [skips.substitute_append hfree, find_of_read hfree' (hother.read_valid hb _), ih,
      find_of_read hfree' (hother.read_valid hb r)]
  | gap unread otherUnread _ ih =>
    rw [substitute_of_not_read hfree unread,
      find_of_not_read hfree' (hspares.kept unread otherUnread), ih,
      find_of_not_read hfree' otherUnread]

/-- Two passes that spare one another give the same text in either order. -/
theorem substitute_comm (h : Apart form Valid other OtherValid s) (hform : form.Reads Valid)
    (hother : other.Reads OtherValid) (hspares : form.Spares Valid replace other)
    (hspares' : other.Spares OtherValid put form) :
    other.substitute put (form.substitute replace s) =
      form.substitute replace (other.substitute put s) := by
  have hfree := hform.contextFree
  have hfree' := hother.contextFree
  induction h with
  | nil => simp only [substitute_nil]
  | @hit a r ha skips _ ih =>
    rw [substitute_of_read hfree (hform.read_valid ha r),
      (hspares.replaced a ha).substitute_append hfree', ih, skips.substitute_append hfree',
      substitute_of_read hfree (hform.read_valid ha _)]
  | @otherHit b r hb skips _ ih =>
    rw [skips.substitute_append hfree, substitute_of_read hfree' (hother.read_valid hb _), ih,
      substitute_of_read hfree' (hother.read_valid hb r),
      (hspares'.replaced b hb).substitute_append hfree]
  | gap unread otherUnread _ ih =>
    rw [substitute_of_not_read hfree unread,
      substitute_of_not_read hfree' (hspares.kept unread otherUnread), ih,
      substitute_of_not_read hfree' otherUnread,
      substitute_of_not_read hfree (hspares'.kept otherUnread unread)]

end Apart

end Form

/-! ## Selector literals and class list calls -/

namespace Script

variable {scope : Setting} {p code s : Text} {call : ClassListCall} {c : Char}

/-- The pass over selector literals spares calls, in a scope without quotes. -/
theorem spares_selectorLiteral {α : Type} {form : Form Char α} {argument : α → Argument}
    {heads : List Text} (h : form.IsCall argument heads) (hscope : scope.asText.Unquoted) :
    selectorLiteral.Spares SelectorLiteral.Valid
      (fun l => SelectorLiteral.write { l with name := fullName scope l.name }) form where
  replaced _ hl := h.skips_literal hl.quote hscope hl.name.ne_nil hl.name.chars
  kept hliteral hread := h.read_cons_selectorsInScope hscope hread hliteral

/-- No selector literal starts in a call whose argument is none. -/
theorem ClassListCall.Valid.skips_write (hcall : call.Valid)
    (hselected : call.argument.selected? = none) : selectorLiteral.Skips call.write := by
  rw [← List.append_nil call.write, ClassListCall.write_append, List.append_nil]
  exact .append_left
    (fun c hc _ => read_selectorLiteral_eq_none (.inl (call.isHead_head.unquoted c hc)))
    (Argument.skips_write hcall hselected)

/-- In a scope that is an identifier the argument of a call is no selector literal, for it starts
with a letter. -/
theorem ClassListCall.selected?_inScope (hp : IsIdentifier p) (hcall : call.Valid) :
    (call.inScope (.text p)).argument.selected? = none := by
  refine Argument.selected?_eq_none (valid_inScope hp.unquoted hcall) ?_
  obtain ⟨letter, -⟩ := hp
  intro hpoint
  rw [Option.some.inj hpoint] at letter
  exact absurd letter (by decide)

/-- Where no selector literal is read, none is read after the pass over the class list calls behind
the first character. -/
theorem read_literal_cons_callsInScope (hread : selectorLiteral.read none (c :: s) = none) :
    selectorLiteral.read none (c :: callsInScope scope s) = none := by
  by_contra hsome
  obtain ⟨⟨l, r⟩, hl⟩ := Option.ne_none_iff_exists'.1 hsome
  obtain ⟨hs, hquote, hname⟩ := SelectorLiteral.read?_eq_some_iff.1 hl
  rw [SelectorLiteral.write_append, List.cons.injEq] at hs
  obtain ⟨rfl, hs⟩ := hs
  have hselector := unquoted_selector hname.unquoted
  -- The closing quote opens no argument, for a name stands in front of it.
  have hends := isCall_classListCall.not_suffix_of_getLast?
    (getLast?_append_name hname.ne_nil hname.chars ['.'])
  obtain ⟨q, t, rfl, hq, -⟩ := exists_of_callsInScope_eq_append_quote hselector hquote hs
  rw [callsInScope_append_quote hselector hends hq] at hs
  obtain ⟨-, rfl, -⟩ := Text.append_quote_inj hselector hselector hq hquote hs
  have hbefore : selectorLiteral.read none (l.write ++ t) = some (l, t) :=
    reads_selectorLiteral.read_valid ⟨hquote, hname⟩ t
  rw [SelectorLiteral.write_append, hread] at hbefore
  cases hbefore

/-- The pass over class list calls spares selector literals, in a scope that is an identifier. -/
theorem spares_classListCall (hp : IsIdentifier p) :
    classListCall.Spares ClassListCall.Valid (fun call => (call.inScope (.text p)).write)
      selectorLiteral where
  replaced call hcall := by
    have hvalid : (call.inScope (.text p)).Valid := ClassListCall.valid_inScope hp.unquoted hcall
    exact hvalid.skips_write (ClassListCall.selected?_inScope hp hcall)
  kept _ hliteral := read_literal_cons_callsInScope hliteral

/-- No call of the script has a selector literal for its argument. -/
def CallsNoSelector (code : Text) : Prop :=
  ∀ call ∈ classListCall.find code, call.argument.selected? = none

instance (code : Text) : Decidable (CallsNoSelector code) :=
  decidable_of_iff ((classListCall.find code).all (·.argument.selected?.isNone) = true)
    (by simp [CallsNoSelector])

/-- Where no call has a selector literal for its argument, literals and calls are apart. -/
theorem CallsNoSelector.apart (h : CallsNoSelector code) :
    Form.Apart selectorLiteral SelectorLiteral.Valid classListCall ClassListCall.Valid code := by
  refine Form.apart_of_skips reads_selectorLiteral reads_classListCall (fun l hl => ?_)
    fun call hcall => ?_
  · have hvalid := reads_selectorLiteral.valid_of_mem_find hl
    exact isCall_classListCall.skips_write hvalid.quote hvalid.name
  · exact (reads_classListCall.valid_of_mem_find hcall).skips_write (h call hcall)

/-! ## The first two passes in either order -/

/-- The pass over selector literals keeps the names in calls. -/
theorem CallsNoSelector.callNames_selectorsInScope (h : CallsNoSelector code)
    (hscope : scope.asText.Unquoted) : callNames (selectorsInScope scope code) = callNames code :=
  congrArg (List.map _) (h.apart.find_substitute reads_selectorLiteral reads_classListCall
    (spares_selectorLiteral isCall_classListCall hscope))

/-- The pass over class list calls keeps the names in selector literals. -/
theorem CallsNoSelector.selectorNames_callsInScope (h : CallsNoSelector code)
    (hp : IsIdentifier p) : selectorNames (callsInScope (.text p) code) = selectorNames code :=
  congrArg (List.map _) (h.apart.symm.find_substitute reads_classListCall reads_selectorLiteral
    (spares_classListCall hp))

/-- The two passes give the same text in either order. -/
theorem CallsNoSelector.callsInScope_selectorsInScope (h : CallsNoSelector code)
    (hp : IsIdentifier p) :
    callsInScope (.text p) (selectorsInScope (.text p) code) =
      selectorsInScope (.text p) (callsInScope (.text p) code) :=
  h.apart.substitute_comm reads_selectorLiteral reads_classListCall
    (spares_selectorLiteral isCall_classListCall hp.unquoted) (spares_classListCall hp)

/-- The pass over selector literals adds the scope once for every name. -/
theorem length_selectorsInScope (code : Text) :
    (selectorsInScope scope code).length =
      code.length + (selectorNames code).length * scope.asText.length := by
  have hadded : ∀ l : SelectorLiteral,
      (SelectorLiteral.write { l with name := fullName scope l.name }).length =
        l.write.length + if true then scope.asText.length else 0 := by
    intro l
    simp [SelectorLiteral.write, fullName]
    omega
  have hcount : (selectorNames code).length = (selectorLiteral.find code).countP fun _ => true := by
    simp [selectorNames]
  rw [hcount]
  exact Form.length_substitute contextFree_selectorLiteral hadded code

/-- The literals that start in a call: its argument, if that is one. -/
theorem ClassListCall.length_find_write (hcall : call.Valid) (r : Text) :
    (selectorLiteral.find (call.write ++ r)).length =
      (selectorLiteral.find r).length + if call.argument.selected?.isSome then 1 else 0 := by
  have hhead := (skips_of_unquoted call.isHead_head.unquoted).find_append
    contextFree_selectorLiteral (call.argument.write ++ r)
  rw [write_append, hhead]
  cases hselected : call.argument.selected? with
  | none => simp [(Argument.skips_write hcall hselected).find_append contextFree_selectorLiteral]
  | some name =>
    have hparenthesis : selectorLiteral.find (')' :: r) = selectorLiteral.find r :=
      Form.find_of_not_read contextFree_selectorLiteral
        (read_selectorLiteral_eq_none (.inl (by decide)))
    rw [Form.find_of_read contextFree_selectorLiteral
      (Argument.read_of_selected hcall hselected), hparenthesis]
    simp

/-- The pass over class list calls takes the selector literals apart that are the argument of a
call, and no others. -/
theorem length_find_callsInScope (hp : IsIdentifier p) (code : Text) :
    (selectorLiteral.find code).length =
      (selectorLiteral.find (callsInScope (.text p) code)).length +
        (classListCall.find code).countP (·.argument.selected?.isSome) := by
  induction code using classListCall.scan_induction_two selectorLiteral with
  | nil => simp [callsInScope]
  | hit s call r hread ih =>
    obtain ⟨rfl, hcall⟩ := ClassListCall.read?_eq_some_iff.1 hread
    have hafter := (spares_classListCall hp).replaced call hcall
    -- No literal starts in the call any more.
    rw [callsInScope_of_read hread, hafter.find_append contextFree_selectorLiteral,
      ClassListCall.length_find_write hcall, ih,
      Form.find_of_read isCall_classListCall.contextFree hread, List.countP_cons]
    omega
  | otherHit s l r hread hliteral ih =>
    obtain ⟨rfl, hquote, hname⟩ := SelectorLiteral.read?_eq_some_iff.1 hliteral
    have hskips := isCall_classListCall.skips_write hquote hname
    -- The literal is kept, and read after the pass as it was before.
    have hafter : selectorLiteral.read none (l.write ++ callsInScope (.text p) r) =
        some (l, callsInScope (.text p) r) := reads_selectorLiteral.read_valid ⟨hquote, hname⟩ _
    rw [callsInScope, hskips.substitute_append isCall_classListCall.contextFree,
      hskips.find_append isCall_classListCall.contextFree,
      Form.find_of_read contextFree_selectorLiteral hliteral, ← callsInScope,
      Form.find_of_read contextFree_selectorLiteral hafter, List.length_cons, List.length_cons, ih]
    omega
  | gap c s hread hliteral ih =>
    rw [callsInScope_of_not_read hread,
      Form.find_of_not_read contextFree_selectorLiteral (read_literal_cons_callsInScope hliteral),
      Form.find_of_not_read contextFree_selectorLiteral hliteral,
      Form.find_of_not_read isCall_classListCall.contextFree hread, ih]

/-- The two passes give the same text in either order exactly if no call has a selector literal for
its argument. Where the literal is put in the scope first, the call puts it there again; where the
call is first, the literal has no point at its front any more. -/
theorem callsInScope_selectorsInScope_iff (hp : IsIdentifier p) :
    callsInScope (.text p) (selectorsInScope (.text p) code) =
        selectorsInScope (.text p) (callsInScope (.text p) code) ↔ CallsNoSelector code := by
  refine ⟨fun h => ?_, fun h => h.callsInScope_selectorsInScope hp⟩
  -- The pass over literals makes no calls and takes none away, so the first order adds the scope
  -- for every literal and every call. The other one does not for the literals that the calls take
  -- apart.
  have hscope : (Setting.text p).asText.Unquoted := hp.unquoted
  have hcalls := congrArg List.length
    (isCall_classListCall.map_find_selectorsInScope hscope code)
  have hliterals := length_find_callsInScope hp code
  have hlength := congrArg List.length h
  simp only [length_callsInScope, length_selectorsInScope, callNames, selectorNames,
    List.length_map] at hlength hcalls
  rw [hcalls, hliterals, Nat.add_mul] at hlength
  have hproduct : (classListCall.find code).countP (·.argument.selected?.isSome) *
      (Setting.text p).asText.length = 0 := by omega
  have hcount := (Nat.mul_eq_zero.1 hproduct).resolve_right fun hnil =>
    hp.ne_nil (List.length_eq_zero_iff.1 hnil)
  intro call hcall
  simpa using List.countP_eq_zero.1 hcount call hcall

example : ¬ CallsNoSelector (Text.of "classList.add('.x')") := by decide +kernel

/-- The pass over selector literals, then the one over calls: the names that each of them looks up
are those of the script itself. -/
theorem CallsNoSelector.looksUp_selectors_calls (h : CallsNoSelector code) (hp : IsIdentifier p) :
    (renameSelectors code >>= renameCalls).LooksUp (.text p)
      (selectorNames code ++ callNames code)
      (callsInScope (.text p) (selectorsInScope (.text p) code)) := by
  have hnames : callNames (selectorsInScope (.text p) code) = callNames code :=
    h.callNames_selectorsInScope hp.unquoted
  rw [← hnames]
  exact (looksUp_renameSelectors (.text p) code).bind (looksUp_renameCalls (.text p) _)

/-- The other order looks the same names up and gives the same text. -/
theorem CallsNoSelector.looksUp_calls_selectors (h : CallsNoSelector code) (hp : IsIdentifier p) :
    (renameCalls code >>= renameSelectors).LooksUp (.text p)
      (callNames code ++ selectorNames code)
      (callsInScope (.text p) (selectorsInScope (.text p) code)) := by
  rw [← h.selectorNames_callsInScope hp, h.callsInScope_selectorsInScope hp]
  exact (looksUp_renameCalls (.text p) code).bind (looksUp_renameSelectors (.text p) _)

/-- Where no head of a call has a quote and a point behind it, no call has a selector literal for
its argument. -/
theorem callsNoSelector_of_no_point
    (hcode : ∀ head ∈ callHeads, ∀ q, Text.isQuote q = true → ¬ head ++ [q, '.'] <:+: code) :
    CallsNoSelector code := by
  intro call hcall
  obtain ⟨hvalid, head, hhead, u, v, rfl⟩ := isCall_classListCall.exists_of_mem_find hcall
  refine Argument.selected?_eq_none hvalid fun hpoint => ?_
  obtain ⟨value, hvalue⟩ := List.head?_eq_some_iff.1 hpoint
  refine hcode head hhead call.argument.opening hvalid.opening
    ⟨u, value ++ call.argument.closing :: ')' :: v, ?_⟩
  rw [Argument.write_append, hvalue]
  simp

/-- The first two passes over a script may change places if no head of a class list call has a quote
and a point behind it. In either order they give the same text and enter the same names with the
same full names, whatever was looked up before. These are the names in the selector literals and in
the class list calls of the script itself: neither pass makes, takes or changes a name for the
other one. -/
theorem renameSelectors_renameCalls_either_order (hp : IsIdentifier p)
    (hcode : ∀ method : Method, ∀ q, Text.isQuote q = true →
      ¬ Text.of "classList." ++ (method.word ++ ['(', q, '.']) <:+: code) (before : List Text) :
    let registry := (Registry.empty (.text p)).enter before
    let first := (renameSelectors code >>= renameCalls) registry
    let second := (renameCalls code >>= renameSelectors) registry
    first.1 = second.1 ∧ first.2.entries.Perm second.2.entries ∧
      ∀ name, name ∈ first.2.names ↔
        name ∈ before ∨ name ∈ selectorNames code ∨ name ∈ callNames code := by
  intro registry first second
  have hcalls : CallsNoSelector code := by
    refine callsNoSelector_of_no_point fun head hhead q hq => ?_
    obtain ⟨method, -, rfl⟩ := List.mem_map.1 hhead
    simpa using hcode method q hq
  have hvalid : registry.Valid := Registry.valid_enter (Registry.valid_empty _) before
  have hscope : registry.scope = .text p := Registry.scope_enter _ before
  have hfirst := hcalls.looksUp_selectors_calls hp registry hvalid hscope
  have hsecond := hcalls.looksUp_calls_selectors hp registry hvalid hscope
  refine ⟨(congrArg Prod.fst hfirst).trans (congrArg Prod.fst hsecond).symm, ?_, fun name => ?_⟩
  · rw [show first = _ from hfirst, show second = _ from hsecond]
    exact Registry.entries_enter_perm hvalid fun name => by simp [or_comm]
  · rw [show first = _ from hfirst, Registry.mem_names_enter, Registry.mem_names_enter,
      List.mem_append]
    simp [Registry.names, Registry.empty]

/-- A call whose quotes differ stands between two literals, and the passes meet the names in another
order; what was looked up before is entered once. -/
theorem renameSelectors_renameCalls_either_order_mixed_quotes :
    let code := Text.of "'.a'.b';e.classList.add(\"x')'.c'"
    let registry := (Registry.empty (.text (Text.of "p-"))).enter [['c']]
    let first := (renameSelectors code >>= renameCalls) registry
    let second := (renameCalls code >>= renameSelectors) registry
    IsIdentifier (Text.of "p-") ∧
      (∀ method : Method, ∀ q, Text.isQuote q = true →
        ¬ Text.of "classList." ++ (method.word ++ ['(', q, '.']) <:+: code) ∧
      (first.1 = second.1 ∧ first.2.entries.Perm second.2.entries ∧
        ∀ name, name ∈ first.2.names ↔
          name ∈ [['c']] ∨ name ∈ selectorNames code ∨ name ∈ callNames code) ∧
      first.1 = Text.of "'.p-a'.b';e.classList.add('p-x')'.p-c'" ∧
      first.2.names = [['c'], ['a'], ['x']] ∧ second.2.names = [['c'], ['x'], ['a']] := by
  intro code registry first second
  have hp : IsIdentifier (Text.of "p-") := by decide +kernel
  have hcode : ∀ method : Method, ∀ q, Text.isQuote q = true →
      ¬ Text.of "classList." ++ (method.word ++ ['(', q, '.']) <:+: code := by
    intro method q hq
    simp only [Text.isQuote, Bool.or_eq_true, beq_iff_eq] at hq
    rcases hq with (rfl | rfl) | rfl <;> cases method <;> decide +kernel
  exact ⟨hp, hcode, renameSelectors_renameCalls_either_order hp hcode [['c']], by decide +kernel,
    by decide +kernel, by decide +kernel⟩

end Script

end ClassScope
