import ClassScope.Proofs.Naming.Markup
import ClassScope.Proofs.Naming.ScriptNames
import ClassScope.Proofs.Naming.Stylesheet

/-!
# One name in four places

A class name may stand in a stylesheet, in a selector literal, in a class list call and in markup.
What each pass makes of it is compared here. A pass makes a script longer by the scope for every
name it finds, so it keeps a script exactly if it finds none. Main statements:

- `Script.laterPasses_eq_self_iff`: which scripts the later passes keep;
- `Script.inScope_literal_eq_iff`, `Script.inScope_addCall_eq_iff`: what becomes of a literal and of
  a call;
- `Script.settled_literal`, `Script.lookupNames_addCall`: in a scope without quotes nothing more
  happens to them.
-/

namespace ClassScope

open Registry (fullName)

/-- A class name as stylesheets have it: letters, digits, low lines and hyphens, and no digit at the
front. -/
structure IsClassName (name : Text) : Prop where
  /-- It is not empty. -/
  ne_nil : name ≠ []
  /-- Letters, digits, low lines and hyphens. -/
  chars : ∀ c ∈ name, isIdentifierChar c = true
  /-- There is no digit at the front. -/
  first : ∀ c ∈ name.head?, Text.isAsciiDigit c = false

instance (name : Text) : Decidable (IsClassName name) :=
  decidable_of_iff (name ≠ [] ∧ name.all isIdentifierChar = true ∧
      name.head?.all (!Text.isAsciiDigit ·) = true)
    ⟨fun h => ⟨h.1, by simpa using h.2.1, fun c hc => by simpa [Option.mem_def.1 hc] using h.2.2⟩,
      fun h => ⟨h.ne_nil, by simpa using h.chars, by
        cases hfirst : name.head? with
        | none => rfl
        | some c => simpa using h.first c hfirst⟩⟩

theorem IsClassName.unquoted {name : Text} (h : IsClassName name) : name.Unquoted :=
  fun c hc => isQuote_of_isIdentifierChar (h.chars c hc)

namespace Script

variable {scope : Setting} {code name : Text} {q : Char}

/-! ## Scripts that a pass keeps -/

/-- The pass over class list calls adds the scope once for every name. -/
theorem length_callsInScope (code : Text) :
    (callsInScope scope code).length =
      code.length + (callNames code).length * scope.asText.length := by
  have hadded : ∀ call : ClassListCall, (call.inScope scope).write.length =
      call.write.length + if true then scope.asText.length else 0 := by
    intro call
    simp [ClassListCall.inScope, ClassListCall.write, Argument.write, fullName]
    omega
  have hcount : (callNames code).length = (classListCall.find code).countP fun _ => true := by
    simp [callNames]
  rw [hcount]
  exact Form.length_substitute isCall_classListCall.contextFree hadded code

/-- The pass over lookups adds the scope once for every hyphenated id. -/
theorem length_lookupsInScope (code : Text) :
    (lookupsInScope scope code).length =
      code.length + (lookupNames code).length * scope.asText.length := by
  have hadded : ∀ a : Argument, (lookupInScope scope a).length =
      (writeIdLookup a).length + if decide ('-' ∈ a.value) then scope.asText.length else 0 := by
    intro a
    simp only [lookupInScope, decide_eq_true_eq]
    split
    · -- The text around the id is as long before as after.
      simp [writeIdLookup, Argument.write, fullName, Text.of_eq_toList]
      omega
    · rfl
  rw [lookupNames, ← List.countP_eq_length_filter, List.countP_map]
  exact Form.length_substitute isCall_idLookup.contextFree hadded code

/-- Without class list calls the second pass keeps a script. -/
theorem callsInScope_eq_self (h : callNames code = []) : callsInScope scope code = code := by
  refine Form.substitute_eq_self isCall_classListCall.contextFree fun call hcall => ?_
  rw [callNames, List.map_eq_nil_iff] at h
  rw [h] at hcall
  cases hcall

/-- The third pass keeps a script exactly if it finds no hyphenated id. -/
theorem lookupsInScope_eq_self_iff (hscope : scope.asText ≠ []) :
    lookupsInScope scope code = code ↔ lookupNames code = [] := by
  have hpos := List.length_pos_iff.2 hscope
  constructor
  · intro h
    -- The script has become no longer.
    have hlength := congrArg List.length h
    rw [length_lookupsInScope, Nat.add_eq_left, Nat.mul_eq_zero] at hlength
    rcases hlength with hlookups | hzero
    · exact List.length_eq_zero_iff.1 hlookups
    · omega
  · intro h
    refine Form.substitute_eq_self isCall_idLookup.contextFree fun a ha => if_neg fun hhyphen => ?_
    have hmem : a.value ∈ lookupNames code :=
      List.mem_filter.2 ⟨List.mem_map_of_mem ha, by simpa using hhyphen⟩
    rw [h] at hmem
    cases hmem

/-- The second and the third pass find no name. -/
structure Settled (code : Text) : Prop where
  /-- There is no class list call. -/
  calls : callNames code = []
  /-- There is no lookup by a hyphenated id. -/
  lookups : lookupNames code = []

/-- The second and the third pass keep a script exactly if they find no name in it. -/
theorem laterPasses_eq_self_iff (hscope : scope.asText ≠ []) :
    lookupsInScope scope (callsInScope scope code) = code ↔ Settled code := by
  have hpos := List.length_pos_iff.2 hscope
  constructor
  · intro h
    -- The script has become no longer, so the second pass has found nothing to begin with.
    have hlength := congrArg List.length h
    rw [length_lookupsInScope, length_callsInScope, Nat.add_assoc, ← Nat.add_mul,
      Nat.add_eq_left, Nat.mul_eq_zero] at hlength
    have hcalls : callNames code = [] := List.length_eq_zero_iff.1 (by omega)
    rw [callsInScope_eq_self hcalls] at h
    exact ⟨hcalls, (lookupsInScope_eq_self_iff hscope).1 h⟩
  · intro h
    rw [callsInScope_eq_self h.calls]
    exact (lookupsInScope_eq_self_iff hscope).2 h.lookups

/-! ## A literal and a call -/

/-- A script that is the selector of a class, in quotes. -/
def literal (q : Char) (name : Text) : Text := SelectorLiteral.write ⟨q, name⟩

/-- A script that adds a class. -/
def addCall (name : Text) : Text := ClassListCall.write ⟨.add, '\x27', name, '\x27'⟩

/-- A literal of an identifier gets its name in the scope, exactly if the later passes find no name
in what the first one leaves. -/
theorem inScope_literal_eq_iff (hscope : scope.asText ≠ []) (hq : Text.isQuote q = true)
    (hname : IsIdentifier name) :
    inScope scope (literal q name) = literal q (fullName scope name) ↔
      Settled (literal q (fullName scope name)) := by
  have hread : selectorLiteral.read none (literal q name) = some (⟨q, name⟩, []) :=
    SelectorLiteral.read?_eq_some_iff.2 ⟨(List.append_nil _).symm, hq, hname⟩
  have hfirst : selectorsInScope scope (literal q name) = literal q (fullName scope name) := by
    rw [selectorsInScope_of_read hread, literal, SelectorLiteral.write]
    simp [selectorInScope]
  rw [inScope, hfirst]
  exact laterPasses_eq_self_iff hscope

/-- The argument of the call that adds a class. -/
theorem valid_addCall (hname : IsClassName name) :
    (⟨'\x27', name, '\x27'⟩ : Argument).Valid :=
  ⟨rfl, hname.unquoted, hname.ne_nil, rfl⟩

/-- A call that adds a class gets the name in the scope, exactly if the last pass finds no name in
what the second one leaves. -/
theorem inScope_addCall_eq_iff (hscope : scope.asText ≠ []) (hname : IsClassName name) :
    inScope scope (addCall name) = addCall (fullName scope name) ↔
      lookupNames (addCall (fullName scope name)) = [] := by
  have hvalid := valid_addCall hname
  let call : ClassListCall := ⟨.add, '\x27', name, '\x27'⟩
  have hcall : addCall name = call.head ++ (call.argument.write ++ []) :=
    (List.append_nil _).symm.trans (ClassListCall.write_append call [])
  -- The argument is no selector literal, for it has no point.
  have hpoint : name.head? ≠ some '.' := fun hhead =>
    absurd (hname.chars '.' (List.mem_of_mem_head? hhead)) (by decide)
  have hselected : call.argument.selected? = none := Argument.selected?_eq_none hvalid hpoint
  have hfirst : selectorsInScope scope (addCall name) = addCall name := by
    rw [hcall, selectorsInScope_append call.isHead_head.unquoted,
      selectorsInScope_write hvalid, Argument.inScope_of_not_selected hselected,
      selectorsInScope_nil]
  have hread : classListCall.read none (addCall name) = some (call, []) :=
    ClassListCall.read?_eq_some_iff.2 ⟨(List.append_nil _).symm, hvalid⟩
  have hsecond : callsInScope scope (addCall name) = addCall (fullName scope name) := by
    rw [callsInScope_of_read hread, callsInScope, Form.substitute_nil, List.append_nil]
    rfl
  rw [inScope, hfirst, hsecond]
  exact lookupsInScope_eq_self_iff hscope

/-- In a scope without quotes the later passes find no name in a literal. -/
theorem settled_literal (hscope : scope.asText.Unquoted) (hq : Text.isQuote q = true)
    (hname : IsClassName name) : Settled (literal q (fullName scope name)) := by
  have hfind : ∀ {α : Type} {form : Form Char α} {argument : α → Argument} {heads : List Text},
      form.IsCall argument heads → form.find (literal q (fullName scope name)) = [] := by
    intro α form argument heads h
    have hskips : form.Skips (literal q (fullName scope name)) :=
      h.skips_literal hq hscope hname.ne_nil hname.chars
    rw [← List.append_nil (literal _ _), hskips.find_append h.contextFree, Form.find_nil]
  exact ⟨by rw [callNames, hfind isCall_classListCall, List.map_nil],
    by rw [lookupNames, hfind isCall_idLookup, List.map_nil, List.filter_nil]⟩

/-- In a scope without quotes the last pass finds no name in a call. -/
theorem lookupNames_addCall (hscope : scope.asText.Unquoted) (hname : IsClassName name) :
    lookupNames (addCall (fullName scope name)) = [] := by
  let call : ClassListCall := ⟨.add, '\x27', fullName scope name, '\x27'⟩
  have hcall : addCall (fullName scope name) =
      call.head ++ '\x27' :: (fullName scope name ++ '\x27' :: ')' :: []) := by
    rw [addCall, ← List.append_nil (ClassListCall.write _), ClassListCall.write_append,
      Argument.write_append]
  have hends : ∀ head ∈ [lookupHead], ¬ head <:+ call.head := by
    intro head hmem
    rw [List.mem_singleton.1 hmem]
    exact lookupHead_not_suffix call.head call.head_mem
  have hfull : (fullName scope name).Unquoted := hscope.append hname.unquoted
  have hlast : (fullName scope name).getLast? ≠ some '(' :=
    getLast?_append_name hname.ne_nil hname.chars scope.asText
  have hfind : idLookup.find (addCall (fullName scope name)) = [] := by
    -- Neither of the two stretches in front of a quote ends with the head of a lookup.
    rw [hcall, isCall_idLookup.find_append_quote call.isHead_head.unquoted hends rfl,
      isCall_idLookup.find_append_quote hfull
        (isCall_idLookup.not_suffix_of_getLast? hlast) rfl,
      Form.find_of_not_read isCall_idLookup.contextFree (isCall_idLookup.read_parenthesis []),
      Form.find_nil]
  rw [lookupNames, hfind, List.map_nil, List.filter_nil]

end Script

end ClassScope
