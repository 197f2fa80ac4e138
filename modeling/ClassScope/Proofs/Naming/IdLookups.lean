import ClassScope.Proofs.Naming.Cuts
import ClassScope.Proofs.Naming.Quotations

/-!
# Lookups by id

The pass over lookups by id turns those with a hyphenated id into class queries and keeps the
others. In a scope without quotes a query brings no lookup about, unless its id ends like the head
of a lookup, whose argument its closing quote then opens. So what the pass gives holds the lookups
that it has kept and no others, and a second pass does nothing. Main statements:

- `Script.find_lookupsInScope`: the lookups after the pass;
- `Script.renameLookups_cut`: what the pass does, once and twice.
-/

namespace ClassScope

open Registry (fullName)

namespace Script

open Form (hits replacePieces)

variable {p code s r : Text} {a : Argument}

theorem reads_idLookup : idLookup.Reads Argument.Valid :=
  fun _ _ _ _ => readIdLookup?_eq_some_iff

/-! ## Lookups after the pass -/

/-- What is put for a lookup by a hyphenated id, with what follows it. -/
theorem lookupInScope_append (h : '-' ∈ a.value) (r : Text) :
    lookupInScope (.text p) a ++ r =
      queryHead ++ '\x27' :: (('.' :: (p ++ a.value)) ++ '\x27' :: ')' :: r) := by
  simp [lookupInScope, h, queryHead, fullName, Setting.asText, Text.of_eq_toList]

/-- Behind its first character the head of a lookup does not end like a head. -/
theorem not_suffix_tail_lookupHead :
    ∀ head ∈ [lookupHead, queryHead], ¬ head <:+ lookupHead.tail := by
  simp only [lookupHead, queryHead, Text.of_eq_toList]
  decide

theorem lookupHead_not_suffix_queryHead : ¬ lookupHead <:+ queryHead := by
  simp only [lookupHead, queryHead, Text.of_eq_toList]
  decide

theorem hyphen_not_mem_lookupHead : '-' ∉ lookupHead := by
  simp [lookupHead, Text.of_eq_toList]

/-- Where no lookup is read, none is read after the pass over what follows the first character. -/
theorem read_cons_lookupsInScope (hp : p.Unquoted) {c : Char}
    (hread : idLookup.read none (c :: s) = none) :
    idLookup.read none (c :: lookupsInScope (.text p) s) = none := by
  have hpass := putsCalls_idLookup_of_unquoted hp
  by_contra hsome
  obtain ⟨⟨a, r⟩, ha⟩ := Option.ne_none_iff_exists'.1 hsome
  obtain ⟨hs, hvalid⟩ := readIdLookup?_eq_some_iff.1 ha
  obtain ⟨d, tail, htail, -⟩ := isHead_lookupHead.exists_eq_cons
  have hwrite (v : Text) : writeIdLookup a ++ v =
      d :: (tail ++ a.opening :: (a.value ++ a.closing :: ')' :: v)) := by
    rw [show writeIdLookup a = lookupHead ++ a.write from rfl, htail, List.append_assoc,
      Argument.write_append, List.cons_append]
  have hunquoted : Text.Unquoted tail :=
    (List.forall_mem_cons.1 (htail ▸ isHead_lookupHead.unquoted)).2
  rw [hwrite, List.cons.injEq] at hs
  obtain ⟨rfl, hs⟩ := hs
  -- The rest of the head was there before, with the argument behind it.
  obtain ⟨v, hv⟩ : ∃ v, s = tail ++ a.opening :: (a.value ++ a.closing :: ')' :: v) := by
    rcases Text.unquoted_or_cut s with hplain | ⟨t, q, s, rfl, ht, hq⟩
    · exact ⟨r, (hpass.substitute_of_unquoted hplain).symm.trans hs⟩
    rcases hpass.substitute_cut (s := s) ht hq with hkept |
      ⟨w, head, -, _, _, rfl, -, -, newHead, hnew, b, hcall, hb, -⟩
    · rw [lookupsInScope, hkept] at hs
      obtain ⟨rfl, rfl, hrest⟩ := Text.append_quote_inj ht hunquoted hq hvalid.opening hs
      have hbody : idLookup.substitute (lookupInScope (.text p)) s =
          a.value ++ a.closing :: ([')'] ++ r) := hrest
      obtain ⟨v, rfl⟩ := hpass.exists_of_substitute_eq_body hvalid.value hvalid.closing
        (by simp [isBackChar]) (List.cons_ne_nil _ _) hbody
      exact ⟨v, rfl⟩
    · -- The head that ends at the first quote is too long to stand there.
      rw [lookupsInScope, hcall, Argument.write_append] at hs
      obtain ⟨rfl, -, -⟩ := Text.append_quote_inj
        (ht.of_append_left.append (hpass.isHead newHead hnew).unquoted) hunquoted hb.opening
        hvalid.opening hs
      refine absurd ?_ (not_suffix_tail_lookupHead newHead hnew)
      rw [htail]
      exact List.suffix_append w newHead
  have hbefore : idLookup.read none (c :: s) = some (a, v) :=
    readIdLookup?_eq_some_iff.2 ⟨by rw [hwrite, hv], hvalid⟩
  rw [hread] at hbefore
  cases hbefore

/-- A hyphenated id in the scope ends like the head of a lookup only if the id does, for that head
has no hyphen. -/
theorem not_suffix_selector (hhyphen : '-' ∈ a.value) (hends : ¬ lookupHead <:+ a.value) :
    ¬ lookupHead <:+ '.' :: (p ++ a.value) := by
  intro hsuffix
  rcases List.suffix_or_suffix_of_suffix hsuffix (List.suffix_append ('.' :: p) a.value) with
    hhead | hvalue
  · exact hends hhead
  · exact absurd (hvalue.subset hhyphen) hyphen_not_mem_lookupHead

/-- The lookups that are found after the pass are those from before it whose id has no hyphen, if no
hyphenated id ends like the head of a lookup. -/
theorem find_lookupsInScope (hp : p.Unquoted)
    (hends : ∀ a ∈ idLookup.find code, '-' ∈ a.value → ¬ lookupHead <:+ a.value) :
    idLookup.find (lookupsInScope (.text p) code) =
      (idLookup.find code).filter ('-' ∉ ·.value) := by
  induction code using idLookup.scan_induction with
  | nil => simp [lookupsInScope]
  | hit s a r hread ih =>
    obtain ⟨-, hvalid⟩ := readIdLookup?_eq_some_iff.1 hread
    rw [Form.find_of_read isCall_idLookup.contextFree hread] at hends ⊢
    obtain ⟨hfirst, hends⟩ := List.forall_mem_cons.1 hends
    rw [lookupsInScope, Form.substitute_of_read isCall_idLookup.contextFree hread, ← lookupsInScope]
    by_cases hhyphen : '-' ∈ a.value
    · -- No lookup starts in the query: neither of its quotes stands behind the head of one.
      have hselector : Text.Unquoted ('.' :: (p ++ a.value)) :=
        unquoted_selector (hp.append hvalid.value)
      have hnot := not_suffix_selector (p := p) hhyphen (hfirst hhyphen)
      rw [lookupInScope_append hhyphen,
        isCall_idLookup.find_append_quote isHead_queryHead.unquoted
          (List.forall_mem_singleton.2 lookupHead_not_suffix_queryHead) (by decide),
        isCall_idLookup.find_append_quote hselector (by simpa using hnot) (by decide),
        Form.find_of_not_read isCall_idLookup.contextFree (isCall_idLookup.read_parenthesis _),
        ih hends, List.filter_cons_of_neg (by simpa using hhyphen)]
    · have hkept : idLookup.read none (lookupInScope (.text p) a ++ lookupsInScope (.text p) r) =
          some (a, lookupsInScope (.text p) r) := by
        rw [lookupInScope, if_neg hhyphen]
        exact readIdLookup?_eq_some_iff.2 ⟨rfl, hvalid⟩
      rw [Form.find_of_read isCall_idLookup.contextFree hkept, ih hends,
        List.filter_cons_of_pos (by simpa using hhyphen)]
  | gap c s hread ih =>
    rw [Form.find_of_not_read isCall_idLookup.contextFree hread] at hends ⊢
    rw [lookupsInScope, Form.substitute_of_not_read isCall_idLookup.contextFree hread,
      ← lookupsInScope, Form.find_of_not_read isCall_idLookup.contextFree
      (read_cons_lookupsInScope hp hread), ih hends]

/-- A script whose lookups are all by ids without a hyphen is kept, and nothing is looked up. -/
theorem looksUp_renameLookups_of_no_hyphen (hcode : ∀ a ∈ idLookup.find code, '-' ∉ a.value)
    (scope : Setting) : (renameLookups code).LooksUp scope [] code := by
  have hnames : lookupNames code = [] := by
    simpa [lookupNames, List.filter_eq_nil_iff] using hcode
  have htext : lookupsInScope scope code = code :=
    Form.substitute_eq_self isCall_idLookup.contextFree fun a ha => if_neg (hcode a ha)
  have hpass := looksUp_renameLookups scope code
  rwa [hnames, htext] at hpass

/-! ## The pass -/

/-- A script has one cut into lookups by id and gaps. The pass over lookups puts a class query in
the scope for each lookup of the cut whose id has a hyphen, keeps the other lookups and the gaps,
and looks the hyphenated ids up in the order of the lookups. In a scope without quotes, and where no
id holds the head of a lookup, a second pass in any scope keeps the script and looks nothing up. -/
theorem renameLookups_cut (code : Text) :
    (∃! ps, idLookup.IsCut Argument.Valid ps code) ∧
      ∀ ps, idLookup.IsCut Argument.Valid ps code →
        (∀ scope : Setting,
          (renameLookups code).LooksUp scope (((hits ps).map Argument.value).filter ('-' ∈ ·))
            (replacePieces
              (fun a =>
                if '-' ∈ a.value then
                  Text.of "querySelector('." ++ (scope.asText ++ a.value) ++ Text.of "')"
                else writeIdLookup a) ps)) ∧
        ∀ p : Text, p.Unquoted →
          (∀ a ∈ hits ps, ¬ Text.of "getElementById(" <:+: a.value) →
          ∀ scope : Setting,
            (renameLookups (renamed renameLookups p code)).LooksUp scope []
              (renamed renameLookups p code) := by
  refine ⟨reads_idLookup.existsUnique_isCut code, fun ps hcut => ⟨fun scope => ?_,
    fun p hp hholds scope => ?_⟩⟩
  · have hpass := looksUp_renameLookups scope code
    rw [lookupNames, reads_idLookup.find_eq hcut, lookupsInScope,
      reads_idLookup.substitute_eq hcut] at hpass
    exact hpass
  · rw [(looksUp_renameLookups (.text p) code).renamed_eq]
    refine looksUp_renameLookups_of_no_hyphen (fun a ha => ?_) scope
    have hends : ∀ a ∈ idLookup.find code, '-' ∈ a.value → ¬ lookupHead <:+ a.value := by
      intro a ha _ hsuffix
      rw [reads_idLookup.find_eq hcut] at ha
      exact hholds a ha hsuffix.isInfix
    rw [find_lookupsInScope hp hends] at ha
    simpa using (List.mem_filter.1 ha).2

/-- A scope that is itself the head of a lookup: in the query a name stands behind it and no quote,
so the second pass finds nothing there. -/
theorem renameLookups_cut_head_in_scope :
    let ps : List (Piece Char Argument) :=
      [.hit ⟨'\x27', Text.of "a-b", '\x22'⟩, .gap '\x27', .gap ';', .hit ⟨'\x60', ['c'], '\x60'⟩]
    let code := Text.of "getElementById('a-b\")';getElementById(`c`)"
    let output := Text.of "querySelector('.getElementById(a-b')';getElementById(`c`)"
    idLookup.IsCut Argument.Valid ps code ∧ lookupHead.Unquoted ∧
      (∀ a ∈ hits ps, ¬ Text.of "getElementById(" <:+: a.value) ∧
      (renameLookups code).LooksUp (.text lookupHead) [Text.of "a-b"] output ∧
      renamed renameLookups lookupHead code = output ∧
      (renameLookups output).LooksUp (.text (Text.of "q-")) [] output := by
  intro ps code output
  have hcut : idLookup.IsCut Argument.Valid ps code :=
    reads_idLookup.isCut_iff.2 (by decide +kernel)
  have hscope : lookupHead.Unquoted := isHead_lookupHead.unquoted
  have hholds : ∀ a ∈ hits ps, ¬ Text.of "getElementById(" <:+: a.value := by decide +kernel
  have houtput : renamed renameLookups lookupHead code = output := by decide +kernel
  obtain ⟨hpass, hagain⟩ := (renameLookups_cut code).2 ps hcut
  have hfirst := hpass (.text lookupHead)
  have hsecond := hagain lookupHead hscope hholds (.text (Text.of "q-"))
  rw [show replacePieces _ ps = output by decide +kernel,
    show ((hits ps).map Argument.value).filter ('-' ∈ ·) = [Text.of "a-b"] by decide +kernel]
    at hfirst
  rw [houtput] at hsecond
  exact ⟨hcut, hscope, hholds, hfirst, houtput, hsecond⟩

end Script

end ClassScope
