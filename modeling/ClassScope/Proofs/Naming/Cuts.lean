import ClassScope.Proofs.Naming.Composition

/-!
# The cut of a text

A form cuts a text into its instances and the gaps between them. The cut can be said without the
scan that finds it: the pieces make up the text, every instance is valid, and no valid instance
starts in a gap, wherever it would end. A text has exactly one cut, and what a pass gives and
looks up is read off its pieces. Main statements:

- `Form.ReadsAfter.isCutAfter_iff`: the pieces that a scan gives are a cut, and the only one, where
  an instance may depend on the character in front of it;
- `Form.Reads.isCut_iff`: the same where it does not;
- `Script.renameSelectors_cut`, `Script.renameCalls_cut`: the passes over selector literals and over
  class list calls.
-/

namespace ClassScope

namespace Form

variable {σ α : Type} {form : Form σ α} {Valid : α → Prop} {s : List σ} {ps : List (Piece σ α)}

/-- The form reads the valid instances and no others, whatever stands in front of them. -/
def Reads (form : Form σ α) (Valid : α → Prop) : Prop :=
  ∀ before s a r, form.read before s = some (a, r) ↔ s = form.write a ++ r ∧ Valid a

/-- The text that some pieces make up with a text for each instance. -/
def replacePieces (replace : α → List σ) (ps : List (Piece σ α)) : List σ :=
  ps.flatMap fun
    | .gap c => [c]
    | .hit a => replace a

/-- The pieces are a cut of the text into valid instances and gaps. A gap of several characters is
as many pieces, and an empty one none. -/
structure IsCut (form : Form σ α) (Valid : α → Prop) (ps : List (Piece σ α)) (s : List σ) :
    Prop where
  /-- The pieces make up the text. -/
  text : replacePieces form.write ps = s
  /-- The instances are valid. -/
  hits : ∀ a ∈ hits ps, Valid a
  /-- No valid instance starts in a gap. -/
  gaps : ∀ front c back, ps = front ++ .gap c :: back →
    ∀ a, Valid a → ¬ form.write a <+: c :: replacePieces form.write back

/-! ## Piece after piece -/

/-- The empty text is cut into nothing. -/
theorem isCut_nil : form.IsCut Valid [] s ↔ s = [] := by
  constructor
  · rintro ⟨rfl, -, -⟩
    rfl
  · rintro rfl
    exact ⟨rfl, by simp [Form.hits], by simp⟩

/-- A cut that starts with a gap: no valid instance is at the front of the text. -/
theorem isCut_gap_cons {c : σ} :
    form.IsCut Valid (.gap c :: ps) s ↔
      ∃ r, s = c :: r ∧ (∀ a, Valid a → ¬ form.write a <+: s) ∧ form.IsCut Valid ps r := by
  constructor
  · rintro ⟨rfl, hhits, hgaps⟩
    refine ⟨_, rfl, hgaps [] c ps rfl, rfl, hhits, fun front d back hps => ?_⟩
    exact hgaps (.gap c :: front) d back (by rw [hps, List.cons_append])
  · rintro ⟨r, rfl, hfirst, rfl, hhits, hgaps⟩
    refine ⟨rfl, hhits, fun front d back hps => ?_⟩
    cases front with
    | nil =>
      obtain ⟨hgap, rfl⟩ := List.cons.inj hps
      cases hgap
      exact hfirst
    | cons p front => exact hgaps front d back (List.cons.inj hps).2

/-- A cut that starts with an instance: the instance is at the front of the text. -/
theorem isCut_hit_cons {a : α} :
    form.IsCut Valid (.hit a :: ps) s ↔
      ∃ r, s = form.write a ++ r ∧ Valid a ∧ form.IsCut Valid ps r := by
  constructor
  · rintro ⟨rfl, hhits, hgaps⟩
    obtain ⟨ha, hhits⟩ := List.forall_mem_cons.1 hhits
    refine ⟨_, rfl, ha, rfl, hhits, fun front d back hps => ?_⟩
    exact hgaps (.hit a :: front) d back (by rw [hps, List.cons_append])
  · rintro ⟨r, rfl, ha, rfl, hhits, hgaps⟩
    refine ⟨rfl, List.forall_mem_cons.2 ⟨ha, hhits⟩, fun front d back hps => ?_⟩
    cases front with
    | nil => cases (List.cons.inj hps).1
    | cons p front => exact hgaps front d back (List.cons.inj hps).2

/-! ## Cuts that depend on what is in front

Some forms look at the character in front of an instance. What is valid then depends on it, and a
cut is told piece after piece. -/

/-- The form reads the instances that are valid behind the character in front of them, and no
others. -/
def ReadsAfter (form : Form σ α) (Valid : Option σ → α → Prop) : Prop :=
  ∀ before s a r, form.read before s = some (a, r) ↔ s = form.write a ++ r ∧ Valid before a

/-- The pieces are a cut of a text that stands behind a character into instances that are valid
where they stand and gaps in which none starts. -/
inductive IsCutAfter (form : Form σ α) (Valid : Option σ → α → Prop) :
    Option σ → List (Piece σ α) → List σ → Prop
  /-- The empty text is cut into nothing. -/
  | nil (before : Option σ) : IsCutAfter form Valid before [] []
  /-- A gap, where no valid instance starts. -/
  | gap {before : Option σ} {c : σ} {ps : List (Piece σ α)} {s : List σ}
      (first : ∀ a, Valid before a → ¬ form.write a <+: c :: s)
      (rest : IsCutAfter form Valid (some c) ps s) :
      IsCutAfter form Valid before (.gap c :: ps) (c :: s)
  /-- A valid instance. -/
  | hit {before : Option σ} {a : α} {ps : List (Piece σ α)} {s : List σ} (valid : Valid before a)
      (rest : IsCutAfter form Valid ((form.write a).getLast?.or before) ps s) :
      IsCutAfter form Valid before (.hit a :: ps) (form.write a ++ s)

/-- Where it does not depend on the character in front, a cut is one behind any character. -/
theorem isCutAfter_iff_isCut (before : Option σ) :
    form.IsCutAfter (fun _ => Valid) before ps s ↔ form.IsCut Valid ps s := by
  constructor
  · intro h
    induction h with
    | nil => exact isCut_nil.2 rfl
    | gap first _ ih => exact isCut_gap_cons.2 ⟨_, rfl, first, ih⟩
    | hit valid _ ih => exact isCut_hit_cons.2 ⟨_, rfl, valid, ih⟩
  · intro h
    induction ps generalizing before s with
    | nil =>
      rw [isCut_nil.1 h]
      exact .nil before
    | cons p ps ih =>
      cases p with
      | gap c =>
        obtain ⟨r, rfl, hfirst, hrest⟩ := isCut_gap_cons.1 h
        exact .gap hfirst (ih _ hrest)
      | hit a =>
        obtain ⟨r, rfl, ha, hrest⟩ := isCut_hit_cons.1 h
        exact .hit ha (ih _ hrest)

namespace IsCutAfter

variable {ValidAfter : Option σ → α → Prop} {before : Option σ}

/-- The pieces of a cut make up the text. -/
theorem text (h : form.IsCutAfter ValidAfter before ps s) : replacePieces form.write ps = s := by
  induction h with
  | nil => rfl
  | gap _ _ ih => exact congrArg (_ :: ·) ih
  | hit _ _ ih => exact congrArg (_ ++ ·) ih

end IsCutAfter

/-! ## The only cut -/

namespace ReadsAfter

variable {ValidAfter : Option σ → α → Prop} {before : Option σ}

/-- Nothing is read exactly where no valid instance starts. -/
theorem read_eq_none_iff (h : form.ReadsAfter ValidAfter) :
    form.read before s = none ↔ ∀ a, ValidAfter before a → ¬ form.write a <+: s := by
  constructor
  · rintro hread a ha ⟨r, hr⟩
    rw [(h before s a r).2 ⟨hr.symm, ha⟩] at hread
    cases hread
  · intro hnot
    by_contra hread
    obtain ⟨⟨a, r⟩, hread⟩ := Option.ne_none_iff_exists'.1 hread
    obtain ⟨hs, ha⟩ := (h before s a r).1 hread
    exact hnot a ha ⟨r, hs.symm⟩

/-- Behind an instance that is read stands its own last character. -/
theorem getLast?_or_of_read {before other : Option σ} {a : α} {r : List σ}
    (h : form.read before s = some (a, r)) :
    (form.write a).getLast?.or other = (form.write a).getLast? := by
  rw [List.getLast?_eq_some_getLast (form.sound h).2, Option.some_or]

/-- The pieces that a scan from left to right gives are a cut. -/
theorem isCutAfter_pieces (h : form.ReadsAfter ValidAfter) (before : Option σ) (s : List σ) :
    form.IsCutAfter ValidAfter before (form.pieces before s) s := by
  fun_induction form.pieces before s with
  | case1 before => exact .nil before
  | case2 before c s a r hread ih =>
    obtain ⟨hs, ha⟩ := (h before _ a r).1 hread
    rw [hs]
    exact .hit ha (by rwa [getLast?_or_of_read hread])
  | case3 before c s hread ih => exact .gap (h.read_eq_none_iff.1 hread) ih

/-- A text has exactly one cut, the pieces that a scan from left to right gives. -/
theorem isCutAfter_iff (h : form.ReadsAfter ValidAfter) :
    form.IsCutAfter ValidAfter before ps s ↔ ps = form.pieces before s := by
  constructor
  · intro hcut
    induction hcut with
    | nil => rw [pieces_nil]
    | gap first _ ih => rw [form.pieces_of_not_read (h.read_eq_none_iff.2 first), ih]
    | @hit before a ps s valid _ ih =>
      have hread := (h before (form.write a ++ s) a s).2 ⟨rfl, valid⟩
      rw [form.pieces_of_read hread, ih, getLast?_or_of_read hread]
  · rintro rfl
    exact h.isCutAfter_pieces before s

theorem existsUnique_isCutAfter (h : form.ReadsAfter ValidAfter) (before : Option σ)
    (s : List σ) : ∃! ps, form.IsCutAfter ValidAfter before ps s :=
  ⟨form.pieces before s, h.isCutAfter_iff.2 rfl, fun _ => h.isCutAfter_iff.1⟩

end ReadsAfter

namespace Reads

variable {a : α}

theorem contextFree (h : form.Reads Valid) : form.ContextFree :=
  fun before s => Option.ext fun found => (h before s found.1 found.2).trans (h none s _ _).symm

/-- A valid instance is read, whatever follows it. -/
theorem read_valid (h : form.Reads Valid) (ha : Valid a) (r : List σ) :
    form.read none (form.write a ++ r) = some (a, r) :=
  (h none _ a r).2 ⟨rfl, ha⟩

/-- What is found is valid. -/
theorem valid_of_mem_find (h : form.Reads Valid) (ha : a ∈ form.find s) : Valid a := by
  obtain ⟨u, v, -, hread⟩ := exists_of_mem_find h.contextFree ha
  exact ((h none _ a v).1 hread).2

/-- A text has exactly one cut, the pieces that a scan from left to right gives. -/
theorem isCut_iff (h : form.Reads Valid) : form.IsCut Valid ps s ↔ ps = form.pieces none s := by
  rw [← isCutAfter_iff_isCut none]
  exact ReadsAfter.isCutAfter_iff h

theorem existsUnique_isCut (h : form.Reads Valid) (s : List σ) :
    ∃! ps, form.IsCut Valid ps s :=
  ⟨form.pieces none s, h.isCut_iff.2 rfl, fun _ => h.isCut_iff.1⟩

/-- The instances that are found in a text are those of its cut. -/
theorem find_eq (h : form.Reads Valid) (hcut : form.IsCut Valid ps s) :
    form.find s = Form.hits ps := by
  rw [h.isCut_iff.1 hcut, find]

/-- A text with its instances replaced is made up of its cut. -/
theorem substitute_eq (h : form.Reads Valid) (hcut : form.IsCut Valid ps s)
    (replace : α → List σ) : form.substitute replace s = replacePieces replace ps := by
  rw [h.isCut_iff.1 hcut]
  rfl

end Reads

end Form

/-! ## Scripts -/

namespace Script

open Form (hits replacePieces)

/-- The literal is a point and an identifier between two quotes. -/
structure SelectorLiteral.Valid (l : SelectorLiteral) : Prop where
  /-- It starts and ends with a quote. -/
  quote : Text.isQuote l.quote = true
  /-- Its name is a letter, then letters, digits, low lines and hyphens. -/
  name : IsIdentifier l.name

/-- The call has a valid argument. -/
def ClassListCall.Valid (call : ClassListCall) : Prop := call.argument.Valid

theorem reads_selectorLiteral : selectorLiteral.Reads SelectorLiteral.Valid := by
  intro _ s l r
  rw [show selectorLiteral.read _ s = SelectorLiteral.read? s from rfl,
    SelectorLiteral.read?_eq_some_iff]
  exact and_congr_right fun _ => ⟨fun h => ⟨h.1, h.2⟩, fun h => ⟨h.quote, h.name⟩⟩

theorem reads_classListCall : classListCall.Reads ClassListCall.Valid :=
  fun _ _ _ _ => ClassListCall.read?_eq_some_iff

/-- A script has one cut into selector literals and gaps. The pass over selector literals puts the
scope between the point and the name of each literal of the cut, keeps the gaps, and looks the names
up in the order of the literals. -/
theorem renameSelectors_cut (scope : Setting) (code : Text) :
    (∃! ps, selectorLiteral.IsCut SelectorLiteral.Valid ps code) ∧
      ∀ ps, selectorLiteral.IsCut SelectorLiteral.Valid ps code →
        (renameSelectors code).LooksUp scope ((hits ps).map SelectorLiteral.name)
          (replacePieces
            (fun l => l.quote :: '.' :: (scope.asText ++ l.name) ++ [l.quote]) ps) := by
  refine ⟨reads_selectorLiteral.existsUnique_isCut code, fun ps hcut => ?_⟩
  have hpass := looksUp_renameSelectors scope code
  rw [selectorNames, reads_selectorLiteral.find_eq hcut, selectorsInScope,
    reads_selectorLiteral.substitute_eq hcut] at hpass
  exact hpass

/-- Literals that share a quote: the first one takes it, and what follows is a gap. So is a literal
whose quotes differ. -/
theorem renameSelectors_cut_shared_quote :
    let ps : List (Piece Char SelectorLiteral) :=
      [.hit ⟨'\x27', ['a']⟩, .gap '.', .gap 'b', .hit ⟨'\x27', ['c']⟩, .gap '\x22', .gap '.',
        .gap 'd', .gap '\x27']
    selectorLiteral.IsCut SelectorLiteral.Valid ps (Text.of "'.a'.b'.c'\".d'") ∧
      (renameSelectors (Text.of "'.a'.b'.c'\".d'")).LooksUp (.text (Text.of "p-"))
        [['a'], ['c']] (Text.of "'.p-a'.b'.p-c'\".d'") := by
  intro ps
  have hcut : selectorLiteral.IsCut SelectorLiteral.Valid ps (Text.of "'.a'.b'.c'\".d'") :=
    reads_selectorLiteral.isCut_iff.2 (by decide +kernel)
  have hpass := (renameSelectors_cut (.text (Text.of "p-")) _).2 ps hcut
  refine ⟨hcut, ?_⟩
  rwa [show replacePieces _ ps = Text.of "'.p-a'.b'.p-c'\".d'" by decide +kernel] at hpass

/-- A script has one cut into class list calls and gaps. The pass over class list calls puts the
scope in front of the argument of each call of the cut, which it writes in single quotes, keeps the
gaps, and looks the arguments up in the order of the calls. With an identifier for a scope, the cut
of what the pass gives has the same calls with their new arguments. -/
theorem renameCalls_cut (code : Text) :
    (∃! ps, classListCall.IsCut ClassListCall.Valid ps code) ∧
      ∀ ps, classListCall.IsCut ClassListCall.Valid ps code →
        (∀ scope : Setting,
          (renameCalls code).LooksUp scope ((hits ps).map (·.argument.value))
            (replacePieces (fun call => ClassListCall.write
              ⟨call.method, '\x27', scope.asText ++ call.argument.value, '\x27'⟩) ps)) ∧
        ∀ p, IsIdentifier p →
          ∀ after, classListCall.IsCut ClassListCall.Valid after (renamed renameCalls p code) →
            hits after = (hits ps).map fun call =>
              ⟨call.method, '\x27', p ++ call.argument.value, '\x27'⟩ := by
  refine ⟨reads_classListCall.existsUnique_isCut code, fun ps hcut => ⟨fun scope => ?_,
    fun p hp after hafter => ?_⟩⟩
  · have hpass := looksUp_renameCalls scope code
    rw [callNames, reads_classListCall.find_eq hcut, callsInScope,
      reads_classListCall.substitute_eq hcut] at hpass
    exact hpass
  · rw [(looksUp_renameCalls (.text p) code).renamed_eq] at hafter
    rw [← reads_classListCall.find_eq hafter, find_callsInScope hp,
      reads_classListCall.find_eq hcut]
    rfl

/-- An argument that goes over a line end and holds the head of another call: that call would take
the closing quote of the first one, so it stands in no cut, before the pass and after it. -/
theorem renameCalls_cut_head_in_argument :
    let call : ClassListCall := ⟨.add, '\x22', Text.of "a\nclassList.add(", '\x27'⟩
    let renamedCall : ClassListCall := ⟨.add, '\x27', Text.of "p-a\nclassList.add(", '\x27'⟩
    let code := Text.of "classList.add(\"a\nclassList.add(')b')"
    let output := Text.of "classList.add('p-a\nclassList.add(')b')"
    classListCall.IsCut ClassListCall.Valid
        [.hit call, .gap 'b', .gap '\x27', .gap ')'] code ∧
      IsIdentifier (Text.of "p-") ∧
      (renameCalls code).LooksUp (.text (Text.of "p-")) [call.argument.value] output ∧
      classListCall.IsCut ClassListCall.Valid
        [.hit renamedCall, .gap 'b', .gap '\x27', .gap ')']
        (renamed renameCalls (Text.of "p-") code) ∧
      hits [.hit renamedCall, .gap 'b', .gap '\x27', .gap ')'] =
        [call].map fun call =>
          ⟨call.method, '\x27', Text.of "p-" ++ call.argument.value, '\x27'⟩ := by
  intro call renamedCall code output
  have hp : IsIdentifier (Text.of "p-") := by decide +kernel
  have hcut : classListCall.IsCut ClassListCall.Valid
      [.hit call, .gap 'b', .gap '\x27', .gap ')'] code :=
    reads_classListCall.isCut_iff.2 (by decide +kernel)
  have hafter : classListCall.IsCut ClassListCall.Valid
      [.hit renamedCall, .gap 'b', .gap '\x27', .gap ')']
      (renamed renameCalls (Text.of "p-") code) :=
    reads_classListCall.isCut_iff.2 (by decide +kernel)
  obtain ⟨hpass, hcalls⟩ := (renameCalls_cut code).2 _ hcut
  have hlooks := hpass (.text (Text.of "p-"))
  rw [show replacePieces _ _ = output by decide +kernel] at hlooks
  exact ⟨hcut, hp, hlooks, hafter, hcalls _ hp _ hafter⟩

end Script

end ClassScope
