import ClassScope.Proofs.Audit.Calls
import ClassScope.Proofs.Text.Words
import Mathlib.Data.List.Infix

/-!
# The findings among assignments

What the audit of a script says about assignments to `className`, without its scan. The scan looks
for the last assignment that starts on a line and goes on behind the line on which that ends. Where
no blanks behind a `.className` go on to another line, an assignment ends on the line it starts on,
so the scan is a filter on the lines. Main statements:

- `Audit.afterAssignment?_eq_some_iff`: what is read as an assignment;
- `Audit.afterLastAssignment?_append`: the scan of a line does not look behind it;
- `Audit.assignmentsFrom_append`: what the scan does with one line;
- `Audit.assignmentFindings_eq`: what it does with all of them;
- `Audit.filter_scriptFindings`: the findings of a script.
-/

namespace ClassScope

namespace Audit

/-! ## Assignments -/

/-- An assignment to the class attribute as a whole, with the text it stands in. -/
structure Assignment where
  /-- What stands in front of it. -/
  before : Text
  /-- The blanks behind the name of the attribute. -/
  blanks : Text
  /-- What stands between them and the equals sign. -/
  sign : Text
  /-- What stands behind the equals sign. -/
  after : Text

namespace Assignment

/-- An assignment up to its equals sign. -/
def front (a : Assignment) : Text := Text.of ".className" ++ (a.blanks ++ a.sign)

/-- The text that an assignment stands in. -/
def write (a : Assignment) : Text := a.before ++ (a.front ++ '=' :: a.after)

/-- Blanks, perhaps a plus sign, and one equals sign only. -/
structure Valid (a : Assignment) : Prop where
  /-- There are blanks only behind the name. -/
  blanks : a.blanks.Blank
  /-- There is at most a plus sign in front of the equals sign. -/
  sign : a.sign = [] ∨ a.sign = ['+']
  /-- It is no comparison. -/
  after : a.after.head? ≠ some '='

end Assignment

/-- There is an assignment in the text. -/
def IsAssignment (line : Text) : Prop := ∃ a : Assignment, a.Valid ∧ line = a.write

/-- The blanks behind a `.className` never go on to another line. -/
def Unbroken (code : Text) : Prop :=
  ∀ before blanks after, code = before ++ (Text.of ".className" ++ (blanks ++ after)) →
    blanks.Blank → '\n' ∉ blanks

variable {code line rest s r : Text}

/-- What ends a text without such line ends has none. -/
theorem Unbroken.of_append (h : Unbroken (s ++ r)) : Unbroken r := by
  rintro before blanks after rfl
  exact h (s ++ before) blanks after (by simp)

/-- No `.className` is followed by blanks with a line end among them. -/
theorem unbroken_iff :
    Unbroken code ↔ ∀ t ∈ code.tails, ∀ r ∈ Text.after? (Text.of ".className") t,
      '\n' ∉ r.takeWhile Text.isBlank := by
  constructor
  · intro h t ht r hr
    obtain ⟨before, rfl⟩ := (List.mem_tails t code).1 ht
    obtain rfl := Text.after?_eq_some_iff.1 hr
    exact h before (r.takeWhile Text.isBlank) (r.dropWhile Text.isBlank)
      (by rw [List.takeWhile_append_dropWhile])
      fun c hc => List.all_eq_true.1 List.all_takeWhile c hc
  · rintro h before blanks after rfl hblanks hmem
    have hrun := h (Text.of ".className" ++ (blanks ++ after))
      ((List.mem_tails _ _).2 (List.suffix_append before _)) (blanks ++ after)
      (Text.after?_append _ _)
    rw [List.takeWhile_append_of_pos hblanks] at hrun
    exact hrun (List.mem_append_left _ hmem)

instance (code : Text) : Decidable (Unbroken code) := decidable_of_iff _ unbroken_iff.symm

/-- Then there is no line end in an assignment up to its equals sign. -/
theorem Assignment.Valid.newline_not_mem {a : Assignment} (ha : a.Valid) (h : Unbroken a.write) :
    '\n' ∉ a.front ++ ['='] := by
  have hblanks : '\n' ∉ a.blanks :=
    h a.before a.blanks (a.sign ++ '=' :: a.after) (by simp [write, front]) ha.blanks
  have hsign : '\n' ∉ a.sign := by
    rcases ha.sign with hsign | hsign <;> rw [hsign] <;> decide
  simp only [front, Text.of_eq_toList, List.mem_append, not_or]
  exact ⟨⟨by decide, hblanks, hsign⟩, by decide⟩

/-! ## The scan of one line -/

/-- Blanks in front of what starts with none are stripped, and nothing else. -/
theorem stripLeft_append (hs : s.Blank) (hr : ∀ c ∈ r.head?, Text.isBlank c = false) :
    Text.stripLeft (s ++ r) = r := by
  rw [Text.stripLeft, List.dropWhile_append_of_pos hs]
  cases r with
  | nil => rfl
  | cons c r => exact List.dropWhile_cons_of_neg (by simp [hr c rfl])

/-- What is read at the start of a text is a valid assignment there. -/
theorem afterAssignment?_eq_some_iff :
    afterAssignment? s = some r ↔
      ∃ a : Assignment, a.Valid ∧ a.before = [] ∧ a.after = r ∧ s = a.write := by
  constructor
  · intro h
    unfold afterAssignment? at h
    split at h
    · cases h
    · rename_i t ht
      have hs := Text.after?_eq_some_iff.1 ht
      have hblanks : t = t.takeWhile Text.isBlank ++ Text.stripLeft t :=
        List.takeWhile_append_dropWhile.symm
      have hvalid : Text.Blank (t.takeWhile Text.isBlank) :=
        fun c hc => List.all_eq_true.1 List.all_takeWhile c hc
      obtain ⟨sign, hsign, hcut⟩ : ∃ sign : Text, (sign = [] ∨ sign = ['+']) ∧
          Text.stripLeft t = sign ++ (if (Text.stripLeft t).head? = some '+'
            then (Text.stripLeft t).drop 1 else Text.stripLeft t) := by
        split
        · rename_i hplus
          obtain ⟨u, hu⟩ := List.head?_eq_some_iff.1 hplus
          exact ⟨['+'], .inr rfl, by rw [hu]; rfl⟩
        · exact ⟨[], .inl rfl, rfl⟩
      simp only at h
      split at h
      · rename_i u hu
        split at h
        · cases h
        · rename_i hne
          cases h
          refine ⟨⟨[], t.takeWhile Text.isBlank, sign, r⟩, ⟨hvalid, hsign, hne⟩, rfl, rfl, ?_⟩
          rw [hs, Assignment.write, Assignment.front, List.nil_append, List.append_assoc,
            List.append_assoc, ← hu, ← hcut, ← hblanks]
      · cases h
  · rintro ⟨⟨before, blanks, sign, after⟩, hvalid, rfl, rfl, rfl⟩
    have hstrip : Text.stripLeft (blanks ++ (sign ++ '=' :: after)) = sign ++ '=' :: after := by
      refine stripLeft_append hvalid.blanks fun c hc => ?_
      rcases hvalid.sign with rfl | rfl <;> cases hc <;> decide
    have hafter : after.head? ≠ some '=' := hvalid.after
    rw [Assignment.write, Assignment.front, List.nil_append, List.append_assoc, List.append_assoc,
      afterAssignment?, Text.after?_append]
    simp only [hstrip]
    rcases hvalid.sign with rfl | rfl <;> simp [hafter]

/-- Whether a text on a line starts with an assignment does not depend on what comes behind the
line. -/
theorem afterAssignment?_append (hline : '\n' ∉ line) (hrest : ∀ c ∈ rest.head?, c = '\n')
    (h : Unbroken (line ++ rest)) :
    afterAssignment? (line ++ rest) = (afterAssignment? line).map (· ++ rest) := by
  refine Option.ext fun r => ?_
  rw [Option.map_eq_some_iff]
  constructor
  · intro hr
    obtain ⟨a, ha, hbefore, rfl, hcut⟩ := afterAssignment?_eq_some_iff.1 hr
    have hsplit : line ++ rest = (a.front ++ ['=']) ++ a.after := by
      rw [hcut, Assignment.write, hbefore]
      simp
    -- There is no line end up to the equals sign, so the equals sign is on the line.
    have hfront := ha.newline_not_mem (hcut ▸ h)
    have hprefix : a.front ++ ['='] <+: line := by
      cases rest with
      | nil => exact ⟨a.after, by rw [← hsplit, List.append_nil]⟩
      | cons c rest =>
        obtain rfl : c = '\n' := hrest c rfl
        exact Text.prefix_of_append_cons hfront hsplit.symm
    obtain ⟨u, rfl⟩ := hprefix
    have hu : a.after = u ++ rest := by
      rw [List.append_assoc, List.append_cancel_left_eq] at hsplit
      exact hsplit.symm
    refine ⟨u, afterAssignment?_eq_some_iff.2 ⟨{ a with after := u }, ⟨ha.blanks, ha.sign, ?_⟩,
      hbefore, rfl, ?_⟩, hu.symm⟩
    · intro hhead
      obtain ⟨v, rfl⟩ := List.head?_eq_some_iff.1 (show u.head? = some '=' from hhead)
      exact ha.after (by rw [hu]; rfl)
    · simp [Assignment.write, Assignment.front, hbefore]
  · rintro ⟨u, hu, rfl⟩
    obtain ⟨a, ha, hbefore, rfl, rfl⟩ := afterAssignment?_eq_some_iff.1 hu
    refine afterAssignment?_eq_some_iff.2 ⟨{ a with after := a.after ++ rest },
      ⟨ha.blanks, ha.sign, fun hhead => ?_⟩, hbefore, rfl, ?_⟩
    · cases hafter : a.after with
      | nil =>
        rw [hafter] at hhead
        exact absurd (hrest _ hhead) (by decide)
      | cons c v =>
        rw [hafter] at hhead
        exact ha.after (hafter ▸ hhead)
    · simp [Assignment.write, Assignment.front]

/-- The last assignment of a line is found on the line, whatever follows. -/
theorem afterLastAssignment?_append (hline : '\n' ∉ line) (hrest : ∀ c ∈ rest.head?, c = '\n')
    (h : Unbroken (line ++ rest)) :
    afterLastAssignment? (line ++ rest) = (afterLastAssignment? line).map (· ++ rest) := by
  induction line with
  | nil =>
    cases rest with
    | nil => rfl
    | cons c rest => exact if_pos (hrest c rfl)
  | cons c line ih =>
    obtain ⟨hc, hline'⟩ := not_or.1 (List.mem_cons.not.1 hline)
    have hhere := afterAssignment?_append hline hrest h
    rw [List.cons_append] at hhere h ⊢
    rw [afterLastAssignment?, afterLastAssignment?, if_neg (Ne.symm hc), if_neg (Ne.symm hc), hhere,
      ih hline' (Unbroken.of_append (s := [c]) h)]
    cases afterLastAssignment? line <;> rfl

/-- The assignments of a text are one at its start and those of the rest. -/
theorem isAssignment_cons_iff {c : Char} :
    IsAssignment (c :: s) ↔ IsAssignment s ∨ (afterAssignment? (c :: s)).isSome = true := by
  constructor
  · rintro ⟨⟨before, blanks, sign, after⟩, hvalid, ha⟩
    cases before with
    | nil =>
      refine .inr (Option.isSome_iff_exists.2 ⟨after, ?_⟩)
      exact afterAssignment?_eq_some_iff.2 ⟨_, hvalid, rfl, rfl, ha⟩
    | cons d before =>
      refine .inl ⟨⟨before, blanks, sign, after⟩, ⟨hvalid.blanks, hvalid.sign, hvalid.after⟩, ?_⟩
      exact (List.cons.inj ha).2
  · rintro (⟨⟨before, blanks, sign, after⟩, hvalid, rfl⟩ | h)
    · exact ⟨⟨c :: before, blanks, sign, after⟩, ⟨hvalid.blanks, hvalid.sign, hvalid.after⟩, rfl⟩
    · obtain ⟨r, hr⟩ := Option.isSome_iff_exists.1 h
      obtain ⟨a, hvalid, -, -, ha⟩ := afterAssignment?_eq_some_iff.1 hr
      exact ⟨a, hvalid, ha⟩

/-- There is no assignment in the empty text. -/
theorem not_isAssignment_nil : ¬ IsAssignment [] := by
  rintro ⟨a, -, ha⟩
  simp [Assignment.write] at ha

instance (line : Text) : Decidable (IsAssignment line) :=
  match line with
  | [] => .isFalse not_isAssignment_nil
  | _ :: s =>
    have : Decidable (IsAssignment s) := instDecidableIsAssignment s
    decidable_of_iff _ isAssignment_cons_iff.symm

/-- An assignment is found on a line if there is one. -/
theorem isSome_afterLastAssignment?_iff (hline : '\n' ∉ line) :
    (afterLastAssignment? line).isSome = true ↔ IsAssignment line := by
  induction line with
  | nil => exact iff_of_false (by simp [afterLastAssignment?]) not_isAssignment_nil
  | cons c line ih =>
    obtain ⟨hc, hline⟩ := not_or.1 (List.mem_cons.not.1 hline)
    rw [afterLastAssignment?, if_neg (Ne.symm hc), Option.isSome_or, Bool.or_eq_true, ih hline,
      isAssignment_cons_iff]

/-- What is found behind an assignment ends the line. -/
theorem suffix_of_afterLastAssignment? (h : afterLastAssignment? s = some r) : r <:+ s := by
  induction s with
  | nil => cases h
  | cons c s ih =>
    rw [afterLastAssignment?] at h
    split at h
    · cases h
    · rcases Option.or_eq_some_iff.1 h with h | ⟨-, h⟩
      · exact (ih h).trans (List.suffix_cons c s)
      · obtain ⟨a, -, -, rfl, ha⟩ := afterAssignment?_eq_some_iff.1 h
        exact ⟨a.before ++ (a.front ++ ['=']), by rw [ha]; simp [Assignment.write]⟩

/-! ## The scan of all lines -/

/-- The finding of a line with an assignment. -/
def lineFinding (line : Text) : ScriptFinding := ⟨.classNameAssignment, Text.strip line⟩

/-- There is nothing to find behind the last line. -/
@[simp]
theorem assignmentsFrom_nil (fuel : Nat) : assignmentsFrom fuel [] = [] := by
  cases fuel <;> rfl

/-- A line without an assignment is left behind. -/
theorem assignmentsFrom_of_none (h : afterLastAssignment? s = none) (fuel : Nat) :
    assignmentsFrom (fuel + 1) s = assignmentsFrom fuel (Text.afterLine s) := by
  cases s with
  | nil => exact (assignmentsFrom_nil fuel).symm
  | cons c s => simp only [assignmentsFrom, h]

/-- A line with an assignment is a finding, as far as the end of the line it ends on. -/
theorem assignmentsFrom_of_some (h : afterLastAssignment? s = some r) (fuel : Nat) :
    assignmentsFrom (fuel + 1) s =
      lineFinding (s.take (s.length - (r.dropWhile (· ≠ '\n')).length)) ::
        assignmentsFrom fuel (Text.afterLine r) := by
  cases s with
  | nil => cases h
  | cons c s => simp only [assignmentsFrom, h, lineFinding, Text.afterLine]

/-- The first line is a finding if there is an assignment on it; then the scan goes on with the next
one. -/
theorem assignmentsFrom_append (hline : '\n' ∉ line) (hrest : ∀ c ∈ rest.head?, c = '\n')
    (h : Unbroken (line ++ rest)) (fuel : Nat) :
    assignmentsFrom (fuel + 1) (line ++ rest) =
      ([line].filter (IsAssignment ·)).map lineFinding ++
        assignmentsFrom fuel (rest.drop 1) := by
  have hdrop : ∀ r : Text, '\n' ∉ r → (r ++ rest).dropWhile (· ≠ '\n') = rest := by
    intro r hr
    rw [List.dropWhile_append_of_pos fun c hc => by simpa using fun hcn : c = '\n' => hr (hcn ▸ hc)]
    cases rest with
    | nil => rfl
    | cons c rest => exact List.dropWhile_cons_of_neg (by simp [hrest c rfl])
  have hlast := afterLastAssignment?_append hline hrest h
  have hiff := isSome_afterLastAssignment?_iff hline
  cases hread : afterLastAssignment? line with
  | none =>
    have hnone : ¬ IsAssignment line := by simp [← hiff, hread]
    rw [hread, Option.map_none] at hlast
    rw [List.filter_cons_of_neg (by simpa using hnone), assignmentsFrom_of_none hlast,
      Text.afterLine, hdrop line hline]
    rfl
  | some r =>
    have hsome : IsAssignment line := by simp [← hiff, hread]
    have hr : '\n' ∉ r := fun hmem => hline ((suffix_of_afterLastAssignment? hread).subset hmem)
    rw [hread, Option.map_some] at hlast
    rw [List.filter_cons_of_pos (by simpa using hsome), assignmentsFrom_of_some hlast,
      Text.afterLine, hdrop r hr, List.length_append, Nat.add_sub_cancel, List.take_left]
    rfl

/-- The findings among the assignments are the lines with one, in their order. -/
theorem assignmentsFrom_eq {fuel : Nat} (hfuel : code.length ≤ fuel) (h : Unbroken code) :
    assignmentsFrom fuel code =
      ((Text.splitBy (· == '\n') code).filter (IsAssignment ·)).map lineFinding := by
  induction fuel generalizing code with
  | zero =>
    rw [List.length_eq_zero_iff.1 (Nat.le_zero.1 hfuel)]
    decide
  | succ fuel ih =>
    rcases Text.all_or_cut (· != '\n') code with hall | ⟨line, c, rest, rfl, hfront, hc⟩
    · -- The last line, with nothing behind it.
      have hline : '\n' ∉ code := fun hmem => by simpa using hall _ hmem
      have hnone : ∀ c ∈ ([] : Text).head?, c = '\n' := nofun
      have hstep := assignmentsFrom_append hline hnone (by rwa [List.append_nil]) fuel
      rw [List.append_nil] at hstep
      rw [hstep, Text.splitBy_of_forall fun c hc => by simpa using hall c hc]
      simp
    · obtain rfl : c = '\n' := by simpa using hc
      have hline : '\n' ∉ line := fun hmem => by simpa using hfront _ hmem
      have hlength : rest.length ≤ fuel := by
        simp only [List.length_append, List.length_cons] at hfuel
        omega
      have hrest : Unbroken rest :=
        Unbroken.of_append (s := line ++ ['\n']) (by simpa using h)
      rw [assignmentsFrom_append hline (by simp) h, List.drop_one, List.tail_cons,
        ih hlength hrest, Text.splitBy_append_cons (by simp),
        Text.splitBy_of_forall (s := line) fun c hc => by simpa using hfront c hc,
        List.filter_append, List.map_append]

theorem assignmentFindings_eq (h : Unbroken code) :
    assignmentFindings code =
      ((Text.splitBy (· == '\n') code).filter (IsAssignment ·)).map lineFinding :=
  assignmentsFrom_eq (Nat.le_refl _) h

/-! ## The findings of a script -/

/-- Where no blanks behind a `.className` go on to another line, the findings of a script with the
issue of an assignment are its lines with an assignment, stripped, in their order and behind all
other findings. -/
theorem filter_scriptFindings (h : Unbroken code) :
    (scriptFindings code).filter (·.issue = .classNameAssignment) =
        ((Text.splitBy (· == '\n') code).filter (IsAssignment ·)).map
          (fun line => ⟨.classNameAssignment, Text.strip line⟩) ∧
      scriptFindings code =
        (scriptFindings code).filter (·.issue ≠ .classNameAssignment) ++
          (scriptFindings code).filter (·.issue = .classNameAssignment) := by
  have hcalls : ∀ finding ∈ callFindings code, finding.issue ≠ .classNameAssignment := by
    intro finding hmem
    obtain ⟨call, -, hfinding⟩ := List.mem_filterMap.1 hmem
    obtain ⟨issue, hissue, rfl⟩ := Option.map_eq_some_iff.1 hfinding
    exact AnyCall.ne_of_issue? hissue
  have hassignments : ∀ finding ∈ assignmentFindings code,
      finding.issue = .classNameAssignment := fun finding => issue_of_mem_assignmentsFrom
  have hpos : (scriptFindings code).filter (·.issue = .classNameAssignment) =
      assignmentFindings code := by
    rw [scriptFindings, List.filter_append, List.filter_eq_nil_iff.2 (by simpa using hcalls),
      List.filter_eq_self.2 (by simpa using hassignments), List.nil_append]
  have hneg : (scriptFindings code).filter (·.issue ≠ .classNameAssignment) =
      callFindings code := by
    rw [scriptFindings, List.filter_append, List.filter_eq_self.2 (by simpa using hcalls),
      List.filter_eq_nil_iff.2 (by simpa using hassignments), List.append_nil]
  rw [hpos, hneg]
  exact ⟨assignmentFindings_eq h, rfl⟩

/-- Four lines: a comparison with an assignment behind it, a comparison only, a class list call, and
an assignment with blanks in it and around it. -/
def mixedScript : Text :=
  Text.of "if (e.className == a) e.className=b\ne.className===c\n" ++
    Text.of "e.classList.swap(d)\n\te.className += f "

/-- The first and the last line of the script are findings. -/
theorem filter_scriptFindings_mixedScript :
    Unbroken mixedScript ∧
      (scriptFindings mixedScript).filter (·.issue = .classNameAssignment) =
        [⟨.classNameAssignment, Text.of "if (e.className == a) e.className=b"⟩,
          ⟨.classNameAssignment, Text.of "e.className += f"⟩] := by
  have h : Unbroken mixedScript := by decide +kernel
  refine ⟨h, (filter_scriptFindings h).1.trans ?_⟩
  decide +kernel

end Audit

end ClassScope
