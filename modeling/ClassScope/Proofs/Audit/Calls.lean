import ClassScope.Audit.Script
import ClassScope.Proofs.Naming.Pieces
import ClassScope.Proofs.Text.Blank

/-!
# The findings among class list calls

What the audit of a script says about class list calls, without its readers. A call has an issue
unless it is one of a method whose calls are renamed, with a string literal as its only argument;
there may be blanks around the literal. Main statements:

- `Audit.isLiteral_iff`: what counts as a literal;
- `Audit.AnyCall.read?_eq_some_iff`: what is read as a call;
- `Audit.AnyCall.issue?_eq_none_iff`: which calls have no issue;
- `Audit.reported_iff`: the calls that are reported are those with an issue.
-/

namespace ClassScope

namespace Audit

/-! ## Literals -/

/-- A string literal, with the blanks around it. -/
structure PaddedLiteral where
  /-- The blanks in front of it. -/
  before : Text
  /-- The quote at both ends. -/
  quote : Char
  /-- The text between the quotes. -/
  body : Text
  /-- The blanks behind it. -/
  after : Text

namespace PaddedLiteral

/-- The text of a literal. -/
def write (l : PaddedLiteral) : Text := l.before ++ l.quote :: (l.body ++ l.quote :: l.after)

/-- Blanks around a text without quotes between two quotes, which is not empty. -/
structure Valid (l : PaddedLiteral) : Prop where
  /-- There are blanks only in front of it. -/
  before : l.before.Blank
  /-- It starts and ends with a quote. -/
  quote : Text.isQuote l.quote = true
  /-- There is no quote in it. -/
  body : l.body.Unquoted
  /-- It is not empty. -/
  ne_nil : l.body ≠ []
  /-- There are blanks only behind it. -/
  after : l.after.Blank

variable {l : PaddedLiteral}

theorem Valid.strip_write (h : l.Valid) :
    Text.strip l.write = l.quote :: (l.body ++ [l.quote]) := by
  have hblank : Text.isBlank l.quote = false := by
    by_contra hblank
    have hquote := Text.isQuote_of_isBlank (Bool.not_eq_false _ ▸ hblank)
    rw [h.quote] at hquote
    cases hquote
  have hwrite : l.write = l.before ++ ((l.quote :: (l.body ++ [l.quote])) ++ l.after) := by
    simp [write]
  rw [hwrite]
  refine Text.strip_append h.before h.after (List.cons_ne_nil _ _) ?_ ?_
  · simpa using hblank
  · simpa [List.getLast?_cons] using hblank

/-- The text of a literal tells what stands between the quotes. -/
theorem Valid.body_eq {m : PaddedLiteral} (h : l.Valid) (h' : m.Valid) (heq : l.write = m.write) :
    l.body = m.body := by
  have hstrip := congrArg Text.strip heq
  rw [h.strip_write, h'.strip_write, List.cons.injEq] at hstrip
  exact (List.append_inj' hstrip.2 rfl).1

/-- There are two quotes in the text of a literal. -/
theorem Valid.countP_write (h : l.Valid) : l.write.countP Text.isQuote = 2 := by
  have hnone : ∀ s : Text, s.Unquoted → s.countP Text.isQuote = 0 := by
    intro s hs
    exact List.countP_eq_zero.2 fun c hc => by simp [hs c hc]
  simp [write, hnone _ h.before.unquoted, hnone _ h.body, hnone _ h.after.unquoted, h.quote]

end PaddedLiteral

/-- A text counts as a literal if it is one with blanks around it. -/
theorem isLiteral_iff {s : Text} :
    isLiteral s = true ↔ ∃ l : PaddedLiteral, l.Valid ∧ s = l.write := by
  constructor
  · intro h
    obtain ⟨before, after, hs, hbefore, hafter⟩ := Text.exists_eq_append_strip s
    unfold isLiteral at h
    split at h
    · cases h
    · rename_i quote t ht
      simp only [Bool.and_eq_true, Bool.not_eq_true', List.isEmpty_eq_false_iff,
        beq_iff_eq] at h
      obtain ⟨⟨hquote, hne⟩, hdrop⟩ := h
      refine ⟨⟨before, quote, t.takeWhile (!Text.isQuote ·), after⟩,
        ⟨hbefore, hquote, fun c hc => ?_, hne, hafter⟩, ?_⟩
      · simpa using List.all_eq_true.1 List.all_takeWhile c hc
      · have hbody : t.takeWhile (!Text.isQuote ·) ++ [quote] = t := by
          rw [← hdrop, List.takeWhile_append_dropWhile]
        rw [hs, ht, PaddedLiteral.write]
        conv_lhs => rw [← hbody]
        simp
  · rintro ⟨l, hl, rfl⟩
    rw [isLiteral, hl.strip_write]
    simp [hl.quote, Text.takeWhile_append_quote hl.body hl.quote,
      Text.dropWhile_append_quote hl.body hl.quote, hl.ne_nil]

/-- A literal has two quotes, so it is not cut into several literals. -/
theorem not_several_literals {s : Text} (h : isLiteral s = true) :
    ¬ (1 < (Text.splitBy (· == ',') s).length ∧
      (Text.splitBy (· == ',') s).all isLiteral = true) := by
  rintro ⟨hlength, hall⟩
  have hcount : ∀ part, isLiteral part = true → part.countP Text.isQuote = 2 := by
    intro part hpart
    obtain ⟨l, hl, rfl⟩ := isLiteral_iff.1 hpart
    exact hl.countP_write
  have hcomma : ∀ c, (Text.isQuote c && !(c == ',')) = Text.isQuote c := by
    intro c
    by_cases hc : c = ','
    · rw [hc]
      decide
    · simp [hc]
  have hsum := congrArg (List.countP Text.isQuote) (Text.flatten_splitBy (· == ',') s)
  rw [List.countP_flatten,
    List.map_congr_left fun part hpart => hcount part (List.all_eq_true.1 hall part hpart),
    List.map_const', List.sum_replicate_nat, List.countP_filter, List.countP_congr
      fun c _ => by rw [hcomma c], hcount s h] at hsum
  omega

/-! ## Calls -/

namespace AnyCall

variable {s r : Text} {call other : AnyCall}

/-- The name of the method is a word, and the arguments go up to the first parenthesis. -/
structure Valid (call : AnyCall) : Prop where
  /-- The method has a name. -/
  ne_nil : call.method ≠ []
  /-- The name is a word. -/
  method : ∀ c ∈ call.method, Text.isWord c = true
  /-- There is no closing parenthesis in the arguments. -/
  arguments : ')' ∉ call.arguments

/-- The text of a call, with what follows it. -/
theorem write_append (call : AnyCall) (r : Text) :
    call.write ++ r =
      Text.of "classList." ++ (call.method ++ '(' :: (call.arguments ++ ')' :: r)) := by
  simp [write]

theorem contextFree_anyCall : anyCall.ContextFree := fun _ _ => rfl

/-- What is read is a valid call. -/
theorem read?_eq_some_iff : read? s = some (call, r) ↔ s = call.write ++ r ∧ call.Valid := by
  constructor
  · intro h
    have hread : anyCall.read none s = some (call, r) := h
    refine ⟨(anyCall.sound hread).1, ?_⟩
    unfold read? at h
    split at h
    · cases h
    · simp only at h
      split at h
      · split at h
        · split at h
          · cases h
          · rename_i hne
            cases h
            refine ⟨hne, fun c hc => List.all_eq_true.1 List.all_takeWhile c hc, fun hmem => ?_⟩
            have := List.all_eq_true.1 (List.all_takeWhile (p := (· ≠ ')'))) _ hmem
            simp at this
        · cases h
      · cases h
  · rintro ⟨rfl, h⟩
    have hmethod : (call.method ++ '(' :: (call.arguments ++ ')' :: r)).takeWhile Text.isWord =
        call.method ∧ (call.method ++ '(' :: (call.arguments ++ ')' :: r)).dropWhile Text.isWord =
        '(' :: (call.arguments ++ ')' :: r) := by
      have hend : Text.isWord '(' = false := by decide
      rw [List.takeWhile_append_of_pos h.method, List.dropWhile_append_of_pos h.method,
        List.takeWhile_cons_of_neg (by simp [hend]), List.dropWhile_cons_of_neg (by simp [hend]),
        List.append_nil]
      exact ⟨rfl, rfl⟩
    have harguments : ∀ c ∈ call.arguments, decide (c ≠ ')') = true := by
      intro c hc
      rw [decide_eq_true_eq]
      rintro rfl
      exact h.arguments hc
    rw [write_append, read?, Text.after?_append]
    simp only [hmethod.1, hmethod.2, List.takeWhile_append_of_pos harguments,
      List.dropWhile_append_of_pos harguments]
    simp [h.ne_nil]

/-- Two valid calls with one text are one. -/
theorem Valid.write_inj (h : call.Valid) (h' : other.Valid) (heq : call.write = other.write) :
    call = other := by
  have hread : read? (call.write ++ []) = some (call, []) := read?_eq_some_iff.2 ⟨rfl, h⟩
  rw [heq, read?_eq_some_iff.2 ⟨rfl, h'⟩] at hread
  exact (Prod.mk.inj (Option.some.inj hread)).1.symm

/-- A call that is found is valid. -/
theorem valid_of_mem_find (h : call ∈ anyCall.find s) : call.Valid := by
  obtain ⟨u, v, -, hread⟩ := Form.exists_of_mem_find contextFree_anyCall h
  exact (read?_eq_some_iff.1 hread).2

/-- The method is one of those whose calls are renamed. -/
def IsRenamed (call : AnyCall) : Prop := call.method ∈ Script.Method.all.map Script.Method.word

instance (call : AnyCall) : Decidable call.IsRenamed :=
  inferInstanceAs (Decidable (call.method ∈ Script.Method.all.map Script.Method.word))

/-- A call has no issue if it is one of a method whose calls are renamed, with a literal. -/
theorem issue?_eq_none_iff :
    call.issue? = none ↔
      call.IsRenamed ∧ ∃ l : PaddedLiteral, l.Valid ∧ call.arguments = l.write := by
  rw [← isLiteral_iff, issue?]
  simp only [Bool.and_eq_true, decide_eq_true_eq]
  by_cases hmethod : call.IsRenamed
  · rw [List.contains_iff_mem.2 hmethod]
    by_cases hliteral : isLiteral call.arguments = true
    · rw [if_neg (by simp), if_neg (not_several_literals hliteral), if_neg (by simp [hliteral])]
      exact iff_of_true rfl ⟨hmethod, hliteral⟩
    · rw [if_neg (by simp), and_iff_right hmethod]
      refine iff_of_false (fun h => ?_) hliteral
      split at h
      · cases h
      · simp [hliteral] at h
  · have hcontains : (Script.Method.all.map Script.Method.word).contains call.method = false :=
      Bool.eq_false_iff.2 fun h => hmethod (List.contains_iff_mem.1 h)
    rw [hcontains, if_pos (by simp)]
    exact iff_of_false (by simp) fun h => hmethod h.1

end AnyCall

/-- The audit says of a call that something is wrong with it. -/
def Reported (code : Text) (call : AnyCall) : Prop :=
  ∃ finding ∈ scriptFindings code, finding.issue ≠ .classNameAssignment ∧
    finding.snippet = call.write

/-- The issue of a call is not that of an assignment. -/
theorem AnyCall.ne_of_issue? {call : AnyCall} {issue : Issue} (h : call.issue? = some issue) :
    issue ≠ .classNameAssignment := by
  rintro rfl
  simp only [AnyCall.issue?] at h
  split at h <;> [skip; split at h <;> [skip; split at h]] <;> cases h

/-- All findings among the assignments have that issue. -/
theorem issue_of_mem_assignmentsFrom {fuel : Nat} {s : Text} {finding : ScriptFinding}
    (h : finding ∈ assignmentsFrom fuel s) : finding.issue = .classNameAssignment := by
  induction fuel generalizing s with
  | zero => simp [assignmentsFrom] at h
  | succ fuel ih =>
    unfold assignmentsFrom at h
    split at h
    · cases h
    · rcases List.mem_cons.1 h with rfl | h
      · rfl
      · exact ih h
    · exact ih h

/-- Of the calls of a script those with an issue are reported. -/
theorem reported_iff {code : Text} {call : AnyCall} (h : call ∈ anyCall.find code) :
    Reported code call ↔ call.issue? ≠ none := by
  rw [Option.ne_none_iff_exists']
  constructor
  · rintro ⟨finding, hmem, hissue, hsnippet⟩
    rcases List.mem_append.1 hmem with hmem | hmem
    · -- The finding is about a call with the same text, so about this one.
      obtain ⟨other, hother, hfinding⟩ := List.mem_filterMap.1 hmem
      obtain ⟨issue, hother', rfl⟩ := Option.map_eq_some_iff.1 hfinding
      have hsame := (AnyCall.valid_of_mem_find hother).write_inj (AnyCall.valid_of_mem_find h)
        hsnippet
      exact ⟨issue, hsame ▸ hother'⟩
    · exact absurd (issue_of_mem_assignmentsFrom hmem) hissue
  · rintro ⟨issue, hissue⟩
    refine ⟨⟨issue, call.write⟩, List.mem_append_left _ ?_, AnyCall.ne_of_issue? hissue, rfl⟩
    exact List.mem_filterMap.2 ⟨call, h, by rw [hissue]; rfl⟩

end Audit

end ClassScope
