import ClassScope.Proofs.Text.Blank

/-!
# The words of a text

The words of a text are its stretches without blanks, each as long as can be. A cut at a blank is a
cut between words, and from that all else follows: which texts are the words can be said without
cutting (`Text.AreWords`), and words with a space between neighbours are read back. Main statements:

- `Text.words_append_cons`: a cut at a blank;
- `Text.areWords_iff`: the words of a text are the only texts that are its words;
- `Text.infix_of_mem_words`, `Text.no_blank_of_mem_words`: what a word is;
- `Text.words_join`: words that are joined.
-/

namespace ClassScope.Text

variable {p : Char → Bool} {s t w : Text} {ws : List Text} {c : Char}

/-! ## Cuts at a blank -/

/-- There is at least one stretch. -/
theorem splitBy_ne_nil (p : Char → Bool) (s : Text) : splitBy p s ≠ [] := by
  cases s with
  | nil => exact List.cons_ne_nil _ _
  | cons c s =>
    rw [splitBy]
    split
    · exact List.cons_ne_nil _ _
    · split <;> exact List.cons_ne_nil _ _

/-- A text is cut at a character into the stretches in front of it and those behind it. -/
theorem splitBy_append_cons (hc : p c = true) (s t : Text) :
    splitBy p (s ++ c :: t) = splitBy p s ++ splitBy p t := by
  induction s with
  | nil => exact if_pos hc
  | cons d s ih =>
    rw [List.cons_append, splitBy, splitBy, ih]
    split
    · rfl
    · -- The character goes to the first stretch behind it, which is one in front of the cut.
      obtain ⟨w, ws, hws⟩ := List.exists_cons_of_ne_nil (splitBy_ne_nil p s)
      rw [hws]
      rfl

/-- A text that is not cut is one stretch. -/
theorem splitBy_of_forall (h : ∀ c ∈ s, p c = false) : splitBy p s = [s] := by
  induction s with
  | nil => rfl
  | cons c s ih =>
    obtain ⟨hc, hs⟩ := List.forall_mem_cons.1 h
    rw [splitBy, hc, ih hs]
    rfl

/-- A blank stands between words. -/
theorem words_append_cons (hc : isBlank c = true) (s t : Text) :
    words (s ++ c :: t) = words s ++ words t := by
  rw [words, splitBy_append_cons hc, List.filter_append, words, words]

/-- Blanks at the front belong to no word. -/
theorem words_append_of_blank (hs : Blank s) (t : Text) : words (s ++ t) = words t := by
  induction s with
  | nil => rfl
  | cons c s ih =>
    obtain ⟨hc, hs⟩ := List.forall_mem_cons.1 hs
    exact (words_append_cons hc [] (s ++ t)).trans (ih hs)

/-- A text of blanks has no words. -/
theorem words_of_blank (hs : Blank s) : words s = [] := by
  rw [← List.append_nil s, words_append_of_blank hs]
  rfl

/-- A text without blanks that is not empty is one word. -/
theorem words_of_no_blank (hs : s ≠ []) (h : ∀ c ∈ s, isBlank c = false) : words s = [s] := by
  rw [words, splitBy_of_forall h]
  simp [hs]

/-! ## Which texts are the words -/

/-- The texts are the words of another one: in their order they stand in it, they have no blanks and
are not empty, and there are blanks around them, between neighbours at least one. -/
inductive AreWords : List Text → Text → Prop
  /-- A text of blanks has no words. -/
  | blank {s : Text} (hs : s.Blank) : AreWords [] s
  /-- Blanks, then a word up to a blank or the end, then the other words. -/
  | word {s w t : Text} {ws : List Text} (hs : s.Blank) (hne : w ≠ [])
      (hw : ∀ c ∈ w, isBlank c = false) (hend : ∀ c ∈ t.head?, isBlank c = true)
      (ht : AreWords ws t) : AreWords (w :: ws) (s ++ (w ++ t))

theorem AreWords.eq_words (h : AreWords ws s) : ws = words s := by
  induction h with
  | blank hs => rw [words_of_blank hs]
  | @word s w t ws hs hne hw hend _ ih =>
    rw [words_append_of_blank hs, ih]
    cases t with
    | nil =>
      rw [List.append_nil, words_of_no_blank hne hw]
      rfl
    | cons c t =>
      have hc : isBlank c = true := hend c rfl
      rw [words_append_cons hc, words_of_no_blank hne hw,
        show words (c :: t) = words t from words_append_cons hc [] t, List.singleton_append]

/-- A text that starts with no blank starts with a word, which goes up to a blank or the end. -/
theorem exists_word (hc : isBlank c = false) (s : Text) :
    ∃ w t, c :: s = w ++ t ∧ w ≠ [] ∧ (∀ d ∈ w, isBlank d = false) ∧
      ∀ d ∈ t.head?, isBlank d = true := by
  refine ⟨(c :: s).takeWhile (!isBlank ·), (c :: s).dropWhile (!isBlank ·),
    List.takeWhile_append_dropWhile.symm, by simp [hc], fun d hd => ?_, fun d hd => ?_⟩
  · simpa using List.all_eq_true.1 List.all_takeWhile d hd
  · have hstop := List.head?_dropWhile_not (!isBlank ·) (c :: s)
    rw [Option.mem_def.1 hd] at hstop
    simpa using hstop

theorem areWords_words (s : Text) : AreWords (words s) s := by
  rcases all_or_cut isBlank s with hs | ⟨before, c, r, hs, hbefore, hc⟩
  · rw [words_of_blank hs]
    exact .blank hs
  · obtain ⟨w, t, hcut, hne, hw, hend⟩ := exists_word hc r
    have hlength : t.length < s.length := by
      have := List.length_pos_iff.2 hne
      rw [hs, hcut, List.length_append, List.length_append]
      omega
    have hwords : AreWords (w :: words t) s := by
      rw [hs, hcut]
      exact .word hbefore hne hw hend (areWords_words t)
    rwa [← hwords.eq_words]
termination_by s.length

/-- The words of a text are the only texts that are its words. -/
theorem areWords_iff : AreWords ws s ↔ ws = words s :=
  ⟨AreWords.eq_words, fun h => h ▸ areWords_words s⟩

/-- The words stand in the text, are not empty and have no blanks. -/
theorem AreWords.of_mem (h : AreWords ws s) (hw : w ∈ ws) :
    w <:+: s ∧ w ≠ [] ∧ ∀ c ∈ w, isBlank c = false := by
  induction h with
  | blank => cases hw
  | @word s v t ws _ hne hv _ _ ih =>
    rcases List.mem_cons.1 hw with rfl | hw
    · exact ⟨⟨s, t, List.append_assoc _ _ _⟩, hne, hv⟩
    · obtain ⟨hstands, hword⟩ := ih hw
      exact ⟨(hstands.trans (List.suffix_append v t).isInfix).trans
        (List.suffix_append s _).isInfix, hword⟩

/-- A word of a text stands in it. -/
theorem infix_of_mem_words (h : w ∈ words s) : w <:+: s := ((areWords_words s).of_mem h).1

/-- A word has no blank, and it is not empty. -/
theorem no_blank_of_mem_words (h : w ∈ words s) : w ≠ [] ∧ ∀ c ∈ w, isBlank c = false :=
  ((areWords_words s).of_mem h).2

/-- Words with a space between neighbours are the words of the text they make. -/
theorem words_join (h : ∀ w ∈ ws, w ≠ [] ∧ ∀ c ∈ w, isBlank c = false) :
    words (join [' '] ws) = ws := by
  induction ws with
  | nil => rfl
  | cons w ws ih =>
    obtain ⟨⟨hne, hblank⟩, hws⟩ := List.forall_mem_cons.1 h
    cases ws with
    | nil => exact words_of_no_blank hne hblank
    | cons v ws =>
      rw [join, List.append_assoc, List.singleton_append, words_append_cons (by decide),
        words_of_no_blank hne hblank, ih hws, List.singleton_append]

end ClassScope.Text
