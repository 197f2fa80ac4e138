import ClassScope.Proofs.Naming.Stylesheet

/-!
# Stylesheets character by character

The pass over a stylesheet scans for selectors and looks each name up. What it does can be said
without a scan: the scope goes between every point and a letter behind it, wherever that point
stands, and the names are the longest stretches of identifier characters from such letters on. A
name has no point, so a scan that jumps over the name passes over no place where another one starts.
Main statements:

- `Stylesheet.inScope_eq_insert`, `Stylesheet.find_selector`: the text and the names that the scan
  gives;
- `Stylesheet.rename_empty`: what the pass gives with a fresh registry, text and entries.
-/

namespace ClassScope.Stylesheet

open Registry (fullName)

variable {scope s t : Text}

/-- A name starts behind the character `c` if it is a point and a letter follows. -/
def startsName (c : Char) (s : Text) : Bool := c == '.' && s.head?.any Text.isAsciiLetter

/-- The stylesheet with the scope between every point and a letter behind it. -/
def insert (scope : Text) : Text → Text
  | [] => []
  | c :: s => c :: ((if startsName c s then scope else []) ++ insert scope s)

/-- The stretches of identifier characters that start with a letter behind a point, each as long as
can be. -/
def names : Text → List Text
  | [] => []
  | c :: s => (if startsName c s then [s.takeWhile isIdentifierChar] else []) ++ names s

/-- Whether a name starts behind a character depends on the next character only. -/
theorem startsName_congr {c : Char} (h : s.head? = t.head?) : startsName c s = startsName c t := by
  rw [startsName, startsName, h]

/-- A stylesheet starts as it did before. -/
theorem head?_insert (scope s : Text) : (insert scope s).head? = s.head? := by
  cases s with
  | nil => rfl
  | cons c s => rfl

/-! ## Stretches without a point -/

theorem insert_append (ht : '.' ∉ t) (s : Text) : insert scope (t ++ s) = t ++ insert scope s := by
  induction t with
  | nil => rfl
  | cons c t ih =>
    obtain ⟨hc, ht⟩ := not_or.1 (mt List.mem_cons.2 ht)
    have hstarts : startsName c (t ++ s) = false := by simp [startsName, Ne.symm hc]
    rw [List.cons_append, insert, hstarts, ih ht]
    rfl

theorem names_append (ht : '.' ∉ t) (s : Text) : names (t ++ s) = names s := by
  induction t with
  | nil => rfl
  | cons c t ih =>
    obtain ⟨hc, ht⟩ := not_or.1 (mt List.mem_cons.2 ht)
    have hstarts : startsName c (t ++ s) = false := by simp [startsName, Ne.symm hc]
    rw [List.cons_append, names, hstarts, ih ht]
    rfl

/-- An identifier has no point. -/
theorem not_point_mem {name : Text} (h : IsIdentifier name) : '.' ∉ name :=
  fun hmem => absurd (h.chars '.' hmem) (by decide)

/-! ## The scan -/

/-- No selector is read exactly where no name starts. -/
theorem startsName_of_not_read {c : Char} (h : selector.read none (c :: s) = none) :
    startsName c s = false := by
  rw [read_selector_cons] at h
  cases s with
  | nil => simp [startsName]
  | cons d s =>
    by_cases hc : c = '.'
    · rw [if_pos hc, readIdentifier?] at h
      by_cases letter : Text.isAsciiLetter d = true
      · rw [if_pos letter] at h
        cases h
      · simp [startsName, letter]
    · simp [startsName, hc]

/-- Behind the point of a selector that is read its name starts, which goes as far as it can. -/
theorem of_read_selector {name r : Text} (h : selector.read none s = some (name, r)) :
    s = '.' :: (name ++ r) ∧ IsIdentifier name ∧ startsName '.' (name ++ r) = true ∧
      (name ++ r).takeWhile isIdentifierChar = name := by
  obtain ⟨rfl, -⟩ := selector.sound h
  change readIdentifier? (name ++ r) = some (name, r) at h
  obtain ⟨hname, -, hend⟩ := readIdentifier?_eq_some_iff.1 h
  refine ⟨rfl, hname, ?_, ?_⟩
  · obtain ⟨letter, -⟩ := hname
    simpa [startsName] using letter
  · rw [List.takeWhile_append_of_pos hname.chars]
    cases r with
    | nil => simp
    | cons d r => simp [hend d rfl]

/-- The text that the scan gives is the stylesheet with the scope inserted. -/
theorem inScope_eq_insert (scope css : Text) : inScope (.text scope) css = insert scope css := by
  induction css using selector.scan_induction with
  | nil => simp [inScope, insert]
  | hit s name r hread ih =>
    obtain ⟨rfl, hname, hstarts, -⟩ := of_read_selector hread
    rw [inScope, Form.substitute_of_read contextFree_selector hread, ← inScope, ih, insert, hstarts,
      insert_append (not_point_mem hname)]
    simp [fullName, Setting.asText]
  | gap c s hread ih =>
    rw [inScope, Form.substitute_of_not_read contextFree_selector hread, ← inScope, ih, insert,
      startsName_of_not_read hread]
    rfl

/-- The names that the scan finds are the stretches behind the points, in their order. -/
theorem find_selector (css : Text) : selector.find css = names css := by
  induction css using selector.scan_induction with
  | nil => simp [names]
  | hit s name r hread ih =>
    obtain ⟨rfl, hname, hstarts, hlongest⟩ := of_read_selector hread
    rw [Form.find_of_read contextFree_selector hread, ih, names, hstarts, hlongest,
      names_append (not_point_mem hname)]
    rfl
  | gap c s hread ih =>
    rw [Form.find_of_not_read contextFree_selector hread, ih, names, startsName_of_not_read hread]
    rfl

/-! ## The pass -/

/-- With a fresh registry the pass over a stylesheet puts the scope between every point and a letter
behind it, and nothing else; it enters the stretches of identifier characters that start there, in
the order of their first occurrences, with their full names. -/
theorem rename_empty (scope css : Text) :
    rename css (.empty (.text scope)) =
      (insert scope css,
        ⟨.text scope, (names css).eraseDups.map fun name => (name, scope ++ name)⟩) := by
  rw [looksUp_rename (.text scope) css _ (Registry.valid_empty _) rfl, inScope_eq_insert,
    find_selector, Registry.enter_empty]
  rfl

/-- Decimals, doubled points and letters beyond ASCII are passed over. -/
example : insert (Text.of "p-") (Text.of ".a..b .5 .é .c") = Text.of ".p-a..p-b .5 .é .p-c" := by
  decide +kernel

end ClassScope.Stylesheet
