import ClassScope.Json.Printer
import ClassScope.Json.Reader
import Mathlib.Tactic.Common

/-!
# String literals

Both ways to write a string literal are read back. They differ in which characters they escape, and
the reader takes them all: a character may stand for itself, or there may be a one-letter escape for
it, the escape of its code unit or those of its two. Main statements:

- `Json.readString_literal`, `Json.readString_asciiLiteral`: the reader gives the text back and
  stops behind the closing quote, whatever stands there;
- `Json.isPrintableAscii_of_mem_asciiLiteral`: the characters of a literal of printable ASCII;
- `Json.infix_flatMap_asciiChar_iff`: what is made of characters that escapes leave alone stands in
  such a literal if it stands in the text.
-/

namespace ClassScope.Json

variable {c : Char} {n : Nat} {s part rest opening : Text}

/-! ## Code units -/

theorem hexValue?_hexDigit : ∀ n < 16, hexValue? (Text.hexDigit n) = some n := by decide

theorem hex_four (n : Nat) :
    Text.hex 4 n =
      [Text.hexDigit (n / 4096 % 16), Text.hexDigit (n / 256 % 16), Text.hexDigit (n / 16 % 16),
        Text.hexDigit (n % 16)] := by
  simp only [Text.hex, List.nil_append, List.cons_append, Nat.div_div_eq_div_mul, Nat.reduceMul]

/-- Four digits are read as the code unit they were written for, unless the text ends with them. -/
theorem codeUnit?_hex (hn : n < 0x10000) (hrest : rest ≠ []) :
    codeUnit? (Text.hex 4 n ++ rest) = some (n, rest) := by
  obtain ⟨c, rest, rfl⟩ := List.exists_cons_of_ne_nil hrest
  have hdigit (m : Nat) : hexValue? (Text.hexDigit (m % 16)) = some (m % 16) :=
    hexValue?_hexDigit _ (Nat.mod_lt _ (by decide))
  simp only [hex_four, List.cons_append, List.nil_append, codeUnit?, hdigit, Option.bind_eq_bind,
    Option.bind_some, Option.some.injEq, Prod.mk.injEq, and_true]
  omega

/-! ## Characters -/

/-- A part of a string literal stands for a character. -/
inductive Spells : Char → Text → Prop
  /-- A character that is no quote, no backslash and no control stands for itself. -/
  | plain {c : Char} (hquote : c ≠ '\x22') (hslash : c ≠ '\\') (hcontrol : 0x20 ≤ c.toNat) :
      Spells c [c]
  /-- A one-letter escape. -/
  | short {c e : Char} (h : escapedChar? e = some c) : Spells c ['\\', e]
  /-- The escape of the code unit. -/
  | unit {c : Char} (h : c.toNat < 0x10000) : Spells c (unitEscape c.toNat)
  /-- The escapes of the two code units of a character beyond 16 bits. -/
  | pair {c : Char} (h : 0x10000 ≤ c.toNat) :
      Spells c
        (unitEscape (0xd800 + (c.toNat - 0x10000) / 0x400) ++
          unitEscape (0xdc00 + (c.toNat - 0x10000) % 0x400))

/-- The short escape of a character stands for it. -/
theorem escapedChar?_of_shortEscape? {e : Char} (h : shortEscape? c = some e) :
    escapedChar? e = some c := by
  unfold shortEscape? at h
  split_ifs at h with h1 h2 h3 h4 h5 h6 h7
  all_goals
    cases h
    subst c
    rfl

/-- The characters that have no short escape are neither quotes nor backslashes. -/
theorem ne_of_shortEscape?_eq_none (h : shortEscape? c = none) : c ≠ '\x22' ∧ c ≠ '\\' := by
  constructor <;> rintro rfl <;> cases h

theorem spells_literalPoint (c : Char) : Spells c (literalPoint (.char c)) := by
  rw [literalPoint]
  split
  · exact .short (escapedChar?_of_shortEscape? ‹_›)
  · obtain ⟨hquote, hslash⟩ := ne_of_shortEscape?_eq_none ‹_›
    split
    · exact .unit (by omega)
    · exact .plain hquote hslash (by omega)

theorem spells_asciiChar (c : Char) : Spells c (asciiChar c) := by
  unfold asciiChar
  split
  · exact .short (escapedChar?_of_shortEscape? ‹_›)
  · obtain ⟨hquote, hslash⟩ := ne_of_shortEscape?_eq_none ‹_›
    dsimp only
    split_ifs with hplain hunit
    · exact .plain hquote hslash hplain.1
    · exact .unit hunit
    · exact .pair (by omega)

/-- The number of a character is no surrogate, and below 17 times 16 bits. -/
theorem toNat_bounds (c : Char) : (c.toNat < 0xd800 ∨ 0xdfff < c.toNat) ∧ c.toNat < 0x110000 := by
  have := c.valid
  simp only [UInt32.isValidChar, Nat.isValidChar] at this
  change _ ∧ c.val.toNat < _
  change (c.val.toNat < _ ∨ _ < c.val.toNat) ∧ _
  omega

/-- A code unit that is not the first of a pair stands for itself, whatever follows. -/
theorem readUnit_of_not_high {unit : Nat} (h : isHighUnit unit = false) (s : Text) :
    readUnit unit s = .ok (unitPoint unit, s) := by
  unfold readUnit
  rw [h]

theorem readEscape_unitEscape (hn : n < 0x10000) (hrest : rest ≠ []) :
    readEscape opening (unitEscape n ++ rest) = readUnit n rest := by
  rw [unitEscape, List.append_assoc, List.cons_append, List.cons_append, List.nil_append,
    readEscape, codeUnit?_hex hn hrest]

/-- A first code unit is put together with the second one behind it. -/
theorem readUnit_unitEscape {high low : Nat} (hhigh : isHighUnit high = true)
    (hlow : isLowUnit low = true) (hrest : rest ≠ []) :
    readUnit high (unitEscape low ++ rest) = .ok (.char (pairChar high low), rest) := by
  have hbound : low < 0x10000 := by
    simp only [isLowUnit, Bool.and_eq_true, decide_eq_true_eq] at hlow
    omega
  obtain ⟨c, rest, rfl⟩ := List.exists_cons_of_ne_nil hrest
  have hunit := codeUnit?_hex hbound (List.cons_ne_nil c rest)
  rw [hex_four, List.cons_append, List.cons_append, List.cons_append, List.cons_append,
    List.nil_append] at hunit
  rw [unitEscape, hex_four]
  simp only [List.cons_append, List.nil_append, readUnit, hhigh, hunit, hlow, if_true]

/-- A one-letter escape is read as the character that it stands for. -/
theorem readEscape_short {e : Char} (h : escapedChar? e = some c) (s : Text) :
    readEscape opening ('\\' :: e :: s) = .ok (.char c, s) := by
  unfold escapedChar? at h
  split at h <;> cases h <;> rfl

/-- An escape is read as the character that it stands for. -/
theorem readEscape_of_spells (h : Spells c part) (hpart : part ≠ [c]) (hrest : rest ≠ []) :
    readEscape opening (part ++ rest) = .ok (.char c, rest) := by
  obtain ⟨hsurrogate, hbound⟩ := toNat_bounds c
  cases h with
  | plain => exact absurd rfl hpart
  | short h => exact readEscape_short h rest
  | unit h =>
    have hhigh : isHighUnit c.toNat = false := by
      simp only [isHighUnit, Bool.and_eq_false_iff, decide_eq_false_iff_not]
      omega
    rw [readEscape_unitEscape h hrest, readUnit_of_not_high hhigh, unitPoint, if_neg (by omega),
      Char.ofNat_toNat]
  | pair h =>
    have hhigh : isHighUnit (0xd800 + (c.toNat - 0x10000) / 0x400) = true := by
      simp only [isHighUnit, Bool.and_eq_true, decide_eq_true_eq]
      omega
    have hlow : isLowUnit (0xdc00 + (c.toNat - 0x10000) % 0x400) = true := by
      simp only [isLowUnit, Bool.and_eq_true, decide_eq_true_eq]
      omega
    -- The two code units together give the number of the character.
    have hpair : 0x10000 + (0xd800 + (c.toNat - 0x10000) / 0x400 - 0xd800) * 0x400 +
        (0xdc00 + (c.toNat - 0x10000) % 0x400 - 0xdc00) = c.toNat := by
      omega
    rw [List.append_assoc, readEscape_unitEscape (by omega) (by simp [unitEscape]),
      readUnit_unitEscape hhigh hlow hrest, pairChar, hpair, Char.ofNat_toNat]

/-- A part of a literal is one character that stands for itself, or starts with a backslash. -/
theorem Spells.eq_or_escape (h : Spells c part) :
    (part = [c] ∧ c ≠ '\x22' ∧ c ≠ '\\' ∧ 0x20 ≤ c.toNat) ∨
      ∃ s, part = '\\' :: s ∧ part ≠ [c] := by
  cases h with
  | plain hquote hslash hcontrol => exact .inl ⟨rfl, hquote, hslash, hcontrol⟩
  | short => exact .inr ⟨_, rfl, by simp⟩
  | unit => exact .inr ⟨_, rfl, by simp [unitEscape]⟩
  | pair => exact .inr ⟨_, rfl, by simp [unitEscape]⟩

/-! ## Strings -/

/-- Reading a string goes on behind what stands for a character. -/
theorem readPoints_of_spells (h : Spells c part) (hrest : rest ≠ []) {text : WideText} {r : Text}
    (hread : readPoints opening rest = .ok (text, r)) :
    readPoints opening (part ++ rest) = .ok (.char c :: text, r) := by
  obtain ⟨rfl, hquote, hslash, hcontrol⟩ | ⟨s, hs, hpart⟩ := h.eq_or_escape
  · rw [List.singleton_append, readPoints, if_neg hquote, if_neg hslash, if_neg (by omega), hread]
  · -- The backslash tells the reader to read an escape.
    have hescape : readEscape opening (part ++ rest) = .ok (.char c, rest) :=
      readEscape_of_spells h hpart hrest
    rw [hs, List.cons_append] at hescape ⊢
    rw [readPoints, if_neg (by decide), if_pos rfl]
    split
    · rename_i heq
      rw [hescape] at heq
      cases heq
    · rename_i heq
      rw [hescape] at heq
      cases heq
      rw [hread]

/-- A text that is spelled character by character is read up to the closing quote. -/
theorem readPoints_flatMap {spell : Char → Text} (h : ∀ c, Spells c (spell c)) (s r : Text) :
    readPoints opening (s.flatMap spell ++ '\x22' :: r) = .ok (WideText.ofText s, r) := by
  induction s with
  | nil =>
    rw [List.flatMap_nil, List.nil_append, readPoints, if_pos rfl]
    rfl
  | cons c s ih =>
    rw [List.flatMap_cons, List.append_assoc]
    exact readPoints_of_spells (h c) (by simp) ih

/-- What stands behind the opening quote of a literal is read up to the closing one. -/
theorem readString_literal (s r : Text) :
    readString ((WideText.ofText s).flatMap literalPoint ++ '\x22' :: r) =
      .ok (WideText.ofText s, r) := by
  rw [WideText.ofText, List.flatMap_map]
  exact readPoints_flatMap spells_literalPoint s r

theorem readString_asciiLiteral (s r : Text) :
    readString (s.flatMap asciiChar ++ '\x22' :: r) = .ok (WideText.ofText s, r) :=
  readPoints_flatMap spells_asciiChar s r

/-! ## What stands in a literal

A literal of printable ASCII holds the text with some characters written as escapes. A character is
inert if it is never escaped and no escape has it for a part. What is made of inert characters
stands in the literal if it stands in the text. -/

/-- Printable ASCII. -/
def IsPrintableAscii (c : Char) : Prop := 0x20 ≤ c.toNat ∧ c.toNat ≤ 0x7e

instance (c : Char) : Decidable (IsPrintableAscii c) :=
  inferInstanceAs (Decidable (0x20 ≤ c.toNat ∧ c.toNat ≤ 0x7e))

/-- A character of printable ASCII that stands for itself and in no escape. -/
def IsInert (c : Char) : Prop :=
  IsPrintableAscii c ∧ c ≠ '\x22' ∧ c ≠ '\\' ∧ Text.isAsciiWord c = false

instance (c : Char) : Decidable (IsInert c) :=
  inferInstanceAs (Decidable (_ ∧ _ ∧ _ ∧ _))

/-- A character of printable ASCII that may be a part of an escape. -/
def IsEscapePart (c : Char) : Prop := IsPrintableAscii c ∧ ¬ IsInert c

instance (c : Char) : Decidable (IsEscapePart c) := inferInstanceAs (Decidable (_ ∧ ¬ _))

/-- What is to hold of all characters of a text can be checked one by one. -/
theorem forall_mem_of_all {p : Char → Prop} [DecidablePred p] {s : Text}
    (h : s.all (fun c => decide (p c)) = true) : ∀ c ∈ s, p c :=
  fun c hc => of_decide_eq_true (List.all_eq_true.1 h c hc)

theorem isEscapePart_hexDigit : ∀ n < 16, IsEscapePart (Text.hexDigit n) := by decide

theorem isEscapePart_of_mem_unitEscape {d : Char} (hd : d ∈ unitEscape n) : IsEscapePart d := by
  have hdigit (m : Nat) : IsEscapePart (Text.hexDigit (m % 16)) :=
    isEscapePart_hexDigit _ (Nat.mod_lt _ (by decide))
  simp only [unitEscape, hex_four, List.cons_append, List.nil_append, List.mem_cons,
    List.not_mem_nil, or_false] at hd
  rcases hd with rfl | rfl | rfl | rfl | rfl | rfl
  · decide
  · decide
  all_goals exact hdigit _

theorem not_isInert_of_shortEscape? {e : Char} (h : shortEscape? c = some e) : ¬ IsInert c := by
  unfold shortEscape? at h
  split_ifs at h
  all_goals
    subst c
    decide

theorem isEscapePart_of_shortEscape? {e : Char} (h : shortEscape? c = some e) :
    IsEscapePart e := by
  unfold shortEscape? at h
  split_ifs at h
  all_goals
    cases h
    decide

/-- A character stands for itself in printable ASCII, or an escape does for it, which has no inert
characters. -/
theorem asciiChar_eq_or (c : Char) :
    (asciiChar c = [c] ∧ IsPrintableAscii c) ∨
      (¬ IsInert c ∧ asciiChar c ≠ [] ∧ ∀ d ∈ asciiChar c, IsEscapePart d) := by
  unfold asciiChar
  split
  · rename_i e he
    refine .inr ⟨not_isInert_of_shortEscape? he, by simp, ?_⟩
    simp only [List.forall_mem_cons, List.not_mem_nil, IsEmpty.forall_iff, implies_true, and_true]
    exact ⟨by decide, isEscapePart_of_shortEscape? he⟩
  · dsimp only
    split_ifs with hplain hunit
    · exact .inl ⟨rfl, hplain.1, by omega⟩
    · -- An inert character would stand for itself.
      refine .inr ⟨fun hinert => hplain ⟨hinert.1.1, ?_⟩, by simp [unitEscape], ?_⟩
      · have := hinert.1.2
        omega
      · exact fun d hd => isEscapePart_of_mem_unitEscape hd
    · refine .inr ⟨fun hinert => hplain ⟨hinert.1.1, ?_⟩, by simp [unitEscape], ?_⟩
      · have := hinert.1.2
        omega
      · exact List.forall_mem_append.2 ⟨fun d hd => isEscapePart_of_mem_unitEscape hd,
          fun d hd => isEscapePart_of_mem_unitEscape hd⟩

/-- A literal of printable ASCII has no other characters. -/
theorem isPrintableAscii_of_mem_asciiLiteral (h : c ∈ asciiLiteral s) : IsPrintableAscii c := by
  simp only [asciiLiteral, List.mem_append, List.mem_singleton, List.mem_flatMap] at h
  rcases h with (rfl | ⟨d, -, hc⟩) | rfl
  · decide
  · rcases asciiChar_eq_or d with ⟨hd, hprintable⟩ | ⟨-, -, hparts⟩
    · rw [hd, List.mem_singleton] at hc
      exact hc ▸ hprintable
    · exact (hparts c hc).1
  · decide

/-- Inert characters start a spelled text where they start the text. -/
theorem prefix_flatMap_asciiChar_iff {w : Text} (hw : ∀ d ∈ w, IsInert d) :
    w <+: s.flatMap asciiChar ↔ w <+: s := by
  induction s generalizing w with
  | nil => simp
  | cons c s ih =>
    cases w with
    | nil => simp
    | cons d w =>
      obtain ⟨hd, hw⟩ := List.forall_mem_cons.1 hw
      rw [List.flatMap_cons]
      rcases asciiChar_eq_or c with ⟨hc, -⟩ | ⟨hc, hne, hparts⟩
      · rw [hc, List.singleton_append, List.cons_prefix_cons, List.cons_prefix_cons, ih hw]
      · -- Neither the escape nor what it stands for starts with an inert character.
        obtain ⟨e, part, hpart⟩ := List.exists_cons_of_ne_nil hne
        have he : ¬ IsInert e := (hparts e (hpart ▸ List.mem_cons_self)).2
        rw [hpart, List.cons_append, List.cons_prefix_cons, List.cons_prefix_cons]
        exact ⟨fun h => absurd (h.1 ▸ hd) he, fun h => absurd (h.1 ▸ hd) hc⟩

/-- What is made of inert characters does not start in a part without any. -/
theorem infix_append_of_not_isInert {w part : Text} (hne : w ≠ []) (hw : ∀ d ∈ w, IsInert d)
    (hpart : ∀ d ∈ part, ¬ IsInert d) : w <:+: part ++ rest ↔ w <:+: rest := by
  induction part with
  | nil => rfl
  | cons e part ih =>
    obtain ⟨he, hpart⟩ := List.forall_mem_cons.1 hpart
    obtain ⟨d, w, rfl⟩ := List.exists_cons_of_ne_nil hne
    have hd : IsInert d := hw d List.mem_cons_self
    rw [List.cons_append, List.infix_cons_iff, ih hpart, List.cons_prefix_cons]
    exact or_iff_right fun h => he (h.1 ▸ hd)

/-- Inert characters stand side by side in a spelled text where they do so in the text. -/
theorem infix_flatMap_asciiChar_iff {w : Text} (hne : w ≠ []) (hw : ∀ d ∈ w, IsInert d) :
    w <:+: s.flatMap asciiChar ↔ w <:+: s := by
  induction s with
  | nil => rfl
  | cons c s ih =>
    have hprefix := prefix_flatMap_asciiChar_iff (s := c :: s) hw
    rw [List.flatMap_cons] at hprefix ⊢
    rcases asciiChar_eq_or c with ⟨hc, -⟩ | ⟨hc, -, hparts⟩
    · rw [hc, List.singleton_append] at hprefix ⊢
      rw [List.infix_cons_iff, List.infix_cons_iff, ih, hprefix]
    · have hnot : ¬ w <+: c :: s := by
        obtain ⟨d, w, rfl⟩ := List.exists_cons_of_ne_nil hne
        rw [List.cons_prefix_cons]
        exact fun h => hc (h.1 ▸ hw d List.mem_cons_self)
      rw [infix_append_of_not_isInert hne hw fun d hd => (hparts d hd).2, ih, List.infix_cons_iff,
        or_iff_right hnot]

end ClassScope.Json
