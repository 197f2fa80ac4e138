import ClassScope.Proofs.Json.Depth
import ClassScope.Proofs.Json.Strings
import Mathlib.Tactic.Common

/-!
# Documents are read back

A document that is printed is read as the value it was printed for: the same nesting, order, strings
and numbers. Main statements:

- `Json.Readable`: the values of which this holds, with the room they take;
- `Json.Readable.readsBack`: the reader on a value that is printed at any level, with more text
  behind it;
- `Json.Readable.read_print`, `Json.read_asciiLiteral`: the reader on a document and on a literal of
  printable ASCII;
- `Json.Readable.not_mem_print`: no carriage return stands in a document, so the line ends of a file
  that holds one are kept.
-/

namespace ClassScope

/-- A value that is put under a new key comes last. -/
theorem Table.put_of_not_mem {κ β : Type} [DecidableEq κ] {key : κ} (value : β)
    {table : List (κ × β)} (h : key ∉ table.map Prod.fst) :
    put key value table = table ++ [(key, value)] := by
  induction table with
  | nil => rfl
  | cons entry table ih =>
    rw [List.map_cons, List.mem_cons, not_or] at h
    rw [put, if_neg (Ne.symm h.1), ih h.2, List.cons_append]

/-- Where no two keys are the same, each comes last when it is put in. -/
theorem Table.put_of_nodup {κ β : Type} [DecidableEq κ] {key : κ} {value : β}
    {table others : List (κ × β)} (h : ((table ++ (key, value) :: others).map Prod.fst).Nodup) :
    put key value table = table ++ [(key, value)] := by
  refine put_of_not_mem value fun hmem => ?_
  rw [List.map_append, List.nodup_append] at h
  exact h.2.2 key hmem key List.mem_cons_self rfl

namespace Json

variable {fuel room level : Nat} {v : Json} {s rest : Text}

/-! ## Space -/

theorem skipSpace_of_head {c : Char} (h : isSpace c = false) (s : Text) :
    skipSpace (c :: s) = c :: s :=
  List.dropWhile_cons_of_neg (by simp [h])

/-- A line feed and its indentation are space. -/
theorem skipSpace_newLine (level : Nat) (s : Text) :
    skipSpace (newLine level ++ s) = skipSpace s := by
  have hblank : ∀ c ∈ newLine level, isSpace c = true := by
    rw [newLine, List.forall_mem_cons]
    exact ⟨rfl, fun c hc => by rw [List.eq_of_mem_replicate hc]; rfl⟩
  exact List.dropWhile_append_of_pos hblank

/-- What may stand behind a value: nothing, a comma or a line end. None of these is a part of a
number. -/
def Stops (rest : Text) : Prop := ∀ c ∈ rest.head?, c = ',' ∨ c = '\n'

theorem stops_nil : Stops [] := nofun

theorem stops_comma (s : Text) : Stops (',' :: s) := by
  rintro c ⟨⟩
  exact .inl rfl

theorem stops_newLine (level : Nat) (s : Text) : Stops (newLine level ++ s) := by
  rintro c ⟨⟩
  exact .inr rfl

/-! ## Numbers -/

theorem isAsciiDigit_of_mem_toDigits {n : Nat} {c : Char} (h : c ∈ Nat.toDigits 10 n) :
    Text.isAsciiDigit c = true := by
  have hdigit := Nat.isDigit_of_mem_toDigits (by decide) (by decide) h
  simpa [Text.isAsciiDigit, Char.isDigit, Char.le_def] using hdigit

/-- The digits of a number stand for it. -/
theorem digitsValue_toDigits (n : Nat) : digitsValue (Nat.toDigits 10 n) = n := by
  have hvalue := Nat.ofDigitChars_toDigits (n := n) (b := 10) (by decide) (by decide)
  simp only [Nat.ofDigitChars, Nat.mul_comm 10] at hvalue
  exact hvalue

/-- A number but zero starts with another digit. -/
theorem head_toDigits_ne_zero {n : Nat} (hn : n ≠ 0) : (Nat.toDigits 10 n).head? ≠ some '0' := by
  induction n using Nat.strongRecOn with
  | ind n ih =>
    by_cases hsmall : n < 10
    · have hdigit : ∀ m < 10, m ≠ 0 → m.digitChar ≠ '0' := by decide
      rw [Nat.toDigits_of_lt_base hsmall]
      simpa using hdigit n hsmall hn
    · -- The last digit is put behind the others.
      have hfront := ih (n / 10) (by omega) (by omega)
      rw [Nat.toDigits_of_base_le (by decide) (by omega), List.head?_append]
      rwa [Option.or_of_isSome (by simp)]

theorem takeDigits_toDigits (n : Nat) (hrest : Stops rest) :
    takeDigits (Nat.toDigits 10 n ++ rest) = (Nat.toDigits 10 n, rest) := by
  have hdigits : ∀ c ∈ Nat.toDigits 10 n, Text.isAsciiDigit c = true :=
    fun c => isAsciiDigit_of_mem_toDigits
  rw [takeDigits, List.takeWhile_append_of_pos hdigits, List.dropWhile_append_of_pos hdigits]
  cases rest with
  | nil => simp
  | cons c rest =>
    have hc : Text.isAsciiDigit c = false := by
      rcases hrest c rfl with rfl | rfl <;> rfl
    simp [hc]

theorem readWhole?_toDigits (n : Nat) (hrest : Stops rest) :
    readWhole? (Nat.toDigits 10 n ++ rest) = some (Nat.toDigits 10 n, rest) := by
  by_cases hn : n = 0
  · rw [hn, Nat.toDigits_zero]
    rfl
  · have htake := takeDigits_toDigits n hrest
    have hhead := head_toDigits_ne_zero hn
    obtain ⟨c, digits, hdigits⟩ :=
      List.exists_cons_of_ne_nil (Nat.toDigits_ne_nil (n := n) (b := 10))
    rw [hdigits] at htake hhead ⊢
    rw [List.cons_append] at htake ⊢
    unfold readWhole?
    split
    · simp_all
    · simp [htake]

/-- No fraction and no exponent follow a number. -/
theorem readUnsigned?_toDigits (negative : Bool) {n : Nat}
    (hn : (Nat.toDigits 10 n).length ≤ digitLimit) (hrest : Stops rest) :
    readUnsigned? negative (Nat.toDigits 10 n ++ rest) =
      some (.ok (.int (if negative then -n else n)), rest) := by
  have hfraction : readFraction? rest = none := by
    cases rest with
    | nil => rfl
    | cons c rest => rcases hrest c rfl with rfl | rfl <;> rfl
  have hexponent : readExponent? rest = none := by
    cases rest with
    | nil => rfl
    | cons c rest => rcases hrest c rfl with rfl | rfl <;> rfl
  have hnumber : readWholeNumber (Nat.toDigits 10 n) = .ok n := by
    rw [readWholeNumber, if_neg (Nat.not_lt.2 hn), digitsValue_toDigits]
  unfold readUnsigned?
  simp [readWhole?_toDigits n hrest, hfraction, hexponent, hnumber]

/-- A whole number is read back. -/
theorem readNumber?_intText {n : Int} (hn : (Nat.toDigits 10 n.natAbs).length ≤ digitLimit)
    (hrest : Stops rest) : readNumber? (intText n ++ rest) = some (.ok (.int n), rest) := by
  have hread (negative : Bool) := readUnsigned?_toDigits negative hn hrest
  by_cases hsign : n < 0
  · rw [intText, if_pos hsign, List.singleton_append, List.cons_append, readNumber?, hread,
      if_pos rfl, show -(n.natAbs : Int) = n by omega]
  · rw [intText, if_neg hsign, List.nil_append]
    unfold readNumber?
    split
    · -- No digit is a sign.
      rename_i heq
      obtain ⟨c, digits, hdigits⟩ :=
        List.exists_cons_of_ne_nil (Nat.toDigits_ne_nil (n := n.natAbs) (b := 10))
      have hdigit : Text.isAsciiDigit c = true :=
        isAsciiDigit_of_mem_toDigits (hdigits ▸ List.mem_cons_self)
      rw [hdigits, List.cons_append, List.cons.injEq] at heq
      rw [heq.1] at hdigit
      cases hdigit
    · rw [hread, if_neg (by decide), show (n.natAbs : Int) = n by omega]

/-- A number starts with its sign or with a digit. -/
theorem exists_intText_eq (n : Int) :
    ∃ c s, intText n = c :: s ∧ (Text.isAsciiDigit c = true ∨
      c = '-' ∧ ∃ d t, s = d :: t ∧ Text.isAsciiDigit d = true) := by
  obtain ⟨c, digits, hdigits⟩ :=
    List.exists_cons_of_ne_nil (Nat.toDigits_ne_nil (n := n.natAbs) (b := 10))
  have hdigit : Text.isAsciiDigit c = true :=
    isAsciiDigit_of_mem_toDigits (hdigits ▸ List.mem_cons_self)
  rw [intText, hdigits]
  split
  · exact ⟨'-', c :: digits, rfl, .inr ⟨rfl, c, digits, rfl, hdigit⟩⟩
  · exact ⟨c, digits, rfl, .inl hdigit⟩

/-- A number is no named value. -/
theorem readNamed?_intText (n : Int) (rest : Text) : readNamed? (intText n ++ rest) = none := by
  obtain ⟨c, s, hs, hc | ⟨rfl, d, t, rfl, hd⟩⟩ := exists_intText_eq n
  · -- Named values start with letters or with a sign.
    have hletters : ∀ e ∈ ['n', 't', 'f', 'N', 'I', '-'], Text.isAsciiDigit e = false :=
      forall_mem_of_all rfl
    have hne : ∀ e ∈ ['n', 't', 'f', 'N', 'I', '-'], e ≠ c := by
      rintro e he rfl
      rw [hletters e he] at hc
      cases hc
    simp only [List.forall_mem_cons] at hne
    rw [hs]
    simp [readNamed?, names, Text.of_eq_toList, Text.after?, hne]
  · have hne : 'I' ≠ d := by
      rintro rfl
      cases hd
    rw [hs]
    simp [readNamed?, names, Text.of_eq_toList, Text.after?, hne]

/-! ## Values -/

/-- A value that is read as it was printed, with room for so many arrays and objects in one another:
it has no numbers but whole ones that are not too long, its strings are texts, and no two members of
an object have the same name. -/
inductive Readable : (room : Nat) → Json → Prop
  | null {room : Nat} : Readable room .null
  | bool {room : Nat} (b : Bool) : Readable room (.bool b)
  | int {room : Nat} {n : Int} (h : (Nat.toDigits 10 n.natAbs).length ≤ digitLimit) :
      Readable room (.int n)
  | text {room : Nat} (s : Text) : Readable room (.ofText s)
  | array {room : Nat} {items : List Json} (h : ∀ v ∈ items, Readable room v) :
      Readable (room + 1) (.array items)
  | object {room : Nat} {members : List (Text × Json)} (hnames : (members.map Prod.fst).Nodup)
      (h : ∀ m ∈ members, Readable room m.2) : Readable (room + 1) (.ofMembers members)

/-- The members of an object whose names are texts. -/
def wideMembers (members : List (Text × Json)) : List (WideText × Json) :=
  members.map fun (name, value) => (WideText.ofText name, value)

theorem wideMembers_cons (name : Text) (v : Json) (members : List (Text × Json)) :
    wideMembers ((name, v) :: members) = (WideText.ofText name, v) :: wideMembers members := rfl

theorem map_fst_wideMembers (members : List (Text × Json)) :
    (wideMembers members).map Prod.fst = (members.map Prod.fst).map WideText.ofText := by
  rw [wideMembers, List.map_map, List.map_map]
  rfl

/-- An array with an item is read item by item. -/
theorem readValue_bracket {items : List Json} (hfront : ∃ c t, skipSpace s = c :: t ∧ c ≠ ']')
    (hread : readItems fuel room (skipSpace s) = .ok (items, rest)) :
    readValue (fuel + 1) (room + 1) ('[' :: s) = .ok (.array items, rest) := by
  obtain ⟨c, t, hs, hne⟩ := hfront
  rw [readValue, hs]
  rw [hs] at hread
  split
  · rename_i heq
    exact absurd (List.cons.inj heq).1 hne
  · rw [hread]

/-- An object with a member is read member by member. -/
theorem readValue_brace {members : List (WideText × Json)}
    (hfront : ∃ t, skipSpace s = '\x22' :: t)
    (hread : readMembers fuel room [] (skipSpace s) = .ok (members, rest)) :
    readValue (fuel + 1) (room + 1) ('\x7b' :: s) = .ok (.object members, rest) := by
  obtain ⟨t, hs⟩ := hfront
  rw [readValue, hs]
  rw [hs] at hread
  split
  · rename_i heq
    cases (List.cons.inj heq).1
  · rw [hread]

/-- The reader gives a value back that is printed at any level, and stops behind it. -/
structure ReadsBack (room : Nat) (v : Json) : Prop where
  /-- The text starts neither with space nor with the end of an array nor with a byte-order mark. -/
  front : ∀ level, ∃ c s, printAt level v = c :: s ∧ isSpace c = false ∧ c ≠ ']' ∧ c ≠ '\ufeff'
  /-- As much fuel as there are characters is enough. -/
  value : ∀ {fuel level : Nat} {rest : Text}, Stops rest → (printAt level v).length ≤ fuel →
    readValue fuel room (printAt level v ++ rest) = .ok (v, rest)

namespace ReadsBack

theorem skipSpace_printAt (h : ReadsBack room v) (level : Nat) (rest : Text) :
    skipSpace (printAt level v ++ rest) = printAt level v ++ rest := by
  obtain ⟨c, s, hs, hc, -⟩ := h.front level
  rw [hs, List.cons_append, skipSpace_of_head hc]

/-- What is no array, no object and no string is read where it is found as a named value or as a
number. -/
theorem of_plain (hprint : ∀ level, printAt level v = s) {c : Char} {t : Text} (hs : s = c :: t)
    (hc : c ∉ [' ', '\t', '\n', '\r', ']', '\ufeff', '\x22', '[', '\x7b'])
    (hread : ∀ {rest}, Stops rest → readPlain (s ++ rest) = .ok (v, rest)) : ReadsBack room v := by
  simp only [List.mem_cons, List.not_mem_nil, or_false, not_or] at hc
  refine ⟨fun level => ⟨c, t, by rw [hprint, hs], by simp [isSpace, hc], by simp [hc]⟩, ?_⟩
  intro fuel level rest hrest hfuel
  rw [hprint] at hfuel ⊢
  obtain ⟨fuel, rfl⟩ : ∃ n, fuel = n + 1 :=
    Nat.exists_eq_add_one.2 (Nat.lt_of_lt_of_le (by rw [hs]; exact Nat.zero_lt_succ _) hfuel)
  have hhead : (s ++ rest).head? = some c := by rw [hs]; rfl
  rw [readValue_of_plain (by simp [hhead, hc]) (by simp [hhead, hc]) (by simp [hhead, hc]),
    hread hrest]

theorem null : ReadsBack room .null := by
  refine of_plain (s := Text.of "null") (fun _ => by rw [printAt]) (Text.of_eq_toList _)
    (by decide) ?_
  intro rest _
  simp [readPlain, readNamed?, names]

theorem bool (b : Bool) : ReadsBack room (.bool b) := by
  cases b
  · refine of_plain (s := Text.of "false") (fun _ => by rw [printAt]) (Text.of_eq_toList _)
      (by decide) ?_
    intro rest _
    simp [readPlain, readNamed?, names, Text.of_eq_toList, Text.after?]
  · refine of_plain (s := Text.of "true") (fun _ => by rw [printAt]) (Text.of_eq_toList _)
      (by decide) ?_
    intro rest _
    simp [readPlain, readNamed?, names, Text.of_eq_toList, Text.after?]

theorem int {n : Int} (hn : (Nat.toDigits 10 n.natAbs).length ≤ digitLimit) :
    ReadsBack room (.int n) := by
  obtain ⟨c, s, hs, hc⟩ := exists_intText_eq n
  refine of_plain (s := intText n) (fun _ => by rw [printAt]) hs ?_ ?_
  · have hdigit : ∀ e ∈ [' ', '\t', '\n', '\r', ']', '\ufeff', '\x22', '[', '\x7b'],
        Text.isAsciiDigit e = false ∧ e ≠ '-' := forall_mem_of_all rfl
    intro hmem
    rcases hc with hc | ⟨hc, -⟩
    · rw [(hdigit c hmem).1] at hc
      cases hc
    · exact (hdigit c hmem).2 hc
  · intro rest hrest
    rw [readPlain, readNamed?_intText, readNumber?_intText hn hrest]

theorem text (s : Text) : ReadsBack room (.ofText s) := by
  constructor
  · intro level
    exact ⟨'\x22', _, rfl, rfl, by decide, by decide⟩
  · intro fuel level rest _ hfuel
    have hread := readString_literal s rest
    rw [ofText, printAt, literal] at hfuel ⊢
    obtain ⟨fuel, rfl⟩ : ∃ n, fuel = n + 1 :=
      Nat.exists_eq_add_one.2 (Nat.lt_of_lt_of_le (by simp) hfuel)
    simp only [List.append_assoc, List.cons_append, List.nil_append, readValue, hread]

/-! ## Arrays -/

/-- The first item of those that are left is read, and then what is behind it. -/
theorem readItems_newLine (h : ReadsBack room v) (hrest : Stops rest)
    (hfuel : (printAt level v).length ≤ fuel) {result : Except Failure (List Json × Text)}
    (hresult :
      (match skipSpace rest with
      | ']' :: r => .ok ([v], r)
      | ',' :: r =>
        match readItems fuel room (skipSpace r) with
        | .error failure => .error failure
        | .ok (items, r) => .ok (v :: items, r)
      | r => fail .expectedComma r) = result) :
    readItems (fuel + 1) room (skipSpace (newLine level ++ (printAt level v ++ rest))) =
      result := by
  rw [skipSpace_newLine, h.skipSpace_printAt, readItems, h.value hrest hfuel]
  exact hresult

theorem readItems_printItems (below : Nat) (rest : Text) {items : List Json} :
    ∀ {fuel : Nat} {v : Json}, ReadsBack room v → (∀ w ∈ items, ReadsBack room w) →
      (printItems level (v :: items)).length ≤ fuel →
      readItems fuel room
          (skipSpace (printItems level (v :: items) ++ (newLine below ++ ']' :: rest))) =
        .ok (v :: items, rest) := by
  -- The induction is on the items behind the first one, which is read in one step of fuel.
  induction items with
  | nil =>
    intro fuel v hv _ hfuel
    rw [printItems, newLine, List.cons_append, List.length_cons, List.length_append] at hfuel
    obtain ⟨fuel, rfl⟩ : ∃ n, fuel = n + 1 := Nat.exists_eq_add_one.2 (by omega)
    rw [printItems, List.append_assoc]
    refine readItems_newLine hv (stops_newLine _ _) (by omega) ?_
    rw [skipSpace_newLine, skipSpace_of_head (by decide)]
    rfl
  | cons w items ih =>
    intro fuel v hv hitems hfuel
    obtain ⟨hw, hitems⟩ := List.forall_mem_cons.1 hitems
    simp only [printItems, newLine, List.cons_append, List.length_cons, List.length_append,
      List.length_nil] at hfuel
    obtain ⟨fuel, rfl⟩ : ∃ n, fuel = n + 1 := Nat.exists_eq_add_one.2 (by omega)
    have hothers := ih hw hitems
      (show (printItems level (w :: items)).length ≤ fuel by omega)
    simp only [printItems, List.append_assoc, List.cons_append, List.nil_append] at hothers ⊢
    refine readItems_newLine hv (stops_comma _) (by omega) ?_
    rw [skipSpace_of_head (by decide)]
    simp only [hothers]

/-- The first item does not start as the end of the array does. -/
theorem exists_skipSpace_printItems (h : ReadsBack room v) (level : Nat) (items : List Json)
    (rest : Text) :
    ∃ c s, skipSpace (printItems level (v :: items) ++ rest) = c :: s ∧ c ≠ ']' := by
  obtain ⟨t, ht⟩ : ∃ t, printItems level (v :: items) =
      newLine level ++ (printAt level v ++ t) := by
    cases items with
    | nil => exact ⟨[], by rw [printItems, List.append_nil]⟩
    | cons w items => exact ⟨_, by rw [printItems, List.append_assoc, List.append_assoc]⟩
  obtain ⟨c, s, hs, hc, hne, -⟩ := h.front level
  refine ⟨c, s ++ (t ++ rest), ?_, hne⟩
  rw [ht, hs, List.append_assoc, skipSpace_newLine, List.append_assoc, List.cons_append,
    skipSpace_of_head hc]

/-- An array of values that are read back is read back. -/
theorem array {items : List Json} (h : ∀ v ∈ items, ReadsBack room v) :
    ReadsBack (room + 1) (.array items) := by
  cases items with
  | nil =>
    constructor
    · intro level
      exact ⟨'[', [']'], by rw [printAt, Text.of_eq_toList]; rfl, rfl, by decide, by decide⟩
    · intro fuel level rest _ hfuel
      rw [printAt, Text.of_eq_toList] at hfuel ⊢
      obtain ⟨fuel, rfl⟩ : ∃ n, fuel = n + 1 :=
        Nat.exists_eq_add_one.2 (Nat.lt_of_lt_of_le (by decide) hfuel)
      rfl
  | cons v items =>
    obtain ⟨hv, hitems⟩ := List.forall_mem_cons.1 h
    constructor
    · intro level
      rw [printAt]
      exact ⟨'[', _, rfl, rfl, by decide, by decide⟩
    · intro fuel level rest _ hfuel
      simp only [printAt, List.cons_append, List.nil_append, List.length_cons, List.length_append,
        List.append_assoc] at hfuel ⊢
      obtain ⟨fuel, rfl⟩ : ∃ n, fuel = n + 1 := Nat.exists_eq_add_one.2 (by omega)
      exact readValue_bracket (exists_skipSpace_printItems hv _ items _)
        (readItems_printItems level rest hv hitems (by omega))

/-! ## Objects -/

/-- The next member is read, and then what is behind it. -/
theorem readMembers_newLine (h : ReadsBack room v) (hrest : Stops rest)
    (hfuel : (printAt level v).length ≤ fuel) {name : Text} {done : List (WideText × Json)}
    {result : Except Failure (List (WideText × Json) × Text)}
    (hresult :
      (match skipSpace rest with
      | '\x7d' :: r => .ok (Table.put (WideText.ofText name) v done, r)
      | ',' :: r =>
        readMembers fuel room (Table.put (WideText.ofText name) v done) (skipSpace r)
      | r => fail .expectedComma r) = result) :
    readMembers (fuel + 1) room done (skipSpace (newLine level ++
        (literal (WideText.ofText name) ++ (Text.of ": " ++ (printAt level v ++ rest))))) =
      result := by
  have hname := readString_literal name (':' :: ' ' :: (printAt level v ++ rest))
  have hcolon : skipSpace (':' :: ' ' :: (printAt level v ++ rest)) =
      ':' :: ' ' :: (printAt level v ++ rest) := skipSpace_of_head (by decide) _
  have hvalue : skipSpace (' ' :: (printAt level v ++ rest)) = printAt level v ++ rest :=
    h.skipSpace_printAt level rest
  rw [skipSpace_newLine, show Text.of ": " = [':', ' '] from Text.of_eq_toList _]
  simp only [literal, List.append_assoc, List.cons_append, List.nil_append]
  rw [skipSpace_of_head (by decide), readMembers, hname]
  simp only [hcolon, hvalue, h.value hrest hfuel]
  exact hresult

theorem readMembers_printMembers (below : Nat) (rest : Text) {members : List (Text × Json)} :
    ∀ {fuel : Nat} {name : Text} {v : Json} {done : List (WideText × Json)}, ReadsBack room v →
      (∀ m ∈ members, ReadsBack room m.2) →
      ((done ++ wideMembers ((name, v) :: members)).map Prod.fst).Nodup →
      (printMembers level (wideMembers ((name, v) :: members))).length ≤ fuel →
      readMembers fuel room done
          (skipSpace (printMembers level (wideMembers ((name, v) :: members)) ++
            (newLine below ++ '\x7d' :: rest))) =
        .ok (done ++ wideMembers ((name, v) :: members), rest) := by
  -- As for items, but what is read so far grows, and no name in it may come again.
  induction members with
  | nil =>
    intro fuel name v done hv _ hnames hfuel
    -- The name is new, so the member comes last.
    have hput := Table.put_of_nodup hnames
    simp only [wideMembers, List.map_cons, List.map_nil, printMembers, newLine, List.cons_append,
      List.length_cons, List.length_append] at hfuel
    obtain ⟨fuel, rfl⟩ : ∃ n, fuel = n + 1 := Nat.exists_eq_add_one.2 (by omega)
    simp only [wideMembers, List.map_cons, List.map_nil, printMembers, List.append_assoc]
    refine readMembers_newLine hv (stops_newLine _ _) (by omega) ?_
    rw [skipSpace_newLine, skipSpace_of_head (by decide)]
    simp only [hput]
  | cons m members ih =>
    intro fuel name v done hv hmembers hnames hfuel
    obtain ⟨other, w⟩ := m
    obtain ⟨hw, hmembers⟩ := List.forall_mem_cons.1 hmembers
    have hw : ReadsBack room w := hw
    have hput := Table.put_of_nodup hnames
    rw [wideMembers_cons, wideMembers_cons, printMembers, ← wideMembers_cons] at hfuel ⊢
    simp only [newLine, List.cons_append, List.length_cons, List.length_append,
      List.length_nil] at hfuel
    obtain ⟨fuel, rfl⟩ : ∃ n, fuel = n + 1 := Nat.exists_eq_add_one.2 (by omega)
    -- The member that was read is one of those done, for the names that are left.
    have hrest : ((done ++ [(WideText.ofText name, v)] ++
        wideMembers ((other, w) :: members)).map Prod.fst).Nodup := by
      rwa [List.append_assoc]
    have hothers := ih hw hmembers hrest
      (show (printMembers level (wideMembers ((other, w) :: members))).length ≤ fuel by omega)
    simp only [List.append_assoc, List.cons_append, List.nil_append] at hothers ⊢
    refine readMembers_newLine hv (stops_comma _) (by omega) ?_
    rw [skipSpace_of_head (by decide)]
    simp only [hput, hothers]

/-- The quote of the first name comes first. -/
theorem exists_skipSpace_printMembers (level : Nat) (name : WideText) (v : Json)
    (members : List (WideText × Json)) (rest : Text) :
    ∃ s, skipSpace (printMembers level ((name, v) :: members) ++ rest) = '\x22' :: s := by
  obtain ⟨t, ht⟩ : ∃ t, printMembers level ((name, v) :: members) =
      newLine level ++ '\x22' :: t := by
    cases members with
    | nil => exact ⟨_, by rw [printMembers, literal]; simp only [List.append_assoc]; rfl⟩
    | cons m members =>
      exact ⟨_, by rw [printMembers, literal]; simp only [List.append_assoc]; rfl⟩
  refine ⟨t ++ rest, ?_⟩
  rw [ht, List.append_assoc, skipSpace_newLine, List.cons_append, skipSpace_of_head (by decide)]

/-- An object with different names is read back if its values are. -/
theorem object {members : List (Text × Json)} (hnames : (members.map Prod.fst).Nodup)
    (h : ∀ m ∈ members, ReadsBack room m.2) : ReadsBack (room + 1) (.ofMembers members) := by
  change ReadsBack (room + 1) (.object (wideMembers members))
  cases members with
  | nil =>
    constructor
    · intro level
      exact ⟨'\x7b', ['\x7d'], rfl, rfl, by decide, by decide⟩
    · intro fuel level rest _ hfuel
      obtain ⟨fuel, rfl⟩ : ∃ n, fuel = n + 1 :=
        Nat.exists_eq_add_one.2 (Nat.lt_of_lt_of_le Nat.zero_lt_two hfuel)
      rfl
  | cons m members =>
    obtain ⟨name, v⟩ := m
    obtain ⟨hv, hmembers⟩ := List.forall_mem_cons.1 h
    have hv : ReadsBack room v := hv
    have hwide : ((wideMembers ((name, v) :: members)).map Prod.fst).Nodup := by
      rw [map_fst_wideMembers]
      exact List.pairwise_map.2 (hnames.imp fun hne heq => hne (WideText.ofText_inj.1 heq))
    constructor
    · intro level
      rw [wideMembers_cons, printAt]
      exact ⟨'\x7b', _, rfl, rfl, by decide, by decide⟩
    · intro fuel level rest _ hfuel
      rw [wideMembers_cons, printAt, ← wideMembers_cons] at hfuel ⊢
      simp only [List.cons_append, List.nil_append, List.length_cons, List.length_append,
        List.append_assoc] at hfuel ⊢
      obtain ⟨fuel, rfl⟩ : ∃ n, fuel = n + 1 := Nat.exists_eq_add_one.2 (by omega)
      exact readValue_brace (exists_skipSpace_printMembers ..)
        (readMembers_printMembers level rest hv hmembers hwide (by omega))

end ReadsBack

/-! ## Documents -/

/-- A text that is read to its end as a value is the document of the value. -/
theorem read_of_readValue (hmark : s.head? ≠ some '\ufeff') (hspace : skipSpace s = s)
    (hread : readValue (2 * s.length + 2) depthLimit s = .ok (v, [])) : read s = .ok v := by
  rw [read, if_neg hmark, hspace, hread]
  rfl

/-- No line end of a document is anything but a line feed. -/
theorem not_mem_newLine (level : Nat) : '\r' ∉ newLine level := by
  rw [newLine, List.mem_cons, not_or]
  exact ⟨by decide, fun h => absurd (List.eq_of_mem_replicate h) (by decide)⟩

/-- In a literal a carriage return is escaped. -/
theorem not_mem_literal (s : Text) : '\r' ∉ literal (WideText.ofText s) := by
  have hpoint (c : Char) : '\r' ∉ literalPoint (.char c) := by
    rw [literalPoint]
    split
    · rename_i e he
      have hpart := isEscapePart_of_shortEscape? he
      have hne : '\r' ≠ e := by
        rintro rfl
        exact absurd hpart (by decide)
      simp [hne]
    · rename_i hshort
      split
      · exact fun hmem => absurd (isEscapePart_of_mem_unitEscape hmem) (by decide)
      · rw [List.mem_singleton]
        rintro rfl
        cases hshort
  simp [literal, WideText.ofText, List.flatMap_map, hpoint]

theorem not_mem_printItems {items : List Json} (h : ∀ v ∈ items, ∀ level, '\r' ∉ printAt level v)
    (level : Nat) : '\r' ∉ printItems level items := by
  induction items with
  | nil => simp [printItems]
  | cons v items ih =>
    obtain ⟨hv, hitems⟩ := List.forall_mem_cons.1 h
    cases items with
    | nil => simp [printItems, not_mem_newLine, hv]
    | cons w items =>
      rw [printItems]
      simp [not_mem_newLine, hv, ih hitems]

theorem not_mem_printMembers {members : List (Text × Json)}
    (h : ∀ m ∈ members, ∀ level, '\r' ∉ printAt level m.2) (level : Nat) :
    '\r' ∉ printMembers level (wideMembers members) := by
  have hcolon : '\r' ∉ Text.of ": " := by
    rw [Text.of_eq_toList]
    decide
  induction members with
  | nil => simp [wideMembers, printMembers]
  | cons m members ih =>
    obtain ⟨name, v⟩ := m
    obtain ⟨hv, hmembers⟩ := List.forall_mem_cons.1 h
    cases members with
    | nil => simp [wideMembers, printMembers, not_mem_newLine, not_mem_literal, hcolon, hv]
    | cons other members =>
      rw [wideMembers_cons, wideMembers_cons, printMembers, ← wideMembers_cons]
      simp [not_mem_newLine, not_mem_literal, hcolon, hv, ih hmembers]

namespace Readable

/-- A value without long numbers, surrogates and names that are used twice is read back. -/
theorem readsBack (h : Readable room v) : ReadsBack room v := by
  induction h with
  | null => exact .null
  | bool b => exact .bool b
  | int h => exact .int h
  | text s => exact .text s
  | array _ ih => exact .array ih
  | object hnames _ ih => exact .object hnames ih

/-- No carriage return stands in the text of a value. -/
theorem not_mem_printAt (h : Readable room v) (level : Nat) : '\r' ∉ printAt level v := by
  induction h generalizing level with
  | null => rw [printAt, Text.of_eq_toList]; decide
  | bool b => cases b <;> (rw [printAt, Text.of_eq_toList]; decide)
  | @int _ n _ =>
    have hdigits : '\r' ∉ Nat.toDigits 10 n.natAbs := fun hmem => by
      cases isAsciiDigit_of_mem_toDigits hmem
    rw [printAt, intText, List.mem_append, not_or]
    refine ⟨?_, hdigits⟩
    split <;> decide
  | text s => exact not_mem_literal s
  | @array _ items _ ih =>
    cases items with
    | nil => rw [printAt, Text.of_eq_toList]; decide
    | cons v items =>
      rw [printAt]
      simp [not_mem_newLine, not_mem_printItems ih]
  | @object _ members _ _ ih =>
    cases members with
    | nil =>
      change '\r' ∉ ['\x7b', '\x7d']
      decide
    | cons m members =>
      change '\r' ∉ printAt level (.object (wideMembers (m :: members)))
      rw [wideMembers_cons, printAt, ← wideMembers_cons]
      simp [not_mem_newLine, not_mem_printMembers ih]

theorem not_mem_print (h : Readable room v) : '\r' ∉ print v := h.not_mem_printAt 0

/-- A document is read as the value it was printed for. -/
theorem read_print (h : Readable depthLimit v) : read (print v) = .ok v := by
  obtain ⟨c, s, hs, -, -, hc⟩ := h.readsBack.front 0
  have hvalue := h.readsBack.value stops_nil
    (show (printAt 0 v).length ≤ 2 * (print v).length + 2 by rw [print]; omega)
  have hskip := h.readsBack.skipSpace_printAt 0 []
  rw [List.append_nil] at hvalue hskip
  refine read_of_readValue ?_ hskip hvalue
  rw [print, hs]
  simpa using hc

end Readable

/-- A literal of printable ASCII is the document of its text. -/
theorem read_asciiLiteral (s : Text) : read (asciiLiteral s) = .ok (.ofText s) := by
  have hread := readString_asciiLiteral s []
  refine read_of_readValue (show some '\x22' ≠ some '\ufeff' by decide) rfl ?_
  show readValue _ _ ('\x22' :: (s.flatMap asciiChar ++ ['\x22'])) = _
  simp only [readValue, hread]
  rfl

end Json

end ClassScope
