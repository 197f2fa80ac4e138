import ClassScope.Proofs.Json.RoundTrip
import ClassScope.Proofs.Naming.Cuts
import ClassScope.Site.NamingScript

/-!
# The naming script in a page

Where the script goes is said without the scan that looks for the place: behind the first opening
tag of a head, and in front of the markup if there is none. What it says is read back out of it:
each of its three literals stands for the scope, whatever characters the scope is made of. Main
statements:

- `Form.IsFirst`, `Form.exists_isFirst_or`: the first instance in a text, or there is none;
- `NamingScript.reads_headTag`: what is read as the opening tag of a head;
- `NamingScript.inject_cut`: the markup with a naming script, and that no second script is put in;
- `NamingScript.render_faithful`: the script of a text as a scope.
-/

namespace ClassScope

/-! ## The first instance -/

namespace Form

variable {σ α : Type} {form : Form σ α} {Valid : α → Prop} {front back s : List σ} {a : α} {c : σ}

/-- The instance stands in the text with `front` and `back` around it, and no valid instance starts
in front of it, wherever it would end. -/
structure IsFirst (form : Form σ α) (Valid : α → Prop) (front : List σ) (a : α) (back s : List σ) :
    Prop where
  /-- The text around the instance. -/
  text : s = front ++ (form.write a ++ back)
  /-- The instance is valid. -/
  valid : Valid a
  /-- No valid instance starts earlier. -/
  first : ∀ u b v, s = u ++ (form.write b ++ v) → Valid b → front.length ≤ u.length

/-- A valid instance stands nowhere in the text. -/
def IsAbsent (form : Form σ α) (Valid : α → Prop) (s : List σ) : Prop :=
  ∀ u b v, s = u ++ (form.write b ++ v) → ¬ Valid b

/-- An instance in a text that starts with another character stands behind that, unless it is at the
front. -/
theorem exists_of_cons_eq {u v : List σ} {b : α} (hfront : ¬ form.write b <+: c :: s)
    (h : c :: s = u ++ (form.write b ++ v)) :
    ∃ w, u = c :: w ∧ s = w ++ (form.write b ++ v) := by
  cases u with
  | nil => exact absurd ⟨v, h.symm⟩ hfront
  | cons d w =>
    obtain ⟨rfl, hs⟩ := List.cons.inj h
    exact ⟨w, rfl, hs⟩

theorem IsFirst.cons (hfront : ∀ b, Valid b → ¬ form.write b <+: c :: s)
    (h : form.IsFirst Valid front a back s) : form.IsFirst Valid (c :: front) a back (c :: s) := by
  refine ⟨by rw [h.text, List.cons_append], h.valid, fun u b v hu hb => ?_⟩
  obtain ⟨w, rfl, hw⟩ := exists_of_cons_eq (hfront b hb) hu
  exact Nat.succ_le_succ (h.first w b v hw hb)

theorem IsAbsent.cons (hfront : ∀ b, Valid b → ¬ form.write b <+: c :: s)
    (h : form.IsAbsent Valid s) : form.IsAbsent Valid (c :: s) := by
  intro u b v hu hb
  obtain ⟨w, -, hw⟩ := exists_of_cons_eq (hfront b hb) hu
  exact h w b v hw hb

/-- There is a first instance, or there is none at all. -/
theorem exists_isFirst_or (hne : ∀ a, form.write a ≠ []) (Valid : α → Prop) (s : List σ) :
    (∃ front a back, form.IsFirst Valid front a back s) ∨ form.IsAbsent Valid s := by
  induction s with
  | nil =>
    refine .inr fun u b v h _ => hne b ?_
    have hnil := List.append_eq_nil_iff.1 h.symm
    exact (List.append_eq_nil_iff.1 hnil.2).1
  | cons c s ih =>
    by_cases hfront : ∃ b, Valid b ∧ form.write b <+: c :: s
    · obtain ⟨b, hb, v, hv⟩ := hfront
      exact .inl ⟨[], b, v, hv.symm, hb, fun _ _ _ _ _ => Nat.zero_le _⟩
    · have hfront : ∀ b, Valid b → ¬ form.write b <+: c :: s := fun b hb h => hfront ⟨b, hb, h⟩
      rcases ih with ⟨front, a, back, h⟩ | h
      · exact .inl ⟨c :: front, a, back, h.cons hfront⟩
      · exact .inr (h.cons hfront)

/-- In a cut that starts with gaps and goes on with an instance, this is the first one. -/
theorem IsCut.isFirst {ps : List (Piece σ α)}
    (h : form.IsCut Valid (front.map .gap ++ .hit a :: ps) s) :
    form.IsFirst Valid front a (replacePieces form.write ps) s := by
  induction front generalizing s with
  | nil =>
    obtain ⟨r, rfl, ha, hr⟩ := isCut_hit_cons.1 h
    exact ⟨by rw [hr.text, List.nil_append], ha, fun _ _ _ _ _ => Nat.zero_le _⟩
  | cons c front ih =>
    obtain ⟨r, rfl, hfront, hr⟩ := isCut_gap_cons.1 h
    exact (ih hr).cons hfront

end Form

namespace NamingScript

theorem insertAfterFirst?_of_isFirst {σ α : Type} {form : Form σ α} {Valid : α → Prop}
    (hreads : form.Reads Valid) (added : List σ) {front back s : List σ} {a : α}
    (h : form.IsFirst Valid front a back s) (before : Option σ) :
    insertAfterFirst? form added (form.pieces before s) =
      some (front ++ (form.write a ++ (added ++ back))) := by
  induction front generalizing s before with
  | nil =>
    have hread := (hreads before s a back).2 ⟨h.text, h.valid⟩
    rw [form.pieces_of_read hread, insertAfterFirst?, form.write_pieces, List.nil_append,
      List.append_assoc]
  | cons c front ih =>
    obtain rfl : s = c :: (front ++ (form.write a ++ back)) := h.text
    -- Nothing is read at the front, where no instance may start.
    have hnone : form.read before (c :: (front ++ (form.write a ++ back))) = none :=
      (Form.ReadsAfter.read_eq_none_iff hreads).2 fun b hb ⟨r, hr⟩ =>
        absurd (h.first [] b r hr.symm hb) (Nat.not_succ_le_zero _)
    have hrest : form.IsFirst Valid front a back (front ++ (form.write a ++ back)) :=
      ⟨rfl, h.valid, fun u b v hu hb =>
        Nat.le_of_succ_le_succ (h.first (c :: u) b v (by rw [hu, List.cons_append]) hb)⟩
    rw [form.pieces_of_not_read hnone, insertAfterFirst?, ih hrest]
    rfl

theorem insertAfterFirst?_of_isAbsent {σ α : Type} {form : Form σ α} {Valid : α → Prop}
    (hreads : form.Reads Valid) (added : List σ) {s : List σ}
    (h : form.IsAbsent Valid s) (before : Option σ) :
    insertAfterFirst? form added (form.pieces before s) = none := by
  induction s generalizing before with
  | nil => rw [form.pieces_nil, insertAfterFirst?]
  | cons c s ih =>
    have hnone : form.read before (c :: s) = none :=
      (Form.ReadsAfter.read_eq_none_iff hreads).2 fun b hb ⟨r, hr⟩ => h [] b r hr.symm hb
    have hrest : form.IsAbsent Valid s := fun u b v hu =>
      h (c :: u) b v (by rw [hu, List.cons_append])
    rw [form.pieces_of_not_read hnone, insertAfterFirst?, ih hrest]
    rfl

/-! ## Opening tags -/

/-- The tag is that of a head in any letter case. Its name does not go on as a word, and it goes up
to the first end of a tag, perhaps on another line. -/
structure HeadTag.Valid (tag : HeadTag) : Prop where
  /-- The name of a head. -/
  name : tag.name.map CodePoint.toLower = WideText.of "head"
  /-- What is behind the name starts with no word character. -/
  boundary : ∀ c ∈ tag.attributes.head?, c.isWord = false
  /-- There is no end of a tag before the last character. -/
  attributes : .char '>' ∉ tag.attributes

theorem headTag_write_ne_nil (tag : HeadTag) : headTag.write tag ≠ [] :=
  List.cons_ne_nil _ _

/-- What is read as an opening tag is one. -/
theorem HeadTag.valid_of_read? {s r : WideText} {tag : HeadTag}
    (h : HeadTag.read? s = some (tag, r)) : tag.Valid := by
  unfold HeadTag.read? at h
  split at h
  · rename_i s
    simp only at h
    split at h
    · cases h
    · split at h
      · rename_i hname
        simp only [Option.some.injEq, Prod.mk.injEq] at h
        obtain ⟨rfl, rfl⟩ := h
        refine ⟨hname.1, fun c hc => ?_, fun hmem => ?_⟩
        · have hboundary := hname.2
          rw [Option.mem_def.1 hc] at hboundary
          simpa using hboundary
        · -- The attributes go up to the first end of a tag.
          have hend := List.all_eq_true.1 List.all_takeWhile _ hmem
          simp at hend
      · cases h
  · cases h

/-- The name of a head has four characters, in whatever case. -/
theorem HeadTag.Valid.length_name {tag : HeadTag} (h : tag.Valid) : tag.name.length = 4 := by
  have hlength := congrArg List.length h.name
  rwa [List.length_map, WideText.of, Text.of_eq_toList] at hlength

/-- An opening tag is read up to its end, whatever follows. -/
theorem HeadTag.Valid.read?_write_append {tag : HeadTag} (h : tag.Valid) (r : WideText) :
    HeadTag.read? (tag.write ++ r) = some (tag, r) := by
  have hlength := h.length_name
  obtain ⟨name, attributes⟩ := tag
  obtain ⟨hname, hboundary, hattributes⟩ := h
  have hpart : ∀ c ∈ attributes, decide (c ≠ CodePoint.char '>') = true := fun c hc =>
    decide_eq_true fun heq => hattributes (heq ▸ hc)
  have hword : ¬ attributes.head?.any CodePoint.isWord = true := by
    cases attributes with
    | nil => simp
    | cons c attributes => simpa using hboundary c rfl
  have htake : (name ++ (attributes ++ .char '>' :: r)).take 4 = name := by
    rw [← hlength, List.take_left]
  have hdrop : (name ++ (attributes ++ .char '>' :: r)).drop 4 = attributes ++ .char '>' :: r := by
    rw [← hlength, List.drop_left]
  simp only [HeadTag.write, List.append_assoc, List.cons_append, List.nil_append, HeadTag.read?,
    htake, hdrop, List.takeWhile_append_of_pos hpart, List.dropWhile_append_of_pos hpart]
  simp [hname, hword]

/-- What is read as an opening tag is one, and every one is read. -/
theorem HeadTag.read?_eq_some_iff {s r : WideText} {tag : HeadTag} :
    HeadTag.read? s = some (tag, r) ↔ s = tag.write ++ r ∧ tag.Valid := by
  constructor
  · intro h
    exact ⟨(headTag.sound (show headTag.read none s = some (tag, r) from h)).1,
      HeadTag.valid_of_read? h⟩
  · rintro ⟨rfl, h⟩
    exact h.read?_write_append r

theorem reads_headTag : headTag.Reads HeadTag.Valid := fun _ _ _ _ => HeadTag.read?_eq_some_iff

/-! ## The page -/

/-- A script can be told from other markup. -/
theorem assignment_infix_render (scope : Setting) : assignment <:+: render scope := by
  rw [render]
  simp only [List.append_assoc]
  exact ⟨Text.of "<script>", _, List.append_assoc _ _ _⟩

theorem inject_of_holds {html : WideText} (h : WideText.ofText assignment <:+: html)
    (scope : Setting) : inject scope html = html := by
  rw [inject, if_pos (Text.occurs_iff.2 h)]

theorem inject_of_isFirst {front back html : WideText} {tag : HeadTag}
    (hnew : ¬ WideText.ofText assignment <:+: html)
    (h : headTag.IsFirst HeadTag.Valid front tag back html) (scope : Setting) :
    inject scope html =
      front ++ (tag.write ++ (WideText.ofText (Text.of "\n    " ++ render scope) ++ back)) := by
  rw [inject, if_neg (mt Text.occurs_iff.1 hnew)]
  simp only [insertAfterFirst?_of_isFirst reads_headTag _ h]
  rfl

theorem inject_of_isAbsent {html : WideText} (hnew : ¬ WideText.ofText assignment <:+: html)
    (h : headTag.IsAbsent HeadTag.Valid html) (scope : Setting) :
    inject scope html = WideText.ofText (render scope ++ ['\n']) ++ html := by
  rw [inject, if_neg (mt Text.occurs_iff.1 hnew)]
  simp only [insertAfterFirst?_of_isAbsent reads_headTag _ h]

/-- A page with a naming script put in has one. -/
theorem assignment_infix_inject (scope : Setting) (html : WideText) :
    WideText.ofText assignment <:+: inject scope html := by
  have hscript := assignment_infix_render scope
  by_cases hnew : WideText.ofText assignment <:+: html
  · rwa [inject_of_holds hnew]
  rcases Form.exists_isFirst_or headTag_write_ne_nil HeadTag.Valid html with
    ⟨front, tag, back, hfirst⟩ | habsent
  · have hindented : assignment <:+: Text.of "\n    " ++ render scope :=
      hscript.trans (List.suffix_append _ _).isInfix
    rw [inject_of_isFirst hnew hfirst, ← List.append_assoc, ← List.append_assoc]
    exact (hindented.map .char).trans ⟨front ++ tag.write, back, rfl⟩
  · have hline : assignment <:+: render scope ++ ['\n'] :=
      hscript.trans (List.prefix_append _ _).isInfix
    rw [inject_of_isAbsent hnew habsent]
    exact (hline.map .char).trans (List.prefix_append _ html).isInfix

/-- Markup that has a naming script is kept. In other markup the script goes on a line of its own
behind the first opening tag of a head, or with a line end in front of all if there is no such tag;
one of the two is so. A second script, for whatever scope, is not put in. -/
theorem inject_cut (scope : Setting) (html : WideText) :
    (WideText.ofText assignment <:+: html → inject scope html = html) ∧
    (¬ WideText.ofText assignment <:+: html →
      (∀ front tag back, headTag.IsFirst HeadTag.Valid front tag back html →
        inject scope html = front ++ (tag.write ++
          (WideText.ofText (Text.of "\n    " ++ render scope) ++ back))) ∧
      (headTag.IsAbsent HeadTag.Valid html →
        inject scope html = WideText.ofText (render scope ++ ['\n']) ++ html)) ∧
    ((∃ front tag back, headTag.IsFirst HeadTag.Valid front tag back html) ∨
      headTag.IsAbsent HeadTag.Valid html) ∧
    ∀ other, inject other (inject scope html) = inject scope html := by
  refine ⟨fun h => inject_of_holds h scope, fun hnew => ⟨?_, ?_⟩, ?_, fun other => ?_⟩
  · intro front tag back hfirst
    exact inject_of_isFirst hnew hfirst scope
  · intro habsent
    exact inject_of_isAbsent hnew habsent scope
  · exact Form.exists_isFirst_or headTag_write_ne_nil HeadTag.Valid html
  · exact inject_of_holds (assignment_infix_inject scope html) other

/-- A header is no head, and the head that comes first counts, over a line end and in capitals. With
an empty scope, too, the script is put in once. -/
theorem inject_cut_header :
    let front := WideText.of "<header>"
    let tag : HeadTag := ⟨WideText.of "HEAD", WideText.of "\n lang='en'"⟩
    let back := WideText.of "<title></title></HEAD><head>"
    let html := front ++ (tag.write ++ back)
    let script := Text.of "\n    <script>window.__classNames=\x7bprefix:\"\",cls:" ++
      Text.of "function(n)\x7breturn \"\"+n\x7d,sel:function(n)\x7breturn \".\"+\"\"+n\x7d\x7d;" ++
      Text.of "</script>"
    let page := front ++ (tag.write ++ (WideText.ofText script ++ back))
    headTag.IsFirst HeadTag.Valid front tag back html ∧
      ¬ WideText.ofText assignment <:+: html ∧
      inject (.text []) html = page ∧ inject (.text (Text.of "p-")) page = page := by
  intro front tag back html script page
  have hfirst : headTag.IsFirst HeadTag.Valid front tag back html := by
    have hback := (reads_headTag.isCut_iff (s := back)).2 rfl
    have hcut : headTag.IsCut HeadTag.Valid
        (front.map .gap ++ .hit tag :: headTag.pieces none back) html :=
      reads_headTag.isCut_iff.2 (by decide +kernel)
    exact hback.text ▸ hcut.isFirst
  have hnew : ¬ WideText.ofText assignment <:+: html := by decide +kernel
  obtain ⟨-, hput, -, hagain⟩ := inject_cut (.text []) html
  have hpage : inject (.text []) html = page := by
    rw [(hput hnew).1 front tag back hfirst]
    decide +kernel
  exact ⟨hfirst, hnew, hpage, hpage ▸ hagain (.text (Text.of "p-"))⟩

/-! ## The script -/

/-- What stands in front of each literal of a script. -/
def heads : List Text :=
  [Text.of "<script>" ++ assignment ++ Text.of "\x7bprefix:", Text.of ",cls:function(n)\x7breturn ",
    Text.of "+n\x7d," ++ Text.of "sel:function(n)\x7breturn \".\"+"]

/-- What stands behind the last literal. -/
def ending : Text := Text.of "+n\x7d\x7d;</script>"

/-- A text with a literal behind each of some heads. -/
def withLiterals (scope : Text) (heads : List Text) : Text :=
  heads.flatMap (· ++ Json.asciiLiteral scope)

/-- The strings that stand behind some heads, and the text behind the last one. -/
def readLiterals : List Text → Text → Option (List WideText × Text)
  | [], s => some ([], s)
  | head :: heads, s =>
    match Text.after? head s with
    | some ('\x22' :: r) =>
      match Json.readString r with
      | .ok (value, r) => (readLiterals heads r).map fun (values, r) => (value :: values, r)
      | .error _ => none
    | _ => none

theorem render_text (scope : Text) : render (.text scope) = withLiterals scope heads ++ ending := by
  simp only [render, Setting.literal, withLiterals, heads, ending, List.flatMap_cons,
    List.flatMap_nil, List.append_nil, List.append_assoc]

/-- A literal with text around it. -/
theorem withLiterals_cons_append (scope head : Text) (heads : List Text) (rest : Text) :
    withLiterals scope (head :: heads) ++ rest =
      head ++ '\x22' :: (scope.flatMap Json.asciiChar ++
        '\x22' :: (withLiterals scope heads ++ rest)) := by
  simp only [withLiterals, List.flatMap_cons, Json.asciiLiteral, List.append_assoc,
    List.cons_append, List.nil_append]

/-- Each literal is read as the scope, and reading goes on behind it. -/
theorem readLiterals_withLiterals (scope : Text) (heads : List Text) (rest : Text) :
    readLiterals heads (withLiterals scope heads ++ rest) =
      some (heads.map fun _ => WideText.ofText scope, rest) := by
  induction heads with
  | nil => rfl
  | cons head heads ih =>
    rw [withLiterals_cons_append, readLiterals, Text.after?_append]
    simp only [Json.readString_asciiLiteral, ih, Option.map_some, List.map_cons]

/-- What is made of inert characters stands in such a text if it stands in a head, in the scope or
in what follows. -/
theorem infix_withLiterals_append_iff {w : Text} (hne : w ≠ []) (hw : ∀ d ∈ w, Json.IsInert d)
    (scope head : Text) (heads : List Text) (rest : Text) :
    w <:+: withLiterals scope (head :: heads) ++ rest ↔
      (∃ h ∈ head :: heads, w <:+: h) ∨ w <:+: scope ∨ w <:+: rest := by
  -- The quotes around the literals cut the text, and nothing inert goes over a quote.
  have hquote : '\x22' ∉ w := fun hmem => (hw _ hmem).2.1 rfl
  induction heads generalizing head with
  | nil =>
    rw [withLiterals_cons_append, Text.infix_append_cons_iff hne hquote,
      Text.infix_append_cons_iff hne hquote, Json.infix_flatMap_asciiChar_iff hne hw]
    simp [withLiterals]
  | cons other heads ih =>
    rw [withLiterals_cons_append, Text.infix_append_cons_iff hne hquote,
      Text.infix_append_cons_iff hne hquote, Json.infix_flatMap_asciiChar_iff hne hw]
    refine (or_congr_right (or_congr_right (ih other))).trans ?_
    simp only [List.mem_cons, exists_eq_or_imp]
    grind

/-- A script has no other characters than those of printable ASCII. -/
theorem isPrintableAscii_of_mem_render {scope : Text} {c : Char} (h : c ∈ render (.text scope)) :
    Json.IsPrintableAscii c := by
  have hheads : ∀ c ∈ heads.flatten, Json.IsPrintableAscii c :=
    Json.forall_mem_of_all (by decide +kernel)
  have hending : ∀ c ∈ ending, Json.IsPrintableAscii c :=
    Json.forall_mem_of_all (by decide +kernel)
  rw [render_text, List.mem_append, withLiterals, List.mem_flatMap] at h
  rcases h with ⟨head, hhead, h⟩ | h
  · rcases List.mem_append.1 h with h | h
    · exact hheads c (List.mem_flatten_of_mem hhead h)
    · exact Json.isPrintableAscii_of_mem_asciiLiteral h
  · exact hending c h

/-- What would end a script, and ends the script that is put in. -/
def closing : Text := Text.of "</"

theorem isInert_of_mem_closing : ∀ c ∈ closing, Json.IsInert c :=
  Json.forall_mem_of_all (by decide +kernel)

/-- Where the scope holds nothing that ends a script, the end of the script is the only place where
one ends. -/
theorem eq_of_render_eq_append {scope front back : Text} (hscope : ¬ closing <:+: scope)
    (h : render (.text scope) = front ++ (closing ++ back)) : back = Text.of "script>" := by
  have hclosing : closing = ['<', '/'] := Text.of_eq_toList _
  -- The script up to its last `<`.
  have hopen : ¬ closing <:+: withLiterals scope heads ++ Text.of "+n\x7d\x7d;<" := by
    rw [heads, infix_withLiterals_append_iff (by decide +kernel) isInert_of_mem_closing]
    rintro (hhead | hscope' | hrest)
    · exact absurd hhead (by decide +kernel)
    · exact hscope hscope'
    · exact absurd hrest (by decide +kernel)
  have hcut : front ++ '<' :: '/' :: back =
      (withLiterals scope heads ++ Text.of "+n\x7d\x7d;<") ++ '/' :: Text.of "script>" := by
    have hending : ending = Text.of "+n\x7d\x7d;<" ++ '/' :: Text.of "script>" := by
      decide +kernel
    rw [List.append_assoc, ← hending, ← render_text, h, hclosing]
    rfl
  exact Text.eq_of_append_pair (hclosing ▸ hopen) (by decide +kernel) hcut

/-- Where the scope holds something that ends a script, the first literal has it, and its closing
quote comes behind that. -/
theorem exists_render_eq_append {scope : Text} (hscope : closing <:+: scope) :
    ∃ front back, render (.text scope) = front ++ (closing ++ back) ∧ '\x22' ∈ back := by
  obtain ⟨u, v, huv⟩ :=
    (Json.infix_flatMap_asciiChar_iff (by decide +kernel) isInert_of_mem_closing).2 hscope
  refine ⟨Text.of "<script>" ++ assignment ++ Text.of "\x7bprefix:" ++ '\x22' :: u,
    v ++ '\x22' :: (withLiterals scope heads.tail ++ ending), ?_, by simp⟩
  rw [render_text, heads, withLiterals_cons_append, ← huv]
  simp only [List.append_assoc, List.cons_append, List.tail_cons]

/-- A script has the scope for the string of each of its three literals, and these are cut out of it
by what stands around them. It is made of printable ASCII, and it ends where it should unless the
scope could end a script by itself. Scripts of different scopes differ. -/
theorem render_faithful (scope : Text) :
    render (.text scope) = withLiterals scope heads ++ ending ∧
    Json.read (Json.asciiLiteral scope) = .ok (.ofText scope) ∧
    readLiterals heads (render (.text scope)) =
      some ([WideText.ofText scope, WideText.ofText scope, WideText.ofText scope], ending) ∧
    (∀ c ∈ render (.text scope), 0x20 ≤ c.toNat ∧ c.toNat ≤ 0x7e) ∧
    ((∀ front back, render (.text scope) = front ++ (closing ++ back) →
      back = Text.of "script>") ↔ ¬ closing <:+: scope) ∧
    ∀ other : Text, render (.text other) = render (.text scope) → other = scope := by
  have hread (s : Text) : readLiterals heads (render (.text s)) =
      some (heads.map fun _ => WideText.ofText s, ending) := by
    rw [render_text, readLiterals_withLiterals]
  refine ⟨render_text scope, Json.read_asciiLiteral scope, hread scope,
    fun c => isPrintableAscii_of_mem_render, ⟨fun h hscope => ?_, fun hscope front back => ?_⟩,
    fun other h => ?_⟩
  · obtain ⟨front, back, hrender, hquote⟩ := exists_render_eq_append hscope
    rw [h front back hrender] at hquote
    exact absurd hquote (by decide +kernel)
  · exact eq_of_render_eq_append hscope
  · have hother := hread other
    rw [h, hread scope] at hother
    simpa [heads, WideText.ofText_inj, eq_comm] using hother

/-- A quote, a backslash, controls, and characters of 8 and of more than 16 bits: the literal
escapes all of them, and they are read out of it. -/
theorem render_faithful_escapes :
    let scope := Text.of "\"\\\n\x7fé😀/"
    let literal := Text.of "\"\\\"\\\\\\n\\u007f\\u00e9\\ud83d\\ude00/\""
    ¬ closing <:+: scope ∧ Json.asciiLiteral scope = literal ∧
      Json.read literal = .ok (.ofText scope) ∧
      (∀ front back, render (.text scope) = front ++ (closing ++ back) →
        back = Text.of "script>") := by
  intro scope literal
  have hscope : ¬ closing <:+: scope := by decide +kernel
  have hliteral : Json.asciiLiteral scope = literal := by decide +kernel
  obtain ⟨-, hread, -, -, hend, -⟩ := render_faithful scope
  exact ⟨hscope, hliteral, hliteral ▸ hread, hend.2 hscope⟩

end NamingScript

end ClassScope
