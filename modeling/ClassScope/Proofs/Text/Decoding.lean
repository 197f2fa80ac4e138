import ClassScope.Text.Lines
import ClassScope.Text.Utf8
import ClassScope.Proofs.Outcome

/-!
# Texts from bytes

The bytes of a text are read back as the text. The other way round, what is read of some bytes has
these bytes only if they are well-formed and have no carriage returns. Main statements:

- `Utf8.decodeLenient_encode`: the bytes of a text are read back;
- `Utf8.decode_eq_ok_iff`: the bytes that are well-formed are those of texts;
- `Utf8.encode_fileText_eq_iff`: the bytes that are those of what is read of them.
-/

namespace ClassScope

/-! ## Line ends -/

/-- No carriage return is left where line ends are line feeds. -/
theorem Text.not_mem_unifyLineEnds (s : Text) : '\r' ∉ unifyLineEnds s := by
  fun_induction unifyLineEnds s with
  | case1 => exact List.not_mem_nil
  | case2 s ih => simpa using ih
  | case3 c s h ih =>
    rw [List.mem_cons, not_or]
    refine ⟨?_, ih⟩
    split
    · decide
    · exact Ne.symm ‹_›

namespace Utf8

variable {bits width w n : Nat} {c : Char} {bytes : List UInt8}

/-! ## Characters -/

/-- A byte that may continue a sequence brings its six bits. -/
theorem chunkFrom_cons {bits width n : Nat} {range : Nat × Nat} (hn : n < 64)
    (hrange : range.1 ≤ 0x80 + n ∧ 0x80 + n ≤ range.2) (ranges : List (Nat × Nat))
    (bytes : List UInt8) :
    chunkFrom bits width (range :: ranges) (.ofNat (0x80 + n) :: bytes) =
      chunkFrom (bits * 64 + n) (width + 1) ranges bytes := by
  have hbyte : (UInt8.ofNat (0x80 + n)).toNat = 0x80 + n :=
    UInt8.toNat_ofNat_of_lt (Nat.lt_of_lt_of_le (Nat.add_lt_add_left hn _) (by decide))
  rw [chunkFrom, hbyte, if_pos hrange, Nat.add_sub_cancel_left]

/-- The first byte of a sequence of one. -/
theorem first_one : ∀ n < 128,
    continuations (.ofNat n) = some [] ∧ payload (.ofNat n) = n := by
  decide

/-- The first byte of a sequence of two. -/
theorem first_two : ∀ k < 32, 2 ≤ k →
    continuations (.ofNat (0xc0 + k)) = some [(0x80, 0xbf)] ∧ payload (.ofNat (0xc0 + k)) = k := by
  decide

/-- The first byte of a sequence of three. The second byte keeps short characters and surrogates
out. -/
theorem first_three : ∀ k < 16,
    continuations (.ofNat (0xe0 + k)) =
        some [(if k = 0 then 0xa0 else 0x80, if k = 13 then 0x9f else 0xbf), (0x80, 0xbf)] ∧
      payload (.ofNat (0xe0 + k)) = k := by
  decide

/-- The first byte of a sequence of four. The second byte keeps short characters and numbers out
that are too large for one. -/
theorem first_four : ∀ k < 5,
    continuations (.ofNat (0xf0 + k)) =
        some [(if k = 0 then 0x90 else 0x80, if k = 4 then 0x8f else 0xbf), (0x80, 0xbf),
          (0x80, 0xbf)] ∧
      payload (.ofNat (0xf0 + k)) = k := by
  decide

/-- No sequence starts with a byte that continues one, or with one of the next two. -/
theorem not_first_low : ∀ k < 66, continuations (.ofNat (0x80 + k)) = none := by
  decide

/-- No sequence starts with one of the last bytes. -/
theorem not_first_high : ∀ k < 11, continuations (.ofNat (0xf5 + k)) = none := by
  decide

/-- A byte starts a sequence of one to four, or none. -/
theorem first_cases (b : UInt8) :
    (∃ n < 128, b = .ofNat n) ∨ (∃ k < 32, 2 ≤ k ∧ b = .ofNat (0xc0 + k)) ∨
      (∃ k < 16, b = .ofNat (0xe0 + k)) ∨ (∃ k < 5, b = .ofNat (0xf0 + k)) ∨
      continuations b = none := by
  obtain ⟨n, hn, rfl⟩ : ∃ n < 256, b = .ofNat n := ⟨b.toNat, b.toNat_lt, UInt8.ofNat_toNat.symm⟩
  obtain h | ⟨hlow, h⟩ | ⟨hlow, h⟩ | ⟨hlow, h⟩ | ⟨hlow, h⟩ | hlow :
      n < 128 ∨ 128 ≤ n ∧ n < 194 ∨ 194 ≤ n ∧ n < 224 ∨ 224 ≤ n ∧ n < 240 ∨
        240 ≤ n ∧ n < 245 ∨ 245 ≤ n := by
    omega
  · exact .inl ⟨n, h, rfl⟩
  · obtain ⟨k, rfl⟩ := Nat.exists_eq_add_of_le hlow
    exact .inr (.inr (.inr (.inr (not_first_low k (by omega)))))
  · obtain ⟨k, rfl⟩ := Nat.exists_eq_add_of_le hlow
    exact .inr (.inl ⟨2 + k, by omega, by omega, by rw [← Nat.add_assoc]⟩)
  · obtain ⟨k, rfl⟩ := Nat.exists_eq_add_of_le hlow
    exact .inr (.inr (.inl ⟨k, by omega, rfl⟩))
  · obtain ⟨k, rfl⟩ := Nat.exists_eq_add_of_le hlow
    exact .inr (.inr (.inr (.inl ⟨k, by omega, rfl⟩)))
  · obtain ⟨k, rfl⟩ := Nat.exists_eq_add_of_le hlow
    exact .inr (.inr (.inr (.inr (not_first_high k (by omega)))))

/-- The bytes of a character are the chunk of the character. -/
theorem chunkAt_encodeChar (c : Char) (bytes : List UInt8) :
    ∃ first others, encodeChar c = first :: others ∧
      chunkAt first (others ++ bytes) = .char c (others.length + 1) := by
  have hvalid : c.toNat < 0xd800 ∨ 0xdfff < c.toNat ∧ c.toNat < 0x110000 := c.valid
  have hc : Char.ofNat c.toNat = c := Char.ofNat_toNat c
  unfold encodeChar
  revert hvalid hc
  generalize c.toNat = n
  intro hvalid hc
  dsimp only
  -- The code point is the bits of the bytes put together again.
  split
  · rename_i hone
    obtain ⟨hranges, hbits⟩ := first_one n hone
    refine ⟨_, _, rfl, ?_⟩
    rw [chunkAt, hranges, hbits]
    dsimp only
    rw [chunkFrom, hc, List.length_nil]
  · split
    · rename_i hone htwo
      obtain ⟨hranges, hbits⟩ := first_two (n / 64) (by omega) (by omega)
      have hn : n / 64 * 64 + n % 64 = n := by omega
      refine ⟨_, _, rfl, ?_⟩
      rw [chunkAt, hranges, hbits]
      dsimp only
      rw [List.cons_append, chunkFrom_cons (by omega) (by omega), chunkFrom, hn, hc]
      rfl
    · split
      · rename_i hone htwo hthree
        obtain ⟨hranges, hbits⟩ := first_three (n / 4096) (by omega)
        have hn : (n / 4096 * 64 + n / 64 % 64) * 64 + n % 64 = n := by omega
        refine ⟨_, _, rfl, ?_⟩
        rw [chunkAt, hranges, hbits]
        dsimp only
        rw [List.cons_append, chunkFrom_cons (by omega) (by dsimp only; split <;> split <;> omega),
          List.cons_append, chunkFrom_cons (by omega) (by omega), chunkFrom, hn, hc]
        rfl
      · rename_i hone htwo hthree
        obtain ⟨hranges, hbits⟩ := first_four (n / 262144) (by omega)
        have hn : ((n / 262144 * 64 + n / 4096 % 64) * 64 + n / 64 % 64) * 64 + n % 64 = n := by
          omega
        refine ⟨_, _, rfl, ?_⟩
        rw [chunkAt, hranges, hbits]
        dsimp only
        rw [List.cons_append, chunkFrom_cons (by omega) (by dsimp only; split <;> split <;> omega),
          List.cons_append, chunkFrom_cons (by omega) (by omega), List.cons_append,
          chunkFrom_cons (by omega) (by omega), chunkFrom, hn, hc]
        rfl

/-- A byte that continues a sequence brings six bits. -/
theorem exists_of_chunkFrom_cons {range : Nat × Nat} {ranges : List (Nat × Nat)}
    (hlow : 0x80 ≤ range.1) (hhigh : range.2 ≤ 0xbf)
    (h : chunkFrom bits width (range :: ranges) bytes = .char c w) :
    ∃ n rest, n < 64 ∧ range.1 ≤ 0x80 + n ∧ 0x80 + n ≤ range.2 ∧
      bytes = .ofNat (0x80 + n) :: rest ∧
      chunkFrom (bits * 64 + n) (width + 1) ranges rest = .char c w := by
  cases bytes with
  | nil => cases h
  | cons b rest =>
    rw [chunkFrom] at h
    split at h
    · have hb : 0x80 + (b.toNat - 0x80) = b.toNat := by omega
      refine ⟨b.toNat - 0x80, rest, by omega, by omega, by omega, ?_, h⟩
      rw [hb, UInt8.ofNat_toNat]
    · cases h

/-- The bytes of the character with some number. -/
theorem encodeChar_ofNat (hn : n.isValidChar) :
    encodeChar (Char.ofNat n) =
      if n < 0x80 then [.ofNat n]
      else if n < 0x800 then [.ofNat (0xc0 + n / 64), .ofNat (0x80 + n % 64)]
      else if n < 0x10000 then
        [.ofNat (0xe0 + n / 4096), .ofNat (0x80 + n / 64 % 64), .ofNat (0x80 + n % 64)]
      else
        [.ofNat (0xf0 + n / 262144), .ofNat (0x80 + n / 4096 % 64), .ofNat (0x80 + n / 64 % 64),
          .ofNat (0x80 + n % 64)] := by
  have hnumber : (Char.ofNat n).toNat = n := by
    rw [Char.ofNat, dif_pos hn]
    rfl
  rw [encodeChar, hnumber]

/-- The bits of two bytes are those of a character with these bytes. -/
theorem encodeChar_two {k x : Nat} (hk : k < 32) (hlow : 2 ≤ k) (hx : x < 64) :
    encodeChar (Char.ofNat (k * 64 + x)) = [.ofNat (0xc0 + k), .ofNat (0x80 + x)] := by
  have hfirst : (k * 64 + x) / 64 = k := by omega
  have hlast : (k * 64 + x) % 64 = x := by omega
  rw [encodeChar_ofNat (.inl (by omega)), if_neg (by omega), if_pos (by omega), hfirst, hlast]

/-- The bits of three bytes are those of a character with these bytes, unless they are those of a
shorter one or of a surrogate. -/
theorem encodeChar_three {k x y : Nat} (hk : k < 16) (hx : x < 64) (hy : y < 64)
    (hlow : k = 0 → 0x20 ≤ x) (hhigh : k = 13 → x < 0x20) :
    encodeChar (Char.ofNat ((k * 64 + x) * 64 + y)) =
      [.ofNat (0xe0 + k), .ofNat (0x80 + x), .ofNat (0x80 + y)] := by
  have hvalid : ((k * 64 + x) * 64 + y).isValidChar := by
    rw [Nat.isValidChar]
    omega
  have hfirst : ((k * 64 + x) * 64 + y) / 4096 = k := by omega
  have hmiddle : ((k * 64 + x) * 64 + y) / 64 % 64 = x := by omega
  have hlast : ((k * 64 + x) * 64 + y) % 64 = y := by omega
  rw [encodeChar_ofNat hvalid, if_neg (by omega), if_neg (by omega), if_pos (by omega), hfirst,
    hmiddle, hlast]

/-- The bits of four bytes are those of a character with these bytes, unless they are those of a
shorter one or too large. -/
theorem encodeChar_four {k x y z : Nat} (hk : k < 5) (hx : x < 64) (hy : y < 64) (hz : z < 64)
    (hlow : k = 0 → 0x10 ≤ x) (hhigh : k = 4 → x < 0x10) :
    encodeChar (Char.ofNat (((k * 64 + x) * 64 + y) * 64 + z)) =
      [.ofNat (0xf0 + k), .ofNat (0x80 + x), .ofNat (0x80 + y), .ofNat (0x80 + z)] := by
  have hvalid : (((k * 64 + x) * 64 + y) * 64 + z).isValidChar := by
    rw [Nat.isValidChar]
    omega
  have hfirst : (((k * 64 + x) * 64 + y) * 64 + z) / 262144 = k := by omega
  have hsecond : (((k * 64 + x) * 64 + y) * 64 + z) / 4096 % 64 = x := by omega
  have hthird : (((k * 64 + x) * 64 + y) * 64 + z) / 64 % 64 = y := by omega
  have hlast : (((k * 64 + x) * 64 + y) * 64 + z) % 64 = z := by omega
  rw [encodeChar_ofNat hvalid, if_neg (by omega), if_neg (by omega), if_neg (by omega), hfirst,
    hsecond, hthird, hlast]

/-- A character that is read stands there with its bytes. -/
theorem exists_of_chunkAt {first : UInt8} (h : chunkAt first bytes = .char c w) :
    ∃ others rest, bytes = others ++ rest ∧ encodeChar c = first :: others ∧
      w = others.length + 1 := by
  unfold chunkAt at h
  -- The bits of the bytes are those of the character's number, so the number gives the bytes back.
  rcases first_cases first with
    ⟨n, hn, rfl⟩ | ⟨k, hk, hlow, rfl⟩ | ⟨k, hk, rfl⟩ | ⟨k, hk, rfl⟩ | hnone
  · obtain ⟨hranges, hbits⟩ := first_one n hn
    simp only [hranges, hbits, chunkFrom] at h
    cases h
    refine ⟨[], bytes, rfl, ?_, rfl⟩
    rw [encodeChar_ofNat (.inl (by omega)), if_pos hn]
  · obtain ⟨hranges, hbits⟩ := first_two k hk hlow
    simp only [hranges, hbits] at h
    obtain ⟨x, rest, hx, -, -, rfl, hlast⟩ := exists_of_chunkFrom_cons (by decide) (by decide) h
    cases hlast
    exact ⟨[_], rest, rfl, encodeChar_two hk hlow hx, rfl⟩
  · obtain ⟨hranges, hbits⟩ := first_three k hk
    simp only [hranges, hbits] at h
    obtain ⟨x, rest, hx, hlow, hhigh, rfl, hnext⟩ := exists_of_chunkFrom_cons
      (by dsimp only; split <;> decide) (by dsimp only; split <;> decide) h
    obtain ⟨y, rest, hy, -, -, rfl, hlast⟩ :=
      exists_of_chunkFrom_cons (by decide) (by decide) hnext
    cases hlast
    exact ⟨[_, _], rest, rfl, encodeChar_three hk hx hy (by grind) (by grind), rfl⟩
  · obtain ⟨hranges, hbits⟩ := first_four k hk
    simp only [hranges, hbits] at h
    obtain ⟨x, rest, hx, hlow, hhigh, rfl, hnext⟩ := exists_of_chunkFrom_cons
      (by dsimp only; split <;> decide) (by dsimp only; split <;> decide) h
    obtain ⟨y, rest, hy, -, -, rfl, hthird⟩ :=
      exists_of_chunkFrom_cons (by decide) (by decide) hnext
    obtain ⟨z, rest, hz, -, -, rfl, hlast⟩ :=
      exists_of_chunkFrom_cons (by decide) (by decide) hthird
    cases hlast
    exact ⟨[_, _, _], rest, rfl, encodeChar_four hk hx hy hz (by grind) (by grind), rfl⟩
  · rw [hnone] at h
    cases h

/-! ## Texts -/

/-- Bytes that are skipped may be left out. -/
theorem chunksAfter_append (others bytes : List UInt8) :
    chunksAfter others.length (others ++ bytes) = chunks bytes := by
  induction others with
  | nil => rfl
  | cons b others ih =>
    rw [List.length_cons, List.cons_append, chunksAfter, ih]

/-- The bytes of a character in front are its chunk. -/
theorem chunks_encodeChar_append (c : Char) (bytes : List UInt8) :
    chunks (encodeChar c ++ bytes) = .char c (encodeChar c).length :: chunks bytes := by
  obtain ⟨first, others, hencode, hchunk⟩ := chunkAt_encodeChar c bytes
  rw [hencode, chunks, List.cons_append, chunksAfter, hchunk, Chunk.width, Nat.add_sub_cancel,
    chunksAfter_append, List.length_cons]

theorem decodeLenient_encodeChar_append (c : Char) (bytes : List UInt8) :
    decodeLenient (encodeChar c ++ bytes) = c :: decodeLenient bytes := by
  rw [decodeLenient, chunks_encodeChar_append]
  rfl

/-- The bytes of a text are read back. -/
theorem decodeLenient_encode (s : Text) : decodeLenient (encode s) = s := by
  induction s with
  | nil => rfl
  | cons c s ih =>
    have hencode : encode (c :: s) = encodeChar c ++ encode s := List.flatMap_cons
    rw [hencode, decodeLenient_encodeChar_append, ih]

/-- The bytes of a text are read back, wherever they start. -/
theorem textOf_chunks_encode (s : Text) (start : Nat) :
    textOf bytes start (chunks (encode s)) = .ok s := by
  induction s generalizing start with
  | nil => rfl
  | cons c s ih =>
    have hencode : encode (c :: s) = encodeChar c ++ encode s := List.flatMap_cons
    rw [hencode, chunks_encodeChar_append, textOf, ih]
    rfl

/-- A text that is read of some bytes starts with the character that stands at their front. -/
theorem exists_of_textOf_cons {all : List UInt8} {start : Nat} {first : UInt8} {s : Text}
    (h : textOf all start (chunks (first :: bytes)) = .ok s) :
    ∃ c t rest, s = c :: t ∧ first :: bytes = encodeChar c ++ rest ∧
      textOf all (start + (encodeChar c).length) (chunks rest) = .ok t := by
  rw [chunks, chunksAfter] at h
  cases hchunk : chunkAt first bytes with
  | ill defect w =>
    rw [hchunk] at h
    cases h
  | char c w =>
    obtain ⟨others, rest, rfl, hencode, rfl⟩ := exists_of_chunkAt hchunk
    rw [hchunk, Chunk.width, Nat.add_sub_cancel, chunksAfter_append, textOf] at h
    refine ⟨c, ?_⟩
    rw [hencode, List.length_cons]
    cases hrest : textOf all (start + (others.length + 1)) (chunks rest) with
    | error e =>
      rw [hrest] at h
      cases h
    | ok t =>
      rw [hrest] at h
      cases h
      exact ⟨t, rest, rfl, rfl, hrest⟩

/-- Some bytes of which a text is read are those of the text. -/
theorem encode_of_textOf {all : List UInt8} {start : Nat} {s : Text}
    (h : textOf all start (chunks bytes) = .ok s) : encode s = bytes := by
  -- On the text and not on the bytes: each character takes several of them away.
  induction s generalizing bytes start with
  | nil =>
    cases bytes with
    | nil => rfl
    | cons first bytes =>
      obtain ⟨c, t, rest, hs, -⟩ := exists_of_textOf_cons h
      cases hs
  | cons c s ih =>
    cases bytes with
    | nil => cases h
    | cons first bytes =>
      obtain ⟨c, t, rest, hs, hbytes, hrest⟩ := exists_of_textOf_cons h
      cases hs
      rw [hbytes, encode, List.flatMap_cons, ← encode, ih hrest]

/-- Some bytes are those of a text exactly if the text is read of them. -/
theorem decode_eq_ok_iff {s : Text} : decode bytes = .ok s ↔ bytes = encode s := by
  constructor
  · intro h
    exact (encode_of_textOf h).symm
  · rintro rfl
    exact textOf_chunks_encode s 0

/-- The text that is read of a file with some bytes. -/
def fileText (bytes : List UInt8) : Text := Text.unifyLineEnds (decodeLenient bytes)

/-- A file has the bytes of what is read of it if it holds a text without carriage returns, and
nothing that is not well-formed. -/
theorem encode_fileText_eq_iff {bytes : List UInt8} :
    encode (fileText bytes) = bytes ↔ ∃ s, '\r' ∉ s ∧ encode s = bytes := by
  constructor
  · intro h
    exact ⟨fileText bytes, Text.not_mem_unifyLineEnds _, h⟩
  · rintro ⟨s, hs, rfl⟩
    rw [fileText, decodeLenient_encode, Text.unifyLineEnds_eq_self hs]

end Utf8

end ClassScope
