import ClassScope.Text.Wide

/-!
# UTF-8

Texts as bytes. Bytes are cut into chunks: a well-formed sequence is the chunk of its character, and
where no character can be read the chunk is the longest start of a sequence that might still have
become one, or a single byte. Strict decoding refuses the first ill-formed chunk and says where it
is; lenient decoding drops the ill-formed chunks. A wide text has bytes unless it holds a surrogate.
-/

namespace ClassScope.Utf8

/-- Why a chunk is ill-formed. -/
inductive Defect where
  /-- No sequence starts with this byte. -/
  | badStart
  /-- The byte after the chunk cannot continue it. -/
  | badContinuation
  /-- The bytes end inside the sequence. -/
  | cutShort
  deriving DecidableEq, Repr

/-- One step of decoding. -/
inductive Chunk where
  /-- A character, written in `width` bytes. -/
  | char (c : Char) (width : Nat)
  /-- `width` bytes that are no character. -/
  | ill (defect : Defect) (width : Nat)
  deriving DecidableEq, Repr

/-- The number of bytes of a chunk. -/
def Chunk.width : Chunk → Nat
  | .char _ width => width
  | .ill _ width => width

/-- The closed ranges that the bytes after a first byte must lie in, if it is a first byte. -/
def continuations (first : UInt8) : Option (List (Nat × Nat)) :=
  let n := first.toNat
  let any := (0x80, 0xbf)
  if n < 0x80 then some []
  else if n < 0xc2 then none
  else if n < 0xe0 then some [any]
  else if n = 0xe0 then some [(0xa0, 0xbf), any]
  else if n = 0xed then some [(0x80, 0x9f), any]
  else if n < 0xf0 then some [any, any]
  else if n = 0xf0 then some [(0x90, 0xbf), any, any]
  else if n < 0xf4 then some [any, any, any]
  else if n = 0xf4 then some [(0x80, 0x8f), any, any]
  else none

/-- The bits of the code point that the first byte carries. -/
def payload (first : UInt8) : Nat :=
  let n := first.toNat
  if n < 0x80 then n else if n < 0xe0 then n - 0xc0 else if n < 0xf0 then n - 0xe0 else n - 0xf0

/-- Reads the continuation bytes onto the bits read so far, of `width` bytes. -/
def chunkFrom (bits width : Nat) : List (Nat × Nat) → List UInt8 → Chunk
  | [], _ => .char (Char.ofNat bits) width
  | _ :: _, [] => .ill .cutShort width
  | range :: ranges, b :: bytes =>
    if range.1 ≤ b.toNat ∧ b.toNat ≤ range.2 then
      chunkFrom (bits * 64 + (b.toNat - 0x80)) (width + 1) ranges bytes
    else .ill .badContinuation width

/-- The chunk at the front of `first :: bytes`. -/
def chunkAt (first : UInt8) (bytes : List UInt8) : Chunk :=
  match continuations first with
  | none => .ill .badStart 1
  | some ranges => chunkFrom (payload first) 1 ranges bytes

/-- The chunks of the bytes after the first `skip`. -/
def chunksAfter : (skip : Nat) → List UInt8 → List Chunk
  | _, [] => []
  | skip + 1, _ :: bytes => chunksAfter skip bytes
  | 0, b :: bytes =>
    let chunk := chunkAt b bytes
    chunk :: chunksAfter (chunk.width - 1) bytes

/-- The chunks that the bytes are cut into. -/
def chunks (bytes : List UInt8) : List Chunk := chunksAfter 0 bytes

/-- The character of a well-formed chunk. -/
def Chunk.char? : Chunk → Option Char
  | .char c _ => some c
  | .ill _ _ => none

/-- The text of the well-formed chunks. -/
def decodeLenient (bytes : List UInt8) : Text := (chunks bytes).filterMap Chunk.char?

/-- The first ill-formed chunk of some bytes. -/
structure Failure where
  /-- Where it starts. -/
  start : Nat
  /-- How many bytes it has. -/
  width : Nat
  /-- The value of its first byte. -/
  first : UInt8
  /-- What is wrong with it. -/
  defect : Defect
  deriving DecidableEq, Repr

/-- The text of the chunks that start at `start`, unless one is ill-formed. -/
def textOf (bytes : List UInt8) : (start : Nat) → List Chunk → Except Failure Text
  | _, [] => .ok []
  | start, .char c width :: chunks => (c :: ·) <$> textOf bytes (start + width) chunks
  | start, .ill defect width :: _ => .error ⟨start, width, bytes.getD start 0, defect⟩

/-- The text of the bytes, if all of it is well-formed. -/
def decode (bytes : List UInt8) : Except Failure Text := textOf bytes 0 (chunks bytes)

/-- The wording of a defect. -/
def Defect.message : Defect → String
  | .badStart => "invalid start byte"
  | .badContinuation => "invalid continuation byte"
  | .cutShort => "unexpected end of data"

/-- The wording of a failure: one byte is shown, several are given by their places. -/
def Failure.message (failure : Failure) : String :=
  let digits := String.ofList (Nat.toDigits 16 failure.first.toNat)
  let shown := if failure.first < 16 then "0x0" ++ digits else "0x" ++ digits
  let place :=
    if failure.width = 1 then s!"byte {shown} in position {failure.start}"
    else s!"bytes in position {failure.start}-{failure.start + failure.width - 1}"
  "'utf-8' codec can't decode " ++ place ++ ": " ++ failure.defect.message

/-- The bytes of one character. -/
def encodeChar (c : Char) : List UInt8 :=
  let n := c.toNat
  if n < 0x80 then [.ofNat n]
  else if n < 0x800 then [.ofNat (0xc0 + n / 64), .ofNat (0x80 + n % 64)]
  else if n < 0x10000 then
    [.ofNat (0xe0 + n / 4096), .ofNat (0x80 + n / 64 % 64), .ofNat (0x80 + n % 64)]
  else
    [.ofNat (0xf0 + n / 262144), .ofNat (0x80 + n / 4096 % 64), .ofNat (0x80 + n / 64 % 64),
      .ofNat (0x80 + n % 64)]

/-- The bytes of a text. -/
def encode (s : Text) : List UInt8 := s.flatMap encodeChar

/-- The first surrogates of a wide text that follow one another. -/
structure Unencodable where
  /-- The place of the first of them. -/
  start : Nat
  /-- How many they are. -/
  count : Nat
  /-- The number of the first of them. -/
  first : Nat
  deriving DecidableEq, Repr

/-- The wording of the error: one surrogate is shown, several are given by their places. -/
def Unencodable.message (e : Unencodable) : String :=
  let shown :=
    if e.count = 1 then
      s!"character '\\u" ++ String.ofList (Text.hex 4 e.first) ++ s!"' in position {e.start}"
    else s!"characters in position {e.start}-{e.start + e.count - 1}"
  "'utf-8' codec can't encode " ++ shown ++ ": surrogates not allowed"

/-- The bytes of a wide text whose front, of `place` code points, is encoded already. -/
def encodeFrom (place : Nat) : WideText → Except Unencodable (List UInt8)
  | [] => .ok []
  | .char c :: s => (encodeChar c ++ ·) <$> encodeFrom (place + 1) s
  | .surrogate n :: s => .error ⟨place, (s.takeWhile CodePoint.isSurrogate).length + 1, n⟩

/-- The bytes of a wide text, if it holds no surrogate. -/
def encodeWide (s : WideText) : Except Unencodable (List UInt8) := encodeFrom 0 s

/-- The bytes of a text are those of its wide text. -/
theorem encodeWide_ofText (s : Text) : encodeWide (WideText.ofText s) = .ok (encode s) := by
  have step : ∀ place, encodeFrom place (WideText.ofText s) = .ok (encode s) := by
    induction s with
    | nil => intro place; rfl
    | cons c s ih =>
      intro place
      change (encodeChar c ++ ·) <$> encodeFrom (place + 1) (WideText.ofText s) = _
      rw [ih]
      rfl
  exact step 0

end ClassScope.Utf8
