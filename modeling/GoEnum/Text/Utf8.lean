/-
  UTF-8: reading bytes that need not be well-formed, and writing characters.

  `pieces` cuts bytes into characters and broken pieces, and loses nothing. A
  broken piece is a maximal subpart: the longest run of bytes that begins a
  character and cannot be completed. `decodeLossy` puts the replacement character
  in place of each broken piece, `decode?` refuses them, and `validPrefixLength`
  counts the bytes before the first of them.

  The reader goes one byte at a time. Between two bytes it holds at most one
  `Pending` character, which knows how many bytes it still lacks and what the
  next one may be; the bounds on the second byte exclude overlong forms,
  surrogates and codes beyond the last one.
-/

namespace GoEnum.Text.Utf8

/-- A character, or bytes that form none. -/
inductive Piece where
  /-- A character that was spelt correctly. -/
  | char (c : Char)
  /-- A maximal run of bytes that begins a character and breaks off. -/
  | broken (bytes : List UInt8)
deriving Repr, DecidableEq

/-- A character of which some bytes have been read. -/
structure Pending where
  /-- The bytes read so far. -/
  bytes : List UInt8
  /-- How many bytes are still missing. -/
  missing : Nat
  /-- The least value the next byte may have. -/
  least : Nat
  /-- The greatest value the next byte may have. -/
  greatest : Nat
  /-- The bits of the code point read so far. -/
  code : Nat
deriving Repr, DecidableEq

/-- What a byte begins: a whole character, a character with bytes to come, or nothing. -/
def start (b : UInt8) : Piece ⊕ Pending :=
  let n := b.toNat
  if n < 0x80 then .inl (.char (Char.ofNat n))
  else if 0xC2 ≤ n ∧ n ≤ 0xDF then .inr ⟨[b], 1, 0x80, 0xBF, n - 0xC0⟩
  else if n = 0xE0 then .inr ⟨[b], 2, 0xA0, 0xBF, 0⟩
  else if n = 0xED then .inr ⟨[b], 2, 0x80, 0x9F, 0xD⟩
  else if 0xE1 ≤ n ∧ n ≤ 0xEF then .inr ⟨[b], 2, 0x80, 0xBF, n - 0xE0⟩
  else if n = 0xF0 then .inr ⟨[b], 3, 0x90, 0xBF, 0⟩
  else if n = 0xF4 then .inr ⟨[b], 3, 0x80, 0x8F, 4⟩
  else if 0xF1 ≤ n ∧ n ≤ 0xF3 then .inr ⟨[b], 3, 0x80, 0xBF, n - 0xF0⟩
  else .inl (.broken [b])

/-- The pending character with one more byte: complete or not, or nothing if the byte does not
fit. -/
def Pending.add? (p : Pending) (b : UInt8) : Option (Piece ⊕ Pending) :=
  let n := b.toNat
  if p.least ≤ n ∧ n ≤ p.greatest then
    let code := p.code * 64 + (n - 0x80)
    if p.missing ≤ 1 then some (.inl (.char (Char.ofNat code)))
    else some (.inr ⟨p.bytes ++ [b], p.missing - 1, 0x80, 0xBF, code⟩)
  else none

/-- The pieces of `bytes`, after the bytes of a pending character if there is one. -/
def piecesFrom : Option Pending → List UInt8 → List Piece
  | none, [] => []
  | some p, [] => [.broken p.bytes]
  | none, b :: rest =>
    match start b with
    | .inl piece => piece :: piecesFrom none rest
    | .inr p => piecesFrom (some p) rest
  | some p, b :: rest =>
    match p.add? b with
    | some (.inl piece) => piece :: piecesFrom none rest
    | some (.inr q) => piecesFrom (some q) rest
    | none =>
      .broken p.bytes ::
        match start b with
        | .inl piece => piece :: piecesFrom none rest
        | .inr q => piecesFrom (some q) rest

/-- The characters and broken pieces that the bytes consist of, in order. -/
def pieces (bytes : List UInt8) : List Piece :=
  piecesFrom none bytes

/-- The character shown for a piece: its own, or the replacement character. -/
def Piece.shown : Piece → Char
  | .char c => c
  | .broken _ => '\uFFFD'

/-- The text of the bytes, with the replacement character for each broken piece. -/
def decodeLossy (bytes : List UInt8) : String :=
  String.ofList ((pieces bytes).map Piece.shown)

/-- The character of a piece, if it is one. -/
def Piece.char? : Piece → Option Char
  | .char c => some c
  | .broken _ => none

/-- The text of the bytes, if they are well-formed throughout. -/
def decode? (bytes : List UInt8) : Option String :=
  ((pieces bytes).mapM Piece.char?).map String.ofList

/-- The bytes of a text. -/
def encode (s : String) : List UInt8 :=
  s.toList.flatMap String.utf8EncodeChar

/-- The number of bytes before the first broken piece. -/
def validPrefixLength (bytes : List UInt8) : Nat :=
  (((pieces bytes).takeWhile (·.char?.isSome)).flatMap
    fun piece => String.utf8EncodeChar piece.shown).length

end GoEnum.Text.Utf8
