/-
  Paths: bytes between slashes.

  A path is kept as it was given and is never brought into a normal form. Its
  `segments` are what stands between the slashes. A segment is idle, and says
  nothing about where the path leads, if it is empty or a dot, unless it comes
  first: an empty first segment makes the path absolute, and a first dot counts.
  `parent?` cuts off the last segment that is not idle.
-/
import GoEnum.Text.Quoted
import GoEnum.Text.Utf8

namespace GoEnum

/-- A path on disk, or a part of one, as bytes. -/
structure Path where
  /-- The bytes of the path. -/
  bytes : List UInt8
deriving Repr, DecidableEq

namespace Path

/-- The byte between two segments. -/
def slash : UInt8 := 0x2F

/-- The segment that stands for the directory it is in. -/
def dot : List UInt8 := [0x2E]

/-- The segment that stands for the directory above. -/
def dotDot : List UInt8 := [0x2E, 0x2E]

/-- The path spelt by a text. -/
def ofText (s : String) : Path :=
  ⟨Text.Utf8.encode s⟩

/-- The path as it is shown in messages. -/
def shown (p : Path) : String :=
  Text.Utf8.decodeLossy p.bytes

/-- The two digits of a byte in capital hexadecimal. -/
def hexByte (b : UInt8) : List Char :=
  (Nat.toDigits 16 (b.toNat / 16) ++ Nat.toDigits 16 (b.toNat % 16)).map Char.toUpper

/-- The path between double quotes: its characters as in a quoted text, and bytes that form no
character by their digits. -/
def quoted (p : Path) : String :=
  String.ofList ('"' :: ((Text.Utf8.pieces p.bytes).flatMap piece ++ ['"']))
where
  piece : Text.Utf8.Piece → List Char
    | .char c => Text.escapeChar c
    | .broken bytes => bytes.flatMap fun b => '\\' :: 'x' :: hexByte b

/-- The path of `inner` below `outer`. -/
def join (outer inner : Path) : Path :=
  if outer.bytes = [] then inner
  else if outer.bytes.getLast? = some slash then ⟨outer.bytes ++ inner.bytes⟩
  else ⟨outer.bytes ++ slash :: inner.bytes⟩

/-- What stands between the slashes of some bytes. -/
def splitAtSlashes : List UInt8 → List (List UInt8)
  | [] => [[]]
  | b :: bs =>
    if b = slash then [] :: splitAtSlashes bs
    else match splitAtSlashes bs with
      | [] => [[b]]
      | segment :: segments => (b :: segment) :: segments

/-- Whether a segment after the first one leads nowhere. -/
def isIdle (segment : List UInt8) : Bool :=
  segment.isEmpty || segment == dot

/-- The segments without the idle ones at their end. -/
def dropIdleEnd (segments : List (List UInt8)) : List (List UInt8) :=
  (segments.reverse.dropWhile isIdle).reverse

/-- Whether the path starts at the root. -/
def isAbsolute (p : Path) : Bool :=
  p.bytes.head? == some slash

/-- Whether the path ends in a slash, so that only a directory can be meant. -/
def endsInSlash (p : Path) : Bool :=
  p.bytes.getLast? == some slash

/-- The path without its last segment; nothing for the root and for the empty path. -/
def parent? (p : Path) : Option Path :=
  match splitAtSlashes p.bytes with
  | [] => none
  | first :: rest =>
    match dropIdleEnd rest with
    | [] => if first = [] then none else some ⟨[]⟩
    | kept =>
      match dropIdleEnd kept.dropLast with
      | [] => some ⟨if first = [] then [slash] else first⟩
      | above => some ⟨[slash].intercalate (first :: above)⟩

/-- The path, its parent, the parent of that and so on, without the last of them, which has no
parent; at most `count` of them. -/
def lineageUpTo : Nat → Path → List Path
  | 0, _ => []
  | count + 1, p =>
    match p.parent? with
    | none => []
    | some above => p :: lineageUpTo count above

/-- The path and all its ancestors that have a parent themselves, nearest first. A parent has
fewer bytes, so there are at most as many of them as the path has bytes. -/
def lineage (p : Path) : List Path :=
  lineageUpTo p.bytes.length p

/-- The names that the path goes through, in order. -/
def names (p : Path) : List (List UInt8) :=
  (splitAtSlashes p.bytes).filter (!·.isEmpty)

end Path

end GoEnum
