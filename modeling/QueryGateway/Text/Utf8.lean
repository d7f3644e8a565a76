import QueryGateway.Number.Power

/-!
# UTF-8

Bytes are lists of `UInt8`. `encode` writes characters, `next?` reads one
character from the front of a byte sequence, `decode?` reads a whole sequence
strictly, and `decodeLossy` replaces each ill-formed part by U+FFFD.
-/

namespace QueryGateway

/-- A sequence of bytes. -/
abbrev Bytes := List UInt8

namespace Utf8

/-- The UTF-8 form of a text. -/
def encode (s : List Char) : Bytes :=
  s.flatMap String.utf8EncodeChar

/-- The UTF-8 form of a string. -/
def ofString (s : String) : Bytes :=
  encode s.toList

/-- The number of continuation bytes after a lead byte, with the range in which
the first of them has to lie. This excludes overlong forms, surrogates and
values above U+10FFFF. -/
def following? (lead : UInt8) : Option (Nat × UInt8 × UInt8) :=
  if 0xC2 ≤ lead && lead ≤ 0xDF then some (1, 0x80, 0xBF)
  else if lead == 0xE0 then some (2, 0xA0, 0xBF)
  else if lead == 0xED then some (2, 0x80, 0x9F)
  else if 0xE1 ≤ lead && lead ≤ 0xEF then some (2, 0x80, 0xBF)
  else if lead == 0xF0 then some (3, 0x90, 0xBF)
  else if 0xF1 ≤ lead && lead ≤ 0xF3 then some (3, 0x80, 0xBF)
  else if lead == 0xF4 then some (3, 0x80, 0x8F)
  else none

/-- The data bits of a lead byte that announces `n` continuation bytes. -/
def leadBits (lead : UInt8) (n : Nat) : Nat :=
  lead.toNat % 2 ^ (6 - n)

/-- The longest beginning of `rest` that can continue a character with `n` more
bytes, the first of them between `lo` and `hi`. -/
def continuation (n : Nat) (lo hi : UInt8) : Bytes → Bytes
  | [] => []
  | b :: rest =>
    match n with
    | 0 => []
    | n + 1 => if lo ≤ b && b ≤ hi then b :: continuation n 0x80 0xBF rest else []

/-- The number with the given leading bits and the data bits of the continuation bytes. -/
def assemble (bits : Nat) (bytes : Bytes) : Nat :=
  bytes.foldl (fun acc b => acc * 64 + b.toNat % 64) bits

/-- What stands at the front of a byte sequence: a character, or an ill-formed
part, with the number of bytes after the first that belong to it. -/
inductive Front where
  | char (c : Char) (more : Nat)
  | illFormed (more : Nat)

/-- The front of a sequence that starts with `lead`. An ill-formed part is as
long as a beginning of some character, and at least one byte. -/
def front (lead : UInt8) (rest : Bytes) : Front :=
  if lead < 0x80 then .char (Char.ofNat lead.toNat) 0
  else
    match following? lead with
    | none => .illFormed 0
    | some (n, lo, hi) =>
      let tail := continuation n lo hi rest
      if tail.length == n then .char (Char.ofNat (assemble (leadBits lead n) tail)) n
      else .illFormed tail.length

/-- The text of a byte sequence with U+FFFD for each ill-formed part. The count
`skip` is the number of bytes that belong to the part read last. -/
def decodeLossyFrom (skip : Nat) : Bytes → List Char
  | [] => []
  | b :: rest =>
    match skip with
    | k + 1 => decodeLossyFrom k rest
    | 0 =>
      match front b rest with
      | .char c more => c :: decodeLossyFrom more rest
      | .illFormed more => '\uFFFD' :: decodeLossyFrom more rest

/-- The text of a byte sequence with U+FFFD for each ill-formed part. -/
def decodeLossy (bytes : Bytes) : List Char :=
  decodeLossyFrom 0 bytes

/-- The text of a byte sequence, if all of it is well formed. -/
def decodeFrom? (skip : Nat) : Bytes → Option (List Char)
  | [] => some []
  | b :: rest =>
    match skip with
    | k + 1 => decodeFrom? k rest
    | 0 =>
      match front b rest with
      | .char c more => (decodeFrom? more rest).map (c :: ·)
      | .illFormed _ => none

/-- The text of a byte sequence, if all of it is well formed. -/
def decode? (bytes : Bytes) : Option (List Char) :=
  decodeFrom? 0 bytes

/-- The number of bytes before the first ill-formed part, if there is one. -/
def firstIllFormed? (position skip : Nat) : Bytes → Option Nat
  | [] => none
  | b :: rest =>
    match skip with
    | k + 1 => firstIllFormed? (position + 1) k rest
    | 0 =>
      match front b rest with
      | .char _ more => firstIllFormed? (position + 1) more rest
      | .illFormed _ => some position

/-- The string of a byte sequence, if it is well formed. -/
def toString? (bytes : Bytes) : Option String :=
  (decode? bytes).map String.ofList

end Utf8

end QueryGateway
