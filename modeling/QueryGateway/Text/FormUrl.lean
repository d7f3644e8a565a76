import QueryGateway.Text.Utf8

/-!
# Form-encoded pairs

The format of query strings: pairs `name=value` between ampersands, where a
plus sign stands for a space and `%XX` for a byte. Reading is lenient: an
incomplete escape stands for itself and ill-formed UTF-8 is replaced.
-/

namespace QueryGateway.FormUrl

/-- The value of a hexadecimal digit. -/
def hexValue? (b : UInt8) : Option UInt8 :=
  if 0x30 ≤ b && b ≤ 0x39 then some (b - 0x30)
  else if 0x41 ≤ b && b ≤ 0x46 then some (b - 0x37)
  else if 0x61 ≤ b && b ≤ 0x66 then some (b - 0x57)
  else none

/-- Replaces each complete escape by its byte. -/
def unescape : Bytes → Bytes
  | [] => []
  | [b] => [b]
  | [b, c] => [b, c]
  | b :: h :: l :: rest =>
    if b == 0x25 then
      match hexValue? h, hexValue? l with
      | some x, some y => (x * 16 + y) :: unescape rest
      | _, _ => b :: unescape (h :: l :: rest)
    else b :: unescape (h :: l :: rest)

/-- The text of one encoded name or value. -/
def decodeComponent (bytes : Bytes) : String :=
  String.ofList (Utf8.decodeLossy (unescape (bytes.map fun b => if b == 0x2B then 0x20 else b)))

/-- The parts of a byte sequence between the occurrences of `sep`. -/
def splitBytes (sep : UInt8) : Bytes → List Bytes
  | [] => [[]]
  | b :: rest =>
    if b == sep then [] :: splitBytes sep rest
    else
      match splitBytes sep rest with
      | [] => [[b]]
      | part :: parts => (b :: part) :: parts

/-- One pair: the name ends at the first equals sign. -/
def decodePair (bytes : Bytes) : String × String :=
  let name := bytes.takeWhile (· != 0x3D)
  (decodeComponent name, decodeComponent (bytes.drop (name.length + 1)))

/-- The pairs of a query string, in order. Empty pieces are skipped. -/
def decode (bytes : Bytes) : List (String × String) :=
  ((splitBytes 0x26 bytes).filter (!·.isEmpty)).map decodePair

/-- The pairs without those whose name occurs earlier. -/
def firstValues (pairs : List (String × String)) : List (String × String) :=
  pairs.foldl (fun kept p => if kept.any (·.1 == p.1) then kept else kept ++ [p]) []

/-- The pairs of a query string, each name with its first value. -/
def parse (query : String) : List (String × String) :=
  firstValues (decode (Utf8.ofString query))

/-- The bytes that stand for themselves in an encoded component. -/
def isPlain (b : UInt8) : Bool :=
  (0x30 ≤ b && b ≤ 0x39) || (0x41 ≤ b && b ≤ 0x5A) || (0x61 ≤ b && b ≤ 0x7A) ||
    b == 0x2A || b == 0x2D || b == 0x2E || b == 0x5F

/-- The uppercase hexadecimal digit of a value below sixteen. -/
def hexDigit (v : UInt8) : UInt8 :=
  if v < 10 then 0x30 + v else 0x37 + v

/-- The encoded form of one byte. -/
def encodeByte (b : UInt8) : Bytes :=
  if isPlain b then [b]
  else if b == 0x20 then [0x2B]
  else [0x25, hexDigit (b / 16), hexDigit (b % 16)]

/-- The encoded form of a name or value. -/
def encodeComponent (s : String) : Bytes :=
  (Utf8.ofString s).flatMap encodeByte

/-- The encoded form of a list of pairs. -/
def encode (pairs : List (String × String)) : Bytes :=
  List.intercalate [0x26]
    (pairs.map fun (name, value) => encodeComponent name ++ 0x3D :: encodeComponent value)

end QueryGateway.FormUrl
