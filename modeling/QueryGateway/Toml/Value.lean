import QueryGateway.Text.Split
import QueryGateway.Toml.DateTime
import QueryGateway.Toml.Table

/-!
# TOML values

Strings, numbers, truth values, dates and times, arrays and inline tables.
Integers have 64 bits; a real above the range of doubles is refused, and
infinities and NaN become null in the tree.
-/

namespace QueryGateway.Toml

/-- One or more digits, which single underscores may separate. The digits come
without the underscores. -/
def readDigits? (isDigit : Char → Bool) (s : List Char) : Option (List Char × List Char) :=
  let run := s.takeWhile fun c => isDigit c || c == '_'
  let groups := Text.splitAt '_' run
  if groups.any (·.isEmpty) then none else some (groups.flatten, s.drop run.length)

/-- The digits of a decimal integer, which begin with zero only for zero itself. -/
def readDecimalDigits? : List Char → Option (List Char × List Char)
  | '0' :: rest => some (['0'], rest)
  | s => readDigits? Text.isAsciiDigit s

/-- The integer with a sign and a magnitude, if it has 64 bits. -/
def integerOf? (negative : Bool) (n : Nat) : Option Tree :=
  let z : Int := if negative then -(n : Int) else n
  if -2 ^ 63 ≤ z && z < 2 ^ 63 then some (.int z) else none

/-- The real that a sign and decimal parts denote. -/
def realOf? (negative : Bool) (whole fraction : List Char) (exponent : Int) : Option Tree :=
  let x : Binary64 :=
    .ofDecimal negative (Number.ofDigits (whole ++ fraction)) (exponent - fraction.length)
  if x.isFinite then some (.real x) else if negative then some .null else none

/-- The rest of a real from its exponent mark on. -/
def readExponent? (negative : Bool) (whole fraction s : List Char) :
    Option (Tree × List Char) := do
  let (down, s) := Number.splitSign s
  let (digits, rest) ← readDigits? Text.isAsciiDigit s
  let e : Int := Number.ofDigits digits
  some (← realOf? negative whole fraction (if down then -e else e), rest)

/-- A decimal integer or real after its sign. -/
def readDecimal? (negative : Bool) (s : List Char) : Option (Tree × List Char) := do
  let (whole, rest) ← readDecimalDigits? s
  match rest with
  | '.' :: rest => do
    let (fraction, rest) ← readDigits? Text.isAsciiDigit rest
    match rest with
    | 'e' :: rest => readExponent? negative whole fraction rest
    | 'E' :: rest => readExponent? negative whole fraction rest
    | rest => some (← realOf? negative whole fraction 0, rest)
  | 'e' :: rest => readExponent? negative whole [] rest
  | 'E' :: rest => readExponent? negative whole [] rest
  | rest => some (← integerOf? negative (Number.ofDigits whole), rest)

/-- A number after its sign. Infinities and NaN are null. -/
def readSigned? (negative : Bool) (s : List Char) : Option (Tree × List Char) :=
  match s with
  | 'i' :: 'n' :: 'f' :: rest => some (.null, rest)
  | 'n' :: 'a' :: 'n' :: rest => some (.null, rest)
  | s => readDecimal? negative s

/-- An integer in another base, after its mark. -/
def readInBase? (base : Nat) (s : List Char) : Option (Tree × List Char) := do
  let isDigit (c : Char) : Bool := (Text.hexValue? c).any (· < base)
  let (digits, rest) ← readDigits? isDigit s
  let n := digits.foldl (fun acc c => acc * base + (Text.hexValue? c).getD 0) 0
  some (← integerOf? false n, rest)

/-- A number. -/
def readNumber? (s : List Char) : Option (Tree × List Char) :=
  match s with
  | '0' :: 'x' :: rest => readInBase? 16 rest
  | '0' :: 'o' :: rest => readInBase? 8 rest
  | '0' :: 'b' :: rest => readInBase? 2 rest
  | '+' :: rest => readSigned? false rest
  | '-' :: rest => readSigned? true rest
  | s => readSigned? false s

/-- A value that is no array and no inline table. -/
def readScalar? (s : List Char) : Option (Tree × List Char) :=
  match s with
  | '"' :: _ => (readString? s).map fun (t, rest) => (.text t, rest)
  | '\'' :: _ => (readString? s).map fun (t, rest) => (.text t, rest)
  | 't' :: 'r' :: 'u' :: 'e' :: rest => some (.bool true, rest)
  | 'f' :: 'a' :: 'l' :: 's' :: 'e' :: rest => some (.bool false, rest)
  | s =>
    match readDateTime s with
    | .found text rest => some (dateTimeTree text, rest)
    | .malformed => none
    | .absent => readNumber? s

mutual

/-- A value. The depth is what remains of the nesting limit; the fuel bounds
the number of calls. -/
def readValue? : Nat → Nat → List Char → Option (Tree × List Char)
  | 0, _, _ => none
  | fuel + 1, depth, s =>
    match s with
    | '[' :: rest =>
      if depth ≤ 1 then none else readItems? fuel (depth - 1) [] rest
    | '\x7b' :: rest =>
      if depth ≤ 1 then none
      else
        match skipBlanks rest with
        | '\x7d' :: rest => some (.map [], rest)
        | rest => readPairs? fuel (depth - 1) {} rest
    | s => readScalar? s

/-- The rest of an array whose items so far are given in reverse. -/
def readItems? : Nat → Nat → List Tree → List Char → Option (Tree × List Char)
  | 0, _, _, _ => none
  | fuel + 1, depth, items, s =>
    match skipLines s.length s with
    | ']' :: rest => some (.list items.reverse, rest)
    | s => do
      let (t, rest) ← readValue? fuel depth s
      match skipLines rest.length rest with
      | ',' :: rest => readItems? fuel depth (t :: items) rest
      | ']' :: rest => some (.list (t :: items).reverse, rest)
      | _ => none

/-- The rest of an inline table whose entries so far are given. -/
def readPairs? : Nat → Nat → Table → List Char → Option (Tree × List Char)
  | 0, _, _, _ => none
  | fuel + 1, depth, table, s => do
    let (keys, rest) ← readKey? s
    let rest ← expect? '=' rest
    let (t, rest) ← readValue? fuel depth (skipBlanks rest)
    let table ← table.insert keys.dropLast (keys.getLastD "") t
    match skipBlanks rest with
    | ',' :: rest => readPairs? fuel depth table rest
    | '\x7d' :: rest => some (table.toTree, rest)
    | _ => none

end

end QueryGateway.Toml
