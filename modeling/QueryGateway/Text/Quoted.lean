import QueryGateway.Text.Letter

/-!
# Texts shown in diagnostics

A text is shown between double quotes and a character between single quotes.
Control characters, unassigned and private code points, blanks other than the
space and combining marks are shown by their code point.
-/

namespace QueryGateway.Text

/-- The categories of characters that are shown by their code point. -/
def hiddenCategories : List Category :=
  [.control, .format, .privateUse, .lineSeparator, .paragraphSeparator, .spaceSeparator]

/-- Whether a character is shown as itself. -/
def isShown (c : Char) : Bool :=
  if isAscii c then ' ' ≤ c && c.toNat < 127
  else Category.all.any (fun g => g.holds c && !hiddenCategories.contains g) && !extendsGrapheme c

/-- The code point of a character in braces. -/
def codePointEscape (c : Char) : List Char :=
  "\\u\x7b".toList ++ Nat.toDigits 16 c.toNat ++ ['}']

/-- A character inside the given quotation mark. -/
def showInside (mark c : Char) : List Char :=
  if c == mark || c == '\\' then ['\\', c]
  else if c == '\t' then ['\\', 't']
  else if c == '\r' then ['\\', 'r']
  else if c == '\n' then ['\\', 'n']
  else if c.toNat == 0 then ['\\', '0']
  else if isShown c then [c]
  else codePointEscape c

/-- A character in single quotes. -/
def showChar (c : Char) : String :=
  String.ofList ('\'' :: showInside '\'' c ++ ['\''])

/-- A text in double quotes. -/
def showString (s : String) : String :=
  String.ofList ('"' :: s.toList.flatMap (showInside '"') ++ ['"'])

end QueryGateway.Text
