import QueryGateway.Config.Failure
import QueryGateway.Naming.Words
import QueryGateway.Text.Casing

/-!
# Name styles

A style writes the words of a column name with a common casing and a common
separator. The verbatim style leaves a name as it is.
-/

namespace QueryGateway

/-- How the words of a name are written. -/
inductive NameStyle where
  | camel
  | lowerCamel
  | snake
  | screamingSnake
  | kebab
  | screamingKebab
  | dotted
  | screamingDotted
  | verbatim
  deriving DecidableEq, Repr

namespace NameStyle

/-- The style with a given name, in any casing. No name selects the verbatim style. -/
def parse (name : String) : Except ConfigFailure NameStyle :=
  match Text.lowerString name with
  | "camel" => .ok camel
  | "lowercamel" => .ok lowerCamel
  | "snake" => .ok snake
  | "screamingsnake" => .ok screamingSnake
  | "kebab" => .ok kebab
  | "screamingkebab" => .ok screamingKebab
  | "dotdelimited" => .ok dotted
  | "dotscreamingdelimited" => .ok screamingDotted
  | "none" | "" => .ok verbatim
  | other => .error (.invalid s!"unknown name converter {other}")

/-- A word with its first character capital and the others small. -/
def capitalize : List Char → List Char
  | [] => []
  | c :: rest => Text.upperChar c ++ rest.flatMap Text.lowerChar

/-- Words in small letters around a separator. -/
def joinLower (sep : Char) (words : List (List Char)) : List Char :=
  [sep].intercalate (words.map Text.lower)

/-- Words in capital letters around a separator. -/
def joinUpper (sep : Char) (words : List (List Char)) : List Char :=
  [sep].intercalate (words.map Text.upper)

/-- Words run together, the first in small letters and the others capitalized. -/
def joinCapitals : List (List Char) → List Char
  | [] => []
  | first :: others => Text.lower first ++ others.flatMap capitalize

/-- The name in the given style. -/
def convertChars (style : NameStyle) (name : List Char) : List Char :=
  match style with
  | camel => (Naming.words name).flatMap capitalize
  | lowerCamel => joinCapitals (Naming.words name)
  | snake => joinLower '_' (Naming.words name)
  | screamingSnake => joinUpper '_' (Naming.words name)
  | kebab => joinLower '-' (Naming.words name)
  | screamingKebab => joinUpper '-' (Naming.words name)
  | dotted => joinLower '.' (Naming.words name)
  | screamingDotted => joinUpper '.' (Naming.words name)
  | verbatim => name

/-- `convertChars` on strings. -/
def convert (style : NameStyle) (name : String) : String :=
  String.ofList (style.convertChars name.toList)

end NameStyle

end QueryGateway
