import QueryGateway.Text.BinaryProperty
import QueryGateway.Text.Category
import QueryGateway.Text.CodeAlgebra
import QueryGateway.Text.Letter
import QueryGateway.Text.SharedScript

/-!
# Named classes of characters

The classes that a pattern can name: binary properties, general categories
and scripts of the Unicode standard, the digits, blanks and word characters,
and the classes of the C locale. The names of properties and their values are
compared without casing, blanks, hyphens and underscores.
-/

namespace QueryGateway.Pattern

open Text (Category CodeRanges Script BinaryProperty)

/-- The comparable form of a property name. A leading `is` does not count. -/
def normalizeName (name : List Char) : List Char :=
  let isIs (a b : Char) : Bool := (a == 'i' || a == 'I') && (b == 's' || b == 'S')
  let bare (s : List Char) : List Char :=
    (s.filter fun c => Text.isAscii c && c != ' ' && c != '_' && c != '-').flatMap Text.lowerChar
  match name with
  | a :: b :: rest =>
    if isIs a b then
      let short := bare rest
      if short == ['c'] then ['i', 's', 'c'] else short
    else bare name
  | short => bare short

/-- The code points of some general categories. -/
def categories (gs : List Category) : CodeRanges :=
  .unions (gs.map Category.table)

/-- The letters of the categories of cased letters. -/
def casedLetters : List Category :=
  [.uppercaseLetter, .lowercaseLetter, .titlecaseLetter]

/-- The categories of marks. -/
def marks : List Category :=
  [.nonspacingMark, .spacingMark, .enclosingMark]

/-- The code points without an assigned character. -/
def unassigned : CodeRanges :=
  (categories Category.all).complement

/-- Groups of categories under all their names. -/
def categoryGroups : List (List String × CodeRanges) :=
  [(["any"], .full),
   (["ascii"], .ascii),
   (["assigned"], categories Category.all),
   (["cn", "unassigned"], unassigned),
   (["c", "other"], (categories [.control, .format, .privateUse]).union unassigned),
   (["l", "letter"], categories (casedLetters ++ [.modifierLetter, .otherLetter])),
   (["lc", "casedletter"], categories casedLetters),
   (["m", "mark", "combiningmark"], categories marks),
   (["n", "number"], categories [.decimalNumber, .letterNumber, .otherNumber]),
   (["p", "punctuation", "punct"],
    categories [.connectorPunctuation, .dashPunctuation, .openPunctuation,
      .closePunctuation, .initialPunctuation, .finalPunctuation, .otherPunctuation]),
   (["s", "symbol"],
    categories [.mathSymbol, .currencySymbol, .modifierSymbol, .otherSymbol]),
   (["z", "separator"], categories [.spaceSeparator, .lineSeparator, .paragraphSeparator]),
   (["digit"], Category.decimalNumber.table),
   (["cntrl"], Category.control.table)]

/-- Whether one of the names has a given comparable form. -/
def isNamed (key : List Char) (names : List String) : Bool :=
  names.any fun name => normalizeName name.toList == key

/-- The category, or the group of categories, with a name. -/
def category? (key : List Char) : Option CodeRanges :=
  match categoryGroups.find? fun (names, _) => isNamed key names with
  | some (_, set) => some set
  | none =>
    (Category.all.find? fun g => isNamed key [g.abbreviation, g.longName]).map Category.table

/-- Older names of scripts. -/
def olderScriptNames : List (String × String) :=
  [("qaac", "copt"), ("qaai", "zinh")]

/-- The script with a name. -/
def scriptNamed? (key : List Char) : Option Script :=
  let key := ((olderScriptNames.lookup (String.ofList key)).map String.toList).getD key
  Script.all.find? fun s => isNamed key [s.shortName, s.longName]

/-- The characters in use with a script, shared ones included. The common and
the inherited script keep only the characters that no other script shares. -/
def scriptWithShared (s : Script) : CodeRanges :=
  if s.shortName == "Zyyy" || s.shortName == "Zinh" then
    s.table.diff (.unions (Script.all.map Script.shared))
  else s.table.union s.shared

/-- The code points that a casing rule changes. -/
def movedBy (runs : List Text.CaseRun) : CodeRanges :=
  .ofList (runs.flatMap fun (first, last, step, _) =>
    (List.range ((last - first) / step + 1)).map fun i => (first + i * step, first + i * step))

/-- The code points with a lowercase form of their own. -/
def lowering : CodeRanges :=
  (movedBy Text.lowerRuns).union (.single 0x130)

/-- The code points with an uppercase form of their own. -/
def raising : CodeRanges :=
  (movedBy Text.upperRuns).union (.ofList (Text.upperSpecial.map fun (n, _) => (n, n)))

/-- Code points that case folding changes although they are lowercase. -/
def foldedLowercase : CodeRanges := .ofLines
  ["B5 DF 149 17F 345 3C2 3D0-3D1 3D5-3D6 3F0-3F1 3F5 587 13F8-13FD 1C80-1C88 1E9A-1E9B",
   "1F80-1F87 1F90-1F97 1FA0-1FA7 1FB2-1FB4 1FB7 1FC2-1FC4 1FC7 1FF2-1FF4 1FF7 AB70-ABBF",
   "FB00-FB06 FB13-FB17"]

/-- Uppercase code points that are their own folded form. -/
def unfoldedUppercase : CodeRanges := .ofLines
  ["13A0-13F5"]

/-- Titlecase code points and those whose titlecase form is themselves. -/
def titlecased : CodeRanges := .ofLines
  ["1C5 1C8 1CB 1F2 10D0-10FA 10FD-10FF 1F88-1F8F 1F98-1F9F 1FA8-1FAF 1FBC 1FCC 1FFC"]

/-- Uppercase code points with a titlecase form of their own. -/
def titlecasing : CodeRanges := .ofLines
  ["1C4 1C7 1CA 1F1"]

/-- Code points outside the letters that may begin an identifier. -/
def otherIdentifierStart : CodeRanges := .ofLines
  ["1885-1886 2118 212E 309B-309C"]

/-- Code points that may continue an identifier although they are no marks or digits. -/
def otherIdentifierPart : CodeRanges := .ofLines
  ["B7 387 1369-1371 19DA"]

/-- Code points that normalization would turn into something that cannot stand
in an identifier. -/
def unstableIdentifierPart : CodeRanges := .ofLines
  ["37A 309B-309C FC5E-FC63 FDFA-FDFB FE70 FE72 FE74 FE76 FE78 FE7A FE7C FE7E"]

/-- Code points that normalization would turn into something that cannot begin
an identifier. -/
def unstableIdentifierStart : CodeRanges :=
  unstableIdentifierPart.union (.ofLines ["E33 EB3 FF9E-FF9F"])

/-- The code points of a listed property. -/
def listed (name : String) : CodeRanges :=
  ((BinaryProperty.all.find? fun p => p.shortName == name).map BinaryProperty.table).getD #[]

/-- The code points that may begin an identifier. -/
def identifierStart : CodeRanges :=
  ((categories Text.letterCategories).union otherIdentifierStart).diff
    ((listed "Pat_Syn").union (listed "Pat_WS"))

/-- The code points that may continue an identifier. -/
def identifierPart : CodeRanges :=
  CodeRanges.unions
    [identifierStart, categories (marks.take 2 ++ [.decimalNumber, .connectorPunctuation]),
     otherIdentifierPart]

/-- The alphabetic code points. -/
def alphabetic : CodeRanges :=
  (categories Text.letterCategories).union Text.otherAlphabetic

/-- The lowercase code points. -/
def lowercase : CodeRanges :=
  Category.lowercaseLetter.table.union Text.otherLowercase

/-- The uppercase code points. -/
def uppercase : CodeRanges :=
  Category.uppercaseLetter.table.union Text.otherUppercase

/-- The code points that attach to the character before them. -/
def graphemeExtend : CodeRanges :=
  (categories [.nonspacingMark, .enclosingMark]).union Text.otherExtending

/-- The blanks. -/
def blanks : CodeRanges := .ofLines
  ["9-D 20 85 A0 1680 2000-200A 2028-2029 202F 205F 3000"]

/-- The word characters. -/
def wordChars : CodeRanges :=
  .unions [alphabetic, categories (marks ++ [.decimalNumber, .connectorPunctuation]),
    listed "Join_C"]

/-- Properties that derive from others, under their short and long names. -/
def derivedProperties : List (List String × (Unit → CodeRanges)) :=
  [(["Alpha", "Alphabetic"], fun _ => alphabetic),
   (["CI", "Case_Ignorable"], fun _ =>
    (categories [.nonspacingMark, .enclosingMark, .format, .modifierLetter, .modifierSymbol]).union
      Text.midWordPunctuation),
   (["Cased"], fun _ =>
    .unions [lowercase, uppercase, Category.titlecaseLetter.table]),
   (["CWCF", "Changes_When_Casefolded"], fun _ =>
    (lowering.union foldedLowercase).diff unfoldedUppercase),
   (["CWCM", "Changes_When_Casemapped"], fun _ => lowering.union raising),
   (["CWL", "Changes_When_Lowercased"], fun _ => lowering),
   (["CWT", "Changes_When_Titlecased"], fun _ =>
    (raising.diff titlecased).union titlecasing),
   (["CWU", "Changes_When_Uppercased"], fun _ => raising),
   (["Gr_Base", "Grapheme_Base"], fun _ =>
    (categories (Category.all.filter fun g => !([.control, .format, .privateUse,
      .lineSeparator, .paragraphSeparator] : List Category).contains g)).diff graphemeExtend),
   (["Gr_Ext", "Grapheme_Extend"], fun _ => graphemeExtend),
   (["IDC", "ID_Continue"], fun _ => identifierPart),
   (["IDS", "ID_Start"], fun _ => identifierStart),
   (["Lower", "Lowercase"], fun _ => lowercase),
   (["NChar", "Noncharacter_Code_Point"], fun _ =>
    .ofList ((0xFDD0, 0xFDEF) ::
      (List.range 17).map fun i => (i * 0x10000 + 0xFFFE, i * 0x10000 + 0xFFFF))),
   (["Upper", "Uppercase"], fun _ => uppercase),
   (["WSpace", "Space", "White_Space"], fun _ => blanks),
   (["XIDC", "XID_Continue"], fun _ => identifierPart.diff unstableIdentifierPart),
   (["XIDS", "XID_Start"], fun _ => identifierStart.diff unstableIdentifierStart)]

/-- The binary property with a name. -/
def binary? (key : List Char) : Option CodeRanges :=
  match derivedProperties.find? fun (names, _) => isNamed key names with
  | some (_, set) => some (set ())
  | none =>
    (BinaryProperty.all.find? fun p => isNamed key [p.shortName, p.longName]).map
      BinaryProperty.table

/-- The class that a single name selects: a binary property, a category or a
script. The names `cf`, `lc` and `sc` are categories. -/
def classNamed? (name : List Char) : Option CodeRanges :=
  let key := normalizeName name
  match binary? key with
  | some set => some set
  | none => (category? key).or ((scriptNamed? key).map Script.table)

/-- The class that a property and a value select. -/
def classValued? (name value : List Char) : Option CodeRanges :=
  let key := normalizeName value
  let property := normalizeName name
  if isNamed property ["gc", "General_Category"] then category? key
  else if isNamed property ["sc", "Script"] then (scriptNamed? key).map Script.table
  else if isNamed property ["scx", "Script_Extensions"] then
    (scriptNamed? key).map scriptWithShared
  else none

/-- The digits. -/
def digits : CodeRanges := Category.decimalNumber.table

/-- The ASCII digits. -/
def asciiDigits : CodeRanges := .ofLines ["30-39"]

/-- The ASCII blanks. -/
def asciiBlanks : CodeRanges := .ofLines ["9-D 20"]

/-- The ASCII word characters. -/
def asciiWordChars : CodeRanges := .ofLines ["30-39 41-5A 5F 61-7A"]

/-- The classes of the C locale by name. -/
def localeClass? (name : List Char) : Option CodeRanges :=
  ([("alnum", ["30-39 41-5A 61-7A"]),
    ("alpha", ["41-5A 61-7A"]),
    ("ascii", ["0-7F"]),
    ("blank", ["9 20"]),
    ("cntrl", ["0-1F 7F"]),
    ("digit", ["30-39"]),
    ("graph", ["21-7E"]),
    ("lower", ["61-7A"]),
    ("print", ["20-7E"]),
    ("punct", ["21-2F 3A-40 5B-60 7B-7E"]),
    ("space", ["9-D 20"]),
    ("upper", ["41-5A"]),
    ("word", ["30-39 41-5A 5F 61-7A"]),
    ("xdigit", ["30-39 41-46 61-66"])].lookup (String.ofList name)).map CodeRanges.ofLines

end QueryGateway.Pattern
