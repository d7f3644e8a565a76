import QueryGateway.Proofs.Answer.Rows
import QueryGateway.Proofs.Json.Pairs

/-!
# When a member is JSON

Whether a value of a number column is written bare is decided by its first and its last byte.
The member is one of a JSON object exactly if this look does not deceive, whatever the names
and the type of the column and the characters of the value are.
-/

namespace QueryGateway.OutputColumn

open Json Json.Document

/-- Bytes that are one member of a JSON object: a string, which is its name, a colon, and one
value. -/
def EncodesMember (m : Bytes) (name : String) (d : Document) : Prop :=
  ∃ s, Utf8.decode? m = some s ∧ IsMember s name d

variable (names : Naming) {c : Column} {s : String}

/-- A value that looks right is the value of a member. -/
theorem encodesMember_of_looksRight (hs : LooksRight (.ofType c.typeName) s) :
    EncodesMember (encodeMember (ofColumn names c) (Utf8.ofString s)) (names.nameOf c.name)
      (cellDocument (.ofType c.typeName) s) := by
  refine ⟨_, ?_, isMember_member escapes_escapeText (reads_cellText (.ofType c.typeName) s)⟩
  rw [encodeMember_ofString names hs, Utf8.decode?_encode]

/-- A value of a number column that looks like a number is written with its own characters. -/
theorem encodeMember_bare (hkind : ValueKind.ofType c.typeName = .number)
    (hlooks : looksNumeric (Utf8.ofString s) = true) :
    encodeMember (ofColumn names c) (Utf8.ofString s) =
      Utf8.encode (member escapeText (names.nameOf c.name) s.toList) := by
  rw [encodeMember, ofColumn, hkind, encodeValue, if_pos hlooks, quoteBytes_ofString, member,
    Utf8.encode_append, Utf8.encode_cons]
  rfl

/-- The value of a member looks right: bare characters that begin and end as those of a number
denote nothing else. -/
theorem looksRight_of_encodesMember {name : String} {d : Document}
    (h : EncodesMember (encodeMember (ofColumn names c) (Utf8.ofString s)) name d) :
    LooksRight (.ofType c.typeName) s := by
  intro hkind hlooks
  obtain ⟨t, htext, hmember⟩ := h
  rw [encodeMember_bare names hkind hlooks, Utf8.decode?_encode] at htext
  obtain rfl := Option.some.inj htext
  have hvalue := (hmember.of_member escapes_escapeText).2
  rw [looksNumeric_ofString, Bool.and_eq_true] at hlooks
  exact isNumber_of_ofText? hlooks.1 hlooks.2 hvalue

/-- What is quoted does not look numeric. -/
theorem looksNumeric_quoteBytes (value : Bytes) : looksNumeric (quoteBytes value) = false := rfl

/-- The values of a number column are written bare if they are numbers and quoted otherwise,
provided that they look right. -/
theorem encodeValue_number_eq_iff (s : String) :
    encodeValue .number (Utf8.ofString s) =
        (if isNumber s.toList = true then Utf8.ofString s else quoteBytes (Utf8.ofString s)) ↔
      LooksRight .number s := by
  constructor
  · intro hvalue _ hlooks
    by_contra hnumber
    rw [encodeValue, if_pos hlooks, if_neg hnumber] at hvalue
    rw [hvalue, looksNumeric_quoteBytes] at hlooks
    cases hlooks
  · intro hs
    rw [encodeValue]
    by_cases hnumber : isNumber s.toList = true
    · rw [if_pos (looksNumeric_of_isNumber hnumber), if_pos hnumber]
    · rw [if_neg fun hlooks => hnumber (hs rfl hlooks), if_neg hnumber]

/-- **Members are JSON exactly as far as numbers look right.** Whatever the names of the
endpoint, the column and the text of the cell are, the encoder writes a string, a colon and
one JSON value just if a value of a number column that begins with a digit or a minus sign and
ends in a digit is a number of the JSON grammar. The member then has the name of the column
and the value that the cell denotes, and a value of a number column is bare if it is a number
and quoted otherwise. -/
theorem encodesMember_iff_looksRight (c : Column) (s : String) :
    ((∃ name d, EncodesMember (encodeMember (ofColumn names c) (Utf8.ofString s)) name d) ↔
      LooksRight (.ofType c.typeName) s) ∧
    (LooksRight (.ofType c.typeName) s →
      EncodesMember (encodeMember (ofColumn names c) (Utf8.ofString s)) (names.nameOf c.name)
        (cellDocument (.ofType c.typeName) s)) ∧
    (ValueKind.ofType c.typeName = .number →
      (encodeValue (.ofType c.typeName) (Utf8.ofString s) =
          (if isNumber s.toList = true then Utf8.ofString s
            else quoteBytes (Utf8.ofString s)) ↔
        LooksRight (.ofType c.typeName) s)) := by
  refine ⟨⟨?_, fun hs => ⟨_, _, encodesMember_of_looksRight names hs⟩⟩,
    encodesMember_of_looksRight names, fun hkind => ?_⟩
  · rintro ⟨name, d, hmember⟩
    exact looksRight_of_encodesMember names hmember
  · rw [hkind]
    exact encodeValue_number_eq_iff s

/-- A number with a leading zero is written bare, which no member of a JSON object allows. -/
theorem not_encodesMember_leading_zero :
    encodeMember (ofColumn ⟨[], .verbatim⟩ ⟨"id", "INT4"⟩) (Utf8.ofString "01") =
        Utf8.ofString "\"id\":01" ∧
      ¬ ∃ name d, EncodesMember (encodeMember (ofColumn ⟨[], .verbatim⟩ ⟨"id", "INT4"⟩)
        (Utf8.ofString "01")) name d := by
  refine ⟨by decide, ?_⟩
  rintro ⟨name, d, hmember⟩
  have hnumber := looksRight_of_encodesMember _ hmember (by decide) (by decide)
  revert hnumber
  decide

end QueryGateway.OutputColumn
