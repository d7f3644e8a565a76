import QueryGateway.Answer.Column
import QueryGateway.Proofs.Json.Escapes
import QueryGateway.Proofs.Text.Utf8

/-!
# Cells as documents

The encoder of cells works on bytes. On the UTF-8 form of a text it gives the UTF-8
form of a JSON text, which denotes a number, a truth value or the string with the
characters of the cell.
-/

namespace QueryGateway

namespace OutputColumn

open Json Json.Document

/-! ## Strings -/

/-- A character inside a string of a cell. -/
def escapeText (c : Char) : List Char :=
  if c = '"' then ['\\', '"']
  else if c = '\\' then ['\\', '\\']
  else if c = '\n' then ['\\', 'n']
  else if c = '\r' then ['\\', 'r']
  else if c = '\t' then ['\\', 't']
  else if c.toNat < 32 then
    ['\\', 'u', '0', '0', Json.hexDigit (c.toNat / 16), Json.hexDigit (c.toNat % 16)]
  else [c]

/-- The reader of strings undoes the escapes of cells. -/
theorem escapes_escapeText : Escapes escapeText := by
  intro c rest
  unfold escapeText
  split_ifs with hquote hslash hnewline hreturn htab hcontrol
  · subst hquote; rfl
  · subst hslash; rfl
  · subst hnewline; rfl
  · subst hreturn; rfl
  · subst htab; rfl
  · exact readChar?_control hcontrol rest
  · exact readChar?_plain hquote hslash hcontrol rest

/-- The bytes of an ASCII character are escaped as the character is. -/
theorem escapeByte_ascii {n : Nat} (hn : n < 128) :
    escapeByte (UInt8.ofNat n) = Utf8.encode (escapeText (Char.ofNat n)) := by
  have hall : ∀ k : Fin 128,
      escapeByte (UInt8.ofNat k) = Utf8.encode (escapeText (Char.ofNat k)) := by decide
  exact hall ⟨n, hn⟩

/-- Bytes beyond ASCII are not escaped. -/
theorem escapeByte_of_le {b : UInt8} (hb : 0x80 ≤ b.toNat) : escapeByte b = [b] := by
  have hne {d : UInt8} (hd : d.toNat < 0x80) : b ≠ d := by
    rintro rfl
    omega
  have hcontrol : ¬ b < 0x20 := by
    rw [UInt8.lt_iff_toNat_lt]
    simp only [UInt8.reduceToNat]
    omega
  simp [escapeByte, hcontrol, hne (d := 0x22) (by decide), hne (d := 0x5C) (by decide),
    hne (d := 0x0A) (by decide), hne (d := 0x0D) (by decide), hne (d := 0x09) (by decide)]

/-- Escaping the bytes of a character gives the bytes of the escaped character. -/
theorem flatMap_escapeByte (c : Char) :
    (String.utf8EncodeChar c).flatMap escapeByte = Utf8.encode (escapeText c) := by
  by_cases hc : c.toNat < 0x80
  · rw [Utf8.encodeChar_of_ascii hc, List.flatMap_singleton, escapeByte_ascii hc, Char.ofNat_toNat]
  · have hne {d : Char} (hd : d.toNat < 0x80) : c ≠ d := by
      rintro rfl
      exact hc hd
    have hplain : escapeText c = [c] := by
      simp [escapeText, hne (d := '"') (by decide), hne (d := '\\') (by decide),
        hne (d := '\n') (by decide), hne (d := '\r') (by decide), hne (d := '\t') (by decide),
        show ¬ c.toNat < 32 by omega]
    have hbytes : ∀ b ∈ String.utf8EncodeChar c, escapeByte b = [b] := fun b hb =>
      escapeByte_of_le (Utf8.le_of_mem_encodeChar (by omega) hb)
    rw [hplain, Utf8.encode, List.flatMap_singleton, List.flatMap_def,
      List.map_congr_left hbytes, ← List.flatMap_def, List.flatMap_singleton']

/-- The string of a text is the form of a quoted text. -/
theorem quoteBytes_ofString (s : String) :
    quoteBytes (Utf8.ofString s) = Utf8.encode (quoted escapeText s) := by
  have hflat (t : List Char) :
      (Utf8.encode t).flatMap escapeByte = Utf8.encode (t.flatMap escapeText) := by
    induction t with
    | nil => rfl
    | cons c t ih =>
      rw [Utf8.encode_cons, List.flatMap_append, flatMap_escapeByte, ih, List.flatMap_cons,
        Utf8.encode_append]
  have hquote : String.utf8EncodeChar '"' = [0x22] := by decide
  simp [quoteBytes, Utf8.ofString, hflat, quoted, hquote]

/-! ## Numbers -/

/-- The numbers of the database that JSON does not have. -/
def unwritableNumbers : List String := ["NaN", "Infinity", "-Infinity"]

theorem isAsciiTest_isDigitByte : Utf8.IsAsciiTest isDigitByte Text.isAsciiDigit where
  ascii := by decide
  byte b hb := by
    have hnot : ¬ b.toNat ≤ 0x39 := by omega
    simp [isDigitByte, UInt8.le_iff_toNat_le, hnot]
  char c hc := by
    have hle {a b : Char} : a ≤ b ↔ a.toNat ≤ b.toNat := Iff.rfl
    have hnot : ¬ c.toNat ≤ 0x39 := by omega
    simp [Text.isAsciiDigit, hle, hnot]

theorem isAsciiTest_opensNumber : Utf8.IsAsciiTest (fun b => b == 0x2D || isDigitByte b)
    fun c => c == '-' || Text.isAsciiDigit c where
  ascii := by decide
  byte b hb := by
    have hne : b ≠ 0x2D := by
      rintro rfl
      exact absurd hb (by decide)
    simp [hne, isAsciiTest_isDigitByte.byte b hb]
  char c hc := by
    have hne : c ≠ '-' := by
      rintro rfl
      exact absurd hc (by decide)
    simp [hne, isAsciiTest_isDigitByte.char c hc]

/-- A text looks numeric if it begins with a digit or a minus sign and ends in a digit. -/
theorem looksNumeric_ofString (s : String) : looksNumeric (Utf8.ofString s) =
    (s.toList.head?.any (fun c => c == '-' || Text.isAsciiDigit c) &&
      s.toList.getLast?.any Text.isAsciiDigit) := by
  rw [looksNumeric, Utf8.ofString, isAsciiTest_opensNumber.any_head?,
    isAsciiTest_isDigitByte.any_getLast?]

/-- The form of a number looks numeric. -/
theorem looksNumeric_of_isNumber {s : String} (hs : isNumber s.toList = true) :
    looksNumeric (Utf8.ofString s) = true := by
  obtain ⟨⟨_, hlast⟩, c, t, hct, hc⟩ := numberTail_of_isNumber hs
  have hne : s.toList ≠ [] := by simp [hct]
  have hdigit := hlast _ (List.getLast?_eq_some_getLast hne)
  have hhead : s.toList.head?.any (fun c => c == '-' || Text.isAsciiDigit c) = true := by
    rw [hct]
    simpa using hc
  rw [looksNumeric_ofString, hhead, List.getLast?_eq_some_getLast hne]
  simpa using hdigit

/-! ## Values -/

/-- What a cell denotes: a number or a truth value if it is one and the column is of
that kind, and the string with its characters otherwise. -/
def cellDocument (kind : ValueKind) (s : String) : Document :=
  match kind with
  | .number => if h : isNumber s.toList = true then .number ⟨s.toList, h⟩ else .string s
  | .truth =>
    if s = "t" ∨ s = "true" then .truth true
    else if s = "f" ∨ s = "false" then .truth false
    else .string s
  | .text => .string s

/-- A value of a truth column is compared as a text. -/
theorem truthOf?_ofString (s : String) : truthOf? (Utf8.ofString s) =
    if s = "t" ∨ s = "true" then some true
    else if s = "f" ∨ s = "false" then some false
    else none := by
  simp only [truthOf?, Bool.or_eq_true, beq_iff_eq, Utf8.ofString_inj]

/-- The cells whose look does not deceive: in a number column, what looks like a number is
one of the JSON grammar. -/
def LooksRight (kind : ValueKind) (s : String) : Prop :=
  kind = .number → looksNumeric (Utf8.ofString s) = true → isNumber s.toList = true

/-- The cells of a database that writes numbers as JSON does, apart from those that JSON
does not have. -/
def Writable (kind : ValueKind) (s : String) : Prop :=
  kind = .number → s ≠ "" → isNumber s.toList = true ∨ s ∈ unwritableNumbers

/-- The numbers that JSON does not have do not look like numbers. -/
theorem Writable.looksRight {kind : ValueKind} {s : String} (hs : Writable kind s)
    (hne : s ≠ "") : LooksRight kind s := by
  intro hkind hlooks
  refine (hs hkind hne).resolve_right fun hmem => ?_
  have hall : ∀ s ∈ unwritableNumbers, looksNumeric (Utf8.ofString s) = false := by decide
  rw [hall s hmem] at hlooks
  cases hlooks

/-- A cell as a JSON text. -/
def cellText (kind : ValueKind) (s : String) : List Char :=
  match cellDocument kind s with
  | .number n => n.chars
  | .truth b => if b then "true".toList else "false".toList
  | _ => quoted escapeText s

/-- The form of a cell is that of its JSON text. -/
theorem encodeValue_ofString {kind : ValueKind} {s : String} (hs : LooksRight kind s) :
    encodeValue kind (Utf8.ofString s) = Utf8.encode (cellText kind s) := by
  cases kind with
  | number =>
    rw [encodeValue, cellText, cellDocument]
    by_cases hnumber : isNumber s.toList = true
    · rw [if_pos (looksNumeric_of_isNumber hnumber), dif_pos hnumber]
      rfl
    · rw [if_neg fun hlooks => hnumber (hs rfl hlooks), dif_neg hnumber]
      exact quoteBytes_ofString s
  | truth =>
    rw [encodeValue, cellText, cellDocument, truthOf?_ofString]
    by_cases htrue : s = "t" ∨ s = "true"
    · rw [if_pos htrue, if_pos htrue]
      rfl
    · rw [if_neg htrue, if_neg htrue]
      by_cases hfalse : s = "f" ∨ s = "false"
      · rw [if_pos hfalse, if_pos hfalse]
        rfl
      · rw [if_neg hfalse, if_neg hfalse]
        exact quoteBytes_ofString s
  | text => exact quoteBytes_ofString s

/-- The JSON text of a cell denotes what the cell denotes. -/
theorem reads_cellText (kind : ValueKind) (s : String) :
    Reads (cellText kind s) (cellDocument kind s) := by
  have hstring : Reads (quoted escapeText s) (.string s) := reads_string escapes_escapeText s
  cases kind with
  | number =>
    rw [cellText, cellDocument]
    by_cases hnumber : isNumber s.toList = true
    · rw [dif_pos hnumber]
      exact reads_number ⟨s.toList, hnumber⟩
    · rw [dif_neg hnumber]
      exact hstring
  | truth =>
    rw [cellText, cellDocument]
    by_cases htrue : s = "t" ∨ s = "true"
    · rw [if_pos htrue]
      exact reads_truth true
    · rw [if_neg htrue]
      by_cases hfalse : s = "f" ∨ s = "false"
      · rw [if_pos hfalse]
        exact reads_truth false
      · rw [if_neg hfalse]
        exact hstring
  | text => exact hstring

end OutputColumn

end QueryGateway
