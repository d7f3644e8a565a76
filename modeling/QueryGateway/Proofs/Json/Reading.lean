import Mathlib.Data.List.TakeWhile
import QueryGateway.Proofs.Json.Document
import QueryGateway.Text.Split

/-!
# Reading documents

A text that denotes a document denotes it wherever it stands, provided that no number
goes on after it. This is shown of strings, numbers and truth values, and of lists and
objects for any texts of their parts.
-/

namespace QueryGateway.Json

/-! ## Numbers -/

/-- A number does not go on with this text. -/
def Stops (rest : List Char) : Prop :=
  ∀ c ∈ rest.head?, Document.isNumberChar c = false

theorem isNumberChar_of_isAsciiDigit {c : Char} (hc : Text.isAsciiDigit c = true) :
    Document.isNumberChar c = true := by
  simp [Document.isNumberChar, hc]

/-- A text of characters of numbers that ends in a digit, if it does not end at once. -/
def NumberTail (s : List Char) : Prop :=
  (∀ c ∈ s, Document.isNumberChar c = true) ∧ ∀ c ∈ s.getLast?, Text.isAsciiDigit c = true

theorem numberTail_of_isDigits {s : List Char} (hs : isDigits s = true) : NumberTail s := by
  simp only [isDigits, Bool.and_eq_true, List.all_eq_true] at hs
  refine ⟨fun c hc => isNumberChar_of_isAsciiDigit (hs.2 c hc), fun c hc => hs.2 c ?_⟩
  exact List.mem_of_getLast? hc

/-- A character of numbers may stand before digits. -/
theorem NumberTail.cons {c : Char} {s : List Char} (hc : Document.isNumberChar c = true)
    (hs : NumberTail s) (hne : s ≠ []) : NumberTail (c :: s) := by
  constructor
  · intro d hd
    rcases List.mem_cons.mp hd with rfl | hd
    · exact hc
    · exact hs.1 d hd
  · intro d hd
    apply hs.2 d
    rwa [List.getLast?_cons_of_ne_nil hne] at hd

theorem NumberTail.append {s t : List Char} (hs : NumberTail s) (ht : NumberTail t) :
    NumberTail (s ++ t) := by
  constructor
  · intro c hc
    rcases List.mem_append.mp hc with hc | hc
    · exact hs.1 c hc
    · exact ht.1 c hc
  · intro c hc
    rw [List.getLast?_append] at hc
    rcases h : t.getLast? with _ | d
    · rw [h] at hc
      exact hs.2 c hc
    · rw [h] at hc
      exact ht.2 c (h.trans hc)

theorem isDigits_ne_nil {s : List Char} (hs : isDigits s = true) : s ≠ [] := by
  rintro rfl
  simp [isDigits] at hs

/-- Digits after a sign or after nothing. -/
theorem numberTail_of_dropSign {s : List Char} (hs : isDigits (dropSign s) = true) :
    NumberTail s ∧ s ≠ [] := by
  unfold dropSign at hs
  split at hs
  · exact ⟨(numberTail_of_isDigits hs).cons (by decide) (isDigits_ne_nil hs), by simp⟩
  · exact ⟨(numberTail_of_isDigits hs).cons (by decide) (isDigits_ne_nil hs), by simp⟩
  · exact ⟨numberTail_of_isDigits hs, isDigits_ne_nil hs⟩

theorem numberTail_nil : NumberTail [] := ⟨by simp, by simp⟩

theorem numberTail_of_isExponent {s : List Char} (hs : isExponent s = true) : NumberTail s := by
  rcases s with _ | ⟨c, s⟩
  · exact numberTail_nil
  · simp only [isExponent, Bool.and_eq_true, Bool.or_eq_true, beq_iff_eq] at hs
    obtain ⟨htail, hne⟩ := numberTail_of_dropSign hs.2
    refine htail.cons ?_ hne
    rcases hs.1 with rfl | rfl <;> decide

theorem numberTail_of_isFraction {s : List Char} (hs : isFraction s = true) : NumberTail s := by
  unfold isFraction at hs
  split at hs
  · next s =>
    rw [Bool.and_eq_true] at hs
    have htail := (numberTail_of_isDigits hs.1).append (numberTail_of_isExponent hs.2)
    rw [List.takeWhile_append_dropWhile] at htail
    refine htail.cons (by decide) ?_
    rintro rfl
    exact isDigits_ne_nil hs.1 rfl
  · exact numberTail_of_isExponent hs

/-- A number without a minus sign begins with a digit. -/
theorem numberTail_of_isUnsigned {s : List Char} (hs : isUnsigned s = true) :
    NumberTail s ∧ ∃ c t, s = c :: t ∧ Text.isAsciiDigit c = true := by
  simp only [isUnsigned, isIntegerPart, Bool.and_eq_true] at hs
  constructor
  · have htail := (numberTail_of_isDigits hs.1.1).append (numberTail_of_isFraction hs.2)
    rwa [List.takeWhile_append_dropWhile] at htail
  · rcases s with _ | ⟨c, t⟩
    · exact absurd rfl (isDigits_ne_nil hs.1.1)
    · refine ⟨c, t, rfl, ?_⟩
      by_cases hc : Text.isAsciiDigit c = true
      · exact hc
      · exact absurd (List.takeWhile_cons_of_neg hc) (isDigits_ne_nil hs.1.1)

/-- A number consists of the characters of numbers, begins with a digit or a minus sign,
and ends in a digit. -/
theorem numberTail_of_isNumber {s : List Char} (hs : isNumber s = true) :
    NumberTail s ∧ ∃ c t, s = c :: t ∧ (c = '-' ∨ Text.isAsciiDigit c = true) := by
  unfold isNumber at hs
  split at hs
  · next s =>
    obtain ⟨htail, c, t, rfl, _⟩ := numberTail_of_isUnsigned hs
    exact ⟨htail.cons (by decide) (by simp), '-', c :: t, rfl, .inl rfl⟩
  · next s =>
    obtain ⟨htail, c, t, rfl, hc⟩ := numberTail_of_isUnsigned hs
    exact ⟨htail, c, t, rfl, .inr hc⟩

namespace Document

/-! ## Texts of documents -/

/-- A text that a reader takes wherever it stands. -/
def ReadsPart {α : Type} (read : List Char → Option (α × List Char)) (s : List Char) (a : α) :
    Prop :=
  ∀ rest, Stops rest → read (s ++ rest) = some (a, rest)

/-- A text that denotes a document wherever it stands. -/
def Reads (s : List Char) (d : Document) : Prop :=
  ∀ fuel, s.length ≤ fuel → ReadsPart (readValue? fuel) s d

/-- No text denotes a document without any characters. -/
theorem Reads.ne_nil {s : List Char} {d : Document} (hs : Reads s d) : s ≠ [] := by
  rintro rfl
  have hread := hs 0 (Nat.le_refl 0) [] (by simp [Stops])
  simp [readValue?] at hread

/-- A text that denotes a document is read as a whole. -/
theorem Reads.ofText? {s : List Char} {d : Document} (hs : Reads s d) : ofText? s = some d := by
  have hread := hs (s.length + 1) (Nat.le_succ _) [] (by simp [Stops])
  rw [List.append_nil] at hread
  rw [Document.ofText?, hread]
  simp only [bind, Option.bind]
  exact if_pos rfl

/-- Characters that begin no blanks. -/
theorem skipBlanks_cons {c : Char} {s : List Char} (hc : isBlank c = false) :
    skipBlanks (c :: s) = c :: s :=
  List.dropWhile_cons_of_neg (by simp [hc])

/-- A scalar is read after the blanks, unless a quotation mark or a bracket stands there. -/
theorem readValue?_scalar {fuel : Nat} {c : Char} {s : List Char} (hblank : isBlank c = false)
    (hc : c ≠ '"' ∧ c ≠ '[' ∧ c ≠ '\x7b') :
    readValue? (fuel + 1) (c :: s) = readScalar? (c :: s) := by
  rw [readValue?, skipBlanks_cons hblank]
  split <;> simp_all

/-- A truth value. -/
theorem reads_truth (b : Bool) :
    Reads (if b then "true".toList else "false".toList) (.truth b) := by
  intro fuel hfuel rest _
  cases fuel with
  | zero => cases b <;> simp at hfuel
  | succ fuel =>
    cases b
    · exact readValue?_scalar (by decide) (by decide)
    · exact readValue?_scalar (by decide) (by decide)

/-- A number is read if a digit or a minus sign stands first. -/
theorem readValue?_number {fuel : Nat} {c : Char} {s : List Char}
    (hc : c = '-' ∨ Text.isAsciiDigit c = true) :
    readValue? (fuel + 1) (c :: s) = readNumber? (c :: s) := by
  have hne {d : Char} (hd : ¬ (d = '-' ∨ Text.isAsciiDigit d = true)) : c ≠ d := by
    rintro rfl
    exact hd hc
  have hblank : isBlank c = false := by
    simp [isBlank, hne (d := ' ') (by decide), hne (d := '\t') (by decide),
      hne (d := '\n') (by decide), hne (d := '\r') (by decide)]
  rw [readValue?_scalar hblank ⟨hne (by decide), hne (by decide), hne (by decide)⟩]
  unfold readScalar?
  split
  · next h => exact absurd (List.cons.inj h).1 (hne (by decide))
  · next h => exact absurd (List.cons.inj h).1 (hne (by decide))
  · next h => exact absurd (List.cons.inj h).1 (hne (by decide))
  · rfl

/-- A number. -/
theorem reads_number (n : NumberText) : Reads n.chars (.number n) := by
  obtain ⟨s, hs⟩ := n
  intro fuel hfuel rest hrest
  obtain ⟨⟨hchars, _⟩, c, t, rfl, hc⟩ := numberTail_of_isNumber hs
  rw [List.length_cons] at hfuel
  obtain ⟨fuel, rfl⟩ : ∃ n, fuel = n + 1 := ⟨fuel - 1, by omega⟩
  have htake := Text.takeWhile_run hchars hrest
  have hdrop := Text.dropWhile_run hchars hrest
  rw [List.cons_append, readValue?_number hc, readNumber?, ← List.cons_append]
  simp only [htake, hdrop, hs, dite_true]

/-- A digit is not left behind as a blank. -/
theorem eq_nil_of_skipBlanks {s : List Char} (hs : skipBlanks s = [])
    (hlast : ∀ c ∈ s.getLast?, Text.isAsciiDigit c = true) : s = [] := by
  rcases s.eq_nil_or_concat with rfl | ⟨front, c, rfl⟩
  · rfl
  · have hdigit := hlast c (by simp)
    have hblank : isBlank c = true := List.dropWhile_eq_nil_iff.mp hs c (by simp)
    simp only [isBlank, Bool.or_eq_true, beq_iff_eq] at hblank
    rcases hblank with ((rfl | rfl) | rfl) | rfl <;> cases hdigit

/-- A text that begins with a digit or a minus sign and ends in a digit denotes a number or
nothing. -/
theorem isNumber_of_ofText? {s : List Char} {d : Document}
    (hopen : s.head?.any (fun c => c == '-' || Text.isAsciiDigit c) = true)
    (hlast : s.getLast?.any Text.isAsciiDigit = true) (h : ofText? s = some d) :
    Json.isNumber s = true := by
  cases s with
  | nil => cases hopen
  | cons c t =>
    have hc : c = '-' ∨ Text.isAsciiDigit c = true := by simpa using hopen
    obtain ⟨⟨e, rest⟩, hread, h⟩ := Option.bind_eq_some_iff.mp h
    rw [readValue?_number hc, readNumber?] at hread
    split at hread
    · next hnumber =>
      obtain ⟨-, hrest⟩ := Prod.mk.inj (Option.some.inj hread)
      have hsplit := List.takeWhile_append_dropWhile (p := isNumberChar) (l := c :: t)
      rw [hrest] at hsplit
      dsimp only at h
      split at h
      · next hblank =>
        have hnil : rest = [] := eq_nil_of_skipBlanks hblank fun e he => by
          rw [← hsplit, List.getLast?_append, Option.mem_def.mp he] at hlast
          exact hlast
        rw [hnil, List.append_nil] at hsplit
        rwa [hsplit] at hnumber
      · cases h
    · cases hread

/-! ## Strings -/

/-- Escapes that the reader undoes. -/
def Escapes (escape : Char → List Char) : Prop :=
  ∀ c rest, readChar? (escape c ++ rest) = some (c, rest)

variable {escape : Char → List Char}

theorem Escapes.ne_nil (hescape : Escapes escape) (c : Char) : escape c ≠ [] := by
  intro hc
  have hread := hescape c []
  rw [hc, List.append_nil] at hread
  simp [readChar?] at hread

/-- No escaped character looks like the end of a string. -/
theorem Escapes.head?_ne (hescape : Escapes escape) (c : Char) (rest : List Char) :
    (escape c ++ rest).head? ≠ some '"' := by
  intro hhead
  have hread := hescape c rest
  rcases h : escape c ++ rest with _ | ⟨d, t⟩
  · simp [h] at hhead
  · rw [h] at hread hhead
    obtain rfl := Option.some.inj hhead
    simp [readChar?] at hread

/-- The reader of strings undoes the escapes. -/
theorem readChars?_escaped (hescape : Escapes escape) (s rest : List Char) {fuel : Nat}
    (hfuel : s.length < fuel) :
    readChars? fuel (s.flatMap escape ++ '"' :: rest) = some (s, rest) := by
  induction s generalizing fuel with
  | nil =>
    obtain ⟨fuel, rfl⟩ : ∃ n, fuel = n + 1 := ⟨fuel - 1, by omega⟩
    rfl
  | cons c s ih =>
    rw [List.length_cons] at hfuel
    obtain ⟨fuel, rfl⟩ : ∃ n, fuel = n + 1 := ⟨fuel - 1, by omega⟩
    rw [List.flatMap_cons, List.append_assoc, readChars?, if_neg (hescape.head?_ne c _),
      hescape c]
    simp only [bind, Option.bind, ih (show s.length < fuel by omega)]

/-- Escaping leaves as many characters or more. -/
theorem Escapes.length_le (hescape : Escapes escape) (s : List Char) :
    s.length ≤ (s.flatMap escape).length := by
  induction s with
  | nil => simp
  | cons c s ih =>
    have := List.length_pos_iff.mpr (hescape.ne_nil c)
    simp only [List.flatMap_cons, List.length_cons, List.length_append]
    omega

/-- A string in quotation marks. -/
def quoted (escape : Char → List Char) (s : String) : List Char :=
  '"' :: s.toList.flatMap escape ++ ['"']

theorem readString?_quoted (hescape : Escapes escape) (s : String) (rest : List Char) :
    readString? (s.toList.flatMap escape ++ '"' :: rest) = some (s, rest) := by
  have := hescape.length_le s.toList
  rw [readString?, readChars?_escaped hescape s.toList rest (by
    rw [List.length_append]
    omega)]
  simp

/-- A string. -/
theorem reads_string (hescape : Escapes escape) (s : String) :
    Reads (quoted escape s) (.string s) := by
  intro fuel hfuel rest _
  rw [quoted, List.cons_append, List.length_cons] at hfuel
  obtain ⟨fuel, rfl⟩ : ∃ n, fuel = n + 1 := ⟨fuel - 1, by omega⟩
  have hshape : quoted escape s ++ rest = '"' :: (s.toList.flatMap escape ++ '"' :: rest) := by
    simp [quoted]
  rw [hshape, readValue?, skipBlanks_cons (by decide)]
  simp only [readString?_quoted hescape, Option.map_some]

/-! ## Lists and objects -/

/-- A bracket that closes a list or an object. -/
structure Closes (close : Char) : Prop where
  not_blank : isBlank close = false
  not_number : isNumberChar close = false
  not_comma : close ≠ ','

section

variable {α β : Type} {close : Char} {read : List Char → Option (β × List Char)}
  {print : α → List Char} {value : α → β}

theorem stops_cons {c : Char} (hc : isNumberChar c = false) (rest : List Char) :
    Stops (c :: rest) := by
  rintro d ⟨⟩
  exact hc

/-- Parts with commas between them are read up to the closing bracket. -/
theorem readSeparated?_intercalate (hclose : Closes close) (items : List α) (hne : items ≠ [])
    (hitems : ∀ a ∈ items, ReadsPart read (print a) (value a)) {fuel : Nat}
    (hfuel : items.length ≤ fuel) (rest : List Char) :
    readSeparated? close read fuel ([','].intercalate (items.map print) ++ close :: rest) =
      some (items.map value, rest) := by
  induction items generalizing fuel with
  | nil => exact absurd rfl hne
  | cons a items ih =>
    rw [List.length_cons] at hfuel
    obtain ⟨fuel, rfl⟩ : ∃ n, fuel = n + 1 := ⟨fuel - 1, by omega⟩
    have ha := hitems a List.mem_cons_self
    rcases items with _ | ⟨b, items⟩
    · rw [List.map_singleton, List.intercalate_singleton, readSeparated?,
        ha _ (stops_cons hclose.not_number rest)]
      simp [skipBlanks_cons hclose.not_blank]
    · have hrest := ih (by simp) (fun c hc => hitems c (List.mem_cons_of_mem a hc))
        (show (b :: items).length ≤ fuel by omega)
      have hshape : [','].intercalate ((a :: b :: items).map print) ++ close :: rest =
          print a ++ ',' :: ([','].intercalate ((b :: items).map print) ++ close :: rest) := by
        rw [List.map_cons, List.map_cons, List.intercalate_cons_cons]
        simp
      rw [hshape, readSeparated?, ha _ (stops_cons (by decide) _)]
      simp only [bind, Option.bind, skipBlanks_cons (show isBlank ',' = false by decide),
        if_neg hclose.not_comma.symm, if_true, hrest]
      rfl

/-- There are no more parts than characters. -/
theorem length_le_intercalate (items : List α) (hitems : ∀ a ∈ items, print a ≠ []) :
    items.length ≤ ([','].intercalate (items.map print)).length := by
  induction items with
  | nil => simp
  | cons a items ih =>
    have ha := List.length_pos_iff.mpr (hitems a List.mem_cons_self)
    have hrest := ih fun c hc => hitems c (List.mem_cons_of_mem a hc)
    rcases items with _ | ⟨b, items⟩
    · rw [List.map_singleton, List.intercalate_singleton]
      exact ha
    · rw [List.map_cons, List.map_cons, List.intercalate_cons_cons]
      simp only [List.length_cons, List.length_append, List.map_cons] at hrest ⊢
      omega

/-- No part has more characters than all of them together. -/
theorem length_print_le (print : α → List Char) {items : List α} {a : α} (ha : a ∈ items) :
    (print a).length ≤ ([','].intercalate (items.map print)).length := by
  induction items with
  | nil => simp at ha
  | cons b items ih =>
    rcases items with _ | ⟨c, items⟩
    · obtain rfl := List.mem_singleton.mp ha
      exact Nat.le_of_eq (by rw [List.map_singleton, List.intercalate_singleton])
    · rw [List.map_cons, List.map_cons, List.intercalate_cons_cons]
      simp only [List.length_append]
      rcases List.mem_cons.mp ha with rfl | ha
      · omega
      · have := ih ha
        rw [List.map_cons] at this
        omega

/-- All parts are read up to the closing bracket, which no part begins with. -/
theorem readParts?_intercalate (hclose : Closes close) (items : List α)
    (hitems : ∀ a ∈ items, ReadsPart read (print a) (value a))
    (hopen : ∀ a ∈ items, print a ≠ [] ∧
      ∀ rest, Stops rest → (skipBlanks (print a ++ rest)).head? ≠ some close)
    (rest : List Char) :
    readParts? close read ([','].intercalate (items.map print) ++ close :: rest) =
      some (items.map value, rest) := by
  rcases items with _ | ⟨a, items⟩
  · simp [readParts?, skipBlanks_cons hclose.not_blank]
  · have hlength := length_le_intercalate (a :: items) fun c hc => (hopen c hc).1
    obtain ⟨more, hmore, hstops⟩ : ∃ more,
        [','].intercalate ((a :: items).map print) ++ close :: rest = print a ++ more ∧
          Stops more := by
      rcases items with _ | ⟨b, items⟩
      · exact ⟨close :: rest, by simp, stops_cons hclose.not_number rest⟩
      · refine ⟨_, ?_, stops_cons (c := ',') (by decide)
          ([','].intercalate ((b :: items).map print) ++ close :: rest)⟩
        rw [List.map_cons, List.map_cons, List.intercalate_cons_cons]
        simp
    have hfirst := (hopen a List.mem_cons_self).2 more hstops
    rw [← hmore] at hfirst
    rw [readParts?, if_neg hfirst]
    refine readSeparated?_intercalate hclose _ (by simp) hitems ?_ rest
    rw [List.length_append]
    omega

end

/-- No document begins with a closing bracket. -/
theorem Reads.head?_ne {s : List Char} {d : Document} (hs : Reads s d) {rest : List Char}
    (hrest : Stops rest) : (skipBlanks (s ++ rest)).head? ≠ some ']' := by
  intro hhead
  obtain ⟨t, ht⟩ := List.head?_eq_some_iff.mp hhead
  have hread := hs (s.length + 1) (Nat.le_succ _) rest hrest
  rw [readValue?, ht] at hread
  simp [readScalar?, readNumber?, isNumberChar, Text.isAsciiDigit, Json.isNumber, isUnsigned,
    isIntegerPart, isDigits] at hread

/-- A list of texts that denote documents. -/
theorem reads_list {α : Type} {print : α → List Char} {value : α → Document} {items : List α}
    (hitems : ∀ a ∈ items, Reads (print a) (value a)) :
    Reads ('[' :: [','].intercalate (items.map print) ++ [']']) (.list (items.map value)) := by
  intro fuel hfuel rest _
  rw [List.length_append, List.length_cons, List.length_singleton] at hfuel
  obtain ⟨fuel, rfl⟩ : ∃ n, fuel = n + 1 := ⟨fuel - 1, by omega⟩
  have hclose : Closes ']' := ⟨by decide, by decide, by decide⟩
  have hitem : ∀ a ∈ items, ReadsPart (readValue? fuel) (print a) (value a) := by
    intro a ha
    have := length_print_le print ha
    exact hitems a ha fuel (by omega)
  have hparts := readParts?_intercalate hclose items hitem
    (fun a ha => ⟨(hitems a ha).ne_nil, fun rest hrest => (hitems a ha).head?_ne hrest⟩) rest
  have hshape : '[' :: [','].intercalate (items.map print) ++ [']'] ++ rest =
      '[' :: ([','].intercalate (items.map print) ++ ']' :: rest) := by
    simp
  rw [hshape, readValue?, skipBlanks_cons (by decide)]
  simp only [hparts, Option.map_some]

/-- A name in quotation marks and a colon. -/
theorem readName?_quoted (hescape : Escapes escape) (name : String) (rest : List Char) :
    readName? (quoted escape name ++ ':' :: rest) = some (name, rest) := by
  have hshape : quoted escape name ++ ':' :: rest =
      '"' :: (name.toList.flatMap escape ++ '"' :: (':' :: rest)) := by
    simp [quoted]
  rw [readName?, hshape, skipBlanks_cons (by decide)]
  simp only [bind, Option.bind, readString?_quoted hescape,
    skipBlanks_cons (show isBlank ':' = false by decide)]

/-- A member of an object: its name, a colon and its value. -/
def member (escape : Char → List Char) (name : String) (value : List Char) : List Char :=
  quoted escape name ++ ':' :: value

/-- An object of names and texts that denote documents. -/
theorem reads_object (hescape : Escapes escape) {α : Type} {name : α → String}
    {print : α → List Char} {value : α → Document} {members : List α}
    (hmembers : ∀ a ∈ members, Reads (print a) (value a)) :
    Reads ('\x7b' :: [','].intercalate (members.map fun a => member escape (name a) (print a)) ++
      ['\x7d']) (.object (members.map fun a => (name a, value a))) := by
  intro fuel hfuel rest _
  rw [List.length_append, List.length_cons, List.length_singleton] at hfuel
  obtain ⟨fuel, rfl⟩ : ∃ n, fuel = n + 1 := ⟨fuel - 1, by omega⟩
  have hmember : ∀ a ∈ members, ReadsPart (readMember? (readValue? fuel))
      (member escape (name a) (print a)) (name a, value a) := by
    intro a ha rest hrest
    have hle := length_print_le (fun a => member escape (name a) (print a)) ha
    have hlength : (member escape (name a) (print a)).length =
        (quoted escape (name a)).length + ((print a).length + 1) := by
      simp [member]
    have hvalue := hmembers a ha fuel (by omega) rest hrest
    rw [member, List.append_assoc, List.cons_append, readMember?, readName?_quoted hescape]
    simp only [bind, Option.bind, hvalue]
  have hopen : ∀ a ∈ members, member escape (name a) (print a) ≠ [] ∧ ∀ rest, Stops rest →
      (skipBlanks (member escape (name a) (print a) ++ rest)).head? ≠ some '\x7d' := by
    intro a _
    refine ⟨by simp [member, quoted], fun rest _ => ?_⟩
    rw [member, quoted, List.cons_append, List.cons_append, List.cons_append,
      skipBlanks_cons (by decide)]
    simp
  have hclose : Closes '\x7d' := ⟨by decide, by decide, by decide⟩
  have hparts := readParts?_intercalate hclose members hmember hopen rest
  have hshape : '\x7b' :: [','].intercalate
        (members.map fun a => member escape (name a) (print a)) ++ ['\x7d'] ++ rest =
      '\x7b' :: ([','].intercalate (members.map fun a => member escape (name a) (print a)) ++
        '\x7d' :: rest) := by
    simp
  rw [hshape, readValue?, skipBlanks_cons (by decide)]
  simp only [hparts, Option.map_some]

end Document

end QueryGateway.Json
