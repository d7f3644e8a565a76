import Mathlib.Data.List.Forall2
import Mathlib.Tactic.SplitIfs
import QueryGateway.Proofs.Answer.Rows

/-!
# What the objects of a list carry

An object carries a row if it has one member for each cell that is not empty, under any name
and in the form of any kind of column. Where a member ends is determined by its cell, and so
a body can be taken apart in one way only: the objects of the encoder carry their rows exactly
if no cell beyond the columns holds anything.
-/

namespace QueryGateway.OutputColumn

/-! ## Where a member ends -/

/-- What follows the closing quote of a JSON string. The flag is set behind a backslash. -/
def afterQuote? : Bool → Bytes → Option Bytes
  | _, [] => none
  | true, _ :: rest => afterQuote? false rest
  | false, b :: rest => if b = 0x22 then some rest else afterQuote? (b == 0x5C) rest

theorem afterQuote?_of_ne {b : UInt8} (hquote : b ≠ 0x22) (hslash : b ≠ 0x5C) (rest : Bytes) :
    afterQuote? false (b :: rest) = afterQuote? false rest := by
  rw [afterQuote?, if_neg hquote, beq_eq_false_iff_ne.mpr hslash]

/-- A hexadecimal digit is neither a quote nor a backslash. -/
theorem hexDigit_ne {n : Nat} (hn : n < 16) : hexDigit n ≠ 0x22 ∧ hexDigit n ≠ 0x5C := by
  have hall : ∀ k : Fin 16, hexDigit k ≠ 0x22 ∧ hexDigit k ≠ 0x5C := by decide
  exact hall ⟨n, hn⟩

/-- An escaped byte does not end a string. -/
theorem afterQuote?_escapeByte (b : UInt8) (rest : Bytes) :
    afterQuote? false (escapeByte b ++ rest) = afterQuote? false rest := by
  unfold escapeByte
  split_ifs with hquote hslash hnewline hreturn htab hcontrol
  · simp [afterQuote?]
  · simp [afterQuote?]
  · simp [afterQuote?]
  · simp [afterQuote?]
  · simp [afterQuote?]
  · have hlt : b.toNat < 32 := UInt8.lt_iff_toNat_lt.mp hcontrol
    obtain ⟨hhigh, hhigh'⟩ := hexDigit_ne (n := b.toNat / 16) (by omega)
    obtain ⟨hlow, hlow'⟩ := hexDigit_ne (n := b.toNat % 16) (by omega)
    have hmark : afterQuote? false ([0x5C, 0x75, 0x30, 0x30, hexDigit (b.toNat / 16),
        hexDigit (b.toNat % 16)] ++ rest) = afterQuote? false
          (hexDigit (b.toNat / 16) :: hexDigit (b.toNat % 16) :: rest) := by
      simp [afterQuote?]
    rw [hmark, afterQuote?_of_ne hhigh hhigh', afterQuote?_of_ne hlow hlow']
  · simp only [beq_iff_eq] at hquote hslash
    exact afterQuote?_of_ne hquote hslash rest

theorem afterQuote?_escaped (s rest : Bytes) :
    afterQuote? false (s.flatMap escapeByte ++ 0x22 :: rest) = some rest := by
  induction s with
  | nil => simp [afterQuote?]
  | cons b s ih => rw [List.flatMap_cons, List.append_assoc, afterQuote?_escapeByte, ih]

/-- Where a string ends is determined by its bytes. -/
theorem rest_eq_of_quoteBytes {s t x y : Bytes} (h : quoteBytes s ++ x = quoteBytes t ++ y) :
    x = y := by
  simp only [quoteBytes, List.cons_append, List.append_assoc, List.nil_append,
    List.cons.injEq, true_and] at h
  have hs := afterQuote?_escaped s x
  rw [h, afterQuote?_escaped t y] at hs
  exact (Option.some.inj hs).symm

/-- The form of a value that begins with a given byte. -/
def valueFrom (value : Bytes) (first : UInt8) : Bytes :=
  if first = 0x22 then quoteBytes value
  else if first = 0x74 then Utf8.ofString "true"
  else if first = 0x66 then Utf8.ofString "false"
  else value

/-- A value has one form for each first byte, whatever the kind of its column is. -/
theorem exists_encodeValue_eq (kind : ValueKind) (value : Bytes) :
    ∃ first rest, encodeValue kind value = first :: rest ∧
      encodeValue kind value = valueFrom value first := by
  have hquoted : ∃ first rest, quoteBytes value = first :: rest ∧
      quoteBytes value = valueFrom value first := ⟨0x22, _, rfl, rfl⟩
  cases kind with
  | number =>
    rw [encodeValue]
    by_cases hlooks : looksNumeric value = true
    · rw [if_pos hlooks]
      cases value with
      | nil => cases hlooks
      | cons b rest =>
        refine ⟨b, rest, rfl, ?_⟩
        have hopen : (b == 0x2D || isDigitByte b) = true := by
          rw [looksNumeric, Bool.and_eq_true] at hlooks
          exact hlooks.1
        have hne {d : UInt8} (hd : (d == 0x2D || isDigitByte d) = false) : b ≠ d := by
          rintro rfl
          rw [hd] at hopen
          cases hopen
        rw [valueFrom, if_neg (hne (by decide)), if_neg (hne (by decide)),
          if_neg (hne (by decide))]
    · rw [if_neg hlooks]
      exact hquoted
  | truth =>
    rw [encodeValue]
    cases truthOf? value with
    | none => exact hquoted
    | some b => cases b <;> exact ⟨_, _, rfl, rfl⟩
  | text => exact hquoted

/-- Where a value ends is determined by the value. -/
theorem rest_eq_of_encodeValue {kind kind' : ValueKind} {value x y : Bytes}
    (h : encodeValue kind value ++ x = encodeValue kind' value ++ y) : x = y := by
  obtain ⟨first, rest, hfirst, hform⟩ := exists_encodeValue_eq kind value
  obtain ⟨first', rest', hfirst', hform'⟩ := exists_encodeValue_eq kind' value
  have hsame : first = first' := by
    rw [hfirst, hfirst'] at h
    exact (List.cons.inj h).1
  rw [hform, hform', hsame] at h
  exact List.append_cancel_left h

/-- The bytes of a member for a cell, under any name and for any kind of column. -/
def HoldsCell (member cell : Bytes) : Prop :=
  ∃ c : OutputColumn, member = c.encodeMember cell

/-- A member begins with a quote. -/
theorem HoldsCell.exists_eq {member cell : Bytes} (h : HoldsCell member cell) :
    ∃ rest, member = 0x22 :: rest := by
  obtain ⟨c, rfl⟩ := h
  exact ⟨_, rfl⟩

/-- Where a member ends is determined by its cell. -/
theorem HoldsCell.rest_eq {m m' cell x y : Bytes} (hm : HoldsCell m cell)
    (hm' : HoldsCell m' cell) (h : m ++ x = m' ++ y) : x = y := by
  obtain ⟨c, rfl⟩ := hm
  obtain ⟨c', rfl⟩ := hm'
  rw [encodeMember, encodeMember, List.append_assoc, List.append_assoc] at h
  have hvalue := (List.cons.inj (rest_eq_of_quoteBytes h)).2
  exact rest_eq_of_encodeValue hvalue

/-! ## Parts between commas -/

/-- Two ways to take parts off the front of a text, for which what follows a part is
determined by the item that the part stands for. Where both parts are possible, the item has
the property. -/
structure Delimits {α : Type} (R R' : Bytes → α → Prop) (P : α → Prop) (close : UInt8) : Prop where
  comma : close ≠ 0x2C
  open_ne : ∀ {a : α} {m : Bytes}, R' m a → ∃ first rest, m = first :: rest ∧ first ≠ close
  rest_eq : ∀ {a : α} {m m' x y : Bytes}, R m a → R' m' a → m ++ x = m' ++ y → P a ∧ x = y

section

variable {α : Type} {R R' : Bytes → α → Prop} {P : α → Prop} {close : UInt8} {items more : List α}
  {ms ms' : List Bytes} {x y : Bytes}

/-- Parts that each stand behind a comma, up to the closing byte: there is no room for a part
of a further item. -/
theorem Delimits.of_flatMap (hR : Delimits R R' P close) (hms : List.Forall₂ R ms items)
    (hms' : List.Forall₂ R' ms' (items ++ more))
    (h : (ms.flatMap fun m => 0x2C :: m) ++ close :: x =
      (ms'.flatMap fun m => 0x2C :: m) ++ close :: y) :
    (∀ a ∈ items, P a) ∧ more = [] ∧ x = y := by
  induction hms generalizing ms' with
  | nil =>
    cases hms' with
    | nil => exact ⟨by simp, rfl, (List.cons.inj h).2⟩
    | cons _ _ => exact absurd (List.cons.inj h).1 hR.comma
  | cons hm _ ih =>
    cases hms' with
    | cons hm' hrest =>
      rw [List.flatMap_cons, List.flatMap_cons, List.cons_append, List.cons_append,
        List.cons_append, List.cons_append, List.append_assoc, List.append_assoc] at h
      obtain ⟨ha, h⟩ := hR.rest_eq hm hm' (List.cons.inj h).2
      obtain ⟨hall, hmore, hxy⟩ := ih hrest h
      exact ⟨List.forall_mem_cons.mpr ⟨ha, hall⟩, hmore, hxy⟩

/-- Parts with commas between them, up to the closing byte. -/
theorem Delimits.of_intercalate (hR : Delimits R R' P close) (hms : List.Forall₂ R ms items)
    (hms' : List.Forall₂ R' ms' (items ++ more))
    (h : [0x2C].intercalate ms ++ close :: x = [0x2C].intercalate ms' ++ close :: y) :
    (∀ a ∈ items, P a) ∧ more = [] ∧ x = y := by
  cases hms with
  | nil =>
    cases hms' with
    | nil => exact ⟨by simp, rfl, (List.cons.inj h).2⟩
    | cons hm' _ =>
      obtain ⟨first, rest, rfl, hne⟩ := hR.open_ne hm'
      rw [Encoder.intercalate_cons_eq] at h
      exact absurd (List.cons.inj h).1 hne.symm
  | cons hm hms =>
    cases hms' with
    | cons hm' hrest =>
      rw [Encoder.intercalate_cons_eq, Encoder.intercalate_cons_eq, List.append_assoc,
        List.append_assoc] at h
      obtain ⟨ha, h⟩ := hR.rest_eq hm hm' h
      obtain ⟨hall, hmore, hxy⟩ := hR.of_flatMap hms hrest h
      exact ⟨List.forall_mem_cons.mpr ⟨ha, hall⟩, hmore, hxy⟩

end

/-! ## Objects -/

/-- The cells of a row that are not empty. -/
def filled (row : List Bytes) : List Bytes :=
  row.filter fun cell => !cell.isEmpty

/-- An object with one member for each cell that is not empty, in the order of the row. -/
def CarriesRow (object : Bytes) (row : List Bytes) : Prop :=
  ∃ members, List.Forall₂ HoldsCell members (filled row) ∧
    object = 0x7B :: [0x2C].intercalate members ++ [0x7D]

/-- A list of objects that carry the rows. -/
def CarriesRows (body : Bytes) (rows : List (List Bytes)) : Prop :=
  ∃ objects, List.Forall₂ CarriesRow objects rows ∧
    body = 0x5B :: [0x2C].intercalate objects ++ [0x5D]

theorem filled_eq_nil_iff {row : List Bytes} : filled row = [] ↔ ∀ cell ∈ row, cell = [] := by
  simp [filled, List.filter_eq_nil_iff]

/-- Where a row is cut, its cells that are not empty are cut too. -/
theorem filled_take_append_drop (n : Nat) (row : List Bytes) :
    filled (row.take n) ++ filled (row.drop n) = filled row := by
  rw [filled, filled, ← List.filter_append, List.take_append_drop]
  rfl

theorem delimits_holdsCell : Delimits HoldsCell HoldsCell (fun _ => True) 0x7D where
  comma := by decide
  open_ne h := by
    obtain ⟨rest, hrest⟩ := h.exists_eq
    exact ⟨0x22, rest, hrest, by decide⟩
  rest_eq hm hm' h := ⟨trivial, hm.rest_eq hm' h⟩

/-- An object that carries the beginning of a row carries the row only if nothing else of it
is filled. -/
theorem delimits_carriesRow (n : Nat) :
    Delimits (fun object row => CarriesRow object (row.take n)) CarriesRow
      (fun row => ∀ cell ∈ row.drop n, cell = []) 0x5D where
  comma := by decide
  open_ne h := by
    obtain ⟨members, _, rfl⟩ := h
    exact ⟨0x7B, _, rfl, by decide⟩
  rest_eq hm hm' h := by
    obtain ⟨members, hmembers, rfl⟩ := hm
    obtain ⟨members', hmembers', rfl⟩ := hm'
    rw [← filled_take_append_drop n] at hmembers'
    simp only [List.cons_append, List.append_assoc, List.nil_append, List.cons.injEq,
      true_and] at h
    obtain ⟨-, hnil, hxy⟩ := delimits_holdsCell.of_intercalate hmembers hmembers' h
    exact ⟨filled_eq_nil_iff.mp hnil, hxy⟩

/-! ## The objects of the encoder -/

/-- The members of a row stand for its cells within the columns. -/
theorem holdsCell_members (columns : List OutputColumn) (row : List Bytes) :
    List.Forall₂ HoldsCell (members columns row) (filled (row.take columns.length)) := by
  induction columns generalizing row with
  | nil => simp [members, filled]
  | cons c columns ih =>
    cases row with
    | nil => simp [members, filled]
    | cons cell row =>
      have htail := ih row
      by_cases hempty : cell.isEmpty = true
      · simpa [members, filled, hempty] using htail
      · have hmembers : members (c :: columns) (cell :: row) =
            c.encodeMember cell :: members columns row := by
          simp [members, hempty]
        have hfilled : filled ((cell :: row).take (c :: columns).length) =
            cell :: filled (row.take columns.length) := by
          simp [filled, hempty]
        rw [hmembers, hfilled]
        exact .cons ⟨c, rfl⟩ htail

/-- The object of a row carries its cells within the columns. -/
theorem carriesRow_encodeRow (columns : List OutputColumn) (row : List Bytes) :
    CarriesRow (encodeRow columns row) (row.take columns.length) :=
  ⟨members columns row, holdsCell_members columns row, rfl⟩

/-- An object that carries the beginning of a row carries the row if nothing else of it is
filled. -/
theorem CarriesRow.of_take {object : Bytes} {row : List Bytes} {n : Nat}
    (h : CarriesRow object (row.take n)) (hrest : ∀ cell ∈ row.drop n, cell = []) :
    CarriesRow object row := by
  rw [CarriesRow, ← filled_take_append_drop n, filled_eq_nil_iff.mpr hrest, List.append_nil]
  exact h

/-- The objects of some rows, as a list. -/
def encodeRows (columns : List OutputColumn) (rows : List (List Bytes)) : Bytes :=
  0x5B :: [0x2C].intercalate (rows.map (encodeRow columns)) ++ [0x5D]

variable (columns : List OutputColumn) (rows : List (List Bytes))

/-- The objects of some rows, one for each. -/
theorem forall₂_encodeRow {R : Bytes → List Bytes → Prop}
    (h : ∀ row ∈ rows, R (encodeRow columns row) row) :
    List.Forall₂ R (rows.map (encodeRow columns)) rows := by
  rw [List.forall₂_map_left_iff, List.forall₂_same]
  exact h

/-- The list carries of every row its cells within the columns. -/
theorem carriesRows_take :
    CarriesRows (encodeRows columns rows) (rows.map (·.take columns.length)) := by
  refine ⟨rows.map (encodeRow columns), ?_, rfl⟩
  rw [List.forall₂_map_right_iff]
  exact forall₂_encodeRow columns rows fun row _ => carriesRow_encodeRow columns row

/-- The list carries the rows exactly if no cell beyond the columns holds anything. -/
theorem carriesRows_iff :
    CarriesRows (encodeRows columns rows) rows ↔
      ∀ row ∈ rows, ∀ cell ∈ row.drop columns.length, cell = [] := by
  constructor
  · rintro ⟨objects, hobjects, hbody⟩
    have hrows := forall₂_encodeRow (R := fun object row => CarriesRow object
      (row.take columns.length)) columns rows fun row _ => carriesRow_encodeRow columns row
    rw [← List.append_nil rows] at hobjects
    exact ((delimits_carriesRow columns.length).of_intercalate hrows hobjects
      (List.cons.inj hbody).2).1
  · intro hcells
    exact ⟨_, forall₂_encodeRow columns rows fun row hrow =>
      (carriesRow_encodeRow columns row).of_take (hcells row hrow), rfl⟩

end QueryGateway.OutputColumn
