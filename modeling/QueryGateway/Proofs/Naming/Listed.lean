import QueryGateway.Proofs.Config.Entries

/-!
# Listed names

An entry of a list of output names holds a column and a name with a colon between them. The
entries are collected pair by pair, and a column is looked up among the pairs from the end. This
module reads the name of a column off the entries themselves: the last entry for the column
gives it, and the style where there is none.
-/

namespace QueryGateway

namespace Naming

variable {entry column name : String} {entries : List String} {style : NameStyle}

/-! ## Entries -/

/-- Whether an entry gives a name to a column: up to its first colon it is just the column, and the
name is what follows the colon, without blanks around it. -/
def GivesName (entry column name : String) : Prop :=
  ':' ∉ column.toList ∧ ∃ rest, entry = column ++ ":" ++ rest ∧ name = Text.trimString rest

/-- The column and the name of an entry. -/
def givenName? (entry : String) : Option (String × String) :=
  (Text.cutString ':' entry).map fun (column, name) => (column, Text.trimString name)

/-- The pair of an entry is the column with the name that the entry gives to it. -/
theorem givenName?_eq_some_iff :
    givenName? entry = some (column, name) ↔ GivesName entry column name := by
  have hentry (rest : String) : entry = column ++ ":" ++ rest ↔
      entry.toList = column.toList ++ ':' :: rest.toList := by
    rw [← String.toList_inj, String.toList_append, String.toList_append, List.append_assoc]
    rfl
  rw [givenName?, Text.cutString, Option.map_map, Option.map_eq_some_iff]
  constructor
  · rintro ⟨⟨before, after⟩, hcut, hpair⟩
    obtain ⟨rfl, rfl⟩ := Prod.mk.inj hpair
    refine ⟨?_, String.ofList after, ?_, rfl⟩
    · rw [String.toList_ofList]
      exact Text.notMem_before_of_cut hcut
    · rw [hentry, String.toList_ofList, String.toList_ofList]
      exact Text.eq_of_cut hcut
  · rintro ⟨hcolon, rest, hparts, rfl⟩
    refine ⟨(column.toList, rest.toList), ?_, by simp⟩
    rw [(hentry rest).mp hparts]
    exact Text.cut_append_cons hcolon _

/-! ## Lists of entries -/

/-- The name of a column by a list of entries and a style. -/
inductive NamedBy (entries : List String) (style : NameStyle) (column : String) :
    String → Prop where
  /-- The last entry for the column gives the name. -/
  | listed {before : List String} {entry : String} {after : List String} {name : String}
      (hparts : entries = before ++ entry :: after) (hentry : GivesName entry column name)
      (hlast : ∀ later ∈ after, ∀ other, ¬ GivesName later column other) :
      NamedBy entries style column name
  /-- Without an entry for it the column is written in the style. -/
  | converted (hnone : ∀ entry ∈ entries, ∀ name, ¬ GivesName entry column name) :
      NamedBy entries style column (style.convert column)

/-- The name that an entry gives to a column. -/
def nameFor? (column entry : String) : Option String :=
  (givenName? entry).bind fun (c, name) => if column == c then some name else none

theorem nameFor?_eq_some_iff :
    nameFor? column entry = some name ↔ GivesName entry column name := by
  rw [← givenName?_eq_some_iff, nameFor?, Option.bind_eq_some_iff]
  constructor
  · rintro ⟨⟨c, found⟩, hpair, hfound⟩
    rw [Option.ite_none_right_eq_some, beq_iff_eq] at hfound
    obtain ⟨rfl, hname⟩ := hfound
    rw [hpair, Option.some.inj hname]
  · intro hpair
    exact ⟨(column, name), hpair, by simp⟩

theorem nameFor?_eq_none_iff :
    nameFor? column entry = none ↔ ∀ name, ¬ GivesName entry column name := by
  simp only [Option.eq_none_iff_forall_ne_some, ne_eq, nameFor?_eq_some_iff]

/-- Looking a column up among the pairs is searching the entries from the end. -/
theorem nameOf_pairs (entries : List String) (style : NameStyle) (column : String) :
    nameOf ⟨entries.filterMap givenName?, style⟩ column =
      (entries.reverse.findSome? (nameFor? column)).getD (style.convert column) := by
  rw [nameOf, ← List.filterMap_reverse, List.lookup_eq_findSome?, ← List.head?_filterMap,
    List.filterMap_filterMap, List.head?_filterMap]
  rfl

/-- A search from the end finds what the last item with a result gives. -/
theorem findSome?_reverse_eq_some_iff {α β : Type} {f : α → Option β} {xs : List α} {b : β} :
    xs.reverse.findSome? f = some b ↔
      ∃ before x after, xs = before ++ x :: after ∧ f x = some b ∧ ∀ y ∈ after, f y = none := by
  rw [List.findSome?_eq_some_iff]
  constructor
  · rintro ⟨after, x, before, hparts, hx, hafter⟩
    refine ⟨before.reverse, x, after.reverse, ?_, hx, by simpa using hafter⟩
    simpa using List.reverse_eq_append_iff.mp hparts
  · rintro ⟨before, x, after, rfl, hx, hafter⟩
    exact ⟨after.reverse, x, before.reverse, by simp, hx, by simpa using hafter⟩

/-- The name of a column among the pairs of some entries is its name by the entries. -/
theorem nameOf_pairs_eq_iff :
    nameOf ⟨entries.filterMap givenName?, style⟩ column = name ↔
      NamedBy entries style column name := by
  rw [nameOf_pairs]
  constructor
  · rintro rfl
    cases hfind : entries.reverse.findSome? (nameFor? column) with
    | none =>
      simp only [List.findSome?_eq_none_iff, List.mem_reverse, nameFor?_eq_none_iff] at hfind
      exact .converted hfind
    | some found =>
      obtain ⟨before, entry, after, hparts, hfound, hlast⟩ :=
        findSome?_reverse_eq_some_iff.mp hfind
      exact .listed hparts (nameFor?_eq_some_iff.mp hfound)
        fun later hlater => nameFor?_eq_none_iff.mp (hlast later hlater)
  · intro hnamed
    cases hnamed with
    | listed hparts hentry hlast =>
      have hfind : entries.reverse.findSome? (nameFor? column) = some name :=
        findSome?_reverse_eq_some_iff.mpr ⟨_, _, _, hparts, nameFor?_eq_some_iff.mpr hentry,
          fun later hlater => nameFor?_eq_none_iff.mpr (hlast later hlater)⟩
      rw [hfind, Option.getD_some]
    | converted hnone =>
      have hfind : entries.reverse.findSome? (nameFor? column) = none := by
        simpa only [List.findSome?_eq_none_iff, List.mem_reverse, nameFor?_eq_none_iff]
          using hnone
      rw [hfind, Option.getD_none]

end Naming

namespace Endpoint

open Naming

variable {v : View} {key entry : String}

/-! ## Reading a list -/

/-- An entry is read as its pair. -/
theorem eq_givenName?_of_readName {pair : Option (String × String)}
    (h : readName key entry = .ok pair) : pair = givenName? entry := by
  rw [readName] at h
  split at h
  · next hempty =>
    obtain rfl : entry = "" := by simpa using hempty
    exact (Except.ok.inj h).symm
  · rw [givenName?]
    split at h
    · next hcut =>
      rw [hcut]
      exact (Except.ok.inj h).symm
    · cases h

/-- An entry with a text but without a colon is refused. -/
theorem readName_of_notMem (hne : entry ≠ "") (hcolon : ':' ∉ entry.toList) :
    readName key entry = .error (.invalid s!"{key} entry '{entry}' is not column: name") := by
  rw [readName, if_neg (by simpa using hne), Text.cutString, Text.cut_of_notMem hcolon]
  rfl

section

variable {listed : List (String × String)} (hkey : Path.IsPlain key)
  (hlimit : (v.itemsAt key).length ≤ Path.indexLimit) (hread : readNames v key = .ok listed)

include hkey hlimit hread

/-- The pairs that are read of a list are those of its entries, in their order. -/
theorem listed_of_readNames : listed = (v.entriesAt key).filterMap givenName? := by
  obtain ⟨pairs, hpairs, rfl⟩ := exists_of_map_eq_ok hread
  have hall := mapM_eq_ok_iff.mp (mapM_of_readItems hkey hlimit hpairs)
  have hsame : pairs = (v.entriesAt key).map givenName? := by
    rw [← List.forall₂_eq_eq_eq, List.forall₂_map_right_iff]
    exact hall.flip.imp fun _ _ => eq_givenName?_of_readName
  rw [hsame, List.filterMap_map]
  rfl

/-- Each entry of a list that is read is empty or has a colon. -/
theorem mem_of_readNames (hentry : entry ∈ v.entriesAt key) (hne : entry ≠ "") :
    ':' ∈ entry.toList := by
  obtain ⟨pairs, hpairs, -⟩ := exists_of_map_eq_ok hread
  obtain ⟨pair, -, hpair⟩ :=
    exists_of_mem_of_mapM (mapM_of_readItems hkey hlimit hpairs) entry hentry
  by_contra hcolon
  rw [readName_of_notMem hne hcolon] at hpair
  cases hpair

end

end Endpoint

end QueryGateway
