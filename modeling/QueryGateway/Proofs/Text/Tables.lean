import Mathlib.Data.List.Chain
import Mathlib.Data.List.Forall2
import QueryGateway.Text.Letter

/-!
# Tables of code points

The ranges of a table are those its lines list. In a table whose ranges ascend, binary search
finds each member of each range, and in any table it finds nothing else. So one table is compared
with others range by range, and every lowercase character turns out to be alphanumeric.
-/

namespace QueryGateway.Text

namespace CodeRanges

/-! ## Search -/

/-- Whether a range is not empty and ends before another one begins. -/
def Precedes (r s : Nat × Nat) : Prop :=
  r.1 ≤ r.2 ∧ r.2 < s.1

instance (r s : Nat × Nat) : Decidable (Precedes r s) :=
  inferInstanceAs (Decidable (r.1 ≤ r.2 ∧ r.2 < s.1))

instance : IsTrans (Nat × Nat) Precedes where
  trans _ _ _ hrs hst :=
    ⟨hrs.1, Nat.lt_of_lt_of_le hrs.2 (Nat.le_of_lt (Nat.lt_of_le_of_lt hst.1 hst.2))⟩

/-- Whether ranges stand in ascending order. -/
def Ascending (ranges : List (Nat × Nat)) : Prop :=
  ranges.IsChain Precedes

instance (ranges : List (Nat × Nat)) : Decidable (Ascending ranges) :=
  inferInstanceAs (Decidable (ranges.IsChain Precedes))

variable {t : CodeRanges} {n i j lo hi : Nat} {r s : Nat × Nat}

/-- What the search finds lies in a range of the table. -/
theorem exists_range_of_searchBetween (h : searchBetween t n lo hi = true) :
    ∃ r ∈ t.toList, r.1 ≤ n ∧ n ≤ r.2 := by
  fun_induction searchBetween t n lo hi with
  | case1 lo hi hlt mid hnone => cases h
  | case2 lo hi hlt mid first last hsome hbelow ih => exact ih h
  | case3 lo hi hlt mid first last hsome hbelow habove ih => exact ih h
  | case4 lo hi hlt mid first last hsome hbelow habove =>
    have hmem : (first, last) ∈ t.toList := Array.mem_toList_iff.mpr (Array.mem_of_getElem? hsome)
    exact ⟨(first, last), hmem, Nat.le_of_not_lt hbelow, Nat.le_of_not_lt habove⟩
  | case5 lo hi hge => cases h

/-- The order of the ranges of an ascending table is that of their positions. -/
theorem precedes_of_lt (ht : Ascending t.toList) (hr : t[i]? = some r) (hs : t[j]? = some s)
    (hij : i < j) : Precedes r s := by
  obtain ⟨hi, rfl⟩ := Array.getElem?_eq_some_iff.mp hr
  obtain ⟨hj, rfl⟩ := Array.getElem?_eq_some_iff.mp hs
  have hpair := List.pairwise_iff_getElem.mp ht.pairwise i j hi hj hij
  simpa using hpair

/-- The search in an ascending table does not lose sight of the range around the code point. -/
theorem searchBetween_of_getElem? (ht : Ascending t.toList) (hr : t[i]? = some r)
    (hfirst : r.1 ≤ n) (hlast : n ≤ r.2) (hlo : lo ≤ i) (hhi : i < hi) (hsize : hi ≤ t.size) :
    searchBetween t n lo hi = true := by
  fun_induction searchBetween t n lo hi with
  | case1 lo hi hlt mid hnone =>
    have hmid : t.size ≤ mid := Array.getElem?_eq_none_iff.mp hnone
    omega
  | case2 lo hi hlt mid first last hsome hbelow ih =>
    have hleft : i < mid := by
      by_contra hge
      rcases Nat.lt_or_eq_of_le (Nat.le_of_not_lt hge) with hmid | hmid
      · obtain ⟨hne, hbefore⟩ := precedes_of_lt ht hsome hr hmid
        dsimp only at hne hbefore
        omega
      · rw [← hmid, hsome] at hr
        cases hr
        omega
    exact ih hlo hleft (by omega)
  | case3 lo hi hlt mid first last hsome hbelow habove ih =>
    have hright : mid < i := by
      by_contra hge
      rcases Nat.lt_or_eq_of_le (Nat.le_of_not_lt hge) with hmid | hmid
      · obtain ⟨hne, hbefore⟩ := precedes_of_lt ht hr hsome hmid
        dsimp only at hne hbefore
        omega
      · rw [hmid, hsome] at hr
        cases hr
        omega
    exact ih hright hhi hsize
  | case4 lo hi hlt mid first last hsome hbelow habove => rfl
  | case5 lo hi hge => omega

/-- **Search.** An ascending table contains the code points in its ranges and no others. -/
theorem contains_iff (ht : Ascending t.toList) :
    t.contains n = true ↔ ∃ r ∈ t.toList, r.1 ≤ n ∧ n ≤ r.2 := by
  constructor
  · exact exists_range_of_searchBetween
  · rintro ⟨r, hr, hfirst, hlast⟩
    obtain ⟨i, hi, hget⟩ := Array.mem_iff_getElem.mp (Array.mem_toList_iff.mp hr)
    have hsome : t[i]? = some r := Array.getElem?_eq_some_iff.mpr ⟨hi, hget⟩
    exact searchBetween_of_getElem? ht hsome hfirst hlast (Nat.zero_le i) hi le_rfl

/-! ## The lines of a table -/

/-- The ranges that a line lists from some place on, with the bounds of the present one. -/
def listedFrom (low : Option Nat) (bound : Nat) : List Char → List (Nat × Nat)
  | [] => [(low.getD bound, bound)]
  | c :: rest =>
    if c == ' ' then (low.getD bound, bound) :: listedFrom none 0 rest
    else if c == '-' then listedFrom (some bound) 0 rest
    else listedFrom low (bound * 16 + digit c) rest

/-- The ranges that a line lists. -/
def listed (line : List Char) : List (Nat × Nat) :=
  if line.isEmpty then [] else listedFrom none 0 line

/-- Reading on puts the ranges listed from here behind the finished ones. -/
theorem toList_finished_foldl (reading : Reading) (line : List Char) :
    (line.foldl Reading.step reading).close.finished.toList =
      reading.finished.toList ++ listedFrom reading.low reading.bound line := by
  induction line generalizing reading with
  | nil => simp [Reading.close, listedFrom]
  | cons c line ih =>
    rw [List.foldl_cons, ih, Reading.step, listedFrom]
    split
    · simp [Reading.close]
    · split <;> rfl

theorem toList_ofString (line : List Char) :
    (ofString (String.ofList line)).toList = listed line := by
  cases line with
  | nil => rfl
  | cons c line =>
    have hne : (String.ofList (c :: line)).isEmpty = false := by simp
    rw [ofString, hne, String.toList_ofList, if_neg Bool.false_ne_true, toList_finished_foldl]
    rfl

/-- The ranges of a table are those its lines list, line after line. The lines are given by their
characters, which can be computed with. -/
theorem toList_ofLines {lines : List String} {spelled : List (List Char)}
    (h : List.Forall₂ (fun line cs => line = String.ofList cs) lines spelled) :
    (ofLines lines).toList = spelled.flatMap listed := by
  have hfold (tables : List CodeRanges) (t : CodeRanges) :
      (tables.foldl (· ++ ·) t).toList = t.toList ++ tables.flatMap Array.toList := by
    induction tables generalizing t with
    | nil => simp
    | cons s tables ih => simp [ih]
  rw [ofLines, hfold, Array.toList_empty, List.nil_append]
  induction h with
  | nil => rfl
  | cons hline _ ih =>
    rw [List.map_cons, List.flatMap_cons, ih, hline, toList_ofString, List.flatMap_cons]

end CodeRanges

/-! ## Letters -/

open Category CodeRanges

/-- The tables of alphabetic code points that the further lowercase characters are taken from. -/
def alphabeticTables : List CodeRanges :=
  [modifierLetterTable, letterNumberTable, otherAlphabetic, otherLetterTable]

theorem ascending_of_mem_alphabeticTables : ∀ t ∈ alphabeticTables, Ascending t.toList := by
  simp only [alphabeticTables, List.forall_mem_cons, List.not_mem_nil, false_implies,
    implies_true, and_true]
  refine ⟨?_, ?_, ?_, ?_⟩
  · rw [modifierLetterTable, toList_ofLines (by repeat constructor)]
    decide +kernel
  · rw [letterNumberTable, toList_ofLines (by repeat constructor)]
    decide +kernel
  · rw [otherAlphabetic, toList_ofLines (by repeat constructor)]
    decide +kernel
  · rw [otherLetterTable, toList_ofLines (by repeat constructor)]
    decide +kernel

/-- Each range of further lowercase characters is part of a range of alphabetic ones. -/
theorem exists_range_of_mem_otherLowercase : ∀ r ∈ otherLowercase.toList,
    ∃ t ∈ alphabeticTables, ∃ s ∈ t.toList, s.1 ≤ r.1 ∧ r.2 ≤ s.2 := by
  simp only [alphabeticTables, List.mem_cons, List.not_mem_nil, or_false, exists_eq_or_imp,
    exists_eq_left]
  rw [otherLowercase, toList_ofLines (by repeat constructor),
    modifierLetterTable, toList_ofLines (by repeat constructor),
    letterNumberTable, toList_ofLines (by repeat constructor),
    otherAlphabetic, toList_ofLines (by repeat constructor),
    otherLetterTable, toList_ofLines (by repeat constructor)]
  decide +kernel

/-- Every lowercase character is alphanumeric. -/
theorem isAlphanumeric_of_isLower {c : Char} (h : isLower c = true) : isAlphanumeric c = true := by
  suffices halpha : isAlphabetic c = true by rw [isAlphanumeric, halpha, Bool.true_or]
  rw [isLower] at h
  rw [isAlphabetic]
  split at h
  · next hascii => rw [if_pos hascii, h, Bool.or_true]
  · next hascii =>
    rw [if_neg hascii, Bool.or_eq_true, List.any_eq_true]
    rcases Bool.or_eq_true_iff.mp h with hletter | hother
    · exact Or.inl ⟨lowercaseLetter, by decide, hletter⟩
    · obtain ⟨r, hr, hfirst, hlast⟩ := exists_range_of_searchBetween hother
      obtain ⟨t, ht, s, hs, hlow, hhigh⟩ := exists_range_of_mem_otherLowercase r hr
      have hcontains : t.contains c.toNat = true :=
        (contains_iff (ascending_of_mem_alphabeticTables t ht)).mpr
          ⟨s, hs, hlow.trans hfirst, hlast.trans hhigh⟩
      simp only [alphabeticTables, List.mem_cons, List.not_mem_nil, or_false] at ht
      rcases ht with rfl | rfl | rfl | rfl
      · exact Or.inl ⟨modifierLetter, by decide, hcontains⟩
      · exact Or.inl ⟨letterNumber, by decide, hcontains⟩
      · exact Or.inr hcontains
      · exact Or.inl ⟨otherLetter, by decide, hcontains⟩

end QueryGateway.Text
