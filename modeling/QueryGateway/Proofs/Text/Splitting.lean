import Mathlib.Tactic.SplitIfs
import QueryGateway.Text.Split

/-!
# Cutting, splitting and trimming joined texts

Cutting and splitting at a separator undo joining with it, and a text that is added at the
end only touches the last part. Trimming leaves a text alone exactly if no blank stands at
its ends.
-/

namespace QueryGateway.Text

/-! ## Cutting -/

section

variable {sep : Char} {s before after : List Char}

/-- Cutting keeps what is added behind the separator. -/
theorem cut_append_of_some (hcut : cut sep s = some (before, after)) (tail : List Char) :
    cut sep (s ++ tail) = some (before, after ++ tail) := by
  induction s generalizing before with
  | nil => cases hcut
  | cons c s ih =>
    rw [List.cons_append, cut]
    rw [cut] at hcut
    split at hcut
    · next hc =>
      obtain ⟨rfl, rfl⟩ := Prod.mk.inj (Option.some.inj hcut)
      rw [if_pos hc]
    · next hc =>
      obtain ⟨⟨front, back⟩, hrest, hparts⟩ := Option.map_eq_some_iff.mp hcut
      obtain ⟨rfl, rfl⟩ := Prod.mk.inj hparts
      rw [if_neg hc, ih hrest]
      rfl

/-- A text that cannot be cut precedes the separator as a whole. -/
theorem cut_append_of_none (hcut : cut sep s = none) (tail : List Char) :
    cut sep (s ++ tail) = (cut sep tail).map fun (before, after) => (s ++ before, after) := by
  induction s with
  | nil => simp
  | cons c s ih =>
    rw [cut] at hcut
    split at hcut
    · cases hcut
    · next hc =>
      rw [List.cons_append, cut, if_neg hc, ih (Option.map_eq_none_iff.mp hcut), Option.map_map]
      rfl

/-- A text without separators cannot be cut. -/
theorem cut_of_notMem (hs : sep ∉ s) : cut sep s = none := by
  induction s with
  | nil => rfl
  | cons c s ih =>
    rw [List.mem_cons, not_or] at hs
    rw [cut, if_neg (by simpa using Ne.symm hs.1), ih hs.2]
    rfl

/-- A separator behind a text without one is where the text is cut. -/
theorem cut_append_cons (hs : sep ∉ s) (tail : List Char) :
    cut sep (s ++ sep :: tail) = some (s, tail) := by
  rw [cut_append_of_none (cut_of_notMem hs)]
  simp [cut]

/-- A text that cannot be cut has no separator. -/
theorem notMem_of_cut (hcut : cut sep s = none) : sep ∉ s := by
  intro hmem
  obtain ⟨front, back, rfl, hfront⟩ := List.eq_append_cons_of_mem hmem
  rw [cut_append_cons hfront] at hcut
  cases hcut

/-- What precedes the first separator has none. -/
theorem notMem_before_of_cut (hcut : cut sep s = some (before, after)) : sep ∉ before := by
  have hmem : sep ∈ s := by simp [eq_of_cut hcut]
  obtain ⟨front, back, rfl, hfront⟩ := List.eq_append_cons_of_mem hmem
  rw [cut_append_cons hfront] at hcut
  cases hcut
  exact hfront

/-- A text without separators has no last one. -/
theorem cutLast_of_notMem (hs : sep ∉ s) : cutLast sep s = none := by
  rw [cutLast, cut_of_notMem (by simpa using hs)]
  rfl

/-- A separator before a text without one is the last one. -/
theorem cutLast_append_cons (hs : sep ∉ s) (front : List Char) :
    cutLast sep (front ++ sep :: s) = some (front, s) := by
  have hreverse : (front ++ sep :: s).reverse = s.reverse ++ sep :: front.reverse := by simp
  rw [cutLast, hreverse, cut_append_cons (by simpa using hs)]
  simp

/-- A text without a last separator has none. -/
theorem notMem_of_cutLast (hcut : cutLast sep s = none) : sep ∉ s := by
  rw [cutLast, Option.map_eq_none_iff] at hcut
  simpa using notMem_of_cut hcut

/-- Cutting at the last separator finds a decomposition, and no separator stands behind. -/
theorem eq_of_cutLast (hcut : cutLast sep s = some (before, after)) :
    s = before ++ sep :: after ∧ sep ∉ after := by
  obtain ⟨⟨back, front⟩, hreverse, hparts⟩ := Option.map_eq_some_iff.mp hcut
  obtain ⟨rfl, rfl⟩ := Prod.mk.inj hparts
  refine ⟨?_, by simpa using notMem_before_of_cut hreverse⟩
  rw [← List.reverse_reverse s, eq_of_cut hreverse]
  simp

variable {mark : List Char}

/-- A text is cut where a separating text begins, if its first character does not stand
before. -/
theorem cutText_append (hs : sep ∉ s) (tail : List Char) :
    cutText (sep :: mark) (s ++ (sep :: mark) ++ tail) = some (s, tail) := by
  induction s with
  | nil =>
    have hstart : (sep :: mark).isPrefixOf (sep :: (mark ++ tail)) = true := by simp
    rw [List.nil_append, List.cons_append, cutText, if_pos hstart]
    simp
  | cons c s ih =>
    rw [List.mem_cons, not_or] at hs
    rw [List.cons_append, List.cons_append, cutText, if_neg (by simp [hs.1]), ih hs.2]
    rfl

/-- Cutting at a text finds a decomposition around it. -/
theorem eq_of_cutText (hcut : cutText mark s = some (before, after)) :
    s = before ++ (mark ++ after) := by
  induction s generalizing before with
  | nil =>
    rw [cutText] at hcut
    split at hcut
    · next hmark =>
      obtain ⟨rfl, rfl⟩ := Prod.mk.inj (Option.some.inj hcut)
      rw [List.isEmpty_iff.mp hmark]
      rfl
    · cases hcut
  | cons c s ih =>
    rw [cutText] at hcut
    split at hcut
    · next hmark =>
      obtain ⟨rfl, rfl⟩ := Prod.mk.inj (Option.some.inj hcut)
      exact (List.prefix_iff_eq_append.mp (List.isPrefixOf_iff_prefix.mp hmark)).symm
    · obtain ⟨⟨front, back⟩, hrest, hparts⟩ := Option.map_eq_some_iff.mp hcut
      obtain ⟨rfl, rfl⟩ := Prod.mk.inj hparts
      rw [ih hrest]
      rfl

/-- A text that cannot be cut does not contain the separating text. -/
theorem not_isInfix_of_cutText (hcut : cutText mark s = none) : ¬ mark <:+: s := by
  induction s with
  | nil =>
    rw [cutText] at hcut
    split at hcut
    · cases hcut
    · next hmark => simpa using hmark
  | cons c s ih =>
    rw [cutText] at hcut
    split at hcut
    · cases hcut
    · next hmark =>
      rw [List.isPrefixOf_iff_prefix] at hmark
      rw [List.infix_cons_iff, not_or]
      exact ⟨hmark, ih (Option.map_eq_none_iff.mp hcut)⟩

/-- Cutting keeps what is added behind the separating text. -/
theorem cutText_append_of_some (hmark : mark ≠ []) (hcut : cutText mark s = some (before, after))
    (tail : List Char) : cutText mark (s ++ tail) = some (before, after ++ tail) := by
  induction s generalizing before with
  | nil => simp [cutText, hmark] at hcut
  | cons c s ih =>
    -- the separating text fits into the text, so that it does not reach into the tail
    have hfits : mark.length ≤ (c :: s).length := by
      rw [eq_of_cutText hcut]
      simp
      omega
    have hstart : mark.isPrefixOf (c :: s ++ tail) = mark.isPrefixOf (c :: s) := by
      rw [Bool.eq_iff_iff, List.isPrefixOf_iff_prefix, List.isPrefixOf_iff_prefix]
      exact ⟨fun h => List.prefix_of_prefix_length_le h (List.prefix_append _ _) hfits,
        fun h => h.trans (List.prefix_append _ _)⟩
    rw [cutText] at hcut
    rw [List.cons_append] at hstart
    rw [List.cons_append, cutText, hstart]
    split at hcut
    · next hprefix =>
      obtain ⟨rfl, rfl⟩ := Prod.mk.inj (Option.some.inj hcut)
      rw [if_pos hprefix, ← List.cons_append, List.drop_append_of_le_length hfits]
    · next hprefix =>
      obtain ⟨⟨front, back⟩, hrest, hparts⟩ := Option.map_eq_some_iff.mp hcut
      obtain ⟨rfl, rfl⟩ := Prod.mk.inj hparts
      rw [if_neg hprefix, ih hrest]
      rfl

end

/-! ## Beginnings and ends -/

section

variable {s t part : List Char}

/-- What follows the beginning of a text. -/
theorem dropPrefix?_eq_some_iff : dropPrefix? part s = some t ↔ s = part ++ t := by
  rw [dropPrefix?]
  split
  · next hpart =>
    obtain ⟨rest, rfl⟩ := List.isPrefixOf_iff_prefix.mp hpart
    rw [List.drop_left, Option.some.injEq, List.append_cancel_left_eq]
  · next hpart =>
    rw [List.isPrefixOf_iff_prefix] at hpart
    simp only [reduceCtorEq, false_iff]
    rintro rfl
    exact hpart (List.prefix_append _ _)

/-- What precedes the end of a text. -/
theorem dropSuffix?_eq_some_iff : dropSuffix? part s = some t ↔ s = t ++ part := by
  rw [dropSuffix?, Option.map_eq_some_iff]
  constructor
  · rintro ⟨front, hfront, rfl⟩
    rw [← List.reverse_reverse s, dropPrefix?_eq_some_iff.mp hfront]
    simp
  · rintro rfl
    exact ⟨t.reverse, dropPrefix?_eq_some_iff.mpr (by simp), List.reverse_reverse t⟩

/-- An end can be dropped exactly if the text ends so. -/
theorem isSome_dropSuffix?_iff : (dropSuffix? part s).isSome ↔ part <:+ s := by
  rw [Option.isSome_iff_exists]
  constructor
  · rintro ⟨t, ht⟩
    exact ⟨t, (dropSuffix?_eq_some_iff.mp ht).symm⟩
  · rintro ⟨t, rfl⟩
    exact ⟨t, dropSuffix?_eq_some_iff.mpr rfl⟩

end

/-! ## Pieces -/

section

variable {p : Char → Bool} {s part : List Char} {parts : List (List Char)} {c : Char}

/-- A character that is no separator belongs to the first piece. -/
theorem pieces_cons_solid (hc : p c = false) (hs : pieces p s = part :: parts) :
    pieces p (c :: s) = (c :: part) :: parts := by
  rw [pieces, if_neg (by simp [hc]), hs]

/-- A text without separators is its only piece. -/
theorem pieces_of_forall (hs : ∀ c ∈ s, p c = false) : pieces p s = [s] := by
  induction s with
  | nil => rfl
  | cons c s ih =>
    obtain ⟨hc, hs⟩ := List.forall_mem_cons.mp hs
    rw [pieces, if_neg (by simp [hc]), ih hs]

/-- A separator between two texts separates their pieces. -/
theorem pieces_append_cons (hc : p c = true) (s t : List Char) :
    pieces p (s ++ c :: t) = pieces p s ++ pieces p t := by
  induction s with
  | nil => exact if_pos hc
  | cons d s ih =>
    rw [List.cons_append, pieces, pieces, ih]
    split
    · rfl
    · obtain ⟨first, others, hpieces⟩ := List.exists_cons_of_ne_nil (pieces_ne_nil p s)
      rw [hpieces]
      rfl

/-- The characters of the pieces are those of the text that are no separators. -/
theorem mem_of_mem_pieces (hpart : part ∈ pieces p s) (hc : c ∈ part) : c ∈ s ∧ p c = false := by
  induction s generalizing part with
  | nil =>
    rw [pieces, List.mem_singleton] at hpart
    subst hpart
    cases hc
  | cons d s ih =>
    have hlater {part : List Char} (hpart : part ∈ pieces p s) (hc : c ∈ part) :
        c ∈ d :: s ∧ p c = false :=
      ⟨List.mem_cons_of_mem d (ih hpart hc).1, (ih hpart hc).2⟩
    by_cases hd : p d = true
    · rw [pieces, if_pos hd] at hpart
      rcases List.mem_cons.mp hpart with rfl | hpart
      · cases hc
      · exact hlater hpart hc
    · obtain ⟨first, others, hpieces⟩ := List.exists_cons_of_ne_nil (pieces_ne_nil p s)
      rw [pieces, if_neg hd, hpieces] at hpart
      rw [hpieces] at hlater
      rcases List.mem_cons.mp hpart with rfl | hpart
      · rcases List.mem_cons.mp hc with rfl | hc
        · exact ⟨List.mem_cons_self, by simpa using hd⟩
        · exact hlater List.mem_cons_self hc
      · exact hlater (List.mem_cons_of_mem first hpart) hc

end

/-! ## Splitting -/

section

variable {sep : Char} {s tail last : List Char} {parts : List (List Char)}

/-- The separator begins a new part. -/
theorem splitAt_cons_sep (sep : Char) (s : List Char) :
    splitAt sep (sep :: s) = [] :: splitAt sep s := by
  simp [splitAt, pieces]

/-- Another character goes to the front of the first part. -/
theorem splitAt_cons_of_ne {c : Char} {part : List Char} (hc : c ≠ sep)
    (hs : splitAt sep s = part :: parts) : splitAt sep (c :: s) = (c :: part) :: parts := by
  unfold splitAt at hs ⊢
  simp [pieces, hc, hs]

/-- There is always a last part. -/
theorem exists_splitAt_eq_concat (sep : Char) (s : List Char) :
    ∃ parts last, splitAt sep s = parts ++ [last] :=
  ⟨_, _, (List.dropLast_concat_getLast (pieces_ne_nil _ s)).symm⟩

/-- A text without separators is its only part. -/
theorem splitAt_of_notMem (hs : sep ∉ s) : splitAt sep s = [s] :=
  pieces_of_forall fun _ hc => beq_eq_false_iff_ne.mpr fun hsep => hs (hsep ▸ hc)

/-- Splitting at a separator between two texts splits each of them. -/
theorem splitAt_append (sep : Char) (s t : List Char) :
    splitAt sep (s ++ sep :: t) = splitAt sep s ++ splitAt sep t :=
  pieces_append_cons (p := (· == sep)) (beq_self_eq_true sep) s t

/-- Splitting undoes joining. -/
theorem splitAt_intercalate (hne : parts ≠ []) (hparts : ∀ part ∈ parts, sep ∉ part) :
    splitAt sep (List.intercalate [sep] parts) = parts := by
  induction parts with
  | nil => exact absurd rfl hne
  | cons part rest ih =>
    rw [List.forall_mem_cons] at hparts
    rcases rest with _ | ⟨next, rest⟩
    · rw [List.intercalate_singleton, splitAt_of_notMem hparts.1]
    · rw [List.intercalate_cons_cons, List.append_assoc, List.singleton_append, splitAt_append,
        splitAt_of_notMem hparts.1, ih (List.cons_ne_nil _ _) hparts.2]
      rfl

/-- A text with a character, divided at the last place where it stands. -/
theorem exists_last_of_mem {c : Char} (h : c ∈ s) :
    ∃ front back, s = front ++ c :: back ∧ c ∉ back := by
  obtain ⟨back, front, hreverse, hback⟩ :=
    List.eq_append_cons_of_mem (List.mem_reverse.mpr h)
  refine ⟨front.reverse, back.reverse, ?_, by simpa using hback⟩
  rw [← List.reverse_reverse s, hreverse]
  simp

/-- The last part stands at the end of the text, and a text without separators that is added
there extends it. -/
theorem splitAt_concat (hs : splitAt sep s = parts ++ [last]) :
    last <:+ s ∧ ∀ tail, sep ∉ tail → splitAt sep (s ++ tail) = parts ++ [last ++ tail] := by
  by_cases hmem : sep ∈ s
  · -- the last part is what follows the last separator
    obtain ⟨front, back, htext, hback⟩ := exists_last_of_mem hmem
    have hsplit : splitAt sep front ++ [back] = parts ++ [last] := by
      rw [← hs, htext, splitAt_append, splitAt_of_notMem hback]
    obtain ⟨rfl, hlast⟩ := List.append_inj' hsplit rfl
    obtain rfl := List.singleton_inj.mp hlast
    refine ⟨⟨front ++ [sep], by simp [htext]⟩, fun tail htail => ?_⟩
    have hjoined : sep ∉ back ++ tail := by simp [hback, htail]
    rw [htext, List.append_assoc, List.cons_append, splitAt_append, splitAt_of_notMem hjoined]
  · have hsplit : [] ++ [s] = parts ++ [last] := by rw [← hs, splitAt_of_notMem hmem]; rfl
    obtain ⟨rfl, hlast⟩ := List.append_inj' hsplit rfl
    obtain rfl := List.singleton_inj.mp hlast
    refine ⟨List.suffix_refl s, fun tail htail => ?_⟩
    rw [splitAt_of_notMem (by simp [hmem, htail])]
    rfl

/-- No part has a separator. -/
theorem notMem_of_mem_splitAt {part : List Char} (hpart : part ∈ splitAt sep s) :
    sep ∉ part := by
  intro hsep
  have hother := (mem_of_mem_pieces hpart hsep).2
  rw [beq_self_eq_true] at hother
  cases hother

/-- The parts have only characters of the text. -/
theorem mem_of_mem_splitAt {part : List Char} {c : Char} (hpart : part ∈ splitAt sep s)
    (hc : c ∈ part) : c ∈ s :=
  (mem_of_mem_pieces hpart hc).1

/-- The first part reaches to the first separator. -/
theorem head?_splitAt (sep : Char) (s : List Char) :
    (splitAt sep s).head? = some (s.takeWhile (· != sep)) := by
  induction s with
  | nil => rfl
  | cons c s ih =>
    by_cases hc : c = sep
    · subst hc
      simp [splitAt_cons_sep]
    · obtain ⟨part, parts, hparts⟩ := List.exists_cons_of_ne_nil (pieces_ne_nil (· == sep) s)
      have hsplit : splitAt sep s = part :: parts := hparts
      rw [hsplit] at ih
      rw [splitAt_cons_of_ne hc hsplit, List.takeWhile_cons_of_pos (by simpa using hc)]
      simpa using ih

end

/-! ## Trimming -/

section

variable {s t : List Char}

/-- Nothing is dropped at the front exactly if no blank stands there. -/
theorem trimLeft_eq_self_iff : trimLeft s = s ↔ ∀ c ∈ s.head?, isBlank c = false := by
  cases s with
  | nil => simp [trimLeft]
  | cons c s =>
    by_cases hc : isBlank c = true
    · have hlength := (List.dropWhile_suffix isBlank (l := s)).length_le
      rw [trimLeft, List.dropWhile_cons_of_pos hc]
      constructor
      · intro h
        rw [h, List.length_cons] at hlength
        omega
      · intro h
        rw [h c rfl] at hc
        cases hc
    · simp [trimLeft, hc]

/-- Nothing is dropped at the end exactly if no blank stands there. -/
theorem trimRight_eq_self_iff : trimRight s = s ↔ ∀ c ∈ s.getLast?, isBlank c = false := by
  rw [trimRight, List.reverse_eq_iff, ← List.head?_reverse]
  exact trimLeft_eq_self_iff

/-- An end of a text ends in a blank only if the text does. -/
theorem trimRight_of_isSuffix (hsuffix : t <:+ s) (hs : trimRight s = s) : trimRight t = t := by
  rw [trimRight_eq_self_iff] at *
  obtain ⟨front, rfl⟩ := hsuffix
  intro c hc
  apply hs c
  rw [List.getLast?_append, hc, Option.some_or]
  rfl

/-- Blanks at the front are dropped up to any other character. -/
theorem trimLeft_append_cons {c : Char} (hc : isBlank c = false) (s t : List Char) :
    trimLeft (s ++ c :: t) = trimLeft s ++ c :: t := by
  rw [trimLeft, List.dropWhile_append]
  split_ifs with hs
  · rw [List.dropWhile_cons_of_neg (by simp [hc]), trimLeft, List.isEmpty_iff.mp hs,
      List.nil_append]
  · rfl

/-- Blanks at the end are dropped back to any other character. -/
theorem trimRight_append_cons {c : Char} (hc : isBlank c = false) (s t : List Char) :
    trimRight (s ++ c :: t) = s ++ c :: trimRight t := by
  have hreverse : (s ++ c :: t).reverse = t.reverse ++ c :: s.reverse := by simp
  have hleft := trimLeft_append_cons hc t.reverse s.reverse
  rw [trimLeft, trimLeft] at hleft
  rw [trimRight, hreverse, hleft, trimRight]
  simp

/-- What is left after trimming the end of a text begins as the text does. -/
theorem trimRight_isPrefix (s : List Char) : trimRight s <+: s := by
  rw [trimRight, ← List.reverse_suffix, List.reverse_reverse]
  exact List.dropWhile_suffix _

/-- Further blanks at the front do not matter. -/
theorem trimLeft_append_of_blank (hs : ∀ c ∈ s, isBlank c = true) (t : List Char) :
    trimLeft (s ++ t) = trimLeft t :=
  List.dropWhile_append_of_pos hs

/-- Further blanks at the end do not matter. -/
theorem trimRight_append_of_blank (ht : ∀ c ∈ t, isBlank c = true) (s : List Char) :
    trimRight (s ++ t) = trimRight s := by
  rw [trimRight, List.reverse_append, List.dropWhile_append_of_pos (by simpa using ht), trimRight]

/-- What is dropped at the front are blanks, and none is left there. -/
theorem exists_trimLeft (s : List Char) :
    ∃ lead, s = lead ++ trimLeft s ∧ (∀ c ∈ lead, isBlank c = true) ∧
      ∀ c ∈ (trimLeft s).head?, isBlank c = false := by
  induction s with
  | nil => exact ⟨[], rfl, by simp, by simp [trimLeft]⟩
  | cons c s ih =>
    by_cases hc : isBlank c = true
    · obtain ⟨lead, hs, hlead, hhead⟩ := ih
      have htrim : trimLeft (c :: s) = trimLeft s := by simp [trimLeft, hc]
      rw [htrim]
      exact ⟨c :: lead, congrArg (c :: ·) hs, List.forall_mem_cons.mpr ⟨hc, hlead⟩, hhead⟩
    · have htrim : trimLeft (c :: s) = c :: s := by simp [trimLeft, hc]
      rw [htrim]
      exact ⟨[], rfl, by simp, by simpa using hc⟩

/-- What is dropped at the end are blanks, and none is left there. -/
theorem exists_trimRight (s : List Char) :
    ∃ trail, s = trimRight s ++ trail ∧ (∀ c ∈ trail, isBlank c = true) ∧
      ∀ c ∈ (trimRight s).getLast?, isBlank c = false := by
  obtain ⟨lead, hs, hlead, hhead⟩ := exists_trimLeft s.reverse
  have htrim : trimRight s = (trimLeft s.reverse).reverse := rfl
  refine ⟨lead.reverse, ?_, by simpa using hlead, by simpa [htrim] using hhead⟩
  rw [htrim, ← List.reverse_append, ← hs, List.reverse_reverse]

/-- What is dropped at both ends are blanks. -/
theorem exists_trim (s : List Char) :
    ∃ lead trail, s = lead ++ trim s ++ trail ∧ (∀ c ∈ lead, isBlank c = true) ∧
      ∀ c ∈ trail, isBlank c = true := by
  obtain ⟨trail, hs, htrail, -⟩ := exists_trimRight s
  obtain ⟨lead, hright, hlead, -⟩ := exists_trimLeft (trimRight s)
  exact ⟨lead, trail, by rw [trim, ← hright]; exact hs, hlead, htrail⟩

/-- A text is trimmed exactly if no blank stands at either end. -/
theorem trim_eq_self_iff :
    trim s = s ↔ (∀ c ∈ s.head?, isBlank c = false) ∧ ∀ c ∈ s.getLast?, isBlank c = false := by
  rw [← trimLeft_eq_self_iff, ← trimRight_eq_self_iff, trim]
  constructor
  · intro h
    have hlength : s.length ≤ (trimRight s).length := by
      calc s.length = (trimLeft (trimRight s)).length := by rw [h]
        _ ≤ (trimRight s).length := (List.dropWhile_suffix _).length_le
    have hright : trimRight s = s := (trimRight_isPrefix s).eq_of_length_le hlength
    rw [hright] at h
    exact ⟨h, hright⟩
  · rintro ⟨hleft, hright⟩
    rw [hright, hleft]

/-- Trimming a trimmed text does nothing. -/
theorem trim_trim (s : List Char) : trim (trim s) = trim s := by
  obtain ⟨-, -, -, hlast⟩ := exists_trimRight s
  obtain ⟨-, -, -, hhead⟩ := exists_trimLeft (trimRight s)
  have hright : trimRight (trimRight s) = trimRight s := trimRight_eq_self_iff.mpr hlast
  have hsuffix : trimRight (trim s) = trim s :=
    trimRight_of_isSuffix (List.dropWhile_suffix isBlank) hright
  rw [trim, hsuffix, trimLeft_eq_self_iff]
  exact hhead

/-- A trimmed text has only characters of the text. -/
theorem mem_of_mem_trim {c : Char} (hc : c ∈ trim s) : c ∈ s := by
  obtain ⟨lead, trail, hs, -⟩ := exists_trim s
  rw [hs]
  simp [hc]

/-- Joining two trimmed texts around other characters gives a trimmed text. -/
theorem trim_append_cons (sep : Char) (hs : s ≠ []) (ht : t ≠ []) (hstrim : trim s = s)
    (httrim : trim t = t) : trim (s ++ sep :: t) = s ++ sep :: t := by
  rw [trim_eq_self_iff] at *
  obtain ⟨c, s, rfl⟩ := List.exists_cons_of_ne_nil hs
  obtain ⟨d, t, rfl⟩ := List.exists_cons_of_ne_nil ht
  have hlast : (c :: s ++ sep :: d :: t).getLast? = (d :: t).getLast? := by
    rw [List.getLast?_append, List.getLast?_cons_cons, List.getLast?_cons, Option.some_or]
  exact ⟨hstrim.1, by rw [hlast]; exact httrim.2⟩

/-- Trimming stays the same where the text is continued, if it did not end in blanks. -/
theorem trim_append (hs : trim s ≠ []) (hright : trimRight s = s) (htail : t ≠ [])
    (hend : ∀ c ∈ t.getLast?, isBlank c = false) : trim (s ++ t) = trim s ++ t := by
  have hright' : trimRight (s ++ t) = s ++ t := by
    obtain ⟨d, hd⟩ := Option.ne_none_iff_exists'.mp (mt List.getLast?_eq_none_iff.mp htail)
    rw [trimRight_eq_self_iff, List.getLast?_append, hd, Option.some_or]
    rw [hd] at hend
    exact hend
  rw [trim, hright, trimLeft] at hs
  rw [trim, hright', trim, hright, trimLeft, trimLeft, List.dropWhile_append,
    if_neg (by simpa using hs)]

end

end QueryGateway.Text
