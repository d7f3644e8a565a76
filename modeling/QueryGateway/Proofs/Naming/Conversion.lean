import Mathlib.Data.List.Basic
import QueryGateway.Naming.Style
import QueryGateway.Proofs.Text.Splitting

/-!
# Names in small letters with separators

A style in small letters with a separator keeps the words of an ASCII name: they are found again
in the converted name, in small letters. So a further conversion to any style gives the same as
if the name was converted at once, and a second conversion to the same style changes nothing.
-/

namespace QueryGateway

namespace Text

/-! ## ASCII letters -/

/-- What holds of the first 128 characters holds of every ASCII character. -/
theorem forall_ascii {P : Char → Prop} (h : ∀ k : Fin 128, P (Char.ofNat k)) {c : Char}
    (hc : isAscii c = true) : P c := by
  have hlt : c.toNat < 128 := by simpa [isAscii] using hc
  have hk := h ⟨c.toNat, hlt⟩
  rwa [Char.ofNat_toNat] at hk

/-- The small letter of an ASCII letter. -/
def smallLetter (c : Char) : Char :=
  if isAsciiUpper c then Char.ofNat (c.toNat + 32) else c

/-- The characters of words in small letters. -/
def isSmall (c : Char) : Bool :=
  isAsciiLower c || isAsciiDigit c

variable {c : Char} {s : List Char}

theorem smallLetter_smallLetter (hc : isAscii c = true) :
    isAscii (smallLetter c) = true ∧ smallLetter (smallLetter c) = smallLetter c :=
  forall_ascii (P := fun c => isAscii (smallLetter c) = true ∧
    smallLetter (smallLetter c) = smallLetter c) (by decide) hc

theorem upperChar_smallLetter (hc : isAscii c = true) :
    upperChar (smallLetter c) = upperChar c :=
  forall_ascii (P := fun c => upperChar (smallLetter c) = upperChar c) (by decide) hc

theorem lowerChar_smallLetter (hc : isAscii c = true) :
    lowerChar (smallLetter c) = lowerChar c :=
  forall_ascii (P := fun c => lowerChar (smallLetter c) = lowerChar c) (by decide) hc

theorem isSmall_smallLetter (hc : isAscii c = true) (hword : isAlphanumeric c = true) :
    isSmall (smallLetter c) = true :=
  forall_ascii (P := fun c => isAlphanumeric c = true → isSmall (smallLetter c) = true)
    (by decide) hc hword

/-- Small letters and digits are alphanumeric ASCII characters, and no capital letters. -/
theorem of_isSmall (hc : isSmall c = true) :
    isAscii c = true ∧ isAlphanumeric c = true ∧ isUpper c = false := by
  have hascii : isAscii c = true := by
    have hle {a b : Char} : a ≤ b ↔ a.toNat ≤ b.toNat := Iff.rfl
    simp only [isSmall, isAsciiLower, isAsciiDigit, Bool.or_eq_true, Bool.and_eq_true,
      decide_eq_true_eq, hle] at hc
    have hmost : c.toNat ≤ 122 := by
      rcases hc with hletter | hdigit
      · exact hletter.2
      · exact Nat.le_trans hdigit.2 (by decide)
    rw [isAscii, decide_eq_true_iff]
    omega
  have hrest : isAlphanumeric c = true ∧ isUpper c = false :=
    forall_ascii (P := fun c => isSmall c = true → isAlphanumeric c = true ∧ isUpper c = false)
      (by decide) hascii hc
  exact ⟨hascii, hrest⟩

/-- An ASCII text is lowered letter by letter. -/
theorem lower_eq_map (hs : ∀ c ∈ s, isAscii c = true) : lower s = s.map smallLetter := by
  have hafter (before : List Char) : lowerAfter before s = s.map smallLetter := by
    induction s generalizing before with
    | nil => rfl
    | cons c s ih =>
      obtain ⟨hc, hs⟩ := List.forall_mem_cons.mp hs
      have hsigma : c ≠ '\u03A3' := by
        rintro rfl
        cases hc
      rw [lowerAfter, ih hs]
      simp [hsigma, lowerChar, hc, smallLetter]
  exact hafter []

/-- Lowering an ASCII text a second time changes nothing. -/
theorem lower_lower (hs : ∀ c ∈ s, isAscii c = true) : lower (lower s) = lower s := by
  have hsmall : ∀ c ∈ s.map smallLetter, isAscii c = true := by
    intro c hc
    obtain ⟨d, hd, rfl⟩ := List.mem_map.mp hc
    exact (smallLetter_smallLetter (hs d hd)).1
  rw [lower_eq_map hs, lower_eq_map hsmall, List.map_map]
  exact List.map_congr_left fun c hc => (smallLetter_smallLetter (hs c hc)).2

/-- A lowered ASCII text has the same capital letters. -/
theorem upper_lower (hs : ∀ c ∈ s, isAscii c = true) : upper (lower s) = upper s := by
  rw [lower_eq_map hs, upper, upper, List.flatMap_map]
  exact List.flatMap_congr fun c hc => upperChar_smallLetter (hs c hc)

end Text

/-! ## Words -/

namespace Naming

open Text (isSmall isAscii isAlphanumeric)

variable {name word : List Char} {sep : Char}

/-- Whether a word is written in small letters and digits. -/
structure IsSmallWord (word : List Char) : Prop where
  ne_nil : word ≠ []
  small : ∀ c ∈ word, isSmall c = true

/-- No word of a run is empty. -/
theorem ne_nil_of_mem_wordsOfRun {run : List Char} (h : word ∈ wordsOfRun run) : word ≠ [] := by
  fun_induction wordsOfRun run with
  | case1 => cases h
  | case2 c =>
    rw [List.mem_singleton.mp h]
    exact List.cons_ne_nil c []
  | case3 c d rest hnil ih =>
    rw [List.mem_singleton.mp h]
    exact List.cons_ne_nil c []
  | case4 c d rest first others hcons hstart ih =>
    rcases List.mem_cons.mp h with rfl | h
    · exact List.cons_ne_nil c []
    · exact ih (hcons ▸ h)
  | case5 c d rest first others hcons hstart ih =>
    rcases List.mem_cons.mp h with rfl | h
    · exact List.cons_ne_nil c first
    · exact ih (hcons ▸ List.mem_cons_of_mem first h)

/-- The words of a name are alphanumeric, and no word is empty. -/
theorem of_mem_words (h : word ∈ words name) :
    word ≠ [] ∧ ∀ c ∈ word, c ∈ name ∧ isAlphanumeric c = true := by
  obtain ⟨run, hrun, hword⟩ := List.mem_flatMap.mp h
  refine ⟨ne_nil_of_mem_wordsOfRun hword, fun c hc => ?_⟩
  have hmem : c ∈ run := by
    rw [← flatten_wordsOfRun run]
    exact List.mem_flatten.mpr ⟨word, hword, hc⟩
  obtain ⟨hname, halnum⟩ := Text.mem_of_mem_pieces (List.mem_filter.mp hrun).1 hmem
  exact ⟨hname, by simpa using halnum⟩

/-- Nothing in a small word starts a new word. -/
theorem wordsOfRun_of_isSmallWord (h : IsSmallWord word) : wordsOfRun word = [word] := by
  obtain ⟨hne, hsmall⟩ := h
  fun_induction wordsOfRun word with
  | case1 => exact absurd rfl hne
  | case2 => rfl
  | case3 c d rest hnil ih =>
    rw [ih (List.cons_ne_nil d rest) (List.forall_mem_cons.mp hsmall).2] at hnil
    cases hnil
  | case4 c d rest first others hcons hstart ih =>
    have hd := (Text.of_isSmall (hsmall d (by simp))).2.2
    simp [startsWord, hd] at hstart
  | case5 c d rest first others hcons hstart ih =>
    rw [ih (List.cons_ne_nil d rest) (List.forall_mem_cons.mp hsmall).2] at hcons
    obtain ⟨rfl, rfl⟩ := List.cons.inj hcons
    rfl

/-- The runs of small words around a separator are these words. -/
theorem runs_intercalate {small : List (List Char)} (hsmall : ∀ word ∈ small, IsSmallWord word)
    (hsep : isAlphanumeric sep = false) : runs ([sep].intercalate small) = small := by
  induction small with
  | nil => rfl
  | cons word small ih =>
    obtain ⟨hword, hsmall⟩ := List.forall_mem_cons.mp hsmall
    have hfilter (rest : List (List Char)) : (word :: rest).filter (fun run => !run.isEmpty) =
        word :: rest.filter (fun run => !run.isEmpty) :=
      List.filter_cons_of_pos (by simpa using hword.ne_nil)
    have hsolid : ∀ c ∈ word, (!isAlphanumeric c) = false := by
      intro c hc
      simpa using (Text.of_isSmall (hword.small c hc)).2.1
    cases small with
    | nil =>
      rw [List.intercalate_singleton, runs, Text.pieces_of_forall hsolid, hfilter]
      rfl
    | cons next small =>
      have hrest := ih hsmall
      rw [runs] at hrest
      rw [List.intercalate_cons_cons, List.append_assoc, List.singleton_append, runs,
        Text.pieces_append_cons (by simpa using hsep), Text.pieces_of_forall hsolid,
        List.singleton_append, hfilter, hrest]

/-- **Words are found again.** Joining small words by a separator loses none of them. -/
theorem words_intercalate {small : List (List Char)} (hsmall : ∀ word ∈ small, IsSmallWord word)
    (hsep : isAlphanumeric sep = false) : words ([sep].intercalate small) = small := by
  rw [words, runs_intercalate hsmall hsep]
  have hsingle : ∀ word ∈ small, wordsOfRun word = [word] :=
    fun word hword => wordsOfRun_of_isSmallWord (hsmall word hword)
  rw [List.flatMap_congr hsingle]
  exact List.flatMap_singleton' small

end Naming

/-! ## Conversion -/

namespace NameStyle

open Naming (IsSmallWord words words_intercalate of_mem_words)
open Text (isAscii smallLetter)

variable {name word : List Char}

/-- The words of an ASCII name, in small letters. -/
theorem isSmallWord_lower (hname : ∀ c ∈ name, isAscii c = true) (hword : word ∈ words name) :
    IsSmallWord (Text.lower word) := by
  obtain ⟨hne, hmem⟩ := of_mem_words hword
  have hascii : ∀ c ∈ word, isAscii c = true := fun c hc => hname c (hmem c hc).1
  rw [Text.lower_eq_map hascii]
  refine ⟨by simpa using hne, fun c hc => ?_⟩
  obtain ⟨d, hd, rfl⟩ := List.mem_map.mp hc
  exact Text.isSmall_smallLetter (hascii d hd) (hmem d hd).2

/-- A lowered word is capitalized as the word itself is. -/
theorem capitalize_lower (hword : ∀ c ∈ word, isAscii c = true) :
    capitalize (Text.lower word) = capitalize word := by
  rw [Text.lower_eq_map hword]
  cases word with
  | nil => rfl
  | cons c rest =>
    obtain ⟨hc, hrest⟩ := List.forall_mem_cons.mp hword
    have hlower : (rest.map smallLetter).flatMap Text.lowerChar = rest.flatMap Text.lowerChar := by
      rw [List.flatMap_map]
      exact List.flatMap_congr fun c hc => Text.lowerChar_smallLetter (hrest c hc)
    rw [List.map_cons, capitalize, capitalize, Text.upperChar_smallLetter hc, hlower]

/-- Words that were lowered before are written alike in every style but the verbatim one. -/
theorem convertChars_of_words {style : NameStyle} (hstyle : style ≠ verbatim)
    {s t : List Char} (hwords : words s = (words t).map Text.lower)
    (ht : ∀ word ∈ words t, ∀ c ∈ word, isAscii c = true) :
    style.convertChars s = style.convertChars t := by
  have hlower (sep : Char) : joinLower sep (words s) = joinLower sep (words t) := by
    rw [joinLower, joinLower, hwords, List.map_map]
    congr 1
    exact List.map_congr_left fun word hword => Text.lower_lower (ht word hword)
  have hupper (sep : Char) : joinUpper sep (words s) = joinUpper sep (words t) := by
    rw [joinUpper, joinUpper, hwords, List.map_map]
    congr 1
    exact List.map_congr_left fun word hword => Text.upper_lower (ht word hword)
  have hcapitals {ws : List (List Char)} (hws : ∀ word ∈ ws, ∀ c ∈ word, isAscii c = true) :
      (ws.map Text.lower).flatMap capitalize = ws.flatMap capitalize := by
    rw [List.flatMap_map]
    exact List.flatMap_congr fun word hword => capitalize_lower (hws word hword)
  cases style with
  | camel => rw [convertChars, convertChars, hwords, hcapitals ht]
  | lowerCamel =>
    rw [convertChars, convertChars, hwords]
    cases hcase : words t with
    | nil => rfl
    | cons first others =>
      rw [hcase] at ht
      obtain ⟨hfirst, hothers⟩ := List.forall_mem_cons.mp ht
      rw [List.map_cons, joinCapitals, joinCapitals, Text.lower_lower hfirst, hcapitals hothers]
  | snake => exact hlower '_'
  | screamingSnake => exact hupper '_'
  | kebab => exact hlower '-'
  | screamingKebab => exact hupper '-'
  | dotted => exact hlower '.'
  | screamingDotted => exact hupper '.'
  | verbatim => exact absurd rfl hstyle

/-- The separator of a style in small letters. -/
def delimiter? : NameStyle → Option Char
  | snake => some '_'
  | kebab => some '-'
  | dotted => some '.'
  | _ => none

/-- A style in small letters joins the lowered words by its separator, which is none of their
characters. -/
theorem convertChars_of_delimiter? {small : NameStyle} {sep : Char}
    (hsep : small.delimiter? = some sep) (name : List Char) :
    Text.isAlphanumeric sep = false ∧
      small.convertChars name = [sep].intercalate ((words name).map Text.lower) := by
  cases small <;> cases hsep <;> exact ⟨by decide, rfl⟩

/-- A style in small letters keeps the words of an ASCII name. -/
theorem words_convertChars {small : NameStyle} {sep : Char} (hsep : small.delimiter? = some sep)
    (hname : ∀ c ∈ name, isAscii c = true) :
    words (small.convertChars name) = (words name).map Text.lower := by
  obtain ⟨hword, hconvert⟩ := convertChars_of_delimiter? hsep name
  rw [hconvert]
  refine words_intercalate (fun word hmem => ?_) hword
  obtain ⟨w, hw, rfl⟩ := List.mem_map.mp hmem
  exact isSmallWord_lower hname hw

/-- **Words are kept.** For an ASCII name the three styles in small letters give its words in
small letters and digits around single separators. Converting the result to any style but the
verbatim one is converting the name itself; in particular the three styles are idempotent. -/
theorem delimited_keeps_words {name : String} (hname : ∀ c ∈ name.toList, isAscii c = true)
    {small : NameStyle} {sep : Char} (hsep : small.delimiter? = some sep) :
    (∀ style : NameStyle, style ≠ verbatim →
        style.convert (small.convert name) = style.convert name) ∧
      small.convert (small.convert name) = small.convert name ∧
      ∃ ws, (∀ word ∈ ws, IsSmallWord word) ∧ words (small.convert name).toList = ws ∧
        (small.convert name).toList = [sep].intercalate ws := by
  have hascii : ∀ word ∈ words name.toList, ∀ c ∈ word, isAscii c = true :=
    fun word hword c hc => hname c ((of_mem_words hword).2 c hc).1
  have hchars : (small.convert name).toList = small.convertChars name.toList := by
    rw [convert, String.toList_ofList]
  have hwords : words (small.convert name).toList = (words name.toList).map Text.lower := by
    rw [hchars, words_convertChars hsep hname]
  have hagain (style : NameStyle) (hstyle : style ≠ verbatim) :
      style.convert (small.convert name) = style.convert name := by
    have hsame := convertChars_of_words hstyle hwords hascii
    rw [convert, hsame, convert]
  have hsmall : small ≠ verbatim := by
    rintro rfl
    cases hsep
  refine ⟨hagain, hagain small hsmall, (words name.toList).map Text.lower, ?_, hwords, ?_⟩
  · intro word hmem
    obtain ⟨w, hw, rfl⟩ := List.mem_map.mp hmem
    exact isSmallWord_lower hname hw
  · rw [hchars, (convertChars_of_delimiter? hsep name.toList).2]

/-- An acronym, a digit and separators at both ends. -/
theorem delimited_keeps_words_acronym :
    let name := "_HTTPServer2Name--id."
    (∀ c ∈ name.toList, isAscii c = true) ∧ kebab.delimiter? = some '-' ∧
      kebab.convert name = "http-server2-name-id" ∧
      camel.convert "http-server2-name-id" = camel.convert name ∧
      kebab.convert "http-server2-name-id" = "http-server2-name-id" := by
  intro name
  have hname : ∀ c ∈ name.toList, isAscii c = true := List.all_eq_true.mp (by decide +kernel)
  have hkebab : kebab.convert name = "http-server2-name-id" := by decide +kernel
  have hsep : kebab.delimiter? = some '-' := rfl
  obtain ⟨hcamel, hagain, -⟩ := delimited_keeps_words hname hsep
  rw [hkebab] at hcamel hagain
  exact ⟨hname, hsep, hkebab, hcamel camel (by decide), hagain⟩

end NameStyle

end QueryGateway
