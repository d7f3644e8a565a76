import QueryGateway.Proofs.Naming.Conversion
import QueryGateway.Proofs.Text.Tables

/-!
# Where words begin

The words of a name from left to right: an alphanumeric character is a word of its own or belongs
to the first word of what follows, and the next two characters of the name decide which. So the
words spell the alphanumeric characters of the name, and inside a run they begin at the case
boundaries and nowhere else. These facts determine the words.
-/

namespace QueryGateway.Naming

open Text (isAlphanumeric isUpper isLower isAsciiDigit)

variable {name front rest : List Char} {ws : List (List Char)} {c d : Char}

/-! ## Words from left to right -/

/-- Puts characters before those of the first word. -/
def extendFirst (start : List Char) : List (List Char) → List (List Char)
  | [] => [start]
  | word :: others => (start ++ word) :: others

theorem extendFirst_nil (hws : ws ≠ []) : extendFirst [] ws = ws := by
  cases ws with
  | nil => exact absurd rfl hws
  | cons word others => rfl

theorem extendFirst_extendFirst (start next : List Char) (ws : List (List Char)) :
    extendFirst start (extendFirst next ws) = extendFirst (start ++ next) ws := by
  cases ws with
  | nil => rfl
  | cons word others => rw [extendFirst, extendFirst, extendFirst, List.append_assoc]

theorem extendFirst_append (start : List Char) (hws : ws ≠ []) (others : List (List Char)) :
    extendFirst start (ws ++ others) = extendFirst start ws ++ others := by
  cases ws with
  | nil => exact absurd rfl hws
  | cons word ws => rfl

theorem flatten_extendFirst (start : List Char) (ws : List (List Char)) :
    (extendFirst start ws).flatten = start ++ ws.flatten := by
  cases ws with
  | nil => simp [extendFirst]
  | cons word others => simp [extendFirst]

/-- Whether the word of a character ends with it, if `rest` follows in the name. -/
def endsWord (d : Char) : List Char → Bool
  | [] => true
  | c :: rest => !isAlphanumeric c || startsWord d c rest.head?

theorem endsWord_cons_of_separator (hc : isAlphanumeric c = false) (d : Char) (rest : List Char) :
    endsWord d (c :: rest) = true := by
  rw [endsWord, hc, Bool.not_false, Bool.true_or]

theorem endsWord_cons (hc : isAlphanumeric c = true) (d : Char) (rest : List Char) :
    endsWord d (c :: rest) = startsWord d c rest.head? := by
  rw [endsWord, hc, Bool.not_true, Bool.false_or]

theorem wordsOfRun_ne_nil (c : Char) (run : List Char) : wordsOfRun (c :: run) ≠ [] := by
  intro hnil
  have hflatten := flatten_wordsOfRun (c :: run)
  rw [hnil] at hflatten
  cases hflatten

theorem wordsOfRun_cons_cons (d c : Char) (run : List Char) :
    wordsOfRun (d :: c :: run) =
      if startsWord d c run.head? then [d] :: wordsOfRun (c :: run)
      else extendFirst [d] (wordsOfRun (c :: run)) := by
  rw [wordsOfRun]
  cases hwords : wordsOfRun (c :: run) with
  | nil => exact absurd hwords (wordsOfRun_ne_nil c run)
  | cons word others => rfl

/-- A lowercase character is alphanumeric, so it does not matter whether one looks ahead in the
run or in the name. -/
theorem startsWord_filter (d c : Char) (after : Option Char) :
    startsWord d c (after.filter isAlphanumeric) = startsWord d c after := by
  cases after with
  | none => rfl
  | some e =>
    cases he : isAlphanumeric e with
    | true => rw [Option.filter_some, if_pos he]
    | false =>
      have hlower : isLower e = false := by
        by_contra h
        rw [Text.isAlphanumeric_of_isLower (by simpa using h)] at he
        cases he
      rw [Option.filter_some, he]
      simp [startsWord, hlower]

/-- The pieces of a name between its separators. -/
def piecesOf (name : List Char) : List (List Char) :=
  Text.pieces (fun c => !isAlphanumeric c) name

theorem exists_piecesOf_eq (name : List Char) : ∃ part parts, piecesOf name = part :: parts :=
  List.exists_cons_of_ne_nil (Text.pieces_ne_nil _ name)

theorem piecesOf_of_separator (hc : isAlphanumeric c = false) :
    piecesOf (c :: rest) = [] :: piecesOf rest := by
  rw [piecesOf, Text.pieces, if_pos (by simp [hc]), piecesOf]

theorem piecesOf_cons {part : List Char} {parts : List (List Char)}
    (hc : isAlphanumeric c = true) (h : piecesOf rest = part :: parts) :
    piecesOf (c :: rest) = (c :: part) :: parts :=
  Text.pieces_cons_solid (by simp [hc]) h

/-- The first piece begins where the name begins, unless a separator stands there. -/
theorem head?_of_piecesOf {part : List Char} {parts : List (List Char)}
    (h : piecesOf rest = part :: parts) : part.head? = rest.head?.filter isAlphanumeric := by
  cases rest with
  | nil =>
    cases h
    rfl
  | cons c rest =>
    rw [List.head?_cons, Option.filter_some]
    cases hc : isAlphanumeric c with
    | false =>
      rw [piecesOf_of_separator hc] at h
      cases h
      rfl
    | true =>
      obtain ⟨next, others, hnext⟩ := exists_piecesOf_eq rest
      rw [piecesOf_cons hc hnext] at h
      cases h
      rfl

/-- The words of a name are those of its first piece and those of the others. -/
theorem words_of_piecesOf {part : List Char} {parts : List (List Char)}
    (h : piecesOf name = part :: parts) :
    words name =
      wordsOfRun part ++ (parts.filter (fun run => !run.isEmpty)).flatMap wordsOfRun := by
  rw [piecesOf] at h
  rw [words, runs, h]
  cases part with
  | nil => rfl
  | cons c part => rfl

theorem words_nil : words [] = [] := rfl

/-- A separator at the start belongs to no word. -/
theorem words_cons_of_separator (hc : isAlphanumeric c = false) :
    words (c :: rest) = words rest := by
  obtain ⟨part, parts, hparts⟩ := exists_piecesOf_eq rest
  have hpieces : piecesOf (c :: rest) = [] :: part :: parts := by
    rw [piecesOf_of_separator hc, hparts]
  rw [words, runs, ← piecesOf, hpieces, words, runs, ← piecesOf, hparts]
  rfl

/-- **The first character.** An alphanumeric character at the start is a word of its own, or it
belongs to the first word of what follows. -/
theorem words_cons (hd : isAlphanumeric d = true) :
    words (d :: rest) =
      if endsWord d rest then [d] :: words rest else extendFirst [d] (words rest) := by
  obtain ⟨part, parts, hparts⟩ := exists_piecesOf_eq rest
  rw [words_of_piecesOf (piecesOf_cons hd hparts), words_of_piecesOf hparts]
  cases rest with
  | nil =>
    cases hparts
    rfl
  | cons c rest =>
    cases hc : isAlphanumeric c with
    | false =>
      rw [piecesOf_of_separator hc] at hparts
      cases hparts
      rw [endsWord_cons_of_separator hc]
      rfl
    | true =>
      obtain ⟨next, others, hnext⟩ := exists_piecesOf_eq rest
      rw [piecesOf_cons hc hnext] at hparts
      cases hparts
      have hends : endsWord d (c :: rest) = startsWord d c next.head? := by
        rw [endsWord_cons hc, head?_of_piecesOf hnext, startsWord_filter]
      rw [hends, wordsOfRun_cons_cons]
      split
      · rfl
      · exact (extendFirst_append [d] (wordsOfRun_ne_nil c next) _).symm

/-- The words of a name spell its alphanumeric characters. -/
theorem flatten_words (name : List Char) : (words name).flatten = name.filter isAlphanumeric := by
  induction name with
  | nil => rfl
  | cons c name ih =>
    cases hc : isAlphanumeric c with
    | false => rw [words_cons_of_separator hc, ih, List.filter_cons_of_neg (by simp [hc])]
    | true =>
      rw [words_cons hc, List.filter_cons_of_pos hc]
      split
      · rw [List.flatten_cons, ih, List.singleton_append]
      · rw [flatten_extendFirst, ih, List.singleton_append]

theorem words_cons_ne_nil (hc : isAlphanumeric c = true) (rest : List Char) :
    words (c :: rest) ≠ [] := by
  intro hnil
  have hflatten := flatten_words (c :: rest)
  rw [hnil, List.filter_cons_of_pos hc] at hflatten
  cases hflatten

/-! ## Boundaries -/

/-- Whether one of the words comes behind words that spell `front`. -/
def StartsBehind (ws : List (List Char)) (front : List Char) : Prop :=
  ∃ before word after, ws = before ++ word :: after ∧ before.flatten = front

theorem startsBehind_singleton_cons :
    StartsBehind ([d] :: ws) (d :: front) ↔ StartsBehind ws front := by
  constructor
  · rintro ⟨before, word, after, hws, hfront⟩
    cases before with
    | nil => cases hfront
    | cons first before =>
      obtain ⟨rfl, htail⟩ := List.cons.inj hws
      exact ⟨before, word, after, htail, (List.cons.inj hfront).2⟩
  · rintro ⟨before, word, after, rfl, rfl⟩
    exact ⟨[d] :: before, word, after, rfl, rfl⟩

theorem startsBehind_extendFirst (hws : ∀ word ∈ ws, word ≠ []) :
    StartsBehind (extendFirst [d] ws) (d :: front) ↔ front ≠ [] ∧ StartsBehind ws front := by
  constructor
  · rintro ⟨before, word, after, heq, hfront⟩
    cases before with
    | nil => cases hfront
    | cons first before =>
      cases ws with
      | nil => simp [extendFirst] at heq
      | cons next others =>
        obtain ⟨rfl, rfl⟩ := List.cons.inj heq
        have htail : next ++ before.flatten = front := (List.cons.inj hfront).2
        have hnext : next ≠ [] := hws next List.mem_cons_self
        exact ⟨by rw [← htail]; simp [hnext], next :: before, word, after, rfl, htail⟩
  · rintro ⟨hne, before, word, after, rfl, rfl⟩
    cases before with
    | nil => exact absurd rfl hne
    | cons next before => exact ⟨(d :: next) :: before, word, after, rfl, rfl⟩

/-- The first alphanumeric character begins a word. -/
theorem startsBehind_words_nil (hc : isAlphanumeric c = true) :
    StartsBehind (words (c :: rest)) [] := by
  obtain ⟨word, others, hwords⟩ := List.exists_cons_of_ne_nil (words_cons_ne_nil hc rest)
  rw [hwords]
  exact ⟨[], word, others, rfl, rfl⟩

/-- Behind one character a word begins unless the word of that character goes on. -/
theorem startsBehind_words_singleton_iff (d : Char) (hc : isAlphanumeric c = true) :
    StartsBehind (words (d :: c :: rest)) ([d].filter isAlphanumeric) ↔
      (isAlphanumeric d = true → startsWord d c rest.head? = true) := by
  cases hd : isAlphanumeric d with
  | false =>
    rw [words_cons_of_separator hd, List.filter_cons_of_neg (by simp [hd])]
    exact iff_of_true (startsBehind_words_nil hc) fun halnum => nomatch halnum
  | true =>
    rw [words_cons hd, endsWord_cons hc, List.filter_cons_of_pos hd, List.filter_nil]
    split
    · next hstart =>
      exact iff_of_true (startsBehind_singleton_cons.mpr (startsBehind_words_nil hc))
        fun _ => hstart
    · next hstart =>
      refine iff_of_false (fun hbehind => ?_) fun hall => hstart (hall rfl)
      have hne := (startsBehind_extendFirst fun word hword => (of_mem_words hword).1).mp hbehind
      exact hne.1 rfl

/-- **Boundaries.** A word begins at an alphanumeric character unless the word of the character
before it, if that is alphanumeric as well, goes on. -/
theorem startsBehind_words_iff (front : List Char) (hc : isAlphanumeric c = true) :
    StartsBehind (words (front ++ c :: rest)) (front.filter isAlphanumeric) ↔
      ∀ d ∈ front.getLast?, isAlphanumeric d = true → startsWord d c rest.head? = true := by
  induction front with
  | nil => exact iff_of_true (startsBehind_words_nil hc) (fun d hd => nomatch hd)
  | cons d front ih =>
    cases front with
    | nil =>
      rw [List.singleton_append, List.getLast?_singleton, startsBehind_words_singleton_iff d hc]
      simp
    | cons e front =>
      rw [List.getLast?_cons_cons, ← ih, List.cons_append]
      cases hd : isAlphanumeric d with
      | false => rw [words_cons_of_separator hd, List.filter_cons_of_neg (by simp [hd])]
      | true =>
        rw [words_cons hd, List.filter_cons_of_pos hd]
        split
        · exact startsBehind_singleton_cons
        · next hends =>
          -- The word of `d` goes on, so `e` is alphanumeric and stands before `c`.
          have he : isAlphanumeric e = true := by
            by_contra he
            exact hends (endsWord_cons_of_separator (by simpa using he) d _)
          rw [startsBehind_extendFirst fun word hword => (of_mem_words hword).1]
          exact and_iff_right (by simp [he])

/-! ## Divisions -/

/-- Whether one of the words begins at the character `c` behind `front`: the words before it spell
what `front` has of alphanumeric characters. -/
def BeginsWord (ws : List (List Char)) (front : List Char) (c : Char) : Prop :=
  ∃ before word after, ws = before ++ (c :: word) :: after ∧
    before.flatten = front.filter isAlphanumeric

/-- What the words of a name are. Inside an alphanumeric run, where both neighbours are characters
of the run, a word begins at the case boundaries only. -/
structure IsDivision (name : List Char) (ws : List (List Char)) : Prop where
  /-- No word is empty. -/
  ne_nil : ∀ word ∈ ws, word ≠ []
  /-- The words have no separators. -/
  alphanumeric : ∀ word ∈ ws, ∀ c ∈ word, isAlphanumeric c = true
  /-- The words spell the alphanumeric characters of the name. -/
  flatten_eq : ws.flatten = name.filter isAlphanumeric
  /-- A word begins at the first character of a maximal alphanumeric run. -/
  begins_run : ∀ front c rest, name = front ++ c :: rest → isAlphanumeric c = true →
    (∀ d ∈ front.getLast?, isAlphanumeric d = false) → BeginsWord ws front c
  /-- Behind a character of the same run, a word begins at a capital letter after a small letter
  or a digit, and at one between a capital letter and a small letter. -/
  begins_inside_iff : ∀ front d c rest, name = front ++ d :: c :: rest →
    isAlphanumeric d = true → isAlphanumeric c = true →
    (BeginsWord ws (front ++ [d]) c ↔ isUpper c = true ∧
      (isLower d = true ∨ isAsciiDigit d = true ∨
        isUpper d = true ∧ ∃ e ∈ rest.head?, isLower e = true))

theorem startsWord_iff {after : Option Char} : startsWord d c after = true ↔ isUpper c = true ∧
    (isLower d = true ∨ isAsciiDigit d = true ∨
      isUpper d = true ∧ ∃ e ∈ after, isLower e = true) := by
  simp [startsWord, Option.any_eq_true, or_assoc]

/-- Of words that spell a name, one that comes behind what precedes `c` begins with `c`. -/
theorem beginsWord_iff_startsBehind (hne : ∀ word ∈ ws, word ≠ [])
    (hflatten : ws.flatten = (front ++ c :: rest).filter isAlphanumeric)
    (hc : isAlphanumeric c = true) :
    BeginsWord ws front c ↔ StartsBehind ws (front.filter isAlphanumeric) := by
  constructor
  · rintro ⟨before, word, after, hws, hfront⟩
    exact ⟨before, c :: word, after, hws, hfront⟩
  · rintro ⟨before, word, after, rfl, hfront⟩
    cases word with
    | nil => exact absurd rfl (hne [] (by simp))
    | cons e word =>
      rw [List.flatten_append, hfront, List.filter_append, List.filter_cons_of_pos hc,
        List.append_cancel_left_eq, List.flatten_cons] at hflatten
      obtain ⟨rfl, -⟩ := List.cons.inj hflatten
      exact ⟨before, word, after, rfl, hfront⟩

/-- **Division.** The words of a name are a division of it. -/
theorem isDivision_words (name : List Char) : IsDivision name (words name) := by
  have hne : ∀ word ∈ words name, word ≠ [] := fun word hword => (of_mem_words hword).1
  have hbegins (front : List Char) (c : Char) (rest : List Char) (hname : name = front ++ c :: rest)
      (hc : isAlphanumeric c = true) : BeginsWord (words name) front c ↔
        ∀ d ∈ front.getLast?, isAlphanumeric d = true → startsWord d c rest.head? = true := by
    subst hname
    rw [beginsWord_iff_startsBehind hne (flatten_words _) hc, startsBehind_words_iff front hc]
  refine ⟨hne, fun word hword c hc => ((of_mem_words hword).2 c hc).2, flatten_words name, ?_, ?_⟩
  · intro front c rest hname hc hfront
    refine (hbegins front c rest hname hc).mpr fun d hd halnum => ?_
    rw [hfront d hd] at halnum
    cases halnum
  · intro front d c rest hname hd hc
    rw [hbegins (front ++ [d]) c rest (by rw [hname, List.append_assoc]; rfl) hc,
      List.getLast?_concat, ← startsWord_iff]
    constructor
    · intro hall
      exact hall d rfl hd
    · rintro hstart e he -
      cases he
      exact hstart

/-- Of two lists of words that spell the same text and begin at the same places, the first word
of one is the beginning of the first word of the other. -/
theorem isPrefix_of_startsBehind {word next : List Char} {others : List (List Char)}
    (hword : word ≠ []) (hflatten : (word :: ws).flatten = (next :: others).flatten)
    (hws : ∀ s, StartsBehind (word :: ws) s → StartsBehind (next :: others) s) : next <+: word := by
  cases ws with
  | nil =>
    rw [List.flatten_singleton, List.flatten_cons] at hflatten
    exact ⟨others.flatten, hflatten.symm⟩
  | cons second ws =>
    obtain ⟨before, v, after, heq, hbefore⟩ :=
      hws word ⟨[word], second, ws, rfl, List.flatten_singleton⟩
    cases before with
    | nil => exact absurd hbefore.symm hword
    | cons first before =>
      obtain ⟨rfl, -⟩ := List.cons.inj heq
      exact ⟨before.flatten, hbefore⟩

theorem startsBehind_cons {word : List Char} (hword : word ≠ []) (s : List Char) :
    StartsBehind (word :: ws) (word ++ s) ↔ StartsBehind ws s := by
  constructor
  · rintro ⟨before, v, after, heq, hbefore⟩
    cases before with
    | nil =>
      have hnil : word ++ s = [] := hbefore.symm
      exact absurd (List.append_eq_nil_iff.mp hnil).1 hword
    | cons first before =>
      obtain ⟨rfl, rfl⟩ := List.cons.inj heq
      exact ⟨before, v, after, rfl, List.append_cancel_left hbefore⟩
  · rintro ⟨before, v, after, rfl, rfl⟩
    exact ⟨word :: before, v, after, rfl, rfl⟩

/-- Words are determined by the text they spell and by the places where they begin. -/
theorem eq_of_startsBehind_iff {vs : List (List Char)} (hws : ∀ word ∈ ws, word ≠ [])
    (hvs : ∀ word ∈ vs, word ≠ []) (hflatten : ws.flatten = vs.flatten)
    (hsame : ∀ s, StartsBehind ws s ↔ StartsBehind vs s) : ws = vs := by
  induction ws generalizing vs with
  | nil =>
    cases vs with
    | nil => rfl
    | cons v vs =>
      exact absurd (List.append_eq_nil_iff.mp hflatten.symm).1 (hvs v List.mem_cons_self)
  | cons w ws ih =>
    obtain ⟨hw, hws⟩ := List.forall_mem_cons.mp hws
    cases vs with
    | nil => exact absurd (List.append_eq_nil_iff.mp hflatten).1 hw
    | cons v vs =>
      obtain ⟨hv, hothers⟩ := List.forall_mem_cons.mp hvs
      have hvw : v <+: w := isPrefix_of_startsBehind hw hflatten fun s => (hsame s).mp
      have hwv : w <+: v := isPrefix_of_startsBehind hv hflatten.symm fun s => (hsame s).mpr
      obtain rfl : w = v := hwv.eq_of_length_le hvw.length_le
      have hrest : ws = vs := by
        refine ih hws hothers (List.append_cancel_left hflatten) fun s => ?_
        rw [← startsBehind_cons hw, hsame, startsBehind_cons hw]
      rw [hrest]

namespace IsDivision

variable {vs : List (List Char)} {s : List Char}

/-- Divisions of a name begin words at the same characters. -/
theorem beginsWord (h : IsDivision name ws) (h' : IsDivision name vs)
    (hname : name = front ++ c :: rest) (hc : isAlphanumeric c = true)
    (hbegins : BeginsWord ws front c) : BeginsWord vs front c := by
  cases front using List.reverseRecOn with
  | nil => exact h'.begins_run [] c rest hname hc fun d hd => nomatch hd
  | append_singleton front d =>
    cases hd : isAlphanumeric d with
    | true =>
      rw [List.append_assoc, List.singleton_append] at hname
      exact (h'.begins_inside_iff front d c rest hname hd hc).mpr
        ((h.begins_inside_iff front d c rest hname hd hc).mp hbegins)
    | false =>
      refine h'.begins_run (front ++ [d]) c rest hname hc fun e he => ?_
      rw [List.getLast?_concat] at he
      cases he
      exact hd

theorem startsBehind (h : IsDivision name ws) (h' : IsDivision name vs)
    (hs : StartsBehind ws s) : StartsBehind vs s := by
  obtain ⟨before, word, after, hws, hbefore⟩ := hs
  cases word with
  | nil => exact absurd rfl (h.ne_nil [] (by simp [hws]))
  | cons c word =>
    have hspell : name.filter isAlphanumeric = s ++ c :: (word ++ after.flatten) := by
      rw [← h.flatten_eq, hws, List.flatten_append, hbefore, List.flatten_cons, List.cons_append]
    obtain ⟨front, back, hname, hfront, hback⟩ := List.filter_eq_append_iff.mp hspell
    obtain ⟨gap, rest, rfl, hgap, hc, -⟩ := List.filter_eq_cons_iff.mp hback
    have hfilter : (front ++ gap).filter isAlphanumeric = s := by
      rw [List.filter_append, hfront, List.filter_eq_nil_iff.mpr hgap, List.append_nil]
    rw [← List.append_assoc] at hname
    have hbegins : BeginsWord vs (front ++ gap) c :=
      h.beginsWord h' hname hc ⟨before, word, after, hws, hbefore.trans hfilter.symm⟩
    rw [← hfilter]
    exact (beginsWord_iff_startsBehind h'.ne_nil (hname ▸ h'.flatten_eq) hc).mp hbegins

/-- **Uniqueness.** A name has no other division than its words. -/
theorem eq_words (h : IsDivision name ws) : ws = words name := by
  have hwords := isDivision_words name
  exact eq_of_startsBehind_iff h.ne_nil hwords.ne_nil (h.flatten_eq.trans hwords.flatten_eq.symm)
    fun s => ⟨h.startsBehind hwords, hwords.startsBehind h⟩

end IsDivision

end QueryGateway.Naming
