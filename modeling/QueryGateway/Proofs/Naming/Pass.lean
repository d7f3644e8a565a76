import QueryGateway.Proofs.Naming.Boundaries

/-!
# Words in one pass

The words of a name are found in one pass from its start to its end, which keeps the finished words
and the characters of the present one. At a capital letter it looks at the character before it by
position. There is such a character whenever the present word is not empty, so the pass never
looks back beyond the start, and it ends with the words of the name.
-/

namespace QueryGateway.Naming

open Text (isAlphanumeric isUpper isLower isAsciiDigit)

variable {front rest : List Char} {c d : Char}

/-! ## The pass -/

/-- A pass over a name: the finished words and the characters of the present one. -/
structure Pass where
  finished : List (List Char)
  present : List Char

/-- The character before a position. Before the start there is none. -/
def lookBack (name : List Char) : Nat → Option Char
  | 0 => none
  | i + 1 => name[i]?

namespace Pass

/-- Finishes the present word, if there is one. -/
def close (p : Pass) : Pass :=
  if p.present.isEmpty then p else ⟨p.finished ++ [p.present], []⟩

/-- Adds a character to the present word. -/
def add (p : Pass) (c : Char) : Pass :=
  { p with present := p.present ++ [c] }

/-- Goes on with the character `c` at position `i`. There is no result if the pass looks back
beyond the start of the name. -/
def step (name : List Char) (p : Pass) : Char × Nat → Option Pass
  | (c, i) =>
    if !isAlphanumeric c then some p.close
    else if isUpper c && !p.present.isEmpty then
      (lookBack name i).map fun before =>
        if isLower before || isAsciiDigit before ||
            (isUpper before && name[i + 1]?.any isLower) then p.close.add c
        else p.add c
    else some (p.add c)

end Pass

/-- The words of a name as one pass finds them. -/
def wordsInOnePass (name : List Char) : Option (List (List Char)) :=
  (name.zipIdx.foldlM (Pass.step name) ⟨[], []⟩).map fun p => p.close.finished

/-! ## What the pass keeps -/

/-- One looks back from behind `front` at its last character. -/
theorem lookBack_length (front rest : List Char) :
    lookBack (front ++ rest) front.length = front.getLast? := by
  cases front using List.reverseRecOn with
  | nil => rfl
  | append_singleton front d =>
    rw [List.length_append, List.length_singleton, lookBack, List.append_assoc,
      List.getElem?_append_right le_rfl, Nat.sub_self, List.getLast?_concat]
    rfl

namespace Pass

variable {p : Pass}

/-- Whether a pass may stand behind `front`: the last character of its present word is the last
one of `front`. -/
def Fits (p : Pass) (front : List Char) : Prop :=
  ∀ d ∈ p.present.getLast?, d ∈ front.getLast?

/-- The words that a pass will have found at the end, if `rest` is still to come. -/
def outcome (p : Pass) (rest : List Char) : List (List Char) :=
  match p.present.getLast? with
  | none => p.finished ++ words rest
  | some d =>
    p.finished ++
      if endsWord d rest then p.present :: words rest else extendFirst p.present (words rest)

theorem outcome_of_last (hd : d ∈ p.present.getLast?) (rest : List Char) :
    p.outcome rest = p.finished ++
      if endsWord d rest then p.present :: words rest else extendFirst p.present (words rest) := by
  rw [outcome, Option.mem_def.mp hd]

theorem isEmpty_present_of_last (hd : d ∈ p.present.getLast?) : p.present.isEmpty = false := by
  rw [List.isEmpty_eq_false_iff]
  exact List.ne_nil_of_mem (List.mem_of_getLast? hd)

theorem present_close (p : Pass) : p.close.present = [] := by
  rw [close]
  split
  · next hempty => exact List.isEmpty_iff.mp hempty
  · rfl

/-- If the present word ends here, the further words are those of what is still to come. -/
theorem outcome_of_ends (h : ∀ d ∈ p.present.getLast?, endsWord d rest = true) :
    p.outcome rest = p.close.finished ++ words rest := by
  cases hlast : p.present.getLast? with
  | none =>
    rw [outcome, hlast, close, List.getLast?_eq_none_iff.mp hlast]
    rfl
  | some d =>
    rw [outcome_of_last hlast, h d hlast, if_pos rfl, close, isEmpty_present_of_last hlast,
      if_neg Bool.false_ne_true, List.append_assoc, List.singleton_append]

theorem outcome_close (p : Pass) (rest : List Char) :
    p.close.outcome rest = p.close.finished ++ words rest := by
  rw [outcome, present_close]
  rfl

/-- An added character is the last one of the present word. -/
theorem outcome_add (hc : isAlphanumeric c = true) (p : Pass) (rest : List Char) :
    (p.add c).outcome rest = p.finished ++ extendFirst p.present (words (c :: rest)) := by
  rw [outcome_of_last (List.getLast?_concat : (p.add c).present.getLast? = some c), words_cons hc]
  split
  · rfl
  · rw [extendFirst_extendFirst]
    rfl

/-- Where the present word ends, a character begins the first of the further words. -/
theorem outcome_close_add (hc : isAlphanumeric c = true)
    (h : ∀ d ∈ p.present.getLast?, endsWord d (c :: rest) = true) :
    (p.close.add c).outcome rest = p.outcome (c :: rest) := by
  rw [outcome_add hc, present_close, extendFirst_nil (words_cons_ne_nil hc rest),
    outcome_of_ends h]

theorem fits_close (p : Pass) (front : List Char) : p.close.Fits front := by
  intro d hd
  rw [present_close] at hd
  cases hd

theorem fits_add (p : Pass) (front : List Char) (c : Char) : (p.add c).Fits (front ++ [c]) := by
  intro d hd
  rw [add, List.getLast?_concat] at hd
  rw [List.getLast?_concat]
  exact hd

/-- A step inside a word looks back at the last character of the word. -/
theorem step_of_last (hd : d ∈ front.getLast?) (hp : d ∈ p.present.getLast?)
    (hc : isAlphanumeric c = true) :
    p.step (front ++ c :: rest) (c, front.length) =
      some (if startsWord d c rest.head? then p.close.add c else p.add c) := by
  have hahead : (front ++ c :: rest)[front.length + 1]? = rest.head? := by
    rw [List.getElem?_append_right (Nat.le_add_right _ 1), Nat.add_sub_cancel_left,
      List.getElem?_cons_succ, List.head?_eq_getElem?]
  have hback : lookBack (front ++ c :: rest) front.length = some d :=
    (lookBack_length front (c :: rest)).trans hd
  rw [step, hc, isEmpty_present_of_last hp, hback, hahead]
  cases hupper : isUpper c with
  | true => simp [startsWord, hupper]
  | false => simp [startsWord, hupper]

/-- **One step.** A pass that fits its place goes on to the next one and to the same words. -/
theorem Fits.step (h : p.Fits front) (c : Char) (rest : List Char) :
    ∃ q, p.step (front ++ c :: rest) (c, front.length) = some q ∧ q.Fits (front ++ [c]) ∧
      q.outcome rest = p.outcome (c :: rest) := by
  cases hc : isAlphanumeric c with
  | false =>
    have hstep : p.step (front ++ c :: rest) (c, front.length) = some p.close := by
      rw [Pass.step, hc]
      rfl
    refine ⟨p.close, hstep, fits_close p _, ?_⟩
    rw [outcome_close, outcome_of_ends fun d _ => endsWord_cons_of_separator hc d rest,
      words_cons_of_separator hc]
  | true =>
    -- Only a present word makes the pass look back, and its last character is the one before `c`.
    cases hlast : p.present.getLast? with
    | none =>
      have hnil : p.present = [] := List.getLast?_eq_none_iff.mp hlast
      have hstep : p.step (front ++ c :: rest) (c, front.length) = some (p.close.add c) := by
        rw [Pass.step, hc, close, hnil]
        simp
      refine ⟨p.close.add c, hstep, fits_add _ front c, outcome_close_add hc ?_⟩
      rw [hlast]
      exact fun d hd => nomatch hd
    | some d =>
      have hends : endsWord d (c :: rest) = startsWord d c rest.head? := endsWord_cons hc d rest
      refine ⟨_, step_of_last (h d hlast) hlast hc, ?_⟩
      cases hstart : startsWord d c rest.head? with
      | true =>
        refine ⟨fits_add p.close front c, outcome_close_add hc ?_⟩
        intro e he
        rw [hlast] at he
        cases he
        rw [hends, hstart]
      | false =>
        refine ⟨fits_add p front c, ?_⟩
        rw [if_neg Bool.false_ne_true, outcome_add hc, outcome_of_last hlast, hends, hstart,
          if_neg Bool.false_ne_true]

/-- **The whole pass.** From a place that it fits, a pass ends with the words of its outcome. -/
theorem Fits.run (h : p.Fits front) (rest : List Char) :
    ∃ q, (rest.zipIdx front.length).foldlM (Pass.step (front ++ rest)) p = some q ∧
      q.close.finished = p.outcome rest := by
  induction rest generalizing front p with
  | nil =>
    refine ⟨p, rfl, ?_⟩
    rw [outcome_of_ends fun d _ => rfl, words_nil, List.append_nil]
  | cons c rest ih =>
    obtain ⟨q, hstep, hq, houtcome⟩ := h.step c rest
    obtain ⟨r, hrun, hr⟩ := ih hq
    refine ⟨r, ?_, hr.trans houtcome⟩
    rw [List.length_append, List.length_singleton, List.append_assoc] at hrun
    rw [List.zipIdx_cons, List.foldlM_cons, hstep]
    exact hrun

end Pass

/-- The pass never looks back beyond the start, and it finds the words of the name. -/
theorem wordsInOnePass_eq (name : List Char) : wordsInOnePass name = some (words name) := by
  have hfits : Pass.Fits ⟨[], []⟩ [] := fun d hd => nomatch hd
  obtain ⟨q, hrun, hwords⟩ := hfits.run name
  rw [List.nil_append, List.length_nil] at hrun
  rw [wordsInOnePass, hrun, Option.map_some, hwords]
  rfl

/-- **No loss.** The words of a name divide it: none is empty, they have no separators, they spell
its alphanumeric characters in order, and inside a run they begin at the case boundaries only. The
pass from the start of the name to its end finds them and never looks back beyond the start. -/
theorem words_lossless (name : String) :
    IsDivision name.toList (words name.toList) ∧
      wordsInOnePass name.toList = some (words name.toList) :=
  ⟨isDivision_words name.toList, wordsInOnePass_eq name.toList⟩

/-- An acronym, whose last letter belongs to the word behind it. -/
theorem words_lossless_acronym :
    let name := "getHTTPUrl2Id_xY".toList
    wordsInOnePass name = some (["get", "HTTP", "Url2", "Id", "x", "Y"].map String.toList) ∧
      BeginsWord (words name) "getHTTP".toList 'U' ∧
      ¬ BeginsWord (words name) "getHTT".toList 'P' := by
  intro name
  obtain ⟨hdivision, hpass⟩ := words_lossless "getHTTPUrl2Id_xY"
  have hwords : words name = ["get", "HTTP", "Url2", "Id", "x", "Y"].map String.toList := by
    decide +kernel
  refine ⟨by rw [hpass, hwords], ?_, ?_⟩
  · have hinside := hdivision.begins_inside_iff "getHTT".toList 'P' 'U' ('r' :: "l2Id_xY".toList)
      (by decide +kernel) (by decide) (by decide)
    exact hinside.mpr ⟨by decide, Or.inr (Or.inr ⟨by decide, 'r', rfl, by decide⟩)⟩
  · have hinside := hdivision.begins_inside_iff "getHT".toList 'T' 'P' ('U' :: "rl2Id_xY".toList)
      (by decide +kernel) (by decide) (by decide)
    intro hbegins
    obtain ⟨-, hsmall | hdigit | ⟨-, e, he, hsmall⟩⟩ := hinside.mp hbegins
    · exact absurd hsmall (by decide)
    · exact absurd hdigit (by decide)
    · cases he
      exact absurd hsmall (by decide)

end QueryGateway.Naming
