import QueryGateway.Proofs.Template.Closing

/-!
# Printed expressions and their tokens

A printed piece of an action becomes the same tokens wherever it stands, and its
quotation marks come in pairs, so that it neither closes the action nor opens a
literal in what follows. Both facts hold of two pieces one after the other, which
reduces them to words, literals and parentheses.
-/

namespace QueryGateway.Template

/-- A text that becomes the given tokens wherever it stands. -/
def Lexes (s : List Char) (tokens : List Token) : Prop :=
  ∀ rest, tokenize (s ++ rest) = (tokenize rest).map (tokens ++ ·)

/-- A text that `findClose` passes over wherever it stands. -/
def Passes (s : List Char) : Prop :=
  ∀ rest, findClose none (s ++ rest) =
    (findClose none rest).map fun (body, after) => (s ++ body, after)

theorem Lexes.append {s t : List Char} {ts us : List Token} (hs : Lexes s ts) (ht : Lexes t us) :
    Lexes (s ++ t) (ts ++ us) := by
  intro rest
  rw [List.append_assoc, hs, ht]
  cases tokenize rest <;> simp [Except.map]

theorem Passes.append {s t : List Char} (hs : Passes s) (ht : Passes t) : Passes (s ++ t) := by
  intro rest
  rw [List.append_assoc, hs, ht]
  cases findClose none rest <;> simp

/-! ## Blanks and parentheses -/

theorem lexes_blank : Lexes [' '] [] := by
  intro rest
  rw [List.singleton_append, tokenize]
  cases tokenize rest <;> simp [Text.isBlank, Except.map]

theorem lexes_opening : Lexes ['('] [.opening] := by
  intro rest
  rw [List.singleton_append, tokenize]
  simp [Text.isBlank]

theorem lexes_closing : Lexes [')'] [.closing] := by
  intro rest
  rw [List.singleton_append, tokenize]
  simp [Text.isBlank]

theorem lexes_bar : Lexes ['|'] [.bar] := by
  intro rest
  rw [List.singleton_append, tokenize]
  simp [Text.isBlank]

/-- A character that neither opens a literal nor closes an action. -/
def isPlainChar (c : Char) : Bool :=
  c != '"' && c != '\x60' && c != '\x7d'

/-- Characters other than quotation marks and the closing brace are passed over. -/
theorem passes_of_plain {s : List Char} (hplain : s.all isPlainChar = true) : Passes s := by
  intro rest
  induction s with
  | nil => simp
  | cons c s ih =>
    rw [List.all_cons, Bool.and_eq_true] at hplain
    have hs := ih hplain.2
    have hc := hplain.1
    simp only [isPlainChar, Bool.and_eq_true, bne_iff_ne] at hc
    rw [List.cons_append, findClose]
    simp [hc, hs, Function.comp_def]

/-! ## Literals -/

/-- The reader of literals undoes the escapes. -/
theorem readQuoted_escaped (s rest : List Char) :
    readQuoted (s.flatMap escapeLiteral ++ '"' :: rest) = .ok (s, rest) := by
  induction s with
  | nil => rfl
  | cons c s ih =>
    rw [List.flatMap_cons, List.append_assoc]
    by_cases hescaped : c = '"' ∨ c = '\\'
    · rw [escapeLiteral, if_pos hescaped]
      rcases hescaped with rfl | rfl <;> simp [readQuoted, ih, consRead]
    · rw [escapeLiteral, if_neg hescaped]
      rw [not_or] at hescaped
      rw [List.singleton_append, readQuoted.eq_def]
      split <;> simp_all [consRead]

theorem tokenize_quoted {s text after : List Char} (hread : readQuoted s = .ok (text, after)) :
    tokenize ('"' :: s) = (tokenize after).map (.literal (String.ofList text) :: ·) := by
  rw [tokenize]
  simp only [Text.isBlank, Char.reduceToNat, Nat.reduceLeDiff, Char.reduceBEq, decide_false,
    decide_true, Bool.and_false, Bool.and_true, Bool.or_false, Nat.reduceBEq, if_false,
    Bool.false_eq_true, if_true]
  split
  · next e h => simp [hread] at h
  · next t a h =>
    rw [hread] at h
    simp_all

theorem lexes_literal (s : List Char) : Lexes (printLiteral s) [.literal (String.ofList s)] := by
  intro rest
  have hread := readQuoted_escaped s rest
  rw [printLiteral, List.append_assoc, List.cons_append, tokenize_quoted]
  · rfl
  · exact hread

/-- Escaped characters can stand inside a literal. -/
theorem inside_escaped (s : List Char) : Inside '"' (s.flatMap escapeLiteral) := by
  induction s with
  | nil => exact .nil
  | cons c s ih =>
    rw [List.flatMap_cons]
    by_cases hescaped : c = '"' ∨ c = '\\'
    · rw [escapeLiteral, if_pos hescaped]
      exact .escape rfl ih
    · rw [escapeLiteral, if_neg hescaped]
      rw [not_or] at hescaped
      exact .char hescaped.1 (fun hc => absurd hc hescaped.2) ih

theorem passes_literal (s : List Char) : Passes (printLiteral s) := by
  intro rest
  rw [printLiteral, List.append_assoc, List.cons_append, List.singleton_append, findClose]
  simp [findClose_inside (inside_escaped s), findClose_mark, Function.comp_def]

/-! ## Words -/

/-- The characters of the words of actions. -/
def isWordChar (c : Char) : Bool := Text.isAsciiUpper c || Text.isAsciiLower c

/-- The code points of letters. -/
theorem toNat_of_isWordChar {c : Char} (hc : isWordChar c = true) :
    (65 ≤ c.toNat ∧ c.toNat ≤ 90) ∨ (97 ≤ c.toNat ∧ c.toNat ≤ 122) := by
  have hle {a b : Char} : a ≤ b ↔ a.toNat ≤ b.toNat := Iff.rfl
  simpa [isWordChar, Text.isAsciiUpper, Text.isAsciiLower, hle] using hc

theorem isNameChar_of_isWordChar {c : Char} (hc : isWordChar c = true) : isNameChar c = true := by
  have hascii : Text.isAscii c = true := by
    have := toNat_of_isWordChar hc
    simp only [Text.isAscii, decide_eq_true_eq]
    omega
  unfold isWordChar at hc
  simp [isNameChar, Text.isAlphanumeric, Text.isAlphabetic, hascii, hc]

/-- Letters are neither blank nor one of the characters that stand for themselves. -/
theorem isBlank_of_isWordChar {c : Char} (hc : isWordChar c = true) : Text.isBlank c = false := by
  have := toNat_of_isWordChar hc
  simp only [Text.isBlank, Bool.or_eq_false_iff, Bool.and_eq_false_iff, decide_eq_false_iff_not,
    beq_eq_false_iff_ne]
  omega

/-- A letter is none of the given characters, each of which is no letter. -/
theorem ne_of_isWordChar {c d : Char} (hc : isWordChar c = true) (hd : isWordChar d = false) :
    c ≠ d := by
  rintro rfl
  rw [hc] at hd
  exact Bool.noConfusion hd

/-- A word is one token if what follows cannot extend it. -/
theorem tokenize_word {w rest : List Char} (hne : w ≠ []) (hword : w.all isWordChar = true)
    (hrest : ∀ c ∈ rest.head?, isNameChar c = false) :
    tokenize (w ++ rest) = (tokenize rest).map (.name (String.ofList w) :: ·) := by
  obtain ⟨c, s, rfl⟩ := List.exists_cons_of_ne_nil hne
  rw [List.all_cons, Bool.and_eq_true, List.all_eq_true] at hword
  have hc := hword.1
  have hname : ∀ d ∈ s, isNameChar d = true := fun d hd =>
    isNameChar_of_isWordChar (hword.2 d hd)
  have htake := Text.takeWhile_run hname hrest
  have hdrop := Text.dropWhile_run hname hrest
  rw [List.cons_append, tokenize]
  simp only [isBlank_of_isWordChar hc, isNameChar_of_isWordChar hc, htake, hdrop,
    beq_eq_false_iff_ne.mpr (ne_of_isWordChar hc (d := '(') (by decide)),
    beq_eq_false_iff_ne.mpr (ne_of_isWordChar hc (d := ')') (by decide)),
    beq_eq_false_iff_ne.mpr (ne_of_isWordChar hc (d := '|') (by decide)),
    beq_eq_false_iff_ne.mpr (ne_of_isWordChar hc (d := '"') (by decide)),
    beq_eq_false_iff_ne.mpr (ne_of_isWordChar hc (d := '\x60') (by decide)),
    Bool.false_eq_true, if_false, if_true]

/-- A word at the end of an action is one token. -/
theorem tokenize_lastWord {w : List Char} (hne : w ≠ []) (hword : w.all isWordChar = true) :
    tokenize w = .ok [.name (String.ofList w)] := by
  have htokens : tokenize (w ++ []) = (tokenize []).map (.name (String.ofList w) :: ·) :=
    tokenize_word hne hword (by simp)
  have hnil : tokenize [] = .ok [] := by rw [tokenize]
  rw [List.append_nil, hnil] at htokens
  exact htokens

theorem passes_word {w : List Char} (hword : w.all isWordChar = true) : Passes w := by
  apply passes_of_plain
  rw [List.all_eq_true] at hword ⊢
  intro c hc
  have hletter := hword c hc
  simp only [isPlainChar, Bool.and_eq_true, bne_iff_ne]
  exact ⟨⟨ne_of_isWordChar hletter (by decide), ne_of_isWordChar hletter (by decide)⟩,
    ne_of_isWordChar hletter (by decide)⟩

/-- A word and a blank after it. -/
theorem lexes_word {w : List Char} (hne : w ≠ []) (hword : w.all isWordChar = true) :
    Lexes (w ++ [' ']) [.name (String.ofList w)] := by
  intro rest
  rw [List.append_assoc, tokenize_word hne hword (by simp; decide), lexes_blank]
  cases tokenize rest <;> simp [Except.map]

/-! ## Expressions -/

/-- The name of a helper is a word. -/
theorem isWordChar_helperName (h : Helper) : h.name.toList.all isWordChar = true := by
  cases h <;> decide

theorem helperName_ne_nil (h : Helper) : h.name.toList ≠ [] := by
  cases h <;> decide

/-- The tokens of an argument, given those of the expression. -/
def Expression.argumentTokens (tokens : List Token) : Expression → List Token
  | text _ => tokens
  | _ => .opening :: tokens ++ [.closing]

/-- The tokens of a printed expression. -/
def Expression.tokens : Expression → List Token
  | text s => [.literal s]
  | param name => .name Helper.param.name :: name.argumentTokens name.tokens
  | flag name => .name Helper.flag.name :: name.argumentTokens name.tokens
  | header name => .name Helper.header.name :: name.argumentTokens name.tokens
  | orElse fallback value =>
    .name Helper.orElse.name :: (fallback.argumentTokens fallback.tokens ++
      value.argumentTokens value.tokens)
  | quote value => .name Helper.quote.name :: value.argumentTokens value.tokens

/-- A helper before its printed arguments. -/
theorem lexes_call (h : Helper) {s : List Char} {tokens : List Token} (hs : Lexes s tokens) :
    Lexes (h.name.toList ++ ' ' :: s) (.name h.name :: tokens) := by
  have hword := lexes_word (helperName_ne_nil h) (isWordChar_helperName h)
  rw [String.ofList_toList] at hword
  simpa using hword.append hs

theorem lexes_argument {e : Expression} (he : Lexes e.print e.tokens) :
    Lexes (e.printArgument e.print) (e.argumentTokens e.tokens) := by
  have hgroup : Lexes ('(' :: e.print ++ [')']) (.opening :: e.tokens ++ [.closing]) := by
    simpa using (lexes_opening.append he).append lexes_closing
  cases e with
  | text s => exact he
  | _ => exact hgroup

/-- A printed expression becomes its tokens. -/
theorem lexes_print (e : Expression) : Lexes e.print e.tokens := by
  induction e with
  | text s =>
    have hliteral := lexes_literal s.toList
    rwa [String.ofList_toList] at hliteral
  | param name ih => exact lexes_call .param (lexes_argument ih)
  | flag name ih => exact lexes_call .flag (lexes_argument ih)
  | header name ih => exact lexes_call .header (lexes_argument ih)
  | orElse fallback value ihf ihv =>
    have harguments := (lexes_argument ihf).append (lexes_blank.append (lexes_argument ihv))
    simpa [Expression.print, Expression.tokens] using lexes_call .orElse harguments
  | quote value ih => exact lexes_call .quote (lexes_argument ih)

/-- A helper before its printed arguments. -/
theorem passes_call (h : Helper) {s : List Char} (hs : Passes s) :
    Passes (h.name.toList ++ ' ' :: s) := by
  have hblank : Passes [' '] := passes_of_plain (by decide)
  simpa using ((passes_word (isWordChar_helperName h)).append hblank).append hs

theorem passes_argument {e : Expression} (he : Passes e.print) :
    Passes (e.printArgument e.print) := by
  have hopening : Passes ['('] := passes_of_plain (by decide)
  have hclosing : Passes [')'] := passes_of_plain (by decide)
  have hgroup : Passes ('(' :: e.print ++ [')']) := by
    simpa using (hopening.append he).append hclosing
  cases e with
  | text s => exact he
  | _ => exact hgroup

/-- A printed expression is passed over: its literals are closed, and no braces stand
outside of them. -/
theorem passes_print (e : Expression) : Passes e.print := by
  induction e with
  | text s => exact passes_literal s.toList
  | param name ih => exact passes_call .param (passes_argument ih)
  | flag name ih => exact passes_call .flag (passes_argument ih)
  | header name ih => exact passes_call .header (passes_argument ih)
  | orElse fallback value ihf ihv =>
    have hblank : Passes [' '] := passes_of_plain (by decide)
    have harguments := (passes_argument ihf).append (hblank.append (passes_argument ihv))
    simpa [Expression.print] using passes_call .orElse harguments
  | quote value ih => exact passes_call .quote (passes_argument ih)

end QueryGateway.Template
