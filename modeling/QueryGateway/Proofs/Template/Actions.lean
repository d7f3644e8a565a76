import QueryGateway.Proofs.Template.Commands
import QueryGateway.Proofs.Template.Lexemes

/-!
# Reading printed actions

An outline prints three kinds of actions: outputs, conditions and closing actions.
Each is read back as the piece that it stands for, and can be put between braces:
it neither closes itself nor loses anything when the blanks around it are dropped.
-/

namespace QueryGateway.Template

/-- A text that begins and ends with other characters than blanks. -/
def Framed (s : List Char) : Prop :=
  (∀ c ∈ s.head?, Text.isBlank c = false) ∧ ∀ c ∈ s.getLast?, Text.isBlank c = false

/-- Trimming takes just the blanks around a framed text. -/
theorem trim_framed {s : List Char} (hs : Framed s) : Text.trim (' ' :: (s ++ [' '])) = s := by
  have hblank : Text.isBlank ' ' = true := by decide
  have hleft : s.dropWhile Text.isBlank = s := by
    rcases s with _ | ⟨c, s⟩
    · rfl
    · simp [hs.1 c (by simp)]
  rcases hreverse : s.reverse with _ | ⟨c, r⟩
  · obtain rfl := List.reverse_eq_nil_iff.mp hreverse
    decide
  · have hc : Text.isBlank c = false := hs.2 c (by simp [← List.head?_reverse, hreverse])
    have hright : Text.trimRight (' ' :: (s ++ [' '])) = ' ' :: s := by
      have hlast : s = r.reverse ++ [c] := by
        rw [← List.reverse_reverse s, hreverse, List.reverse_cons]
      simp [Text.trimRight, hblank, hc, hlast]
    rw [Text.trim, hright, Text.trimLeft, List.dropWhile_cons_of_pos hblank, hleft]

/-- The text of an action that asks for a piece. -/
structure ActionBody (body : List Char) (item : Item) : Prop where
  passes : Passes body
  framed : Framed body
  reads : readAction body = .ok (some item)

/-- A text that becomes tokens wherever it stands becomes them on its own. -/
theorem Lexes.tokenize {s : List Char} {tokens : List Token} (hs : Lexes s tokens) :
    tokenize s = .ok tokens := by
  have hnil : Template.tokenize [] = .ok [] := by rw [Template.tokenize]
  have hlexed := hs []
  rw [List.append_nil, hnil] at hlexed
  simpa [Except.map] using hlexed

/-- An action whose tokens ask for a piece. -/
theorem readAction_of_tokens {body : List Char} {tokens : List Token} {item : Item}
    (htokens : tokenize body = .ok tokens) (hitem : actionOfTokens tokens = .ok item) :
    readAction body = .ok (some item) := by
  rw [readAction_eq_of_tokens htokens, hitem]
  rfl

/-! ## Expressions -/

/-- An expression begins with a quotation mark or a letter. -/
theorem exists_head_print (e : Expression) :
    ∃ c rest, e.print = c :: rest ∧ (c = '"' ∨ isWordChar c = true) := by
  have hcall (h : Helper) (s : List Char) :
      ∃ c rest, h.name.toList ++ s = c :: rest ∧ (c = '"' ∨ isWordChar c = true) := by
    obtain ⟨c, rest, hname⟩ := List.exists_cons_of_ne_nil (helperName_ne_nil h)
    exact ⟨c, rest ++ s, by rw [hname, List.cons_append],
      .inr (List.all_eq_true.mp (isWordChar_helperName h) c (by simp [hname]))⟩
  cases e with
  | text s => exact ⟨'"', _, rfl, .inl rfl⟩
  | orElse fallback value =>
    rw [Expression.print, List.append_assoc]
    exact hcall _ _
  | _ => exact hcall _ _

/-- An argument ends in a quotation mark or a parenthesis. -/
theorem getLast?_printArgument (e : Expression) :
    (e.printArgument e.print).getLast? = some '"' ∨
      (e.printArgument e.print).getLast? = some ')' := by
  cases e with
  | text s => exact .inl List.getLast?_concat
  | _ => exact .inr List.getLast?_concat

/-- An expression ends in a quotation mark or a parenthesis. -/
theorem getLast?_print (e : Expression) :
    e.print.getLast? = some '"' ∨ e.print.getLast? = some ')' := by
  have hcall (s : List Char) (e : Expression) :
      (s ++ ' ' :: e.printArgument e.print).getLast? = some '"' ∨
        (s ++ ' ' :: e.printArgument e.print).getLast? = some ')' := by
    rcases getLast?_printArgument e with h | h <;> simp [List.getLast?_cons, h]
  cases e with
  | text s => exact .inl List.getLast?_concat
  | _ => exact hcall _ _

/-- An expression ends in no blank, whatever stands before it. -/
theorem isBlank_getLast?_append_print (s : List Char) (e : Expression) :
    ∀ c ∈ (s ++ e.print).getLast?, Text.isBlank c = false := by
  rw [List.getLast?_append]
  rcases getLast?_print e with h | h <;> rw [h] <;> rintro c ⟨⟩ <;> decide

/-- The tokens of an expression are no closing action and no condition. -/
theorem actionOfTokens_tokens (e : Expression) : actionOfTokens e.tokens = .ok (.output e) := by
  have hread := readExpression_tokens e
  cases e <;> simp only [Expression.tokens, Helper.name] at hread ⊢ <;>
    rw [actionOfTokens, hread] <;> simp [Except.map]

/-- The action of an output. -/
theorem actionBody_output (e : Expression) : ActionBody e.print (.output e) where
  passes := passes_print e
  framed := by
    constructor
    · obtain ⟨c, rest, hprint, hc⟩ := exists_head_print e
      rw [hprint]
      rintro d ⟨⟩
      rcases hc with rfl | hc
      · decide
      · exact isBlank_of_isWordChar hc
    · exact isBlank_getLast?_append_print [] e
  reads := readAction_of_tokens (lexes_print e).tokenize (actionOfTokens_tokens e)

/-- The action that begins a branch. -/
theorem actionBody_condition (e : Expression) :
    ActionBody ("if ".toList ++ e.print) (.condition e) where
  passes := (passes_of_plain (by decide)).append (passes_print e)
  framed := ⟨by rintro c ⟨⟩; decide, isBlank_getLast?_append_print _ e⟩
  reads := by
    have hword : Lexes "if ".toList [.name "if"] :=
      lexes_word (w := "if".toList) (by decide) (by decide)
    apply readAction_of_tokens (hword.append (lexes_print e)).tokenize
    rw [List.singleton_append, actionOfTokens, readExpression_tokens]
    rfl

/-- The action that ends a part of a branch. -/
theorem actionBody_closer (k : Closer) : ActionBody k.keyword.toList (.closer k) where
  passes := passes_word (by cases k <;> decide)
  framed := by cases k <;> exact ⟨by rintro c ⟨⟩; decide, by rintro c ⟨⟩; decide⟩
  reads := by
    have hword := tokenize_lastWord (w := k.keyword.toList) (by cases k <;> decide)
      (by cases k <;> decide)
    rw [String.ofList_toList] at hword
    exact readAction_of_tokens hword (by cases k <;> rfl)

end QueryGateway.Template
