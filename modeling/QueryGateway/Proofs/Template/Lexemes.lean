import Mathlib.Data.List.TakeWhile
import QueryGateway.Proofs.Calculation
import QueryGateway.Proofs.Template.Closing
import QueryGateway.Proofs.Text.Splitting

/-!
# Texts that become tokens

A text that becomes tokens consists of closed literals and of a few other characters between them.
So the braces behind it close its action, whatever stands in its literals, and neither end of it
can be taken for a marker or for a comment. The same holds of the text with blanks around it.
-/

namespace QueryGateway.Template

/-- The characters of tokens outside of literals, and blanks. -/
def isLexemeChar (c : Char) : Bool :=
  Text.isBlank c || c == '(' || c == ')' || c == '|' || isNameChar c

/-- A text that consists of closed literals and of characters of other tokens. -/
inductive Lexemes : List Char → Prop
  | nil : Lexemes []
  | char {c : Char} {s : List Char} (hc : isLexemeChar c = true) (hs : Lexemes s) : Lexemes (c :: s)
  | literal {mark : Char} {text s : List Char} (hmark : mark = '"' ∨ mark = '\x60')
    (htext : Inside mark text) (hs : Lexemes s) : Lexemes (mark :: text ++ mark :: s)

/-! ## Reading literals -/

/-- A quoted literal ends at its second quotation mark. -/
theorem exists_inside_of_readQuoted {s text after : List Char}
    (hread : readQuoted s = .ok (text, after)) :
    ∃ inner, s = inner ++ '"' :: after ∧ Inside '"' inner := by
  fun_induction readQuoted s generalizing text with
  | case1 => cases hread
  | case2 rest =>
    obtain ⟨-, rfl⟩ := Prod.mk.inj (Except.ok.inj hread)
    exact ⟨[], rfl, .nil⟩
  | case3 => cases hread
  | case4 c rest _ ih | case5 c rest _ _ ih | case6 c rest _ _ _ ih =>
    obtain ⟨t, ht⟩ := of_consRead hread
    obtain ⟨inner, rfl, hinner⟩ := ih ht
    exact ⟨'\\' :: c :: inner, rfl, .escape rfl hinner⟩
  | case7 => cases hread
  | case8 c rest hquote hlast hescape ih =>
    obtain ⟨t, ht⟩ := of_consRead hread
    obtain ⟨inner, rfl, hinner⟩ := ih ht
    refine ⟨c :: inner, rfl, .char hquote (fun hc => ?_) hinner⟩
    cases inner with
    | nil => exact absurd rfl (hescape _ _ hc)
    | cons d inner => exact absurd rfl (hescape _ _ hc)

/-- A raw literal ends at the next backquote. -/
theorem exists_inside_of_readRaw {s text after : List Char}
    (hread : readRaw s = .ok (text, after)) :
    s = text ++ '\x60' :: after ∧ Inside '\x60' text := by
  unfold readRaw at hread
  split at hread
  · next before rest hcut =>
    obtain ⟨rfl, rfl⟩ := Prod.mk.inj (Except.ok.inj hread)
    refine ⟨Text.eq_of_cut hcut, ?_⟩
    have hmark := Text.notMem_before_of_cut hcut
    clear hread hcut
    induction before with
    | nil => exact .nil
    | cons c before ih =>
      rw [List.mem_cons, not_or] at hmark
      exact .char (Ne.symm hmark.1) (fun _ => by decide) (ih hmark.2)
  · cases hread

/-! ## Texts that become tokens -/

/-- Characters of tokens before lexemes. -/
theorem Lexemes.append_of_all {run s : List Char} (hrun : ∀ c ∈ run, isLexemeChar c = true)
    (hs : Lexemes s) : Lexemes (run ++ s) := by
  induction run with
  | nil => exact hs
  | cons c run ih =>
    rw [List.forall_mem_cons] at hrun
    exact .char hrun.1 (ih hrun.2)

/-- Blanks between lexemes do not count. -/
theorem isLexemeChar_of_isBlank {c : Char} (hc : Text.isBlank c = true) :
    isLexemeChar c = true := by
  simp [isLexemeChar, hc]

/-- A text that becomes tokens consists of lexemes. -/
theorem lexemes_of_tokenize {s : List Char} {tokens : List Token}
    (htokens : tokenize s = .ok tokens) : Lexemes s := by
  -- one case for each kind of token; where a literal is not closed, there are no tokens
  fun_induction tokenize s generalizing tokens with
  | case1 => exact .nil
  | case2 c rest hblank ih => exact .char (isLexemeChar_of_isBlank hblank) (ih htokens)
  | case3 c rest _ hc ih | case4 c rest _ _ hc ih | case5 c rest _ _ _ hc ih =>
    obtain ⟨others, hothers, -⟩ := exists_of_map_eq_ok htokens
    exact .char (by simp [isLexemeChar, hc]) (ih hothers)
  | case6 => cases htokens
  | case7 c rest _ _ _ _ hc text after hread _ ih =>
    obtain ⟨others, hothers, -⟩ := exists_of_map_eq_ok htokens
    obtain ⟨inner, rfl, hinner⟩ := exists_inside_of_readQuoted hread
    obtain rfl := beq_iff_eq.mp hc
    exact .literal (.inl rfl) hinner (ih hothers)
  | case8 => cases htokens
  | case9 c rest _ _ _ _ _ hc text after hread _ ih =>
    obtain ⟨others, hothers, -⟩ := exists_of_map_eq_ok htokens
    obtain ⟨rfl, hinner⟩ := exists_inside_of_readRaw hread
    obtain rfl := beq_iff_eq.mp hc
    exact .literal (.inr rfl) hinner (ih hothers)
  | case10 c rest _ _ _ _ _ _ hc _ ih =>
    obtain ⟨others, hothers, -⟩ := exists_of_map_eq_ok htokens
    have hname {d : Char} (hd : isNameChar d = true) : isLexemeChar d = true := by
      simp [isLexemeChar, hd]
    rw [← List.takeWhile_append_dropWhile (p := isNameChar) (l := rest)]
    exact .char (hname hc)
      (.append_of_all (fun d hd => hname (List.mem_takeWhile_imp hd)) (ih hothers))
  | case11 => cases htokens

/-! ## What lexemes are put between -/

/-- Closing braces can follow lexemes. -/
theorem Lexemes.enclosed {s : List Char} (hs : Lexemes s) : Enclosed s := by
  induction hs with
  | nil => exact .nil
  | @char c s hc _ ih =>
    have hne {d : Char} (hd : isLexemeChar d = false) : c ≠ d := by
      rintro rfl
      rw [hc] at hd
      cases hd
    exact .char ⟨hne (by decide), hne (by decide)⟩ (hne (by decide)) ih
  | literal hmark htext _ ih => exact .literal hmark htext ih

/-- The characters that lexemes begin and end with. -/
def isEdgeChar (c : Char) : Bool :=
  isLexemeChar c || c == '"' || c == '\x60'

theorem Lexemes.isEdgeChar_head {s : List Char} (hs : Lexemes s) :
    ∀ c ∈ s.head?, isEdgeChar c = true := by
  intro d hd
  cases hs with
  | nil => cases hd
  | char hc _ =>
    obtain rfl := Option.some.inj hd
    simp [isEdgeChar, hc]
  | literal hmark _ _ =>
    obtain rfl := Option.some.inj hd
    rcases hmark with rfl | rfl <;> decide

theorem Lexemes.isEdgeChar_getLast {s : List Char} (hs : Lexemes s) :
    ∀ c ∈ s.getLast?, isEdgeChar c = true := by
  intro d hd
  induction hs with
  | nil => cases hd
  | @char c s hc _ ih =>
    rcases List.eq_nil_or_concat s with rfl | ⟨s, e, rfl⟩
    · obtain rfl := Option.some.inj hd
      simp [isEdgeChar, hc]
    · exact ih (by simpa [List.getLast?_cons] using hd)
  | @literal mark text s hmark _ _ ih =>
    rcases List.eq_nil_or_concat s with rfl | ⟨s, e, rfl⟩
    · obtain rfl : mark = d := by simpa [List.getLast?_cons] using hd
      rcases hmark with rfl | rfl <;> decide
    · exact ih (by simpa [List.getLast?_cons] using hd)

/-- No hyphen of a marker is part of lexemes. -/
theorem Lexemes.no_hyphen {s : List Char} (hs : Lexemes s) :
    s.head? ≠ some '-' ∧ s.getLast? ≠ some '-' := by
  constructor <;> intro hhyphen
  · exact absurd (hs.isEdgeChar_head _ hhyphen) (by decide)
  · exact absurd (hs.isEdgeChar_getLast _ hhyphen) (by decide)

/-- A text that becomes tokens is no comment: its tokens are what the action asks with. -/
theorem readAction_eq_of_tokens {s : List Char} {tokens : List Token}
    (htokens : tokenize s = .ok tokens) : readAction s = (actionOfTokens tokens).map some := by
  have hcomment : Text.dropPrefix? ['/', '*'] s = none := by
    rw [Option.eq_none_iff_forall_ne_some]
    intro rest hrest
    obtain rfl := Text.dropPrefix?_eq_some_iff.mp hrest
    exact absurd ((lexemes_of_tokenize htokens).isEdgeChar_head '/' rfl) (by decide)
  rw [readAction, hcomment, htokens]
  simp only [bind, Except.bind]
  cases actionOfTokens tokens <;> rfl

/-! ## Texts between blanks -/

section

variable {s : List Char} {d : Char}

/-- A text that is trimmed to a text with another first character has another one itself. -/
theorem head?_ne_of_trim (hd : Text.isBlank d = false) (hs : (Text.trim s).head? ≠ some d) :
    s.head? ≠ some d := by
  obtain ⟨lead, trail, hparts, hlead, htrail⟩ := Text.exists_trim s
  have hblank {t : List Char} (ht : ∀ c ∈ t, Text.isBlank c = true) : t.head? ≠ some d :=
    fun h => Bool.noConfusion ((ht d (List.mem_of_head? h)).symm.trans hd)
  rw [hparts, List.head?_append, List.head?_append]
  simp [Option.or_eq_some_iff, hblank hlead, hblank htrail, hs]

/-- A text that is trimmed to a text with another last character has another one itself. -/
theorem getLast?_ne_of_trim (hd : Text.isBlank d = false) (hs : (Text.trim s).getLast? ≠ some d) :
    s.getLast? ≠ some d := by
  obtain ⟨lead, trail, hparts, hlead, htrail⟩ := Text.exists_trim s
  have hblank {t : List Char} (ht : ∀ c ∈ t, Text.isBlank c = true) : t.getLast? ≠ some d :=
    fun h => Bool.noConfusion ((ht d (List.mem_of_getLast? h)).symm.trans hd)
  rw [hparts, List.getLast?_append, List.getLast?_append]
  simp [Option.or_eq_some_iff, hblank hlead, hblank htrail, hs]

theorem enclosed_of_blank (hs : ∀ c ∈ s, Text.isBlank c = true) : Enclosed s := by
  have hlexemes : Lexemes (s ++ []) :=
    .append_of_all (fun c hc => isLexemeChar_of_isBlank (hs c hc)) .nil
  simpa using hlexemes.enclosed

/-- Closing braces can follow a text if they can follow what it is trimmed to. -/
theorem enclosed_of_trim (hs : Enclosed (Text.trim s)) : Enclosed s := by
  obtain ⟨lead, trail, hparts, hlead, htrail⟩ := Text.exists_trim s
  rw [hparts]
  exact ((enclosed_of_blank hlead).append hs).append (enclosed_of_blank htrail)

end

end QueryGateway.Template
