import QueryGateway.Proofs.Template.Lexemes
import QueryGateway.Proofs.Template.Lexing
import QueryGateway.Proofs.Template.Modes

/-!
# Literals in the tokenizer

The tokenizer reads a literal as a whole, in its own way for each kind of mark. This module says
what it does behind any beginning of an action: whether it goes on between tokens or in a literal,
or has stopped. The mode of the beginning decides which of these it is, as it does for the search
for closing braces.
-/

namespace QueryGateway.Template

/-! ## Inside a literal -/

/-- The rest of a literal with a given mark. -/
def readLiteral (mark : Char) (s : List Char) : Except Failure (List Char × List Char) :=
  if mark = '"' then readQuoted s else readRaw s

/-- The tokens of a text that begins inside a literal, behind other tokens and the beginning of the
literal. -/
def tokenizeInside (mark : Char) (tokens : List Token) (text s : List Char) :
    Except Failure (List Token) :=
  match readLiteral mark s with
  | .error e => .error e
  | .ok (inner, after) =>
    (tokenize after).map (tokens ++ .literal (String.ofList (text ++ inner)) :: ·)

/-- How a literal is read behind a text that begins inside of it. -/
inductive ReadsOn (mark : Char) (s : List Char) : Prop
  /-- The literal is closed in the text. -/
  | closed (text after : List Char)
      (hread : ∀ r, readLiteral mark (s ++ r) = .ok (text, after ++ r))
  /-- The literal goes on. -/
  | inside (text : List Char)
      (hmode : (Mode.ofQuote (some mark)).after s = .ofQuote (some mark))
      (hread : ∀ r, readLiteral mark (s ++ r) =
        (readLiteral mark r).map fun (inner, after) => (text ++ inner, after))
  /-- The literal goes on behind a backslash. -/
  | escaped (hmode : (Mode.ofQuote (some mark)).after s = .escaped)
      (hread : ∃ e, readLiteral mark s = .error e)
  /-- The text holds an escape that does not exist. -/
  | refused (c : Char) (hread : ∀ r, readLiteral mark (s ++ r) = .error (.unknownEscape c))

/-- One more character of a literal in double quotes. -/
theorem ReadsOn.prepend {s : List Char} (hs : ReadsOn '"' s) (front : List Char) (c : Char)
    (hmode : Mode.quoted.after front = .quoted)
    (hread : ∀ t, readQuoted (front ++ t) = consRead c (readQuoted t)) :
    ReadsOn '"' (front ++ s) := by
  have hfront (r : List Char) :
      readLiteral '"' (front ++ s ++ r) = consRead c (readLiteral '"' (s ++ r)) := by
    rw [List.append_assoc]
    exact hread (s ++ r)
  have hafter : (Mode.ofQuote (some '"')).after (front ++ s) =
      (Mode.ofQuote (some '"')).after s := by
    rw [Mode.after_append]
    exact congrArg (Mode.after · s) hmode
  cases hs with
  | closed text after hs =>
    refine .closed (c :: text) after fun r => ?_
    rw [hfront, hs]
    rfl
  | inside text hinside hs =>
    refine .inside (c :: text) (hafter.trans hinside) fun r => ?_
    rw [hfront, hs]
    cases readLiteral '"' r <;> rfl
  | escaped hescaped hs =>
    obtain ⟨e, hs⟩ := hs
    refine .escaped (hafter.trans hescaped) ⟨e, ?_⟩
    have hnil := hfront []
    rwa [List.append_nil, List.append_nil, hs] at hnil
  | refused d hs =>
    refine .refused d fun r => ?_
    rw [hfront, hs]
    rfl

/-- A literal in double quotes is read character by character. -/
theorem readsOn_quoted (s : List Char) : ReadsOn '"' s := by
  fun_induction readQuoted s with
  | case1 =>
    refine .inside [] rfl fun r => ?_
    rw [List.nil_append]
    cases readLiteral '"' r <;> rfl
  | case2 rest => exact .closed [] rest fun r => by simp [readLiteral, readQuoted]
  | case3 => exact .escaped rfl ⟨_, rfl⟩
  | case4 c rest hc ih =>
    exact ih.prepend ['\\', c] '\n' rfl fun t => by simp [readQuoted, hc]
  | case5 c rest hn hc ih =>
    exact ih.prepend ['\\', c] '\t' rfl fun t => by simp [readQuoted, hn, hc]
  | case6 c rest hn ht hc ih =>
    exact ih.prepend ['\\', c] c rfl fun t => by simp [readQuoted, hn, ht, hc]
  | case7 c rest hn ht hc =>
    exact .refused c fun r => by simp [readLiteral, readQuoted, hn, ht, hc]
  | case8 c rest hquote hlast hescape ih =>
    have hslash : c ≠ '\\' := by
      cases rest with
      | nil => exact fun hc => hlast hc rfl
      | cons d rest => exact fun hc => hescape _ _ hc rfl
    refine ih.prepend [c] c ?_ fun t => ?_
    · have hquote : c ≠ '"' := hquote
      simp [Mode.next, hquote, hslash]
    · rw [List.singleton_append, readQuoted.eq_def]
      split <;> simp_all

/-- In a text without its mark a raw literal stays open. -/
theorem after_raw_of_notMem {s : List Char} (hs : '\x60' ∉ s) : Mode.raw.after s = .raw := by
  induction s with
  | nil => rfl
  | cons c s ih =>
    rw [List.mem_cons, not_or] at hs
    rw [Mode.after_cons, Mode.next, if_neg (Ne.symm hs.1), ih hs.2]

/-- A raw literal is read up to its mark. -/
theorem readsOn_raw (s : List Char) : ReadsOn '\x60' s := by
  cases hcut : Text.cut '\x60' s with
  | some parts =>
    refine .closed parts.1 parts.2 fun r => ?_
    simp [readLiteral, readRaw, Text.cut_append_of_some hcut]
  | none =>
    refine .inside s (after_raw_of_notMem (Text.notMem_of_cut hcut)) fun r => ?_
    simp only [readLiteral, readRaw, Text.cut_append_of_none hcut]
    cases Text.cut '\x60' r <;> rfl

/-! ## Behind a part of an action -/

/-- Whether the tokenizer goes on behind a text as if it began there with a given literal open. A
name before that place has to be complete. -/
def TokenizesFrom : Option Char → List Char → Prop
  | none, p => ∃ tokens, ∀ r, (∀ c ∈ r.head?, isNameChar c = false) →
    tokenize (p ++ r) = (tokenize r).map (tokens ++ ·)
  | some mark, p => ∃ tokens text, ∀ r, tokenize (p ++ r) = tokenizeInside mark tokens text r

/-- Whether the tokenizer stops in a text, whatever comes behind it. -/
def StopsIn (p : List Char) : Prop :=
  ∃ failure, ∀ r, tokenize (p ++ r) = .error failure

/-- A mark opens a literal. -/
theorem tokenize_mark {mark : Char} (hmark : mark = '"' ∨ mark = '\x60') (s : List Char) :
    tokenize (mark :: s) = tokenizeInside mark [] [] s := by
  rw [tokenize]
  rcases hmark with rfl | rfl
  · have hblank : Text.isBlank '"' = false := by decide
    simp only [hblank, Char.reduceBEq, Bool.false_eq_true, if_false, if_true, tokenizeInside,
      readLiteral]
    split <;> simp_all
  · have hblank : Text.isBlank '\x60' = false := by decide
    simp only [hblank, Char.reduceBEq, Bool.false_eq_true, if_false, if_true, tokenizeInside,
      readLiteral]
    split <;> simp_all

/-- What the tokenizer does behind a text. -/
inductive Treated (p : List Char) : Prop
  /-- It goes on with the literal that its mode says. -/
  | goesOn (quote : Option Char) (hquote : quote ∈ quotes)
      (hmode : Mode.outside.after p = .ofQuote quote) (htokens : TokenizesFrom quote p)
  /-- It goes on behind a backslash. -/
  | escaped (hmode : Mode.outside.after p = .escaped)
  /-- It has stopped at a character. -/
  | stopped (c : Char) (failure : Failure)
      (hfailure : failure = .unknownEscape c ∨ failure = .unexpectedChar c)
      (htokens : ∀ r, tokenize (p ++ r) = .error failure)

/-- A literal ends at its mark. -/
theorem tokenizeInside_mark {mark : Char} (hmark : mark = '"' ∨ mark = '\x60')
    (tokens : List Token) (text : List Char) :
    tokenizeInside mark tokens text [mark] =
      .ok (tokens ++ [.literal (String.ofList text)]) := by
  have hread : readLiteral mark [mark] = .ok ([], []) := by
    rcases hmark with rfl | rfl <;> simp [readLiteral, readQuoted, readRaw, Text.cut]
  rw [tokenizeInside, hread]
  simp [tokenize, Except.map]

/-- Tokens in front of others. -/
theorem map_map_append (tokens others : List Token) (x : Except Failure (List Token)) :
    (x.map (others ++ ·)).map (tokens ++ ·) = x.map (tokens ++ others ++ ·) := by
  cases x <;> simp [Except.map]

theorem map_tokenizeInside (mark : Char) (tokens others : List Token) (text s : List Char) :
    (tokenizeInside mark others text s).map (tokens ++ ·) =
      tokenizeInside mark (tokens ++ others) text s := by
  rw [tokenizeInside, tokenizeInside]
  cases readLiteral mark s with
  | error e => rfl
  | ok parts =>
    simp only
    cases tokenize parts.2 <;> simp [Except.map]

/-- Tokens in front of a text change nothing behind it. -/
theorem Treated.prepend {s : List Char} (hs : Treated s) (front : List Char) (tokens : List Token)
    (hmode : Mode.outside.after front = .outside)
    (hfront : ∀ r, (s = [] → ∀ c ∈ r.head?, isNameChar c = false) →
      tokenize (front ++ (s ++ r)) = (tokenize (s ++ r)).map (tokens ++ ·)) :
    Treated (front ++ s) := by
  have hafter : Mode.outside.after (front ++ s) = Mode.outside.after s := by
    rw [Mode.after_append, hmode]
  cases hs with
  | goesOn quote hquote hgoesOn htokens =>
    refine .goesOn quote hquote (hafter.trans hgoesOn) ?_
    cases quote with
    | none =>
      obtain ⟨others, hothers⟩ := htokens
      refine ⟨tokens ++ others, fun r hr => ?_⟩
      rw [List.append_assoc, hfront r fun _ => hr, hothers r hr, map_map_append]
    | some mark =>
      have hne : s ≠ [] := by
        rintro rfl
        rw [Mode.after_nil, Mode.ofQuote] at hgoesOn
        split at hgoesOn <;> cases hgoesOn
      obtain ⟨others, text, hothers⟩ := htokens
      refine ⟨tokens ++ others, text, fun r => ?_⟩
      rw [List.append_assoc, hfront r fun hnil => absurd hnil hne, hothers, map_tokenizeInside]
  | escaped hescaped => exact .escaped (hafter.trans hescaped)
  | stopped c failure hfailure htokens =>
    refine .stopped c failure hfailure fun r => ?_
    have hne : s ≠ [] := by
      rintro rfl
      have hnil := htokens []
      rw [List.append_nil, tokenize] at hnil
      cases hnil
    rw [List.append_assoc, hfront r fun hnil => absurd hnil hne, htokens]
    rfl

/-- The inside of a literal does not end it. -/
theorem Inside.after_eq {mark : Char} {text : List Char} (hmark : mark = '"' ∨ mark = '\x60')
    (htext : Inside mark text) :
    (Mode.ofQuote (some mark)).after text = .ofQuote (some mark) := by
  induction htext with
  | nil => rfl
  | escape hquote _ ih =>
    subst hquote
    exact ih
  | @char c s hc hplain _ ih =>
    have hnext : (Mode.ofQuote (some mark)).next c = .ofQuote (some mark) := by
      rcases hmark with rfl | rfl
      · have hslash : c ≠ '\\' := fun h => hplain h rfl
        simp [Mode.ofQuote, Mode.next, hc, hslash]
      · simp [Mode.ofQuote, Mode.next, hc]
    rw [Mode.after_cons, hnext, ih]

section

variable {mark : Char} (hmark : mark = '"' ∨ mark = '\x60') {s : List Char}

include hmark

/-- A literal with either mark is closed, goes on, or is refused. -/
theorem readsOn (s : List Char) : ReadsOn mark s := by
  rcases hmark with rfl | rfl
  · exact readsOn_quoted s
  · exact readsOn_raw s

/-- A literal that is read ends at its first mark. -/
theorem exists_inside_of_readLiteral {text after : List Char}
    (hread : readLiteral mark s = .ok (text, after)) :
    ∃ inner, s = inner ++ mark :: after ∧ Inside mark inner := by
  rcases hmark with rfl | rfl
  · exact exists_inside_of_readQuoted hread
  · exact ⟨text, exists_inside_of_readRaw hread⟩

/-- A mark opens its literal. -/
theorem next_mark : Mode.outside.next mark = .ofQuote (some mark) := by
  rcases hmark with rfl | rfl <;> rfl

/-- A whole literal ends outside of literals. -/
theorem after_literal {inner : List Char} (hinner : Inside mark inner) :
    Mode.outside.after (mark :: inner ++ [mark]) = .outside := by
  have hclose : (Mode.ofQuote (some mark)).next mark = .outside := by
    rcases hmark with rfl | rfl <;> rfl
  rw [List.cons_append, Mode.after_cons, next_mark hmark, Mode.after_append,
    hinner.after_eq hmark, Mode.after_cons, hclose, Mode.after_nil]

/-- A literal that is closed is a token. -/
theorem treated_mark
    (hafter : ∀ text after, readLiteral mark s = .ok (text, after) → Treated after) :
    Treated (mark :: s) := by
  have hopen := next_mark hmark
  have htokens (r : List Char) :
      tokenize (mark :: s ++ r) = tokenizeInside mark [] [] (s ++ r) := tokenize_mark hmark (s ++ r)
  cases readsOn hmark s with
  | closed text after hread =>
    have hclosed : readLiteral mark s = .ok (text, after) := by
      have hnil := hread []
      rwa [List.append_nil, List.append_nil] at hnil
    obtain ⟨inner, rfl, hinner⟩ := exists_inside_of_readLiteral hmark hclosed
    have htreated := (hafter text after hclosed).prepend (mark :: inner ++ [mark])
      [.literal (String.ofList text)] (after_literal hmark hinner) fun r _ => by
        have hliteral := htokens r
        rw [tokenizeInside, hread r] at hliteral
        simpa using hliteral
    simpa using htreated
  | inside text hmode hread =>
    have hquote : some mark ∈ quotes := by rcases hmark with rfl | rfl <;> decide
    have hinside : Mode.outside.after (mark :: s) = .ofQuote (some mark) := by
      rw [Mode.after_cons, hopen, hmode]
    refine .goesOn (some mark) hquote hinside ⟨[], text, fun r => ?_⟩
    rw [htokens, tokenizeInside, hread, tokenizeInside]
    cases readLiteral mark r <;> rfl
  | escaped hmode => exact .escaped (by rw [Mode.after_cons, hopen, hmode])
  | refused c hread =>
    refine .stopped c (.unknownEscape c) (.inl rfl) fun r => ?_
    rw [htokens, tokenizeInside, hread]

end

/-- The characters of tokens outside of literals are no marks. -/
theorem ne_mark_of_isLexemeChar {c : Char} (hc : isLexemeChar c = true) :
    c ≠ '"' ∧ c ≠ '\x60' := by
  have hne {d : Char} (hd : isLexemeChar d = false) : c ≠ d := by
    rintro rfl
    rw [hc] at hd
    cases hd
  exact ⟨hne (by decide), hne (by decide)⟩

/-- A run of such characters keeps the mode. -/
theorem after_of_isLexemeChar {run : List Char} (hrun : ∀ c ∈ run, isLexemeChar c = true) :
    Mode.outside.after run = .outside :=
  Mode.after_of_unmarked fun c hc => ne_mark_of_isLexemeChar (hrun c hc)

/-- One more character of a token. -/
theorem Treated.cons {c : Char} {s : List Char} (hs : Treated s) (hc : isLexemeChar c = true)
    (tokens : List Token) (htokens : ∀ t, tokenize (c :: t) = (tokenize t).map (tokens ++ ·)) :
    Treated (c :: s) :=
  hs.prepend [c] tokens (after_of_isLexemeChar (by simpa using hc)) fun r _ => htokens (s ++ r)

/-- A name ends where no further character can belong to it. -/
theorem tokenize_name {c : Char} {run t : List Char} (hblank : Text.isBlank c = false)
    (hmark : c ∉ ['(', ')', '|', '"', '\x60']) (hname : ∀ d ∈ c :: run, isNameChar d = true)
    (ht : ∀ d ∈ t.head?, isNameChar d = false) :
    tokenize (c :: run ++ t) = (tokenize t).map (.name (String.ofList (c :: run)) :: ·) := by
  obtain ⟨hc, hrun⟩ := List.forall_mem_cons.mp hname
  simp only [List.mem_cons, List.not_mem_nil, or_false, not_or] at hmark
  rw [List.cons_append, tokenize]
  simp [hblank, hmark, hc, Text.takeWhile_run hrun ht, Text.dropWhile_run hrun ht]

/-- Wherever a text ends, it is known what the tokenizer does behind it. -/
theorem treated (p : List Char) : Treated p := by
  -- one case for each kind of token, with what the tokenizer does behind the token
  fun_induction tokenize p with
  | case1 =>
    refine .goesOn none (by decide) rfl ⟨[], fun r _ => ?_⟩
    rw [List.nil_append]
    cases tokenize r <;> rfl
  | case2 c rest hblank ih =>
    refine ih.cons (isLexemeChar_of_isBlank hblank) [] fun t => ?_
    rw [tokenize, if_pos hblank]
    cases tokenize t <;> rfl
  | case3 c rest hblank hc ih =>
    obtain rfl := beq_iff_eq.mp hc
    refine ih.cons (by decide) [.opening] fun t => ?_
    rw [tokenize, if_neg hblank, if_pos hc]
    rfl
  | case4 c rest hblank hopen hc ih =>
    obtain rfl := beq_iff_eq.mp hc
    refine ih.cons (by decide) [.closing] fun t => ?_
    rw [tokenize, if_neg hblank, if_neg hopen, if_pos hc]
    rfl
  | case5 c rest hblank hopen hclose hc ih =>
    obtain rfl := beq_iff_eq.mp hc
    refine ih.cons (by decide) [.bar] fun t => ?_
    rw [tokenize, if_neg hblank, if_neg hopen, if_neg hclose, if_pos hc]
    rfl
  | case6 c rest _ _ _ _ hc e hread =>
    obtain rfl := beq_iff_eq.mp hc
    refine treated_mark (.inl rfl) fun text after hok => ?_
    cases hread.symm.trans hok
  | case7 c rest _ _ _ _ hc text after hread _ ih =>
    obtain rfl := beq_iff_eq.mp hc
    refine treated_mark (.inl rfl) fun text' after' hok => ?_
    obtain ⟨-, rfl⟩ := Prod.mk.inj (Except.ok.inj (hread.symm.trans hok))
    exact ih
  | case8 c rest _ _ _ _ _ hc e hread =>
    obtain rfl := beq_iff_eq.mp hc
    refine treated_mark (.inr rfl) fun text after hok => ?_
    cases hread.symm.trans hok
  | case9 c rest _ _ _ _ _ hc text after hread _ ih =>
    obtain rfl := beq_iff_eq.mp hc
    refine treated_mark (.inr rfl) fun text' after' hok => ?_
    obtain ⟨-, rfl⟩ := Prod.mk.inj (Except.ok.inj (hread.symm.trans hok))
    exact ih
  | case10 c rest hblank hopen hclose hbar hquote hback hc _ ih =>
    have hname : ∀ d ∈ c :: rest.takeWhile isNameChar, isNameChar d = true :=
      List.forall_mem_cons.mpr ⟨hc, fun d hd => List.mem_takeWhile_imp hd⟩
    have hrest : ∀ d ∈ (rest.dropWhile isNameChar).head?, isNameChar d = false := by
      intro d hd
      have hfirst := List.head?_dropWhile_not isNameChar rest
      rw [Option.mem_def.mp hd] at hfirst
      simpa using hfirst
    have hlexemes : ∀ d ∈ c :: rest.takeWhile isNameChar, isLexemeChar d = true := fun d hd => by
      simp [isLexemeChar, hname d hd]
    have htreated := ih.prepend _ [.name (String.ofList (c :: rest.takeWhile isNameChar))]
      (after_of_isLexemeChar hlexemes) fun r hr => by
        refine tokenize_name (by simpa using hblank) (by simp_all) hname fun d hd => ?_
        cases hs : rest.dropWhile isNameChar with
        | nil => exact hr hs d (by simpa [hs] using hd)
        | cons e s => exact hrest d (by simpa [hs] using hd)
    rwa [List.cons_append, List.takeWhile_append_dropWhile] at htreated
  | case11 c rest hblank hopen hclose hbar hquote hback hc =>
    refine .stopped c (.unexpectedChar c) (.inr rfl) fun r => ?_
    rw [List.cons_append, tokenize]
    simp_all

/-- A text that becomes tokens ends outside of literals. -/
theorem after_of_tokenize {s : List Char} {tokens : List Token}
    (htokens : tokenize s = .ok tokens) :
    Mode.outside.after s = .outside := by
  have hfind := findClose_of_enclosed (lexemes_of_tokenize htokens).enclosed []
  have hafter : closeFrom .outside (s ++ (closingBraces ++ [])) = some (s, []) := hfind
  exact after_of_closeFrom hafter

/-- The tokenizer goes on behind a text as its mode says, unless it has stopped. -/
theorem tokenizesFrom_iff {p : List Char} (hstops : ¬ StopsIn p) {quote : Option Char}
    (hquote : quote ∈ quotes) :
    TokenizesFrom quote p ↔ Mode.outside.after p = .ofQuote quote := by
  constructor
  · intro htokens
    -- the mark that closes the literal completes the tokens
    obtain ⟨tokens, hprobe⟩ : ∃ tokens, tokenize (p ++ quote.toList) = .ok tokens := by
      rcases mem_quotes_iff.mp hquote with rfl | rfl | rfl
      · obtain ⟨tokens, htokens⟩ := htokens
        exact ⟨_, (htokens [] (by simp)).trans (by rw [tokenize]; rfl)⟩
      · obtain ⟨tokens, text, htokens⟩ := htokens
        exact ⟨_, (htokens ['"']).trans (tokenizeInside_mark (.inl rfl) tokens text)⟩
      · obtain ⟨tokens, text, htokens⟩ := htokens
        exact ⟨_, (htokens ['\x60']).trans (tokenizeInside_mark (.inr rfl) tokens text)⟩
    have hmode := after_of_tokenize hprobe
    rw [Mode.after_append] at hmode
    revert hmode
    rcases mem_quotes_iff.mp hquote with rfl | rfl | rfl <;>
      cases Mode.outside.after p <;> decide
  · intro hmode
    cases treated p with
    | goesOn other hother hgoesOn htokens =>
      rw [hgoesOn, Mode.ofQuote_inj hother hquote] at hmode
      exact hmode ▸ htokens
    | escaped hescaped =>
      exact absurd (hmode.symm.trans hescaped) (Mode.ofQuote_ne_escaped quote)
    | stopped c failure _ htokens => exact absurd ⟨failure, htokens⟩ hstops

/-- In a text that ends outside of literals, only a character can stop the tokenizer. -/
theorem failure_of_tokenize {s : List Char} (hmode : Mode.outside.after s = .outside)
    {failure : Failure} (hfailure : tokenize s = .error failure) :
    ∃ c, failure = .unknownEscape c ∨ failure = .unexpectedChar c := by
  cases treated s with
  | goesOn quote hquote hgoesOn htokens =>
    rw [hmode] at hgoesOn
    rcases mem_quotes_iff.mp hquote with rfl | rfl | rfl
    · obtain ⟨tokens, htokens⟩ := htokens
      have hok := htokens [] (by simp)
      rw [List.append_nil, hfailure, tokenize] at hok
      cases hok
    · cases hgoesOn
    · cases hgoesOn
  | escaped hescaped =>
    rw [hmode] at hescaped
    cases hescaped
  | stopped c other hother htokens =>
    have hsame := htokens []
    rw [List.append_nil, hfailure] at hsame
    exact ⟨c, Except.error.inj hsame ▸ hother⟩

end QueryGateway.Template
