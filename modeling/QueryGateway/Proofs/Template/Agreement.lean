import QueryGateway.Proofs.Template.Quotation

/-!
# Literals of actions

The literals of an action are read twice: the search for the closing braces passes over them, and
the tokens of the action are read from what it delivers. The two know nothing of each other. This
module shows that nevertheless the same literal is open for both at each place that the tokenizer
comes to, so that it never runs out of the text inside a literal.
-/

namespace QueryGateway.Template

/-! ## What is delivered of an action -/

/-- What the tokenizer is given of an action: the text without a marker at its end and without the
blanks around it. -/
def delivered (body : List Char) : List Char :=
  Text.trim (takeRightMarker body).1

/-- A marker at the end of an action is a hyphen. -/
theorem exists_takeRightMarker (body : List Char) :
    ∃ marker, body = (takeRightMarker body).1 ++ marker ∧ ∀ c ∈ marker, c = '-' := by
  rw [takeRightMarker]
  split
  · next front hfront =>
    split
    · exact ⟨['-'], Text.dropSuffix?_eq_some_iff.mp hfront, by simp⟩
    · exact ⟨[], by simp, by simp⟩
  · exact ⟨[], by simp, by simp⟩

/-- Around what is delivered of an action there are only blanks, and a hyphen behind it. -/
theorem exists_delivered (body : List Char) :
    ∃ lead trail, body = lead ++ delivered body ++ trail ∧
      (∀ c ∈ lead, Text.isBlank c = true) ∧ ∀ c ∈ trail, Text.isBlank c = true ∨ c = '-' := by
  obtain ⟨marker, hmarker, hhyphen⟩ := exists_takeRightMarker body
  obtain ⟨lead, trail, htrim, hlead, htrail⟩ := Text.exists_trim (takeRightMarker body).1
  refine ⟨lead, trail ++ marker, ?_, hlead, fun c hc => ?_⟩
  · rw [← List.append_assoc, delivered, ← htrim, ← hmarker]
  · rcases List.mem_append.mp hc with hc | hc
    · exact .inl (htrail c hc)
    · exact .inr (hhyphen c hc)

/-- What is not delivered behind an action holds no marks. -/
theorem ne_mark_of_trail {c : Char} (hc : Text.isBlank c = true ∨ c = '-') :
    c ≠ '"' ∧ c ≠ '\x60' := by
  rcases hc with hc | rfl
  · exact ne_mark_of_isLexemeChar (isLexemeChar_of_isBlank hc)
  · decide

/-! ## Both scanners -/

/-- How an action is read whose closing braces were found, with the given blanks before it. -/
structure ScannedAlike (lead action : List Char) : Prop where
  /-- Each literal that the tokenizer begins is closed. -/
  quoted_closed : tokenize action ≠ .error .unterminatedQuoted
  raw_closed : tokenize action ≠ .error .unterminatedRaw
  /-- The search has a literal open at a place, or none, or stands behind a backslash in one. -/
  placed : ∀ p r, action = p ++ r → (∃ quote ∈ quotes, FindsFrom quote (lead ++ p)) ∨
    ∃ q, p = q ++ ['\\'] ∧ FindsFrom (some '"') (lead ++ q)
  /-- Where the tokenizer has not stopped before, it has the same literal open there. So a mark
  opens or closes a literal for the tokenizer just if it does so for the search. -/
  alike : ∀ p r, action = p ++ r → ¬ StopsIn p → ∀ quote ∈ quotes,
    (FindsFrom quote (lead ++ p) ↔ TokenizesFrom quote p)

/-- The search goes on behind the beginning of an action as its mode says. -/
theorem findsFrom_lead_iff {lead p s body rest : List Char}
    (hlead : ∀ c ∈ lead, Text.isBlank c = true)
    (hfind : findClose none (lead ++ p ++ s) = some (lead ++ p ++ body, rest))
    {quote : Option Char} (hquote : quote ∈ quotes) :
    FindsFrom quote (lead ++ p) ↔ Mode.outside.after p = .ofQuote quote := by
  have hmode : Mode.outside.after lead = .outside :=
    after_of_isLexemeChar fun c hc => isLexemeChar_of_isBlank (hlead c hc)
  rw [findsFrom_iff hfind hquote, Mode.after_append, hmode]

/-- What the search delivers is read alike by the tokenizer. -/
theorem scannedAlike_of_findClose {lead action trail rest : List Char}
    (hfind : findClose none (lead ++ action ++ trail ++ (closingBraces ++ rest)) =
      some (lead ++ action ++ trail, rest))
    (hlead : ∀ c ∈ lead, Text.isBlank c = true)
    (htrail : ∀ c ∈ trail, Text.isBlank c = true ∨ c = '-') : ScannedAlike lead action := by
  have hmode : Mode.outside.after action = .outside := by
    have hbody := after_of_closeFrom (m := .outside) hfind
    rw [Mode.after_append, Mode.after_append,
      after_of_isLexemeChar fun c hc => isLexemeChar_of_isBlank (hlead c hc)] at hbody
    exact Mode.eq_outside_of_unmarked (fun c hc => ne_mark_of_trail (htrail c hc)) hbody
  have hfinds {p r : List Char} (hparts : action = p ++ r) {quote : Option Char}
      (hquote : quote ∈ quotes) :
      FindsFrom quote (lead ++ p) ↔ Mode.outside.after p = .ofQuote quote := by
    subst hparts
    have hprefix : findClose none (lead ++ p ++ (r ++ trail ++ (closingBraces ++ rest))) =
        some (lead ++ p ++ (r ++ trail), rest) := by
      simpa using hfind
    exact findsFrom_lead_iff hlead hprefix hquote
  refine ⟨fun hfailure => ?_, fun hfailure => ?_, fun p r hparts => ?_,
    fun p r hparts hstops quote hquote => ?_⟩
  · obtain ⟨c, h | h⟩ := failure_of_tokenize hmode hfailure <;> cases h
  · obtain ⟨c, h | h⟩ := failure_of_tokenize hmode hfailure <;> cases h
  · rcases Mode.eq_escaped_or_exists (Mode.outside.after p) with hp | ⟨quote, hquote, hp⟩
    · obtain ⟨q, rfl, hq⟩ := Mode.exists_of_after_eq_escaped hp
      rw [List.append_assoc] at hparts
      exact .inr ⟨q, rfl, (hfinds hparts (by decide)).mpr hq⟩
    · exact .inl ⟨quote, hquote, (hfinds hparts hquote).mpr hp⟩
  · rw [hfinds hparts hquote, tokenizesFrom_iff hstops hquote]

/-- **The two scanners agree.** In any source, the closing braces of an action are found at an
offset of its bytes that lies between two characters, before the braces. What is delivered of the
action never ends inside a literal for the tokenizer, which has the same literals open as the
search for the braces had, up to where it stops. -/
theorem scanners_agree (s : List Char) :
    closeOffset .outside (Utf8.encode s) =
        (findClose none s).map (fun (body, _) => (Utf8.encode body).length) ∧
      ∀ body rest, findClose none s = some (body, rest) →
        s = body ++ (closingBraces ++ rest) ∧
          ∃ lead trail, body = lead ++ delivered body ++ trail ∧
            (∀ c ∈ lead, Text.isBlank c = true) ∧
            (∀ c ∈ trail, Text.isBlank c = true ∨ c = '-') ∧
            ScannedAlike lead (delivered body) := by
  refine ⟨closeOffset_encode .outside s, fun body rest hfind => ?_⟩
  obtain ⟨hparts, -⟩ := findClose_eq_some_iff.mp hfind
  obtain ⟨lead, trail, hbody, hlead, htrail⟩ := exists_delivered body
  have hfind' : findClose none (lead ++ delivered body ++ trail ++ (closingBraces ++ rest)) =
      some (lead ++ delivered body ++ trail, rest) := by
    rwa [← hbody, ← hparts]
  exact ⟨hparts, lead, trail, hbody, hlead, htrail,
    scannedAlike_of_findClose hfind' hlead htrail⟩

/-- Braces and an escaped mark in a literal behind a character of two bytes, a backslash in a raw
literal, and a marker. The mark behind the first braces closes the literal for both. -/
theorem scanners_agree_marks :
    let p := "Param \"é\\\"\x7d\x7d".toList
    let body := p ++ "\" | `\\` -".toList
    let s := body ++ (closingBraces ++ ['x'])
    findClose none s = some (body, ['x']) ∧ closeOffset .outside (Utf8.encode s) = some 22 ∧
      tokenize (delivered body) ≠ .error .unterminatedQuoted ∧
      FindsFrom (some '"') p ∧ TokenizesFrom (some '"') p := by
  intro p body s
  have hfind : findClose none s = some (body, ['x']) := by decide +kernel
  obtain ⟨hoffset, hagree⟩ := scanners_agree s
  obtain ⟨-, lead, trail, hparts, hlead, -, halike⟩ := hagree body ['x'] hfind
  have hdelivered : delivered body = p ++ "\" | `\\`".toList := by decide +kernel
  obtain rfl : lead = [] := by
    rcases lead with _ | ⟨c, lead⟩
    · rfl
    · obtain rfl : 'P' = c := (List.cons.inj hparts).1
      exact absurd (hlead 'P' List.mem_cons_self) (by decide)
  have hstops : ¬ StopsIn p := by
    rintro ⟨failure, hstops⟩
    have hclosed : (tokenize (p ++ ['"'])).toOption.isSome = true := by decide +kernel
    rw [hstops] at hclosed
    cases hclosed
  have hquoted : FindsFrom (some '"') p := by
    have hopen : findClose none (p ++ "\" | `\\` -\x7d\x7dx".toList) =
        some (p ++ "\" | `\\` -".toList, ['x']) := hfind
    rw [findsFrom_iff hopen (by decide)]
    decide +kernel
  rw [hfind] at hoffset
  exact ⟨hfind, hoffset.trans (by decide +kernel), halike.quoted_closed, hquoted,
    (halike.alike p _ hdelivered hstops _ (by decide)).mp hquoted⟩

end QueryGateway.Template
