import QueryGateway.Template.Failure
import QueryGateway.Text.Letter
import QueryGateway.Text.Split

/-!
# Reading tokens

Literals stand in double quotes, with escapes, or in backquotes, without.
Names consist of alphanumeric characters, dots and underscores.
-/

namespace QueryGateway.Template

/-- Puts a character before the text that was read. -/
def consRead (c : Char) :
    Except Failure (List Char × List Char) → Except Failure (List Char × List Char)
  | .ok (text, after) => .ok (c :: text, after)
  | .error e => .error e

/-- The rest of a quoted literal after its opening quote. -/
def readQuoted : List Char → Except Failure (List Char × List Char)
  | [] => .error .unterminatedQuoted
  | '"' :: rest => .ok ([], rest)
  | ['\\'] => .error .unterminatedQuoted
  | '\\' :: c :: rest =>
    if c == 'n' then consRead '\n' (readQuoted rest)
    else if c == 't' then consRead '\t' (readQuoted rest)
    else if c == '"' || c == '\\' then consRead c (readQuoted rest)
    else .error (.unknownEscape c)
  | c :: rest => consRead c (readQuoted rest)

/-- The rest of a raw literal after its opening backquote. -/
def readRaw (s : List Char) : Except Failure (List Char × List Char) :=
  match Text.cut '\x60' s with
  | some (text, after) => .ok (text, after)
  | none => .error .unterminatedRaw

/-- The characters of names. -/
def isNameChar (c : Char) : Bool :=
  Text.isAlphanumeric c || c == '.' || c == '_'

/-- A character before what was read leaves the rest as it is. -/
theorem of_consRead {c : Char} {r : Except Failure (List Char × List Char)}
    {text after : List Char} (hread : consRead c r = .ok (text, after)) :
    ∃ s, r = .ok (s, after) := by
  rcases r with e | ⟨s, a⟩
  · simp [consRead] at hread
  · simp only [consRead, Except.ok.injEq, Prod.mk.injEq] at hread
    exact ⟨s, by rw [hread.2]⟩

/-- Reading a quoted literal leaves less text. -/
theorem length_of_readQuoted {s text after : List Char} (hread : readQuoted s = .ok (text, after)) :
    after.length < s.length := by
  fun_induction readQuoted s generalizing text after with
  | case1 => simp at hread
  | case2 rest =>
    simp only [Except.ok.injEq, Prod.mk.injEq] at hread
    simp [← hread.2]
  | case3 => simp at hread
  | case4 c rest _ ih =>
    have := ih (of_consRead hread).choose_spec
    simp only [List.length_cons]
    omega
  | case5 c rest _ _ ih =>
    have := ih (of_consRead hread).choose_spec
    simp only [List.length_cons]
    omega
  | case6 c rest _ _ _ ih =>
    have := ih (of_consRead hread).choose_spec
    simp only [List.length_cons]
    omega
  | case7 => simp at hread
  | case8 c rest _ _ _ ih =>
    have := ih (of_consRead hread).choose_spec
    simp only [List.length_cons]
    omega

/-- Reading a raw literal leaves less text. -/
theorem length_of_readRaw {s text after : List Char} (hread : readRaw s = .ok (text, after)) :
    after.length < s.length := by
  unfold readRaw at hread
  split at hread
  · next before rest hcut =>
    simp only [Except.ok.injEq, Prod.mk.injEq] at hread
    have h := Text.eq_of_cut hcut
    rw [h, ← hread.2]
    simp only [List.length_append, List.length_cons]
    omega
  · simp at hread

/-- The tokens of an action. -/
def tokenize (s : List Char) : Except Failure (List Token) :=
  match s with
  | [] => .ok []
  | c :: rest =>
    if Text.isBlank c then tokenize rest
    else if c == '(' then (tokenize rest).map (.opening :: ·)
    else if c == ')' then (tokenize rest).map (.closing :: ·)
    else if c == '|' then (tokenize rest).map (.bar :: ·)
    else if c == '"' then
      match h : readQuoted rest with
      | .error e => .error e
      | .ok (text, after) =>
        have := length_of_readQuoted h
        (tokenize after).map (.literal (String.ofList text) :: ·)
    else if c == '\x60' then
      match h : readRaw rest with
      | .error e => .error e
      | .ok (text, after) =>
        have := length_of_readRaw h
        (tokenize after).map (.literal (String.ofList text) :: ·)
    else if isNameChar c then
      have := (List.dropWhile_suffix isNameChar (l := rest)).length_le
      (tokenize (rest.dropWhile isNameChar)).map
        (.name (String.ofList (c :: rest.takeWhile isNameChar)) :: ·)
    else .error (.unexpectedChar c)
termination_by s.length
decreasing_by all_goals simp only [List.length_cons]; omega

end QueryGateway.Template
