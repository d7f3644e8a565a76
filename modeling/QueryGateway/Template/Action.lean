import QueryGateway.Template.Command
import QueryGateway.Template.Lexer

/-!
# Texts and actions

A source is text with actions between double braces. A hyphen next to the
braces, with a blank on its other side, drops the blanks of the neighbouring
text. Braces inside the literals of an action do not close it, and an action
that holds a comment gives nothing.
-/

namespace QueryGateway.Template

/-- A piece of a source: a text or what an action asks for. -/
inductive Item where
  | text (s : List Char)
  | output (e : Expression)
  | condition (e : Expression)
  | closer (k : Closer)
  deriving DecidableEq, Repr

/-- The braces that open an action. -/
def openingBraces : List Char := ['\x7b', '\x7b']

/-- The action up to its closing braces, and the text after them. `quote` is the
quotation mark of the literal that is open. -/
def findClose (quote : Option Char) : List Char → Option (List Char × List Char)
  | [] => none
  | c :: rest =>
    match quote with
    | some q =>
      if c == '\\' && q == '"' then
        match rest with
        | [] => none
        | d :: rest => (findClose (some q) rest).map fun (body, after) => (c :: d :: body, after)
      else
        (findClose (if c == q then none else some q) rest).map fun (body, after) =>
          (c :: body, after)
    | none =>
      if c == '\x7d' && rest.head? == some '\x7d' then some ([], rest.tail)
      else
        (findClose (if c == '"' || c == '\x60' then some c else none) rest).map
          fun (body, after) => (c :: body, after)

/-- Whether a text begins with a blank. -/
def startsBlank (s : List Char) : Bool := s.head?.any Text.isBlank

/-- Whether a text ends in a blank. -/
def endsBlank (s : List Char) : Bool := s.getLast?.any Text.isBlank

/-- The text before an action and the action, after a marker at its start has
taken effect. -/
def applyLeftMarker (text action : List Char) : List Char × List Char :=
  match action with
  | '-' :: rest => if startsBlank rest then (Text.trimRight text, rest) else (text, action)
  | _ => (text, action)

/-- The action without a marker at its end, and whether it had one. -/
def takeRightMarker (action : List Char) : List Char × Bool :=
  match Text.dropSuffix? ['-'] action with
  | some body => if endsBlank body then (body, true) else (action, false)
  | none => (action, false)

/-- A text, unless it is empty. -/
def textItems (s : List Char) : List Item :=
  if s.isEmpty then [] else [.text s]

/-- What the tokens of an action ask for. -/
def actionOfTokens : List Token → Except Failure Item
  | [] => .error .missingValue
  | .name "if" :: rest => (readExpression rest).map .condition
  | .name "else" :: rest =>
    if rest.isEmpty then .ok (.closer .otherwise) else .error (.tokensAfter .otherwise)
  | .name "end" :: rest =>
    if rest.isEmpty then .ok (.closer .done) else .error (.tokensAfter .done)
  | tokens => (readExpression tokens).map .output

/-- What an action without markers and outer blanks asks for; a comment asks for
nothing. -/
def readAction (body : List Char) : Except Failure (Option Item) :=
  match Text.dropPrefix? ['/', '*'] body with
  | some comment =>
    if (Text.dropSuffix? ['*', '/'] comment).isSome then .ok none else .error .unclosedComment
  | none => do .ok (some (← actionOfTokens (← tokenize body)))

/-- The action that follows opening braces leaves less text. -/
theorem length_of_findClose {quote : Option Char} {s body after : List Char}
    (hfind : findClose quote s = some (body, after)) : after.length ≤ s.length := by
  fun_induction findClose quote s generalizing body after with
  | case1 => simp at hfind
  | case2 => simp at hfind
  | case3 c q hc d rest ih =>
    obtain ⟨⟨b, a⟩, hb, heq⟩ := Option.map_eq_some_iff.1 hfind
    simp only [Prod.mk.injEq] at heq
    have := ih hb
    simp only [List.length_cons, ← heq.2]
    omega
  | case4 c rest q hc ih =>
    obtain ⟨⟨b, a⟩, hb, heq⟩ := Option.map_eq_some_iff.1 hfind
    simp only [Prod.mk.injEq] at heq
    have := ih hb
    simp only [List.length_cons, ← heq.2]
    omega
  | case5 c rest hc =>
    simp only [Option.some.injEq, Prod.mk.injEq] at hfind
    simp only [← hfind.2, List.length_tail, List.length_cons]
    omega
  | case6 c rest hc ih =>
    obtain ⟨⟨b, a⟩, hb, heq⟩ := Option.map_eq_some_iff.1 hfind
    simp only [Prod.mk.injEq] at heq
    have := ih hb
    simp only [List.length_cons, ← heq.2]
    omega

/-- A marker at the start of an action takes nothing but itself from the action. -/
theorem length_applyLeftMarker (text action : List Char) :
    (applyLeftMarker text action).2.length ≤ action.length := by
  unfold applyLeftMarker
  split
  · split <;> simp
  · simp

/-- The pieces of a source in order. The flag tells whether the action before the
source dropped the blanks that follow it. -/
def scan (trimNext : Bool) (source : List Char) : Except Failure (List Item) :=
  let trimStart (s : List Char) : List Char := if trimNext then Text.trimLeft s else s
  match hcut : Text.cutText openingBraces source with
  | none => .ok (textItems (trimStart source))
  | some (text, action) =>
    match hclose : findClose none (applyLeftMarker (trimStart text) action).2 with
    | none => .error .unclosedAction
    | some (body, after) =>
      have := length_of_findClose hclose
      have := length_applyLeftMarker (trimStart text) action
      have := Text.length_of_cutText hcut
      do
      let item ← readAction (Text.trim (takeRightMarker body).1)
      let items ← scan (takeRightMarker body).2 after
      .ok (textItems (applyLeftMarker (trimStart text) action).1 ++ item.toList ++ items)
termination_by source.length
decreasing_by
  simp only [openingBraces, List.length_cons, List.length_nil] at *
  omega

end QueryGateway.Template
