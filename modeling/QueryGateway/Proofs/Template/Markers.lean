import QueryGateway.Proofs.Template.Comments
import QueryGateway.Proofs.Template.Lexemes

/-!
# Markers

An action can have a marker at either end, which drops the blanks of the text there. A source that
is written as texts with actions between them, with or without markers, is scanned into these
actions and what the markers leave of the texts. Only braces in a comment get in the way: they
close its action before its end.
-/

namespace QueryGateway.Template

/-! ## What is left of a text -/

/-- A text without the blanks at its marked ends: blanks are all that is dropped, all of them are
dropped at a marked end, and none at another one. -/
structure Trimmed (front back : Bool) (s kept : List Char) : Prop where
  parts : ∃ lead trail, s = lead ++ kept ++ trail ∧
    (∀ c ∈ lead, Text.isBlank c = true) ∧ (∀ c ∈ trail, Text.isBlank c = true) ∧
    (front = false → lead = []) ∧ (back = false → trail = [])
  front_kept : front = true → startsBlank kept = false
  back_kept : back = true → endsBlank kept = false

/-- What scanning keeps of a text after an action with or without a marker at its end and before
one with or without a marker at its start. -/
def trimEnds (front back : Bool) (s : List Char) : List Char :=
  let rest := if front then Text.trimLeft s else s
  if back then Text.trimRight rest else rest

theorem startsBlank_eq_false_iff {s : List Char} :
    startsBlank s = false ↔ ∀ c ∈ s.head?, Text.isBlank c = false := by
  cases s <;> simp [startsBlank]

theorem endsBlank_eq_false_iff {s : List Char} :
    endsBlank s = false ↔ ∀ c ∈ s.getLast?, Text.isBlank c = false := by
  cases hlast : s.getLast? <;> simp [endsBlank, hlast]

/-- A text that begins with no blank does so after blanks were dropped at its end. -/
theorem startsBlank_of_isPrefix {s t : List Char} (hts : t <+: s)
    (hs : startsBlank s = false) : startsBlank t = false := by
  obtain ⟨rest, rfl⟩ := hts
  cases t with
  | nil => rfl
  | cons c t => exact hs

section

variable {front back : Bool} {s rest kept : List Char}

theorem trimmed_left (front : Bool) (s : List Char) :
    Trimmed front false s (if front then Text.trimLeft s else s) := by
  cases front with
  | false =>
    exact ⟨⟨[], [], by simp, by simp, by simp, fun _ => rfl, fun _ => rfl⟩, by simp, by simp⟩
  | true =>
    obtain ⟨lead, hs, hlead, hhead⟩ := Text.exists_trimLeft s
    refine ⟨⟨lead, [], ?_, hlead, by simp, by simp, fun _ => rfl⟩,
      fun _ => startsBlank_eq_false_iff.mpr hhead, by simp⟩
    rw [List.append_nil]
    exact hs

theorem Trimmed.trimRight (h : Trimmed front false s rest) :
    Trimmed front true s (Text.trimRight rest) := by
  obtain ⟨⟨lead, _, hs, hlead, -, hfront, hback⟩, hhead, -⟩ := h
  obtain rfl := hback rfl
  obtain ⟨trail, hrest, htrail, hlast⟩ := Text.exists_trimRight rest
  refine ⟨⟨lead, trail, ?_, hlead, htrail, hfront, by simp⟩, fun h => ?_,
    fun _ => endsBlank_eq_false_iff.mpr hlast⟩
  · rw [List.append_assoc, ← hrest, hs, List.append_nil]
  · exact startsBlank_of_isPrefix (Text.trimRight_isPrefix rest) (hhead h)

theorem trimmed_trimEnds (front back : Bool) (s : List Char) :
    Trimmed front back s (trimEnds front back s) := by
  cases back with
  | false => exact trimmed_left front s
  | true => exact (trimmed_left front s).trimRight

/-- The blanks at the marked ends of a text determine what is left of it. -/
theorem Trimmed.eq_trimEnds (h : Trimmed front back s kept) : kept = trimEnds front back s := by
  obtain ⟨⟨lead, trail, rfl, hlead, htrail, hfront, hback⟩, hhead, hlast⟩ := h
  rcases kept with _ | ⟨c, kept⟩
  · have hblank : ∀ c ∈ lead ++ trail, Text.isBlank c = true :=
      List.forall_mem_append.mpr ⟨hlead, htrail⟩
    have hleft : Text.trimLeft (lead ++ trail) = [] := by
      simpa [Text.trimLeft] using Text.trimLeft_append_of_blank hblank []
    have hright : Text.trimRight (lead ++ trail) = [] := by
      simpa [Text.trimRight] using Text.trimRight_append_of_blank hblank []
    cases front <;> cases back
    · simp [hfront rfl, hback rfl, trimEnds]
    · simp [trimEnds, hright]
    · simp [trimEnds, hleft]
    · simp [trimEnds, hleft, Text.trimRight]
  · have hleft : (if front then Text.trimLeft (lead ++ (c :: kept) ++ trail)
        else lead ++ (c :: kept) ++ trail) = c :: kept ++ trail := by
      cases front with
      | false => simp [hfront rfl]
      | true =>
        have hc : startsBlank (c :: kept) = false := hhead rfl
        rw [if_pos rfl, List.append_assoc, Text.trimLeft_append_of_blank hlead,
          Text.trimLeft_eq_self_iff]
        exact startsBlank_eq_false_iff.mp hc
    rw [trimEnds, hleft]
    cases back with
    | false => simp [hback rfl]
    | true =>
      have hd : endsBlank (c :: kept) = false := hlast rfl
      rw [if_pos rfl, Text.trimRight_append_of_blank htrail,
        Text.trimRight_eq_self_iff.mpr (endsBlank_eq_false_iff.mp hd)]

end

/-! ## Written actions -/

/-- The hyphen of a marker. -/
def hyphen (marked : Bool) : List Char := if marked then ['-'] else []

/-- An action with or without markers. -/
def printMarked (left : Bool) (body : List Char) (right : Bool) : List Char :=
  openingBraces ++ (hyphen left ++ (body ++ (hyphen right ++ closingBraces)))

/-- A text that can be put between markers: a blank stands beside each hyphen, and the text has no
hyphen of its own there. -/
structure Markable (left : Bool) (body : List Char) (right : Bool) : Prop where
  left_blank : left = true → startsBlank body = true
  right_blank : right = true → endsBlank body = true
  no_hyphen_first : body.head? ≠ some '-'
  no_hyphen_last : body.getLast? ≠ some '-'

section

variable {left right : Bool} {body : List Char}

/-- The marker at the start of an action is found just if it was written. -/
theorem Markable.applyLeftMarker (h : Markable left body right) (text after : List Char) :
    applyLeftMarker text (hyphen left ++ (body ++ (hyphen right ++ (closingBraces ++ after)))) =
      (if left then Text.trimRight text else text,
        body ++ (hyphen right ++ (closingBraces ++ after))) := by
  cases left with
  | true =>
    obtain ⟨c, s, rfl⟩ : ∃ c s, body = c :: s := by
      cases body with
      | nil => exact absurd (h.left_blank rfl) (by decide)
      | cons c s => exact ⟨c, s, rfl⟩
    have hc : Text.isBlank c = true := h.left_blank rfl
    simp [hyphen, Template.applyLeftMarker, startsBlank, hc]
  | false =>
    apply applyLeftMarker_of_unmarked
    rintro ⟨rest, hrest, -⟩
    cases body with
    | nil =>
      cases right with
      | true => exact absurd (h.right_blank rfl) (by decide)
      | false => exact absurd (List.cons.inj hrest).1 (by decide)
    | cons c s => exact h.no_hyphen_first (congrArg some (List.cons.inj hrest).1)

/-- The marker at the end of an action is found just if it was written. -/
theorem Markable.takeRightMarker (h : Markable left body right) :
    takeRightMarker (body ++ hyphen right) = (body, right) := by
  unfold Template.takeRightMarker
  cases right with
  | true =>
    have hsuffix : Text.dropSuffix? ['-'] (body ++ hyphen true) = some body :=
      Text.dropSuffix?_eq_some_iff.mpr rfl
    simp [hsuffix, h.right_blank rfl]
  | false =>
    have hsuffix : Text.dropSuffix? ['-'] body = none := by
      rw [← Option.not_isSome_iff_eq_none, Text.isSome_dropSuffix?_iff]
      rintro ⟨s, rfl⟩
      exact h.no_hyphen_last (by simp)
    rw [hyphen, if_neg (by decide), List.append_nil, hsuffix]

/-- A source that begins with a text and a written action, which is closed where `closed` ends. -/
theorem scan_printMarked_of_closed {front : Bool} {text closed after rest : List Char}
    (htext : Inert text) (h : Markable left body right)
    (hclose : findClose none (body ++ (hyphen right ++ (closingBraces ++ rest))) =
      some (closed, after)) :
    scan front (text ++ (printMarked left body right ++ rest)) =
      readAction (Text.trim (Template.takeRightMarker closed).1) >>= fun item =>
        (scan (Template.takeRightMarker closed).2 after).map fun items =>
          textItems (trimEnds front left text) ++ item.toList ++ items := by
  have hcut : Text.cutText openingBraces (text ++ (printMarked left body right ++ rest)) =
      some (text, hyphen left ++ (body ++ (hyphen right ++ (closingBraces ++ rest)))) := by
    rw [htext]
    simp [printMarked, openingBraces, Text.cutText]
  have hleft := h.applyLeftMarker (if front then Text.trimLeft text else text) rest
  rw [scan_of_closed hcut (by rw [hleft]; exact hclose), hleft]
  rfl

theorem enclosed_hyphen (marked : Bool) : Enclosed (hyphen marked) := by
  cases marked <;> decide

/-- **One action.** A source that begins with a text and a written action: the action is read, and
the source behind it is scanned. -/
theorem scan_printMarked {front : Bool} {text : List Char} (htext : Inert text)
    (h : Markable left body right) (hbody : Enclosed body) (rest : List Char) :
    scan front (text ++ (printMarked left body right ++ rest)) =
      readAction (Text.trim body) >>= fun item => (scan right rest).map fun items =>
        textItems (trimEnds front left text) ++ item.toList ++ items := by
  have hclose := findClose_of_enclosed (hbody.append (enclosed_hyphen right)) rest
  rw [List.append_assoc] at hclose
  rw [scan_printMarked_of_closed htext h hclose, h.takeRightMarker]

end

/-! ## Texts without quotation marks -/

/-- A text in which no literal begins. -/
def QuoteFree (s : List Char) : Prop := ∀ c ∈ s, c ≠ '"' ∧ c ≠ '\x60'

/-- Closing braces can follow a text without any, unless it ends in a brace. -/
theorem QuoteFree.enclosed {s : List Char} (hs : QuoteFree s) (hbraces : ¬ closingBraces <:+: s)
    (hlast : s.getLast? ≠ some '\x7d') : Enclosed s := by
  induction s with
  | nil => exact .nil
  | cons c s ih =>
    have hquote := List.forall_mem_cons.mp hs
    rw [List.infix_cons_iff, not_or] at hbraces
    have hrest : Enclosed s := by
      apply ih hquote.2 hbraces.2
      intro h
      exact hlast (by simp [List.getLast?_cons, h])
    have hnext : c = '\x7d' → (s ++ (closingBraces ++ [])).head? ≠ some '\x7d' := by
      rintro rfl hhead
      rcases s with _ | ⟨d, s⟩
      · exact hlast rfl
      · obtain rfl := Option.some.inj hhead
        exact hbraces.1 ⟨s, rfl⟩
    exact .cons hquote.1 hnext hrest

/-- The first closing braces in a text. -/
theorem QuoteFree.exists_enclosed {s : List Char} (hs : QuoteFree s)
    (hbraces : closingBraces <:+: s) :
    ∃ inner rest, s = inner ++ (closingBraces ++ rest) ∧ Enclosed inner := by
  induction s with
  | nil => simp [closingBraces] at hbraces
  | cons c s ih =>
    have hquote := List.forall_mem_cons.mp hs
    by_cases hhere : closingBraces <+: c :: s
    · obtain ⟨rest, hrest⟩ := hhere
      exact ⟨[], rest, hrest.symm, .nil⟩
    · obtain ⟨inner, rest, rfl, hinner⟩ :=
        ih hquote.2 ((List.infix_cons_iff.mp hbraces).resolve_left hhere)
      have hnext : c = '\x7d' → (inner ++ (closingBraces ++ rest)).head? ≠ some '\x7d' := by
        rintro rfl hhead
        obtain ⟨tail, htail⟩ := List.head?_eq_some_iff.mp hhead
        exact hhere ⟨tail, by rw [htail]; rfl⟩
      exact ⟨c :: inner, rest, rfl, .cons hquote.1 hnext hinner⟩

/-! ## Written actions that can be read -/

/-- The text of an action that is a comment. -/
def commentBody (c : List Char) : List Char := '/' :: '*' :: (c ++ ['*', '/'])

theorem commentBody_inj {c d : List Char} : commentBody c = commentBody d ↔ c = d := by
  simp [commentBody]

/-- What an action between blanks stands for: its tokens ask for an item, and a comment without
quotation marks asks for none. -/
inductive StandsFor : List Char → Option Item → Prop
  | item {s : List Char} {tokens : List Token} {item : Item} (htokens : tokenize s = .ok tokens)
    (hitem : actionOfTokens tokens = .ok item) : StandsFor s (some item)
  | comment {c : List Char} (hquote : QuoteFree c) : StandsFor (commentBody c) none

/-- An action as it is written, with or without a marker at either end. -/
structure MarkedAction where
  left : Bool
  body : List Char
  right : Bool
  item : Option Item
  standsFor : StandsFor (Text.trim body) item
  left_blank : left = true → startsBlank body = true
  right_blank : right = true → endsBlank body = true

section

variable {s : List Char} {item : Option Item}

/-- What an action stands for begins and ends with no hyphen. -/
theorem StandsFor.no_hyphen (h : StandsFor s item) :
    s.head? ≠ some '-' ∧ s.getLast? ≠ some '-' := by
  cases h with
  | item htokens _ => exact (lexemes_of_tokenize htokens).no_hyphen
  | comment _ => exact ⟨by simp [commentBody], by simp [commentBody, List.getLast?_cons]⟩

/-- A comment that stands for something has no quotation marks. -/
theorem StandsFor.quoteFree {c : List Char} (h : StandsFor (commentBody c) item) :
    QuoteFree c := by
  generalize hbody : commentBody c = body at h
  cases h with
  | item htokens _ =>
    subst hbody
    exact absurd ((lexemes_of_tokenize htokens).isEdgeChar_head '/' rfl) (by decide)
  | comment hquote => rwa [commentBody_inj.mp hbody]

theorem StandsFor.reads (h : StandsFor s item) : readAction s = .ok item := by
  cases h with
  | item htokens hitem => exact readAction_of_tokens htokens hitem
  | comment _ =>
    rw [commentBody, readAction_slash_asterisk, if_pos (List.suffix_append _ _)]

end

/-- The text of a comment without closing braces has none at its end, either. -/
theorem not_isInfix_commentBody {c : List Char} (hc : ¬ closingBraces <:+: c) :
    ¬ closingBraces <:+: commentBody c := by
  have hlast {t : List Char} {d : Char} (hd : d ≠ '\x7d') : ¬ closingBraces <:+ t ++ [d] := by
    rintro ⟨front, hfront⟩
    exact hd (by simpa [closingBraces, List.getLast?_cons] using congrArg List.getLast? hfront.symm)
  rw [commentBody, List.append_cons, List.infix_cons_iff, List.infix_cons_iff,
    List.infix_concat_iff, List.infix_concat_iff]
  rintro (hslash | hstar | hslash | hstar | htext)
  · exact absurd (List.cons_prefix_cons.mp hslash).1 (by decide)
  · exact absurd (List.cons_prefix_cons.mp hstar).1 (by decide)
  · exact hlast (by decide) hslash
  · exact hlast (by decide) hstar
  · exact hc htext

theorem quoteFree_commentBody {c : List Char} (hc : QuoteFree c) : QuoteFree (commentBody c) := by
  have hend : QuoteFree ['*', '/'] := by simp [QuoteFree]
  have hstart : QuoteFree ['/', '*'] := by simp [QuoteFree]
  exact List.forall_mem_append.mpr ⟨hstart, List.forall_mem_append.mpr ⟨hc, hend⟩⟩

/-! ## One action -/

namespace MarkedAction

variable (a : MarkedAction)

/-- An action in its braces. -/
def print : List Char := printMarked a.left a.body a.right

/-- An action without closing braces in its text, if it is a comment. -/
def Closed : Prop := ∀ c, Text.trim a.body = commentBody c → ¬ closingBraces <:+: c

/-- An action without the end of a comment in its text, if it is a comment. -/
def EndsOnce : Prop := ∀ c, Text.trim a.body = commentBody c → ¬ ['*', '/'] <:+: c

theorem markable : Markable a.left a.body a.right where
  left_blank := a.left_blank
  right_blank := a.right_blank
  no_hyphen_first := head?_ne_of_trim (by decide) a.standsFor.no_hyphen.1
  no_hyphen_last := getLast?_ne_of_trim (by decide) a.standsFor.no_hyphen.2

variable {a}

/-- The closing braces of an action are found if there are none in its text. -/
theorem Closed.enclosed (h : a.Closed) : Enclosed a.body := by
  apply enclosed_of_trim
  have hstands := a.standsFor
  generalize hbody : Text.trim a.body = body at hstands ⊢
  generalize a.item = item at hstands
  cases hstands with
  | item htokens _ => exact (lexemes_of_tokenize htokens).enclosed
  | @comment c hquote =>
    exact (quoteFree_commentBody hquote).enclosed (not_isInfix_commentBody (h c hbody))
      (by simp [commentBody, List.getLast?_cons])

/-- An action whose closing braces are found gives what it stands for. -/
theorem Closed.scan_print (h : a.Closed) {text : List Char} (htext : Inert text) (front : Bool)
    (rest : List Char) :
    scan front (text ++ (a.print ++ rest)) = (scan a.right rest).map fun items =>
      textItems (trimEnds front a.left text) ++ a.item.toList ++ items := by
  rw [print, scan_printMarked htext a.markable h.enclosed, a.standsFor.reads]
  rfl

/-- A comment with closing braces in its text ends there, before its end. -/
theorem scan_print_of_not_closed (h : ¬ a.Closed) (hend : a.EndsOnce) {text : List Char}
    (htext : Inert text) (front : Bool) (rest : List Char) :
    scan front (text ++ (a.print ++ rest)) = .error .unclosedComment := by
  obtain ⟨c, hbody, hbraces⟩ : ∃ c, Text.trim a.body = commentBody c ∧ closingBraces <:+: c := by
    simpa [Closed] using h
  have hquote : QuoteFree c := (hbody ▸ a.standsFor).quoteFree
  obtain ⟨inner, tail, rfl, hinner⟩ := hquote.exists_enclosed hbraces
  obtain ⟨lead, trail, hparts, hlead, -⟩ := Text.exists_trim a.body
  obtain ⟨t, ht, htrim⟩ := exists_trim_takeRightMarker hlead inner
  have hopening : Enclosed ['/', '*'] := by decide
  have hclosed : Enclosed (lead ++ '/' :: '*' :: inner) :=
    (enclosed_of_blank hlead).append (hopening.append hinner)
  have hclose : findClose none (a.body ++ (hyphen a.right ++ (closingBraces ++ rest))) =
      some (lead ++ '/' :: '*' :: inner,
        tail ++ ['*', '/'] ++ trail ++ (hyphen a.right ++ (closingBraces ++ rest))) := by
    rw [findClose_eq_some_iff]
    refine ⟨?_, hclosed⟩
    rw [hparts, hbody]
    simp [commentBody]
  have hopen : ¬ ['*', '/'] <:+ t := fun hsuffix =>
    hend _ hbody (hsuffix.isInfix.trans (ht.isInfix.trans (List.prefix_append _ _).isInfix))
  rw [print, scan_printMarked_of_closed htext a.markable hclose, htrim,
    readAction_slash_asterisk, if_neg hopen]
  rfl

end MarkedAction

/-! ## Written sources -/

/-- A source as it is written: texts without opening braces, with actions between them. Only the
last text can end in a brace. -/
inductive Written where
  | last (text : List Char) (no_braces : ¬ openingBraces <:+: text)
  | action (text : PlainText) (a : MarkedAction) (rest : Written)

namespace Written

/-- The characters of a written source. -/
def print : Written → List Char
  | last text _ => text
  | action text a rest => text.chars ++ (a.print ++ rest.print)

/-- The actions of a written source. -/
def actions : Written → List MarkedAction
  | last _ _ => []
  | action _ a rest => a :: rest.actions

/-- The pieces of a written source after an action with or without a marker at its end: what is
left of the texts, unless nothing is, and what the actions stand for. -/
inductive Pieces : Bool → Written → List Item → Prop
  | last {front : Bool} {text kept : List Char} {no_braces : ¬ openingBraces <:+: text}
    (hkept : Trimmed front false text kept) : Pieces front (.last text no_braces) (textItems kept)
  | action {front : Bool} {text : PlainText} {kept : List Char} {a : MarkedAction} {rest : Written}
    {items : List Item} (hkept : Trimmed front a.left text.chars kept)
    (hrest : Pieces a.right rest items) :
    Pieces front (.action text a rest) (textItems kept ++ a.item.toList ++ items)

/-- A text without opening braces has no action. -/
theorem scan_last {text : List Char} (hbraces : ¬ openingBraces <:+: text) (front : Bool) :
    scan front text = .ok (textItems (trimEnds front false text)) := by
  refine scan_of_cut_none ?_
  cases hcut : Text.cutText openingBraces text with
  | none => rfl
  | some parts =>
    obtain ⟨before, after⟩ := parts
    exact absurd ⟨before, after, by rw [Text.eq_of_cutText hcut, List.append_assoc]⟩ hbraces

theorem inert (text : PlainText) : Inert text.chars :=
  inert_of_plain text.no_braces text.no_brace_last

/-- A written source has no other pieces. -/
theorem Pieces.unique {front : Bool} {w : Written} {items others : List Item}
    (h : w.Pieces front items) (hother : w.Pieces front others) : items = others := by
  induction h generalizing others with
  | last hkept =>
    cases hother with
    | last hkept' => rw [hkept.eq_trimEnds, hkept'.eq_trimEnds]
  | action hkept _ ih =>
    cases hother with
    | action hkept' hrest' => rw [hkept.eq_trimEnds, hkept'.eq_trimEnds, ih hrest']

/-- A source is scanned into its pieces if the braces of all its actions are found. -/
theorem exists_pieces_of_closed (w : Written) (hclosed : ∀ a ∈ w.actions, a.Closed) (front : Bool) :
    ∃ items, scan front w.print = .ok items ∧ w.Pieces front items := by
  induction w generalizing front with
  | last text hbraces => exact ⟨_, scan_last hbraces front, .last (trimmed_trimEnds ..)⟩
  | action text a rest ih =>
    obtain ⟨ha, hrest⟩ := List.forall_mem_cons.mp hclosed
    obtain ⟨items, hscan, hpieces⟩ := ih hrest a.right
    refine ⟨_, ?_, .action (trimmed_trimEnds ..) hpieces⟩
    rw [print, ha.scan_print (inert text), hscan]
    rfl

/-- A source is refused at its first comment with closing braces in its text. -/
theorem scan_print_of_not_closed (w : Written) (hend : ∀ a ∈ w.actions, a.EndsOnce)
    (hbraces : ∃ a ∈ w.actions, ¬ a.Closed) (front : Bool) :
    scan front w.print = .error .unclosedComment := by
  induction w generalizing front with
  | last text _ =>
    obtain ⟨a, ha, -⟩ := hbraces
    cases ha
  | action text a rest ih =>
    obtain ⟨haend, hrest⟩ := List.forall_mem_cons.mp hend
    rw [print]
    by_cases ha : a.Closed
    · have hlater : ∃ b ∈ rest.actions, ¬ b.Closed := by
        obtain ⟨b, hb, hnot⟩ := hbraces
        rcases List.mem_cons.mp hb with rfl | hb
        · exact absurd ha hnot
        · exact ⟨b, hb, hnot⟩
      rw [ha.scan_print (inert text), ih hrest hlater]
      rfl
    · exact MarkedAction.scan_print_of_not_closed ha haend (inert text) front rest.print

end Written

/-- How a written source is scanned. If no comment has closing braces in its text, the pieces are
those of the source. A source with such a comment is refused, unless the comment has the end of a
comment in its text as well. -/
structure ScannedAsWritten (w : Written) : Prop where
  scanned : (∀ a ∈ w.actions, a.Closed) →
    ∃ items, scan false w.print = .ok items ∧ w.Pieces false items
  unique : ∀ items others, w.Pieces false items → w.Pieces false others → items = others
  refused : (∀ a ∈ w.actions, a.EndsOnce) → (∃ a ∈ w.actions, ¬ a.Closed) →
    scan false w.print = .error .unclosedComment

/-- **Trim markers.** A written source gives what its actions stand for, in order, between what
the markers leave of its texts, if no comment has closing braces in its text. -/
theorem scanned_as_written (w : Written) : ScannedAsWritten w where
  scanned hclosed := w.exists_pieces_of_closed hclosed false
  unique _ _ h hother := h.unique hother
  refused hend hbraces := w.scan_print_of_not_closed hend hbraces false

/-- A comment of two closing braces between two texts. -/
theorem not_scanned_closing_braces :
    ∃ w : Written, w.print = "a\x7b\x7b/*\x7d\x7d*/\x7d\x7db".toList ∧
      ¬ ∃ items, scan false w.print = .ok items ∧ w.Pieces false items := by
  have hbody : Text.trim (commentBody closingBraces) = commentBody closingBraces := by decide
  let a : MarkedAction :=
    { left := false, body := commentBody closingBraces, right := false, item := none,
      standsFor := hbody.symm ▸ .comment (by simp [QuoteFree, closingBraces])
      left_blank := by decide, right_blank := by decide }
  have hclosed : ¬ a.Closed := fun h => h closingBraces hbody (List.infix_refl _)
  have hend : a.EndsOnce := by
    intro c hc
    rw [hbody, commentBody_inj] at hc
    rw [← hc]
    decide
  let before : PlainText := ⟨['a'], by decide, by decide⟩
  have hscan :=
    MarkedAction.scan_print_of_not_closed hclosed hend (Written.inert before) false ['b']
  refine ⟨.action before a (.last ['b'] (by decide)), rfl, ?_⟩
  rintro ⟨items, hitems, -⟩
  cases hitems.symm.trans hscan

end QueryGateway.Template
