import QueryGateway.Proofs.Template.Rendering

/-!
# Comments

A comment between two sources gives no piece. But its end is looked for like that of any other
action, before it is known to be a comment: a quotation mark in it opens a literal, and braces
outside of literals close it. So a comment is invisible exactly if its text is enclosed.
-/

namespace QueryGateway.Template

/-- A comment with its braces. -/
def comment (c : List Char) : List Char :=
  openingBraces ++ '/' :: '*' :: (c ++ ['*', '/']) ++ closingBraces

/-- A comment can be put between two sources: if they form a template without it, they do so
with it, and both are rendered alike. -/
def Invisible (c a b : List Char) : Prop :=
  ∀ name t, compile name (String.ofList (a ++ b)) = .ok t →
    ∃ t', compile name (String.ofList (a ++ comment c ++ b)) = .ok t' ∧
      ∀ look, t'.render look = t.render look

/-! ## The action of a comment -/

/-- The action of a comment begins at its first slash. -/
theorem cutText_comment (c b : List Char) :
    Text.cutText openingBraces (comment c ++ b) =
      some ([], '/' :: '*' :: (c ++ ['*', '/']) ++ (closingBraces ++ b)) := by
  simp [comment, openingBraces, Text.cutText]

/-- The action of a comment has no marker at its start. -/
theorem unmarked_comment (s : List Char) : ¬ HasLeftMarker ('/' :: s) := by
  rintro ⟨rest, h, -⟩
  exact absurd (List.cons.inj h).1 (by decide)

/-- An action that begins as a comment does is one if it ends so. -/
theorem readAction_slash_asterisk (s : List Char) :
    readAction ('/' :: '*' :: s) =
      if ['*', '/'] <:+ s then .ok none else .error .unclosedComment := by
  have hstart : Text.dropPrefix? ['/', '*'] ('/' :: '*' :: s) = some s :=
    Text.dropPrefix?_eq_some_iff.mpr rfl
  rw [readAction, hstart]
  simp only [Text.isSome_dropSuffix?_iff]

/-- What is left of an action that begins as a comment does begins so, too. -/
theorem exists_trim_takeRightMarker {lead : List Char}
    (hlead : ∀ c ∈ lead, Text.isBlank c = true) (s : List Char) :
    ∃ t, t <+: s ∧ Text.trim (takeRightMarker (lead ++ '/' :: '*' :: s)).1 = '/' :: '*' :: t := by
  obtain ⟨t, ht, hbody⟩ :
      ∃ t, t <+: s ∧ (takeRightMarker (lead ++ '/' :: '*' :: s)).1 = lead ++ '/' :: '*' :: t := by
    unfold takeRightMarker
    split
    · next body hbody =>
      have hparts := Text.dropSuffix?_eq_some_iff.mp hbody
      split
      · rcases List.eq_nil_or_concat s with rfl | ⟨t, c, rfl⟩
        · have hlast := congrArg List.getLast? hparts
          simp [List.getLast?_cons] at hlast
        · have hbody : lead ++ '/' :: '*' :: t ++ [c] = body ++ ['-'] := by simpa using hparts
          obtain ⟨rfl, -⟩ := List.append_inj' hbody rfl
          exact ⟨t, by simp, rfl⟩
      · exact ⟨s, List.prefix_refl s, rfl⟩
    · exact ⟨s, List.prefix_refl s, rfl⟩
  have hright : Text.trimRight (lead ++ '/' :: '*' :: t) =
      lead ++ '/' :: '*' :: Text.trimRight t := by
    simpa using Text.trimRight_append_cons (by decide) (lead ++ ['/']) t
  refine ⟨Text.trimRight t, (Text.trimRight_isPrefix t).trans ht, ?_⟩
  rw [hbody, Text.trim, hright, Text.trimLeft_append_of_blank hlead, Text.trimLeft_eq_self_iff]
  rintro c ⟨⟩
  decide

/-- The action of a comment is left as it is, and asks for nothing. -/
theorem readAction_comment (c : List Char) :
    (takeRightMarker ('/' :: '*' :: (c ++ ['*', '/']))).2 = false ∧
      readAction (Text.trim (takeRightMarker ('/' :: '*' :: (c ++ ['*', '/']))).1) = .ok none := by
  have hmarker : takeRightMarker ('/' :: '*' :: (c ++ ['*', '/'])) =
      ('/' :: '*' :: (c ++ ['*', '/']), false) := by
    simp [takeRightMarker, Text.dropSuffix?, Text.dropPrefix?]
  have htrim : Text.trim ('/' :: '*' :: (c ++ ['*', '/'])) = '/' :: '*' :: (c ++ ['*', '/']) := by
    rw [Text.trim_eq_self_iff]
    constructor
    · rintro d ⟨⟩
      decide
    · simp [List.getLast?_cons]
      decide
  rw [hmarker, htrim, readAction_slash_asterisk, if_pos (List.suffix_append _ _)]
  exact ⟨rfl, rfl⟩

/-! ## Comments whose text is enclosed -/

/-- Nothing is scanned of a comment. -/
theorem scan_comment {c : List Char} (hc : Enclosed (c ++ ['*', '/'])) (b : List Char) :
    scan false (comment c ++ b) = scan false b := by
  have hbody : Enclosed ('/' :: '*' :: (c ++ ['*', '/'])) :=
    .char (by decide) (by decide) (.char (by decide) (by decide) hc)
  obtain ⟨hmarker, hread⟩ := readAction_comment c
  have hclose := findClose_of_enclosed hbody b
  rw [scan_of_cut (cutText_comment c b)
    (by rw [List.cons_append, applyLeftMarker_of_unmarked (unmarked_comment _)]; exact hclose)
    hread, hmarker]
  cases scan false b <;>
    simp [applyLeftMarker_of_unmarked (unmarked_comment _), textItems, Except.map]

/-- A comment whose text is enclosed can stand at a joint. -/
theorem invisible_of_enclosed {a b c : List Char} (hc : Enclosed (c ++ ['*', '/']))
    (h : Joint a b) : Invisible c a b := by
  have hcomment : Joint a (comment c ++ b) := by
    refine ⟨h.settled, h.no_brace_last, fun text action hcut => ?_⟩
    rw [cutText_comment] at hcut
    obtain ⟨rfl, rfl⟩ := Prod.mk.inj (Option.some.inj hcut)
    exact unmarked_comment _
  have hjoined : joinedScan (a ++ comment c ++ b) = joinedScan (a ++ b) := by
    rw [List.append_assoc, joinedScan_append hcomment, scan_comment hc, joinedScan_append h]
  intro name t ht
  exact compile_of_joinedScan hjoined.symm ht

/-! ## Comments that are scanned -/

/-- An action that begins as a comment does is closed behind this beginning. -/
theorem exists_inner_of_findClose {s body after : List Char}
    (hclose : findClose none ('/' :: '*' :: s) = some (body, after)) :
    ∃ inner, body = '/' :: '*' :: inner ∧ s = inner ++ (closingBraces ++ after) ∧
      Enclosed inner := by
  obtain ⟨hparts, hbody⟩ := findClose_eq_some_iff.mp hclose
  rcases body with _ | ⟨c, _ | ⟨d, inner⟩⟩
  · simp [closingBraces] at hparts
  · simp [closingBraces] at hparts
  · simp only [List.cons_append, List.cons.injEq] at hparts
    obtain ⟨rfl, rfl, hs⟩ := hparts
    exact ⟨inner, rfl, hs, (hbody.of_cons (by decide)).of_cons (by decide)⟩

/-- Closing braces that are followed by text do not stand behind a comment. -/
theorem isPrefix_of_early_close {c inner after : List Char} (hafter : after ≠ [])
    (hparts : c ++ ['*', '/'] ++ closingBraces = inner ++ (closingBraces ++ after)) :
    inner <+: c := by
  rw [List.append_assoc] at hparts
  rcases List.append_eq_append_iff.mp hparts with ⟨s, -, hrest⟩ | ⟨s, rfl, -⟩
  · exfalso
    rcases s with _ | ⟨d, _ | ⟨d', s⟩⟩
    · simp [closingBraces] at hrest
    · simp [closingBraces] at hrest
    · have hlength := congrArg List.length hrest
      have hpos := List.length_pos_iff.mpr hafter
      simp only [closingBraces, List.length_append, List.length_cons, List.length_nil] at hlength
      omega
  · exact List.prefix_append _ _

/-- A comment that can be scanned on its own has an enclosed text. -/
theorem enclosed_of_scan_comment {c : List Char} (hc : ¬ ['*', '/'] <:+: c) {items : List Item}
    (hscan : scan false (comment c) = .ok items) : Enclosed (c ++ ['*', '/']) := by
  have hcut := cutText_comment c []
  rw [List.append_nil, List.append_nil] at hcut
  have happly : applyLeftMarker [] ('/' :: '*' :: (c ++ ['*', '/']) ++ closingBraces) =
      ([], '/' :: '*' :: (c ++ ['*', '/']) ++ closingBraces) :=
    applyLeftMarker_of_unmarked (unmarked_comment _) []
  cases hclose : findClose none ('/' :: '*' :: (c ++ ['*', '/']) ++ closingBraces) with
  | none =>
    rw [scan_of_unclosed hcut (by rw [if_neg (by decide), happly]; exact hclose)] at hscan
    cases hscan
  | some parts =>
    obtain ⟨body, after⟩ := parts
    rw [scan_of_closed hcut (by rw [if_neg (by decide), happly]; exact hclose)] at hscan
    obtain ⟨item, hitem, -⟩ := exists_of_bind_eq_ok hscan
    obtain ⟨inner, rfl, hrest, hinner⟩ := exists_inner_of_findClose hclose
    have hparts : c ++ ['*', '/'] ++ closingBraces = inner ++ (closingBraces ++ after) := hrest
    obtain ⟨t, ht, htrim⟩ := exists_trim_takeRightMarker (List.forall_mem_nil _) inner
    have hend : ['*', '/'] <:+ t := by
      rw [List.nil_append] at htrim
      rw [htrim, readAction_slash_asterisk] at hitem
      split at hitem
      · next hend => exact hend
      · cases hitem
    -- the end of the comment stands before the braces, and so these are the last ones
    by_cases hafter : after = []
    · subst hafter
      rw [List.append_nil, List.append_cancel_right_eq] at hparts
      rwa [hparts]
    · have hearly := isPrefix_of_early_close hafter hparts
      exact absurd (hend.isInfix.trans (ht.trans hearly).isInfix) hc

/-- Nothing stands at either side of an empty joint. -/
theorem joint_nil : Joint [] [] :=
  ⟨.text rfl, by simp, by rintro _ _ ⟨⟩⟩

/-- A comment that forms a template on its own has an enclosed text. -/
theorem enclosed_of_invisible {c : List Char} (hc : ¬ ['*', '/'] <:+: c)
    (h : Invisible c [] []) : Enclosed (c ++ ['*', '/']) := by
  have hempty : compile "" (String.ofList ([] ++ [])) = .ok ⟨"", .nothing⟩ := by
    rw [compile, String.toList_ofList, scan_of_cut_none rfl]
    rfl
  obtain ⟨t, ht, -⟩ := h "" _ hempty
  rw [compile, String.toList_ofList, List.append_nil, List.nil_append] at ht
  obtain ⟨items, hitems, -⟩ := exists_of_bind_eq_ok ht
  exact enclosed_of_scan_comment hc hitems

/-- **Comments.** A comment without an end in its text is invisible at every joint exactly if its
text is enclosed: quotation marks in it come in pairs, as those of literals do, and no closing
braces stand outside of them. -/
theorem invisible_iff_enclosed {c : List Char} (hc : ¬ ['*', '/'] <:+: c) :
    (∀ a b, Joint a b → Invisible c a b) ↔ Enclosed (c ++ ['*', '/']) := by
  constructor
  · intro h
    exact enclosed_of_invisible hc (h [] [] joint_nil)
  · intro h a b hjoint
    exact invisible_of_enclosed h hjoint

/-- A comment with literals, braces and backslashes inside a branch. -/
theorem invisible_iff_enclosed_literals :
    let c := " \"\x7d\x7d\\\"\" \x60\\\x60 \x7b\x7b \x7d \\ ".toList
    let a := "\x7b\x7b if Bool \"x\" \x7d\x7da".toList
    let b := "b\x7b\x7b end \x7d\x7d".toList
    ¬ ['*', '/'] <:+: c ∧ Joint a b ∧
      ∃ t t', compile "t" (String.ofList (a ++ b)) = .ok t ∧
        compile "t" (String.ofList (a ++ comment c ++ b)) = .ok t' ∧
        ∀ look, t'.render look = t.render look := by
  intro c a b
  have hc : ¬ ['*', '/'] <:+: c := by decide +kernel
  have henclosed : Enclosed (c ++ ['*', '/']) := by decide +kernel
  have hjoint : Joint a b := by
    refine ⟨?_, by decide +kernel, fun text action hcut => ?_⟩
    · have hcut : Text.cutText openingBraces a =
          some ([], " if Bool \"x\" \x7d\x7da".toList) := by decide +kernel
      have hclose : findClose none (applyLeftMarker [] " if Bool \"x\" \x7d\x7da".toList).2 =
          some (" if Bool \"x\" ".toList, ['a']) := by decide +kernel
      exact .action hcut hclose (.text (by decide +kernel))
    · have haction : Text.cutText openingBraces b = some (['b'], " end \x7d\x7d".toList) := by
        decide +kernel
      obtain ⟨rfl, rfl⟩ := Prod.mk.inj (Option.some.inj (haction.symm.trans hcut))
      rintro ⟨rest, h, -⟩
      have hhead : " end \x7d\x7d".toList.head? = some '-' := by rw [h]; rfl
      revert hhead
      decide +kernel
  have hplain : ∃ t, compile "t" (String.ofList (a ++ b)) = .ok t := by
    let o : Outline := .branch (.flag (.text "x"))
      (.text ⟨['a', 'b'], by decide, by decide⟩ .done) .done
    have hprint : a ++ b = o.print := by decide +kernel
    rw [compile, String.toList_ofList, hprint, o.scan_print]
    exact ⟨_, rfl⟩
  obtain ⟨t, ht⟩ := hplain
  obtain ⟨t', ht', hrender⟩ := (invisible_iff_enclosed hc).mpr henclosed a b hjoint "t" t ht
  exact ⟨hc, hjoint, t, t', ht, ht', hrender⟩

/-- Comments with a quotation mark or with closing braces that are not invisible. -/
theorem not_invisible_of_open :
    Joint [] [] ∧ ∀ c ∈ [['"'], ['\x60'], ['\x7d', '\x7d']],
      ¬ ['*', '/'] <:+: c ∧ ¬ Invisible c [] [] := by
  have hopen : ∀ c ∈ [['"'], ['\x60'], ['\x7d', '\x7d']],
      ¬ ['*', '/'] <:+: c ∧ ¬ Enclosed (c ++ ['*', '/']) := by decide
  refine ⟨joint_nil, fun c hmem => ?_⟩
  obtain ⟨hc, henclosed⟩ := hopen c hmem
  exact ⟨hc, fun h => henclosed (enclosed_of_invisible hc h)⟩

end QueryGateway.Template
