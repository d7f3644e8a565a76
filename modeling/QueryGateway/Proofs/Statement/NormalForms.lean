import QueryGateway.Proofs.Statement.Breaks

/-!
# Normal forms of statements

The layouts bring the blanks of a statement into a normal form. They change just the runs of
blanks that contain a line feed, keep the words, and change nothing when they are applied again.
Dropping the blank lines before or after all lines are folded into one makes no difference.
-/

namespace QueryGateway.Statement

/-! ## The image of a text -/

/-- A text with each of its maximal runs of blanks replaced by an image of the run. -/
inductive RunsReplaced (image : List Char → List Char → Prop) : List Char → List Char → Prop
  | last {run new : List Char} (hrun : IsRun run) (hnew : image run new) :
    RunsReplaced image run new
  | next {run new s t : List Char} {c : Char} (hrun : IsRun run) (hnew : image run new)
    (hc : Text.isBlank c = false) (hrest : RunsReplaced image s t) :
    RunsReplaced image (run ++ c :: s) (new ++ c :: t)

/-- A run with line feeds keeps the last one and what stands behind it; another run stays. -/
inductive Tidied : List Char → List Char → Prop
  | unbroken {run : List Char} (h : '\n' ∉ run) : Tidied run run
  | broken {front back : List Char} (h : '\n' ∉ back) :
    Tidied (front ++ '\n' :: back) ('\n' :: back)

/-- A run with line feeds becomes one space; another run stays. -/
inductive Folded : List Char → List Char → Prop
  | unbroken {run : List Char} (h : '\n' ∉ run) : Folded run run
  | broken {run : List Char} (h : '\n' ∈ run) : Folded run [' ']

/-- The maximal runs of a text are replaced independently of each other. -/
theorem runsReplaced_iff {f : List Char → List Char} {image : List Char → List Char → Prop}
    (himage : ∀ run new, image run new ↔ f run = new) {s t : List Char} :
    RunsReplaced image s t ↔ mapBlankRuns f [] s = t := by
  constructor
  · intro h
    induction h with
    | last hrun hnew => rw [mapBlankRuns_of_isRun f hrun, (himage _ _).mp hnew]
    | next hrun hnew hc _ ih => rw [mapBlankRuns_run_append f hrun hc, (himage _ _).mp hnew, ih]
  · rintro rfl
    induction s using run_induction with
    | hlast run hrun =>
      rw [mapBlankRuns_of_isRun f hrun]
      exact .last hrun ((himage _ _).mpr rfl)
    | hnext run c s hrun hc ih =>
      rw [mapBlankRuns_run_append f hrun hc]
      exact .next hrun ((himage _ _).mpr rfl) hc ih

theorem tidied_iff (run new : List Char) : Tidied run new ↔ tidyRun run = new := by
  constructor
  · rintro (h | h)
    · exact if_neg (by simpa using h)
    · rw [tidyRun, if_pos (by simp), indentation_append_cons _ h]
  · rintro rfl
    by_cases hfeed : '\n' ∈ run
    · obtain ⟨front, back, rfl, hlast⟩ := Text.exists_last_of_mem hfeed
      rw [tidyRun, if_pos (by simp), indentation_append_cons _ hlast]
      exact .broken hlast
    · rw [tidyRun, if_neg (by simpa using hfeed)]
      exact .unbroken hfeed

theorem folded_iff (run new : List Char) : Folded run new ↔ foldRun run = new := by
  constructor
  · rintro (h | h)
    · exact if_neg (by simpa using h)
    · exact if_pos (by simpa using h)
  · rintro rfl
    by_cases hfeed : '\n' ∈ run
    · rw [foldRun, if_pos (by simpa using hfeed)]
      exact .broken hfeed
    · rw [foldRun, if_neg (by simpa using hfeed)]
      exact .unbroken hfeed

/-! ## Words -/

section

variable {run other s t : List Char} {c : Char}

/-- Two texts have the same words, and the part before the first blank is the same. -/
def SameWords (s t : List Char) : Prop :=
  (Text.pieces Text.isBlank s).head? = (Text.pieces Text.isBlank t).head? ∧
    Text.words s = Text.words t

/-- Blanks before a text do not change its words. -/
theorem words_run_append (hrun : IsRun run) (s : List Char) :
    Text.words (run ++ s) = Text.words s := by
  induction run with
  | nil => rfl
  | cons c run ih =>
    obtain ⟨hc, hrun⟩ := List.forall_mem_cons.mp hrun
    have hpieces : Text.pieces Text.isBlank (c :: (run ++ s)) =
        [] :: Text.pieces Text.isBlank (run ++ s) := if_pos hc
    rw [List.cons_append, Text.words, hpieces]
    exact ih hrun

theorem SameWords.refl (s : List Char) : SameWords s s :=
  ⟨rfl, rfl⟩

/-- A character that is no blank begins the same word in both texts. -/
theorem SameWords.cons (hc : Text.isBlank c = false) (h : SameWords s t) :
    SameWords (c :: s) (c :: t) := by
  obtain ⟨first, parts, hs⟩ :=
    List.exists_cons_of_ne_nil (Text.pieces_ne_nil Text.isBlank s)
  obtain ⟨second, others, ht⟩ :=
    List.exists_cons_of_ne_nil (Text.pieces_ne_nil Text.isBlank t)
  obtain ⟨hfirst, hwords⟩ := h
  rw [hs, ht] at hfirst
  obtain rfl : first = second := Option.some.inj hfirst
  rw [Text.words, Text.words, hs, ht] at hwords
  have hrest : parts.filter (fun w => !w.isEmpty) = others.filter (fun w => !w.isEmpty) := by
    cases first with
    | nil => simpa using hwords
    | cons d first => simpa using hwords
  refine ⟨?_, ?_⟩
  · rw [Text.pieces_cons_solid hc hs, Text.pieces_cons_solid hc ht]
    rfl
  · rw [Text.words, Text.words, Text.pieces_cons_solid hc hs, Text.pieces_cons_solid hc ht]
    simp [hrest]

/-- Runs of blanks before two texts separate words alike if both are empty, or neither is. -/
theorem SameWords.run_append (hrun : IsRun run) (hother : IsRun other)
    (hempty : run = [] ↔ other = []) (h : SameWords s t) :
    SameWords (run ++ s) (other ++ t) := by
  refine ⟨?_, by rw [words_run_append hrun, words_run_append hother]; exact h.2⟩
  cases run with
  | nil =>
    rw [hempty.mp rfl]
    exact h.1
  | cons c run =>
    cases other with
    | nil => cases hempty.mpr rfl
    | cons d other =>
      have hc := hrun c List.mem_cons_self
      have hd := hother d List.mem_cons_self
      simp [Text.pieces, hc, hd]

/-- Replacing runs of blanks by other ones keeps the words, if no run appears or vanishes. -/
theorem sameWords_mapBlankRuns {f : List Char → List Char}
    (hf : ∀ run, IsRun run → IsRun (f run)) (hempty : ∀ run, f run = [] ↔ run = [])
    (s : List Char) : SameWords (mapBlankRuns f [] s) s := by
  induction s using run_induction with
  | hlast run hrun =>
    rw [mapBlankRuns_of_isRun f hrun]
    simpa using (SameWords.refl []).run_append (hf run hrun) hrun (hempty run)
  | hnext run c s hrun hc ih =>
    rw [mapBlankRuns_run_append f hrun hc]
    exact (ih.cons hc).run_append (hf run hrun) hrun (hempty run)

/-- Blanks behind a text do not change its words. -/
theorem sameWords_append_run (hrun : IsRun run) (s : List Char) : SameWords (s ++ run) s := by
  induction s with
  | nil =>
    cases run with
    | nil => exact .refl []
    | cons c run =>
      have hwords := words_run_append hrun []
      rw [List.append_nil] at hwords
      have hc := hrun c List.mem_cons_self
      exact ⟨by simp [Text.pieces, hc], hwords⟩
  | cons c s ih =>
    by_cases hc : Text.isBlank c = true
    · have hblank : IsRun [c] := isRun_nil.cons hc
      exact ih.run_append hblank hblank Iff.rfl
    · exact ih.cons (by simpa using hc)

/-- Trimming keeps the words. -/
theorem words_trim (s : List Char) : Text.words (Text.trim s) = Text.words s := by
  obtain ⟨lead, trail, hs, hlead, htrail⟩ := Text.exists_trim s
  conv_rhs => rw [hs, List.append_assoc, words_run_append hlead]
  exact (sameWords_append_run htrail (Text.trim s)).2.symm

end

/-! ## Layouts -/

/-- A run with line feeds has a nonempty image, and so has any other run but the empty one. -/
theorem foldRun_eq_nil_iff (run : List Char) : foldRun run = [] ↔ run = [] := by
  rw [foldRun]
  split_ifs with hfeed
  · have hne : run ≠ [] := by rintro rfl; simp at hfeed
    simp [hne]
  · rfl

theorem tidyRun_eq_nil_iff (run : List Char) : tidyRun run = [] ↔ run = [] := by
  rw [tidyRun]
  split_ifs with hfeed
  · have hne : run ≠ [] := by rintro rfl; simp at hfeed
    simp [hne]
  · rfl

/-- Folding a run does not depend on whether its blank lines are dropped before. -/
theorem foldRun_tidyRun (run : List Char) : foldRun (tidyRun run) = foldRun run := by
  rw [tidyRun]
  split_ifs with hfeed
  · rw [foldRun, foldRun, if_pos (by simp), if_pos hfeed]
  · rfl

/-- Runs are mapped twice as they are by both maps one after the other. -/
theorem mapBlankRuns_mapBlankRuns {f g : List Char → List Char}
    (hg : ∀ run, IsRun run → IsRun (g run)) (s : List Char) :
    mapBlankRuns f [] (mapBlankRuns g [] s) = mapBlankRuns (f ∘ g) [] s := by
  induction s using run_induction with
  | hlast run hrun =>
    rw [mapBlankRuns_of_isRun g hrun, mapBlankRuns_of_isRun f (hg run hrun),
      mapBlankRuns_of_isRun _ hrun]
    rfl
  | hnext run c s hrun hc ih =>
    rw [mapBlankRuns_run_append g hrun hc, mapBlankRuns_run_append f (hg run hrun) hc, ih,
      mapBlankRuns_run_append _ hrun hc]
    rfl

/-- A line of a text that ends in a line feed, and what stands before the line. -/
structure EndedLine (text front line : List Char) : Prop where
  eq : ∃ rest, text = front ++ line ++ '\n' :: rest
  no_lineFeed : '\n' ∉ line
  front_ended : ∀ c ∈ front.getLast?, c = '\n'

namespace Layout

variable {s front line : List Char}

theorem toList_apply (layout : Layout) (s : String) :
    (layout.apply s).toList = layout.applyChars s.toList :=
  String.toList_ofList

/-- Two statements are the same if their characters are. -/
theorem apply_eq_iff {layout : Layout} {s t : String} :
    layout.apply s = t ↔ layout.applyChars s.toList = t.toList := by
  rw [← String.toList_inj, toList_apply]

theorem applyChars_singleLine (s : List Char) :
    applyChars .singleLine s = Text.trim (mapBlankRuns foldRun [] s) := rfl

theorem applyChars_withoutBlankLines (s : List Char) :
    applyChars .withoutBlankLines s = mapBlankRuns tidyRun [] s := rfl

/-- A text on one line has no line feed. -/
theorem notMem_applyChars_singleLine (s : List Char) : '\n' ∉ applyChars .singleLine s :=
  fun hmem => keeps_spread .singleLine s (Text.mem_of_mem_trim hmem)

/-- Applying a layout again changes nothing. -/
theorem applyChars_applyChars (layout : Layout) (s : List Char) :
    layout.applyChars (layout.applyChars s) = layout.applyChars s := by
  cases layout with
  | singleLine =>
    have hkept : spread .singleLine (applyChars .singleLine s) = applyChars .singleLine s :=
      (spread_eq_self_iff .singleLine _).mpr (notMem_applyChars_singleLine s)
    have happly : applyChars .singleLine (applyChars .singleLine s) =
        Text.trim (spread .singleLine (applyChars .singleLine s)) := rfl
    rw [happly, hkept, applyChars_singleLine, Text.trim_trim]
  | withoutBlankLines =>
    exact (spread_eq_self_iff .withoutBlankLines _).mpr (keeps_spread .withoutBlankLines s)
  | verbatim => rfl

/-- A layout keeps the words of a text. -/
theorem words_applyChars (layout : Layout) (s : List Char) :
    Text.words (layout.applyChars s) = Text.words s := by
  cases layout with
  | singleLine =>
    rw [applyChars_singleLine, words_trim]
    exact (sameWords_mapBlankRuns (fun _ => isRun_foldRun) foldRun_eq_nil_iff s).2
  | withoutBlankLines =>
    exact (sameWords_mapBlankRuns (fun _ => isRun_tidyRun) tidyRun_eq_nil_iff s).2
  | verbatim => rfl

/-- Dropping blank lines first makes no difference to a text on one line. -/
theorem singleLine_withoutBlankLines (s : List Char) :
    applyChars .singleLine (applyChars .withoutBlankLines s) = applyChars .singleLine s := by
  have hcomp : foldRun ∘ tidyRun = foldRun := funext foldRun_tidyRun
  rw [applyChars_singleLine, applyChars_withoutBlankLines,
    mapBlankRuns_mapBlankRuns (fun _ => isRun_tidyRun), hcomp, applyChars_singleLine]

/-- A text on one line has no blank lines to drop. -/
theorem withoutBlankLines_singleLine (s : List Char) :
    applyChars .withoutBlankLines (applyChars .singleLine s) = applyChars .singleLine s := by
  have hfeed := notMem_applyChars_singleLine s
  refine (spread_eq_self_iff .withoutBlankLines _).mpr ?_
  cases hone : applyChars .singleLine s with
  | nil => exact .nil
  | cons c t =>
    rw [hone] at hfeed
    exact isChain_of_notMem_tail fun hmem => hfeed (List.mem_cons_of_mem c hmem)

/-- In a text without blank lines no blank stands at the end of a line. -/
theorem isBlank_getLast?_of_endedLine (h : EndedLine (applyChars .withoutBlankLines s) front line) :
    ∀ c ∈ (front ++ line).getLast?, Text.isBlank c = false := by
  obtain ⟨rest, htext⟩ := h.eq
  have hkeeps := keeps_spread .withoutBlankLines s
  have hspread : spread .withoutBlankLines s = applyChars .withoutBlankLines s := rfl
  rw [hspread, htext] at hkeeps
  intro c hc
  exact (List.isChain_append.mp hkeeps).2.2 c hc '\n' rfl rfl

/-- A line that ends in a line feed has no blanks at its end. -/
theorem trimRight_of_endedLine (h : EndedLine (applyChars .withoutBlankLines s) front line) :
    Text.trimRight line = line := by
  rw [Text.trimRight_eq_self_iff]
  intro c hc
  apply isBlank_getLast?_of_endedLine h
  rw [List.getLast?_append, hc]
  rfl

/-- Only the first of these lines can be blank. -/
theorem exists_solid_of_endedLine (h : EndedLine (applyChars .withoutBlankLines s) front line)
    (hfront : front ≠ []) : ∃ c ∈ line, Text.isBlank c = false := by
  obtain ⟨c, hc⟩ := Option.ne_none_iff_exists'.mp (mt List.getLast?_eq_none_iff.mp hfront)
  have hsolid := isBlank_getLast?_of_endedLine h
  rcases List.eq_nil_or_concat line with rfl | ⟨initial, d, rfl⟩
  · -- then the line feed at the end of the line before would be no blank
    obtain rfl := h.front_ended c hc
    have hfeed := hsolid '\n' (by rw [List.append_nil]; exact hc)
    revert hfeed
    decide
  · exact ⟨d, by simp, hsolid d (by simp)⟩

end Layout

/-- What the layouts make of a text. -/
structure NormalForms (s : String) : Prop where
  drops_matches : (Layout.withoutBlankLines.apply s).toList =
    Ways.replaceAll Ways.trailingBreak ['\n'] s.toList
  folds_matches : (Layout.singleLine.apply s).toList =
    Text.trim (Ways.replaceAll Ways.surroundedBreak [' '] s.toList)
  drops_iff : ∀ t : String,
    Layout.withoutBlankLines.apply s = t ↔ RunsReplaced Tidied s.toList t.toList
  folds_iff : ∀ t : String, Layout.singleLine.apply s = t ↔
    ∃ folded, RunsReplaced Folded s.toList folded ∧ t.toList = Text.trim folded
  words_eq : ∀ layout : Layout, Text.words (layout.apply s).toList = Text.words s.toList
  idempotent : ∀ layout : Layout, layout.apply (layout.apply s) = layout.apply s
  one_line : '\n' ∉ (Layout.singleLine.apply s).toList
  lines_trimmed : ∀ front line, EndedLine (Layout.withoutBlankLines.apply s).toList front line →
    Text.trimRight line = line
  lines_solid : ∀ front line, EndedLine (Layout.withoutBlankLines.apply s).toList front line →
    front ≠ [] → ∃ c ∈ line, Text.isBlank c = false
  folds_after_drops : Layout.singleLine.apply (Layout.withoutBlankLines.apply s) =
    Layout.singleLine.apply s
  drops_after_folds : Layout.withoutBlankLines.apply (Layout.singleLine.apply s) =
    Layout.singleLine.apply s

/-- **Layouts are normal forms.** Each of them replaces the matches of a pattern from left to
right, which is the same as replacing just the runs of blanks that contain a line feed. -/
theorem layout_normal_forms (s : String) : NormalForms s where
  drops_matches := by
    rw [Layout.toList_apply, Layout.applyChars_withoutBlankLines, Ways.replaceAll_trailingBreak]
  folds_matches := by
    rw [Layout.toList_apply, Layout.applyChars_singleLine, Ways.replaceAll_surroundedBreak]
  drops_iff t := by
    rw [Layout.apply_eq_iff, runsReplaced_iff tidied_iff, Layout.applyChars_withoutBlankLines]
  folds_iff t := by
    simp only [Layout.apply_eq_iff, Layout.applyChars_singleLine, runsReplaced_iff folded_iff,
      exists_eq_left']
    exact eq_comm
  words_eq layout := by rw [Layout.toList_apply, layout.words_applyChars]
  idempotent layout := by
    rw [Layout.apply_eq_iff, Layout.toList_apply, layout.applyChars_applyChars]
  one_line := by
    rw [Layout.toList_apply]
    exact Layout.notMem_applyChars_singleLine s.toList
  lines_trimmed front line h := by
    rw [Layout.toList_apply] at h
    exact Layout.trimRight_of_endedLine h
  lines_solid front line h := by
    rw [Layout.toList_apply] at h
    exact Layout.exists_solid_of_endedLine h
  folds_after_drops := by
    rw [Layout.apply_eq_iff, Layout.toList_apply, Layout.toList_apply,
      Layout.singleLine_withoutBlankLines]
  drops_after_folds := by
    rw [Layout.apply_eq_iff, Layout.toList_apply, Layout.withoutBlankLines_singleLine]

/-- Only what stands behind the last line feed of a run is kept, here a wide space. -/
example : Layout.withoutBlankLines.apply "a \t\r\n\r\n\u2003b" = "a\n\u2003b" := by decide

end QueryGateway.Statement
