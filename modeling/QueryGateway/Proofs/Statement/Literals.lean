import Mathlib.Data.List.Chain
import QueryGateway.Proofs.Text.Splitting
import QueryGateway.Statement.Layout

/-!
# Laying out quoted literals

A quotation mark ends the run of blanks before it, so what a layout makes of a literal in a
statement depends on the literal alone. Blanks inside a literal are laid out as they are
elsewhere: this module says which texts keep all of their characters.
-/

namespace QueryGateway.Statement

/-! ## Runs of blanks -/

section

variable {f : List Char → List Char} {run s t : List Char} {c : Char}

/-- A character that is no blank separates the runs before it from those behind it. -/
theorem mapBlankRuns_append_cons (f : List Char → List Char) (run s t : List Char)
    (hc : Text.isBlank c = false) :
    mapBlankRuns f run (s ++ c :: t) = mapBlankRuns f run s ++ c :: mapBlankRuns f [] t := by
  induction s generalizing run with
  | nil => simp [mapBlankRuns, hc]
  | cons d s ih =>
    rw [List.cons_append, mapBlankRuns, mapBlankRuns]
    by_cases hd : Text.isBlank d = true
    · rw [if_pos hd, if_pos hd, ih]
    · rw [if_neg hd, if_neg hd, ih, List.append_assoc, List.cons_append]

/-- A text of blanks. -/
def IsRun (run : List Char) : Prop :=
  ∀ c ∈ run, Text.isBlank c = true

theorem isRun_nil : IsRun [] := by
  simp [IsRun]

theorem IsRun.cons (hc : Text.isBlank c = true) (hrun : IsRun run) : IsRun (c :: run) :=
  List.forall_mem_cons.mpr ⟨hc, hrun⟩

theorem IsRun.reverse (hrun : IsRun run) : IsRun run.reverse := fun c hc =>
  hrun c (List.mem_reverse.mp hc)

/-- Every text is a run of blanks, or begins with a run and a character that is no blank. -/
theorem run_induction {motive : List Char → Prop} (hlast : ∀ run, IsRun run → motive run)
    (hnext : ∀ run c s, IsRun run → Text.isBlank c = false → motive s → motive (run ++ c :: s))
    (s : List Char) : motive s := by
  suffices h : ∀ run, IsRun run → motive (run ++ s) from h [] isRun_nil
  induction s with
  | nil =>
    intro run hrun
    rw [List.append_nil]
    exact hlast run hrun
  | cons c s ih =>
    intro run hrun
    by_cases hc : Text.isBlank c = true
    · have hlonger : IsRun (run ++ [c]) := by
        intro d hd
        rcases List.mem_append.mp hd with hd | hd
        · exact hrun d hd
        · rw [List.mem_singleton.mp hd]
          exact hc
      simpa using ih (run ++ [c]) hlonger
    · exact hnext run c s hrun (by simpa using hc) (ih [] isRun_nil)

/-- A text of blanks is one run. -/
theorem mapBlankRuns_of_isRun (f : List Char → List Char) (hrun : IsRun run) :
    mapBlankRuns f [] run = f run := by
  suffices h : ∀ before, mapBlankRuns f before run = f (before.reverse ++ run) from h []
  induction run with
  | nil => simp [mapBlankRuns]
  | cons c run ih =>
    obtain ⟨hc, hrest⟩ := List.forall_mem_cons.mp hrun
    intro before
    rw [mapBlankRuns, if_pos hc, ih hrest]
    simp

/-- The first run of a text ends at the first character that is no blank. -/
theorem mapBlankRuns_run_append (f : List Char → List Char) (hrun : IsRun run)
    (hc : Text.isBlank c = false) (s : List Char) :
    mapBlankRuns f [] (run ++ c :: s) = f run ++ c :: mapBlankRuns f [] s := by
  rw [mapBlankRuns_append_cons f [] run s hc, mapBlankRuns_of_isRun f hrun]

/-- What holds of the image of each run, of single characters that are no blanks, and of two
texts around such a character holds of the text whose runs are mapped. -/
theorem mapBlankRuns_induction {motive : List Char → Prop}
    (hf : ∀ run, IsRun run → motive (f run))
    (hjoin : ∀ s c t, Text.isBlank c = false → motive s → motive t → motive (s ++ c :: t))
    (hrun : IsRun run) (s : List Char) : motive (mapBlankRuns f run s) := by
  induction s generalizing run with
  | nil => exact hf _ hrun.reverse
  | cons c s ih =>
    rw [mapBlankRuns]
    by_cases hc : Text.isBlank c = true
    · rw [if_pos hc]
      exact ih (hrun.cons hc)
    · rw [if_neg hc]
      exact hjoin _ c _ (by simpa using hc) (hf _ hrun.reverse) (ih isRun_nil)

/-- A character that is no blank. -/
def isSolid (c : Char) : Bool := !Text.isBlank c

theorem isSolid_of_not_isBlank (hc : ¬ Text.isBlank c = true) : isSolid c = true := by
  simp [isSolid, hc]

theorem not_isSolid_of_isBlank (hc : Text.isBlank c = true) : ¬ isSolid c = true := by
  simp [isSolid, hc]

/-- The characters that are no blanks stay, in their order, if runs are mapped to runs. -/
theorem filter_mapBlankRuns (hf : ∀ run, IsRun run → IsRun (f run)) (hrun : IsRun run)
    (s : List Char) :
    (mapBlankRuns f run s).filter isSolid = s.filter isSolid := by
  have hnone {run : List Char} (hrun : IsRun run) : (f run).filter isSolid = [] := by
    rw [List.filter_eq_nil_iff]
    intro c hc
    exact not_isSolid_of_isBlank (hf run hrun c hc)
  induction s generalizing run with
  | nil => exact hnone hrun.reverse
  | cons c s ih =>
    rw [mapBlankRuns]
    by_cases hc : Text.isBlank c = true
    · rw [if_pos hc, ih (hrun.cons hc), List.filter_cons_of_neg (not_isSolid_of_isBlank hc)]
    · rw [if_neg hc, List.filter_append, hnone hrun.reverse,
        List.filter_cons_of_pos (isSolid_of_not_isBlank hc),
        List.filter_cons_of_pos (isSolid_of_not_isBlank hc), ih isRun_nil]
      rfl

/-- Where all runs of a text stay as they are, so does the text. -/
theorem mapBlankRuns_eq_self
    (hf : ∀ run front back, IsRun run → front ++ run ++ back = s → f run = run) :
    mapBlankRuns f [] s = s := by
  suffices h : ∀ run front rest, IsRun run → front ++ run.reverse ++ rest = s →
      mapBlankRuns f run rest = run.reverse ++ rest from h [] [] s isRun_nil rfl
  intro run front rest hrun hs
  induction rest generalizing run front with
  | nil => rw [mapBlankRuns, hf run.reverse front [] hrun.reverse hs, List.append_nil]
  | cons c rest ih =>
    rw [mapBlankRuns]
    by_cases hc : Text.isBlank c = true
    · rw [if_pos hc, ih (c :: run) front (hrun.cons hc) (by simpa using hs)]
      simp
    · rw [if_neg hc, hf run.reverse front (c :: rest) hrun.reverse hs,
        ih [] (front ++ run.reverse ++ [c]) isRun_nil (by simpa using hs)]
      rfl

end

/-! ## Layouts -/

theorem isRun_foldRun {run : List Char} (hrun : IsRun run) : IsRun (foldRun run) := by
  rw [foldRun]
  split_ifs
  · intro c hc
    obtain rfl := List.mem_singleton.mp hc
    decide
  · exact hrun

/-- The indentation of a run is its end. -/
theorem indentation_isSuffix (run : List Char) : indentation run <:+ run := by
  rw [indentation, ← List.reverse_prefix, List.reverse_reverse]
  exact List.takeWhile_prefix _

theorem notMem_indentation (run : List Char) : '\n' ∉ indentation run := by
  intro hmem
  rw [indentation, List.mem_reverse] at hmem
  have hline := List.all_eq_true.mp List.all_takeWhile _ hmem
  simp at hline

/-- Behind the last line feed of a run stands the indentation. -/
theorem indentation_append_cons (front : List Char) {back : List Char} (hback : '\n' ∉ back) :
    indentation (front ++ '\n' :: back) = back := by
  have hline : ∀ c ∈ back.reverse, (c != '\n') = true := by
    intro c hc
    rw [bne_iff_ne]
    rintro rfl
    exact hback (List.mem_reverse.mp hc)
  have hreverse : (front ++ '\n' :: back).reverse = back.reverse ++ '\n' :: front.reverse := by simp
  rw [indentation, hreverse, Text.takeWhile_run hline (by rintro c ⟨⟩; decide),
    List.reverse_reverse]

theorem isRun_tidyRun {run : List Char} (hrun : IsRun run) : IsRun (tidyRun run) := by
  rw [tidyRun]
  split_ifs
  · exact IsRun.cons (by decide) fun c hc => hrun c ((indentation_isSuffix run).mem hc)
  · exact hrun

namespace Layout

/-- What a layout makes of a run of blanks. -/
def onRun : Layout → List Char → List Char
  | .singleLine => foldRun
  | .withoutBlankLines => tidyRun
  | .verbatim => id

/-- What a layout makes of a text inside a statement. -/
def spread (layout : Layout) (s : List Char) : List Char :=
  mapBlankRuns layout.onRun [] s

/-- What a layout makes of the beginning of a statement. -/
def opening (layout : Layout) (s : List Char) : List Char :=
  match layout with
  | .singleLine => Text.trimLeft (layout.spread s)
  | _ => layout.spread s

/-- What a layout makes of the end of a statement. -/
def closing (layout : Layout) (s : List Char) : List Char :=
  match layout with
  | .singleLine => Text.trimRight (layout.spread s)
  | _ => layout.spread s

/-- A layout maps runs to runs. -/
theorem isRun_onRun (layout : Layout) {run : List Char} (hrun : IsRun run) :
    IsRun (layout.onRun run) := by
  cases layout with
  | singleLine => exact isRun_foldRun hrun
  | withoutBlankLines => exact isRun_tidyRun hrun
  | verbatim => exact hrun

/-- A layout keeps all characters but blanks. -/
theorem filter_spread (layout : Layout) (s : List Char) :
    (layout.spread s).filter isSolid = s.filter isSolid :=
  filter_mapBlankRuns (fun _ => layout.isRun_onRun) isRun_nil s

/-- A layout of a literal between its quotes does not depend on what stands around it. -/
theorem applyChars_literal (layout : Layout) (before text after : List Char) :
    layout.applyChars (before ++ '\'' :: text ++ '\'' :: after) =
      layout.opening before ++ '\'' :: layout.spread text ++ '\'' :: layout.closing after := by
  have hquote : Text.isBlank '\'' = false := by decide
  have hspread : layout.spread (before ++ '\'' :: text ++ '\'' :: after) =
      layout.spread before ++ '\'' :: layout.spread text ++ '\'' :: layout.spread after := by
    rw [spread, mapBlankRuns_append_cons _ _ _ _ hquote, mapBlankRuns_append_cons _ _ _ _ hquote]
    rfl
  cases layout with
  | singleLine =>
    have happly : applyChars .singleLine (before ++ '\'' :: text ++ '\'' :: after) =
        Text.trim (spread .singleLine (before ++ '\'' :: text ++ '\'' :: after)) := rfl
    rw [happly, hspread, Text.trim,
      Text.trimRight_append_cons hquote, List.append_assoc, List.cons_append,
      Text.trimLeft_append_cons hquote]
    simp [opening, closing]
  | withoutBlankLines => exact hspread
  | verbatim =>
    have hverbatim (s : List Char) : spread .verbatim s = s := by
      exact mapBlankRuns_eq_self fun _ _ _ _ _ => rfl
    simp [applyChars, opening, closing, hverbatim]

/-- The beginning of a statement keeps its quotation marks. -/
theorem count_opening (layout : Layout) (s : List Char) :
    (layout.opening s).count '\'' = s.count '\'' := by
  have hquote : isSolid '\'' = true := by decide
  have htrim (s : List Char) : (Text.trimLeft s).filter isSolid = s.filter isSolid := by
    induction s with
    | nil => rfl
    | cons c s ih =>
      by_cases hc : Text.isBlank c = true
      · rw [Text.trimLeft, List.dropWhile_cons_of_pos hc, ← Text.trimLeft, ih,
          List.filter_cons_of_neg (not_isSolid_of_isBlank hc)]
      · rw [Text.trimLeft, List.dropWhile_cons_of_neg hc]
  have hfilter : (layout.opening s).filter isSolid = s.filter isSolid := by
    cases layout with
    | singleLine => exact (htrim _).trans (filter_spread _ s)
    | _ => exact filter_spread _ s
  rw [← List.count_filter hquote, hfilter, List.count_filter hquote]

/-- A text without quotation marks gets none. -/
theorem notMem_spread (layout : Layout) {s : List Char} (hs : '\'' ∉ s) :
    '\'' ∉ layout.spread s := by
  intro hmem
  have hquote : isSolid '\'' = true := by decide
  have hfilter := List.mem_filter.mpr ⟨hmem, hquote⟩
  rw [filter_spread] at hfilter
  exact hs (List.mem_filter.mp hfilter).1

/-! ## Texts that stay as they are -/

/-- Whether a layout leaves a text inside a statement as it is: no line feed may be folded,
or none may stand behind a blank. -/
def Keeps : Layout → List Char → Prop
  | .singleLine, s => '\n' ∉ s
  | .withoutBlankLines, s => s.IsChain fun c d => d = '\n' → Text.isBlank c = false
  | .verbatim, _ => True

instance (layout : Layout) (s : List Char) : Decidable (layout.Keeps s) := by
  unfold Keeps
  split <;> infer_instance

/-- Nothing stands before a line feed where there is none behind the first character. -/
theorem isChain_of_notMem_tail {c : Char} {s : List Char} (hs : '\n' ∉ s) :
    (c :: s).IsChain fun c d => d = '\n' → Text.isBlank c = false := by
  induction s generalizing c with
  | nil => exact .singleton c
  | cons d s ih =>
    rw [List.mem_cons, not_or] at hs
    exact .cons_cons (fun hd => absurd hd.symm hs.1) (ih hs.2)

/-- In a run, a line feed behind the first character stands behind a blank. -/
theorem notMem_tail_of_isChain {c : Char} {run : List Char} (hrun : IsRun (c :: run))
    (hchain : (c :: run).IsChain fun c d => d = '\n' → Text.isBlank c = false) :
    '\n' ∉ run := by
  induction run generalizing c with
  | nil => exact List.not_mem_nil
  | cons d run ih =>
    rw [List.isChain_cons_cons] at hchain
    have hfirst : d ≠ '\n' := by
      intro hd
      have hblank := hrun c List.mem_cons_self
      rw [hchain.1 hd] at hblank
      cases hblank
    have hrest := ih (fun e he => hrun e (List.mem_cons_of_mem c he)) hchain.2
    simp [hfirst.symm, hrest]

/-- Laying out gives a text that would stay as it is. -/
theorem keeps_spread (layout : Layout) (s : List Char) : layout.Keeps (layout.spread s) := by
  cases layout with
  | singleLine =>
    refine mapBlankRuns_induction (motive := fun s => '\n' ∉ s) (fun run _ => ?_) ?_
      isRun_nil s
    · show '\n' ∉ foldRun run
      rw [foldRun]
      split_ifs with hrun
      · decide
      · simpa using hrun
    · intro s c t hc hs ht
      have hne : '\n' ≠ c := by rintro rfl; revert hc; decide
      simp [hs, ht, hne]
  | withoutBlankLines =>
    refine mapBlankRuns_induction
      (motive := List.IsChain fun c d => d = '\n' → Text.isBlank c = false)
      (fun run _ => ?_) ?_ isRun_nil s
    · show (tidyRun run).IsChain _
      rw [tidyRun]
      split_ifs with hrun
      · exact isChain_of_notMem_tail (notMem_indentation run)
      · cases run with
        | nil => exact .nil
        | cons c run => exact isChain_of_notMem_tail (by simp_all)
    · intro s c t hc hs ht
      rw [List.isChain_append, List.isChain_cons]
      refine ⟨hs, ⟨fun d _ _ => hc, ht⟩, ?_⟩
      rintro d - e ⟨⟩ rfl
      have hfeed : Text.isBlank '\n' = true := by decide
      rw [hfeed] at hc
      cases hc
  | verbatim => trivial

/-- A run that a layout would change does not stand in a text that it keeps. -/
theorem onRun_eq_self {layout : Layout} {s run front back : List Char} (hs : layout.Keeps s)
    (hrun : IsRun run) (hparts : front ++ run ++ back = s) : layout.onRun run = run := by
  cases layout with
  | singleLine =>
    have hfeed : '\n' ∉ run := fun hmem => hs (by simp [← hparts, hmem])
    exact if_neg (by simpa using hfeed)
  | withoutBlankLines =>
    show tidyRun run = run
    rw [tidyRun]
    split_ifs with hfeed
    · have hchain : run.IsChain fun c d => d = '\n' → Text.isBlank c = false :=
        List.IsChain.infix hs ⟨front, back, hparts⟩
      cases run with
      | nil => cases hfeed
      | cons c run =>
        -- only the first blank of the run can be a line feed
        have hrest := notMem_tail_of_isChain hrun hchain
        obtain rfl : '\n' = c := by simpa [hrest] using hfeed
        have hindentation : indentation ('\n' :: run) = run := indentation_append_cons [] hrest
        rw [hindentation]
    · rfl
  | verbatim => rfl

/-- A layout leaves just those texts inside a statement as they are. -/
theorem spread_eq_self_iff (layout : Layout) (s : List Char) :
    layout.spread s = s ↔ layout.Keeps s := by
  constructor
  · intro h
    rw [← h]
    exact layout.keeps_spread s
  · exact fun h => mapBlankRuns_eq_self fun _ _ _ => onRun_eq_self h

end Layout

end QueryGateway.Statement
