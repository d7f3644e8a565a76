import QueryGateway.Proofs.Statement.Literals

/-!
# Line breaks as patterns

The layouts of statements are replacements of a pattern: a line break with the blanks before it,
and for one layout with those behind it as well. Matches are sought from left to right; at each
place as many blanks as there are are tried first, then fewer. This module finds the match that
is chosen in a run of blanks, and so reduces the replacement to a change of each run.
-/

namespace QueryGateway.Statement

/-! ## Patterns -/

/-- How a pattern matches at the beginning of a text: the numbers of characters that it can
take, in the order in which they are tried. -/
abbrev Ways := List Char → List Nat

namespace Ways

/-- One character of a class. -/
def one (p : Char → Bool) : Ways
  | [] => []
  | c :: _ => if p c then [1] else []

/-- As many characters of a class as there are, or else fewer. -/
def many (p : Char → Bool) : Ways
  | [] => [0]
  | c :: s => if p c then (many p s).map (· + 1) ++ [0] else [0]

/-- A pattern, or else nothing. -/
def optional (a : Ways) : Ways := fun s =>
  a s ++ [0]

/-- A pattern behind another one, which is tried in all its ways for each way of the first. -/
def followedBy (a b : Ways) : Ways := fun s =>
  (a s).flatMap fun n => (b (s.drop n)).map (n + ·)

/-- The end of a line: a line feed with or without a carriage return before it. -/
def lineEnd : Ways :=
  (optional (one (· == '\r'))).followedBy (one (· == '\n'))

/-- A line break with the blanks before it: `\s*\r?\n`. -/
def trailingBreak : Ways :=
  (many Text.isBlank).followedBy lineEnd

/-- A line break with the blanks around it: `\s*\r?\n\s*`. -/
def surroundedBreak : Ways :=
  trailingBreak.followedBy (many Text.isBlank)

/-- The text with each match replaced. The leftmost match is replaced first, and the search goes
on behind it. -/
def replaceAll (a : Ways) (new : List Char) : List Char → List Char
  | [] => []
  | c :: s =>
    match (a (c :: s)).head? with
    | some (n + 1) => new ++ replaceAll a new (s.drop n)
    | _ => c :: replaceAll a new s
  termination_by s => s.length
  decreasing_by all_goals simp only [List.length_drop, List.length_cons]; omega

variable {p : Char → Bool} {run front back rest s : List Char} {c : Char} {n : Nat}

/-! ## Ways of one place -/

/-- At a character of the class it is taken before anything else is tried. -/
theorem many_followedBy_cons (b : Ways) (hc : p c = true) (s : List Char) :
    (many p).followedBy b (c :: s) =
      ((many p).followedBy b s).map (· + 1) ++ b (c :: s) := by
  have hshift (k : Nat) : (b ((c :: s).drop (k + 1))).map (k + 1 + ·) =
      ((b (s.drop k)).map (k + ·)).map (· + 1) := by
    rw [List.drop_succ_cons, List.map_map]
    exact List.map_congr_left fun m _ => by simp only [Function.comp]; omega
  rw [followedBy, many, if_pos hc, List.flatMap_append, List.flatMap_map, followedBy,
    List.map_flatMap]
  simp only [hshift, List.flatMap_cons, List.flatMap_nil, List.append_nil, List.drop_zero,
    Nat.zero_add, List.map_id']

/-- Where no character of the class stands, nothing is taken. -/
theorem many_followedBy_of_head (b : Ways) (hs : ∀ c ∈ s.head?, p c = false) :
    (many p).followedBy b s = b s := by
  have hmany : many p s = [0] := by
    cases s with
    | nil => rfl
    | cons c s => rw [many, if_neg (by simp [hs c rfl])]
  simp [followedBy, hmany]

/-- All characters of a run are taken first. -/
theorem head?_many (hrun : ∀ c ∈ run, p c = true) (hrest : ∀ c ∈ rest.head?, p c = false) :
    (many p (run ++ rest)).head? = some run.length := by
  induction run with
  | nil =>
    cases rest with
    | nil => rfl
    | cons c rest => rw [List.nil_append, many, if_neg (by simp [hrest c rfl])]; rfl
  | cons c run ih =>
    obtain ⟨hc, hrun⟩ := List.forall_mem_cons.mp hrun
    rw [List.cons_append, many, if_pos hc, List.head?_append, List.head?_map, ih hrun]
    rfl

/-- If two patterns match at a place, their first ways are taken one behind the other. -/
theorem head?_followedBy {a b : Ways} {m : Nat} (ha : (a s).head? = some n)
    (hb : (b (s.drop n)).head? = some m) : (a.followedBy b s).head? = some (n + m) := by
  obtain ⟨others, hways⟩ := List.head?_eq_some_iff.mp ha
  rw [followedBy, hways, List.flatMap_cons, List.head?_append, List.head?_map, hb]
  rfl

/-! ## Line breaks -/

/-- A line ends at a line feed, or at a carriage return with a line feed behind it. -/
theorem lineEnd_cons (c : Char) (s : List Char) :
    lineEnd (c :: s) =
      if c = '\n' then [1] else if c = '\r' ∧ s.head? = some '\n' then [2] else [] := by
  by_cases hfeed : c = '\n'
  · subst hfeed
    rfl
  · by_cases hreturn : c = '\r'
    · subst hreturn
      cases s with
      | nil => rfl
      | cons d s => by_cases hd : d = '\n' <;> simp [lineEnd, followedBy, optional, one, hd]
    · simp [lineEnd, followedBy, optional, one, hfeed, hreturn]

/-- No line break is found in a run without line feeds. -/
theorem trailingBreak_of_notMem (hrun : IsRun run) (hfeed : '\n' ∉ run)
    (hrest : ∀ c ∈ rest.head?, Text.isBlank c = false) : trailingBreak (run ++ rest) = [] := by
  have hhead : rest.head? ≠ some '\n' := fun h => absurd (hrest _ h) (by decide)
  induction run with
  | nil =>
    rw [List.nil_append, trailingBreak, many_followedBy_of_head _ hrest]
    cases rest with
    | nil => rfl
    | cons c rest =>
      have hc := hrest c rfl
      have hfeed : c ≠ '\n' := by rintro rfl; revert hc; decide
      have hreturn : c ≠ '\r' := by rintro rfl; revert hc; decide
      simp [lineEnd_cons, hfeed, hreturn]
  | cons c run ih =>
    obtain ⟨hc, hrun⟩ := List.forall_mem_cons.mp hrun
    rw [List.mem_cons, not_or] at hfeed
    have hnext : (run ++ rest).head? ≠ some '\n' := by
      cases run with
      | nil => exact hhead
      | cons d run =>
        intro h
        obtain rfl := Option.some.inj h
        exact hfeed.2 List.mem_cons_self
    have hnone := ih hrun hfeed.2
    rw [trailingBreak] at hnone
    rw [List.cons_append, trailingBreak, many_followedBy_cons _ hc, hnone, lineEnd_cons,
      if_neg (Ne.symm hfeed.1), if_neg fun h => hnext h.2]
    rfl

/-- In a run with line feeds the match that is tried first ends at the last of them. -/
theorem head?_trailingBreak (hfront : IsRun front) (hback : IsRun back) (hfeed : '\n' ∉ back)
    (hrest : ∀ c ∈ rest.head?, Text.isBlank c = false) :
    (trailingBreak (front ++ '\n' :: (back ++ rest))).head? = some (front.length + 1) := by
  induction front with
  | nil =>
    have hnone := trailingBreak_of_notMem hback hfeed hrest
    rw [trailingBreak] at hnone
    rw [List.nil_append, trailingBreak, many_followedBy_cons _ (by decide), hnone, lineEnd_cons]
    rfl
  | cons c front ih =>
    obtain ⟨hc, hfront⟩ := List.forall_mem_cons.mp hfront
    have hfirst := ih hfront
    rw [trailingBreak] at hfirst
    rw [List.cons_append, trailingBreak, many_followedBy_cons _ hc, List.head?_append,
      List.head?_map, hfirst]
    rfl

/-- With the blanks behind it, the match reaches to the end of the run. -/
theorem head?_surroundedBreak (hfront : IsRun front) (hback : IsRun back) (hfeed : '\n' ∉ back)
    (hrest : ∀ c ∈ rest.head?, Text.isBlank c = false) :
    (surroundedBreak (front ++ '\n' :: (back ++ rest))).head? =
      some (front.length + 1 + back.length) := by
  have hdrop : (front ++ '\n' :: (back ++ rest)).drop (front.length + 1) = back ++ rest := by
    simp [List.drop_append]
  refine head?_followedBy (head?_trailingBreak hfront hback hfeed hrest) ?_
  rw [hdrop]
  exact head?_many hback hrest

/-- No line break with the blanks around it is found in a run without line feeds. -/
theorem surroundedBreak_of_notMem (hrun : IsRun run) (hfeed : '\n' ∉ run)
    (hrest : ∀ c ∈ rest.head?, Text.isBlank c = false) : surroundedBreak (run ++ rest) = [] := by
  rw [surroundedBreak, followedBy, trailingBreak_of_notMem hrun hfeed hrest, List.flatMap_nil]

/-! ## Replacement -/

variable {a : Ways} {new : List Char}

/-- Where nothing matches, a character stays. -/
theorem replaceAll_cons_of_nil (hnone : a (c :: s) = []) :
    replaceAll a new (c :: s) = c :: replaceAll a new s := by
  rw [replaceAll, hnone]
  rfl

/-- Where something matches, the match that is tried first is replaced. -/
theorem replaceAll_of_head? (hs : s ≠ []) (hfirst : (a s).head? = some (n + 1)) :
    replaceAll a new s = new ++ replaceAll a new (s.drop (n + 1)) := by
  obtain ⟨c, s, rfl⟩ := List.exists_cons_of_ne_nil hs
  rw [replaceAll, hfirst, List.drop_succ_cons]

/-- A run in which nothing matches stays. -/
theorem replaceAll_run (hnone : ∀ run, IsRun run → '\n' ∉ run → a (run ++ rest) = [])
    (hrun : IsRun run) (hfeed : '\n' ∉ run) :
    replaceAll a new (run ++ rest) = run ++ replaceAll a new rest := by
  induction run with
  | nil => rfl
  | cons c run ih =>
    have htail : '\n' ∉ run := fun h => hfeed (List.mem_cons_of_mem c h)
    have hfirst : a (c :: (run ++ rest)) = [] := hnone (c :: run) hrun hfeed
    rw [List.cons_append, replaceAll_cons_of_nil hfirst, ih (List.forall_mem_cons.mp hrun).2 htail,
      List.cons_append]

/-- In a run, the line break with the blanks before it is replaced. -/
theorem replaceAll_trailingBreak_run (hrun : IsRun run)
    (hrest : ∀ c ∈ rest.head?, Text.isBlank c = false) :
    replaceAll trailingBreak ['\n'] (run ++ rest) =
      tidyRun run ++ replaceAll trailingBreak ['\n'] rest := by
  have hnone (run : List Char) (hrun : IsRun run) (hfeed : '\n' ∉ run) :
      trailingBreak (run ++ rest) = [] := trailingBreak_of_notMem hrun hfeed hrest
  by_cases hfeed : '\n' ∈ run
  · obtain ⟨front, back, rfl, hlast⟩ := Text.exists_last_of_mem hfeed
    obtain ⟨hfront, htail⟩ := List.forall_mem_append.mp hrun
    have hback : IsRun back := (List.forall_mem_cons.mp htail).2
    have hdrop : (front ++ '\n' :: (back ++ rest)).drop (front.length + 1) = back ++ rest := by
      simp [List.drop_append]
    rw [List.append_assoc, List.cons_append,
      replaceAll_of_head? (by simp) (head?_trailingBreak hfront hback hlast hrest), hdrop,
      replaceAll_run hnone hback hlast, tidyRun, if_pos (by simp),
      indentation_append_cons front hlast]
    simp
  · rw [replaceAll_run hnone hrun hfeed, tidyRun, if_neg (by simpa using hfeed)]

/-- In a run, the line break with the blanks around it is replaced. -/
theorem replaceAll_surroundedBreak_run (hrun : IsRun run)
    (hrest : ∀ c ∈ rest.head?, Text.isBlank c = false) :
    replaceAll surroundedBreak [' '] (run ++ rest) =
      foldRun run ++ replaceAll surroundedBreak [' '] rest := by
  have hnone (run : List Char) (hrun : IsRun run) (hfeed : '\n' ∉ run) :
      surroundedBreak (run ++ rest) = [] := surroundedBreak_of_notMem hrun hfeed hrest
  by_cases hfeed : '\n' ∈ run
  · obtain ⟨front, back, rfl, hlast⟩ := Text.exists_last_of_mem hfeed
    obtain ⟨hfront, htail⟩ := List.forall_mem_append.mp hrun
    have hback : IsRun back := (List.forall_mem_cons.mp htail).2
    have hfirst : (surroundedBreak (front ++ '\n' :: (back ++ rest))).head? =
        some (front.length + back.length + 1) := by
      rw [head?_surroundedBreak hfront hback hlast hrest, Nat.add_right_comm]
    have hdrop : (front ++ '\n' :: (back ++ rest)).drop (front.length + back.length + 1) =
        rest := by
      simp [List.drop_append, Nat.add_assoc]
    rw [List.append_assoc, List.cons_append, replaceAll_of_head? (by simp) hfirst, hdrop, foldRun,
      if_pos (by simp)]
  · rw [replaceAll_run hnone hrun hfeed, foldRun, if_neg (by simpa using hfeed)]

/-- A replacement that changes each run of blanks on its own, and no other character. -/
theorem replaceAll_eq_mapBlankRuns {f : List Char → List Char}
    (hrun : ∀ run rest, IsRun run → (∀ c ∈ rest.head?, Text.isBlank c = false) →
      replaceAll a new (run ++ rest) = f run ++ replaceAll a new rest)
    (hsolid : ∀ c s, Text.isBlank c = false → a (c :: s) = []) (s : List Char) :
    replaceAll a new s = mapBlankRuns f [] s := by
  induction s using run_induction with
  | hlast run h =>
    have hnil : replaceAll a new [] = [] := by rw [replaceAll]
    have hwhole := hrun run [] h (by simp)
    rw [List.append_nil, hnil, List.append_nil] at hwhole
    rw [hwhole, mapBlankRuns_of_isRun f h]
  | hnext run c s h hc ih =>
    rw [hrun run (c :: s) h (by simpa using hc), replaceAll_cons_of_nil (hsolid c s hc), ih,
      mapBlankRuns_run_append f h hc]

/-- Replacing the line breaks with the blanks before them changes each run of blanks. -/
theorem replaceAll_trailingBreak (s : List Char) :
    replaceAll trailingBreak ['\n'] s = mapBlankRuns tidyRun [] s :=
  replaceAll_eq_mapBlankRuns (fun _ _ => replaceAll_trailingBreak_run)
    (fun _ _ hc => trailingBreak_of_notMem isRun_nil List.not_mem_nil (by simpa using hc)) s

/-- Replacing the line breaks with the blanks around them changes each run of blanks. -/
theorem replaceAll_surroundedBreak (s : List Char) :
    replaceAll surroundedBreak [' '] s = mapBlankRuns foldRun [] s :=
  replaceAll_eq_mapBlankRuns (fun _ _ => replaceAll_surroundedBreak_run)
    (fun _ _ hc => surroundedBreak_of_notMem isRun_nil List.not_mem_nil (by simpa using hc)) s

end Ways

end QueryGateway.Statement
