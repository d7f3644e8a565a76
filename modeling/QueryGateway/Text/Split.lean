import QueryGateway.Text.Blank

/-!
# Splitting texts

`pieces` cuts a text at every character of a class and keeps the empty
pieces, `cut` divides a text at the first occurrence of a separator, and
`words` are the non-empty pieces between blanks. Each has a form on `String`.
-/

namespace QueryGateway.Text

/-- The parts of a text between the characters satisfying `p`, in order. There
is always at least one part, and no part contains such a character. -/
def pieces (p : Char → Bool) : List Char → List (List Char)
  | [] => [[]]
  | c :: rest =>
    if p c then [] :: pieces p rest
    else
      match pieces p rest with
      | [] => [[c]]
      | part :: parts => (c :: part) :: parts

/-- The parts of a text between the occurrences of `sep`. -/
def splitAt (sep : Char) (s : List Char) : List (List Char) :=
  pieces (· == sep) s

/-- The maximal blank-free parts of a text. -/
def words (s : List Char) : List (List Char) :=
  (pieces isBlank s).filter (fun w => !w.isEmpty)

/-- What precedes and what follows the first occurrence of `sep`, if there is one. -/
def cut (sep : Char) : List Char → Option (List Char × List Char)
  | [] => none
  | c :: rest =>
    if c == sep then some ([], rest)
    else (cut sep rest).map fun (before, after) => (c :: before, after)

/-- What precedes and what follows the last occurrence of `sep`, if there is one. -/
def cutLast (sep : Char) (s : List Char) : Option (List Char × List Char) :=
  (cut sep s.reverse).map fun (after, before) => (before.reverse, after.reverse)

/-- What precedes and what follows the first occurrence of the text `sep`. -/
def cutText (sep : List Char) : List Char → Option (List Char × List Char)
  | [] => if sep.isEmpty then some ([], []) else none
  | c :: rest =>
    if sep.isPrefixOf (c :: rest) then some ([], (c :: rest).drop sep.length)
    else (cutText sep rest).map fun (before, after) => (c :: before, after)

/-- The text without the given beginning, if it begins so. -/
def dropPrefix? (start s : List Char) : Option (List Char) :=
  if start.isPrefixOf s then some (s.drop start.length) else none

/-- The text without the given end, if it ends so. -/
def dropSuffix? (tail s : List Char) : Option (List Char) :=
  (dropPrefix? tail.reverse s.reverse).map List.reverse

/-- `cut` on strings. -/
def cutString (sep : Char) (s : String) : Option (String × String) :=
  (cut sep s.toList).map fun (before, after) => (String.ofList before, String.ofList after)

/-- `trim` on strings. -/
def trimString (s : String) : String :=
  String.ofList (trim s.toList)

/-- A text always has a first piece. -/
theorem pieces_ne_nil (p : Char → Bool) (s : List Char) : pieces p s ≠ [] := by
  cases s with
  | nil => simp [pieces]
  | cons c rest =>
    unfold pieces
    split
    · simp
    · split <;> simp

/-- Cutting finds a decomposition around the separator. -/
theorem eq_of_cut {sep : Char} {s before after : List Char}
    (hcut : cut sep s = some (before, after)) : s = before ++ sep :: after := by
  induction s generalizing before with
  | nil => simp [cut] at hcut
  | cons c rest ih =>
    unfold cut at hcut
    split at hcut
    · next h =>
      simp only [Option.some.injEq, Prod.mk.injEq] at hcut
      obtain ⟨rfl, rfl⟩ := hcut
      simp [beq_iff_eq.1 h]
    · obtain ⟨⟨b, a⟩, hb, heq⟩ := Option.map_eq_some_iff.1 hcut
      simp only [Prod.mk.injEq] at heq
      obtain ⟨rfl, rfl⟩ := heq
      simp [ih hb]

/-- Cutting at a text leaves the text without what precedes and without the separator. -/
theorem length_of_cutText {sep s before after : List Char}
    (hcut : cutText sep s = some (before, after)) : after.length + sep.length ≤ s.length := by
  induction s generalizing before with
  | nil =>
    unfold cutText at hcut
    split at hcut
    · next h =>
      simp only [Option.some.injEq, Prod.mk.injEq] at hcut
      simp [← hcut.2, List.isEmpty_iff.1 h]
    · simp at hcut
  | cons c rest ih =>
    unfold cutText at hcut
    split at hcut
    · next h =>
      simp only [Option.some.injEq, Prod.mk.injEq] at hcut
      have := (List.isPrefixOf_iff_prefix.1 h).length_le
      rw [← hcut.2, List.length_drop]
      omega
    · obtain ⟨⟨b, a⟩, hb, heq⟩ := Option.map_eq_some_iff.1 hcut
      simp only [Prod.mk.injEq] at heq
      have := ih (heq.2 ▸ hb)
      simp only [List.length_cons]
      omega

section

variable {p : Char → Bool} {run rest : List Char}

/-- A run of characters of a class ends where a character outside the class stands. -/
theorem takeWhile_run (hrun : ∀ c ∈ run, p c = true) (hrest : ∀ c ∈ rest.head?, p c = false) :
    (run ++ rest).takeWhile p = run := by
  rw [List.takeWhile_append_of_pos hrun]
  cases rest with
  | nil => simp
  | cons c rest => rw [List.takeWhile_cons_of_neg (by simp [hrest c rfl]), List.append_nil]

/-- After a run of characters of a class comes what follows the run. -/
theorem dropWhile_run (hrun : ∀ c ∈ run, p c = true) (hrest : ∀ c ∈ rest.head?, p c = false) :
    (run ++ rest).dropWhile p = rest := by
  rw [List.dropWhile_append_of_pos hrun]
  cases rest with
  | nil => rfl
  | cons c rest => rw [List.dropWhile_cons_of_neg (by simp [hrest c rfl])]

end

end QueryGateway.Text
