import Mathlib.Data.List.Forall2
import QueryGateway.Proofs.Routing.Shapes
import QueryGateway.Routing.Dispatch

/-!
# Priority of addresses

Several addresses can match one path. A literal wins over a capture where two of them first
differ in kind. Among addresses of one length this is a strict order, and two addresses that
match one path are incomparable only if they have the same shape.
-/

namespace QueryGateway

namespace Url

/-- The parts of a path that an address is compared with. A path that is not rooted has
none. -/
def parts (path : String) : List (List Char) :=
  (pathSegments? path).getD []

variable {a b c : List Segment} {ps : List (List Char)}

/-! ## The order -/

/-- A matching address has a segment for each part. -/
theorem length_eq_of_accepts (h : accepts a ps = true) : a.length = ps.length := by
  induction a generalizing ps with
  | nil =>
    cases ps with
    | nil => rfl
    | cons part ps => cases h
  | cons s a ih =>
    cases ps with
    | nil => cases h
    | cons part ps =>
      have htail : accepts a ps = true := (Bool.and_eq_true_iff.mp h).2
      rw [List.length_cons, List.length_cons, ih htail]

/-- Of two addresses only one wins. -/
theorem wins_asymm (h : wins a b = true) : wins b a = false := by
  induction a generalizing b with
  | nil => cases h
  | cons s a ih =>
    cases b with
    | nil => cases s <;> cases h
    | cons s' b =>
      cases s <;> cases s'
      · exact ih h
      · rfl
      · cases h
      · exact ih h

/-- No address wins over itself. -/
theorem wins_self (a : List Segment) : wins a a = false := by
  cases h : wins a a with
  | false => rfl
  | true => exact h.symm.trans (wins_asymm h)

/-- An address between two that are ordered is ordered with one of them. -/
theorem wins_or_wins (h : wins a c = true) (hlength : a.length = b.length) :
    wins a b = true ∨ wins b c = true := by
  induction a generalizing b c with
  | nil => cases h
  | cons s a ih =>
    cases b with
    | nil => cases hlength
    | cons s' b =>
      cases c with
      | nil => cases s <;> cases h
      | cons s'' c =>
        have htails : a.length = b.length := Nat.succ.inj hlength
        -- only where all three have one kind is the decision left to the other segments
        cases s <;> cases s' <;> cases s''
        · exact ih h htails
        · exact .inr rfl
        · exact .inl rfl
        · exact .inl rfl
        · cases h
        · exact .inr rfl
        · cases h
        · exact ih h htails

/-- Addresses that match one path have the same shape if none of them wins. -/
theorem shape_eq_of_not_wins (ha : accepts a ps = true) (hb : accepts b ps = true)
    (hab : wins a b = false) (hba : wins b a = false) :
    a.map Segment.shape = b.map Segment.shape := by
  induction ps generalizing a b with
  | nil =>
    have hlength := length_eq_of_accepts ha
    have hlength' := length_eq_of_accepts hb
    rw [List.length_eq_zero_iff.mp hlength, List.length_eq_zero_iff.mp hlength']
  | cons part ps ih =>
    cases a with
    | nil => cases ha
    | cons s a =>
      cases b with
      | nil => cases hb
      | cons s' b =>
        obtain ⟨hs, htail⟩ := Bool.and_eq_true_iff.mp ha
        obtain ⟨hs', htail'⟩ := Bool.and_eq_true_iff.mp hb
        rw [List.map_cons, List.map_cons]
        cases s with
        | literal text =>
          cases s' with
          | literal text' =>
            have htext : text = text' := (beq_iff_eq.mp hs).trans (beq_iff_eq.mp hs').symm
            rw [ih htail htail' hab hba, htext]
          | capture name' => cases hab
        | capture name =>
          cases s' with
          | literal text' => cases hba
          | capture name' =>
            rw [ih htail htail' hab hba]
            rfl

/-! ## Addresses as they are written -/

/-- Whether a part of an address, as it is written, matches a part of a path: what stands in
braces matches every part but the empty one, and anything else matches itself. -/
def PartMatches (written part : List Char) : Prop :=
  match Segment.inBraces? written with
  | some _ => part ≠ []
  | none => part = written

/-- A part of an address matches what its segment matches. -/
theorem partMatches_of_parse {written part : List Char} {s : Segment}
    (h : Segment.parse written = .ok s) (haccepts : s.accepts part = true) :
    PartMatches written part := by
  rw [Segment.parse] at h
  rw [PartMatches]
  cases hbraces : Segment.inBraces? written with
  | some name =>
    rw [hbraces] at h
    dsimp only at h
    split at h
    · obtain rfl := Except.ok.inj h
      simpa [Segment.accepts] using haccepts
    · cases h
  | none =>
    rw [hbraces] at h
    dsimp only at h
    split at h
    · cases h
    · obtain rfl := Except.ok.inj h
      exact (beq_iff_eq.mp haccepts).symm

/-- The parts of an address match what its segments match. -/
theorem forall₂_partMatches {written : List (List Char)}
    (h : written.mapM Segment.parse = .ok a) (haccepts : accepts a ps = true) :
    List.Forall₂ PartMatches written ps := by
  induction written generalizing a ps with
  | nil =>
    obtain rfl := Except.ok.inj h
    cases ps with
    | nil => exact .nil
    | cons part ps => cases haccepts
  | cons first written ih =>
    rw [List.mapM_cons] at h
    obtain ⟨s, hs, h⟩ := exists_of_bind_eq_ok h
    obtain ⟨rest, hrest, h⟩ := exists_of_bind_eq_ok h
    obtain rfl := Except.ok.inj h
    cases ps with
    | nil => cases haccepts
    | cons part ps =>
      obtain ⟨hpart, hparts⟩ := Bool.and_eq_true_iff.mp haccepts
      exact .cons (partMatches_of_parse hs hpart) (ih hrest hparts)

/-- An address that matches a path does so segment by segment. -/
theorem forall₂_of_accepts {url : List Char} {path : String} (h : Url.parse url = .ok a)
    (haccepts : accepts a (parts path) = true) :
    List.Forall₂ PartMatches (Text.splitAt '/' url) (Text.splitAt '/' path.toList) := by
  obtain ⟨hne, -⟩ := wellFormed_of_parse h
  unfold parts pathSegments? at haccepts
  split at haccepts
  · next rest hpath =>
    rw [Option.getD_some] at haccepts
    unfold Url.parse at h
    split at h
    · next written =>
      rw [hpath, Text.splitAt_cons_sep, Text.splitAt_cons_sep]
      exact .cons rfl (forall₂_partMatches h haccepts)
    · cases h
  · have hlength := length_eq_of_accepts haccepts
    exact absurd (List.length_eq_zero_iff.mp hlength) hne

end Url

/-! ## The route that wins -/

namespace Route

/-- The fold over the routes that match a path ends with one that no other wins over. -/
theorem unbeaten_foldl {n : Nat} {first : Route} {rest : List Route}
    (hlength : ∀ r ∈ first :: rest, r.segments.length = n) :
    ∃ best ∈ first :: rest,
      rest.foldl (fun b r => if Url.wins r.segments b.segments then r else b) first = best ∧
        ∀ r ∈ first :: rest, Url.wins r.segments best.segments = false := by
  induction rest generalizing first with
  | nil =>
    exact ⟨first, List.mem_cons_self, rfl, List.forall_mem_singleton.mpr (Url.wins_self _)⟩
  | cons next rest ih =>
    rw [List.forall_mem_cons, List.forall_mem_cons] at hlength
    obtain ⟨hfirst, hnext, hrest⟩ := hlength
    rw [List.foldl_cons]
    by_cases hwins : Url.wins next.segments first.segments = true
    · rw [if_pos hwins]
      obtain ⟨best, hmem, hbest, hunbeaten⟩ := ih (List.forall_mem_cons.mpr ⟨hnext, hrest⟩)
      refine ⟨best, List.mem_cons_of_mem _ hmem, hbest, List.forall_mem_cons.mpr ⟨?_, hunbeaten⟩⟩
      -- what the beaten route wins over is beaten by the next one too
      refine Bool.eq_false_iff.mpr fun hbeaten => ?_
      rcases Url.wins_or_wins hbeaten (hfirst.trans hnext.symm) with h | h
      · rw [Url.wins_asymm hwins] at h
        cases h
      · rw [hunbeaten next List.mem_cons_self] at h
        cases h
    · rw [if_neg hwins]
      obtain ⟨best, hmem, hbest, hunbeaten⟩ := ih (List.forall_mem_cons.mpr ⟨hfirst, hrest⟩)
      rw [List.forall_mem_cons] at hunbeaten
      refine ⟨best, ?_, hbest, List.forall_mem_cons.mpr ⟨hunbeaten.1,
        List.forall_mem_cons.mpr ⟨?_, hunbeaten.2⟩⟩⟩
      · rcases List.mem_cons.mp hmem with rfl | hmem
        · exact List.mem_cons_self
        · exact List.mem_cons_of_mem _ (List.mem_cons_of_mem _ hmem)
      · refine Bool.eq_false_iff.mpr fun hbeaten => ?_
        rcases Url.wins_or_wins hbeaten (hnext.trans hfirst.symm) with h | h
        · exact hwins h
        · rw [hunbeaten.1] at h
          cases h

end Route

end QueryGateway
