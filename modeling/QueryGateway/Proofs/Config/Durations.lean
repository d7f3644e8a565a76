import QueryGateway.Config.Settings
import QueryGateway.Proofs.Path.Integers

/-!
# Durations of the connection pool

A duration is configured as an integer, which is clamped to 64 bits and to zero, and multiplied
up to the longest duration. Integers that are out of reach of the 64-bit reading are no exception
for the reading of settings: they give the default, as if nothing was configured.
-/

namespace QueryGateway

namespace DatabaseSettings

open QueryGateway.Path (DenotesInteger InReach clampLong leastLong greatestLong)

variable {v : View} {expr : String} {N N' : ℤ}

/-- Whether an integer is configured at an expression. -/
def Configures (v : View) (expr : String) (N : ℤ) : Prop :=
  ∃ node, Path.get v.tree expr = .ok (some node) ∧ DenotesInteger node N

/-- The seconds that an integer stands for, in multiples of `unit` seconds. -/
def saturated (unit : ℕ) (N : ℤ) : ℕ :=
  min ((max (clampLong N) 0).toNat * unit) longestDuration

/-- A larger integer never stands for a shorter duration. -/
theorem saturated_mono (unit : ℕ) (h : N ≤ N') : saturated unit N ≤ saturated unit N' := by
  have hclamp : clampLong N ≤ clampLong N' := by
    simp only [clampLong]
    omega
  have hnat : (max (clampLong N) 0).toNat ≤ (max (clampLong N') 0).toNat := by omega
  exact min_le_min_right _ (Nat.mul_le_mul_right unit hnat)

/-- A negative integer stands for no time. -/
theorem saturated_of_neg (unit : ℕ) (h : N < 0) : saturated unit N = 0 := by
  have hclamp : clampLong N ≤ 0 := by
    simp only [clampLong, leastLong]
    omega
  rw [saturated, max_eq_right hclamp]
  simp

/-- The duration of a configured integer. -/
theorem duration_of_configures (h : Configures v expr N) (dflt : ℤ) (unit : ℕ) :
    duration v expr dflt unit =
      if InReach N then saturated unit N else min (dflt.toNat * unit) longestDuration := by
  obtain ⟨node, hget, hnode⟩ := h
  rw [duration, View.long, Path.getLong_of_denotesInteger hget hnode]
  by_cases hreach : InReach N
  · have hnat : (max (clampLong N) 0).toNat = (clampLong N).toNat := by omega
    rw [if_pos hreach, if_pos hreach, saturated, hnat]
    rfl
  · rw [if_neg hreach, if_neg hreach]
    rfl

/-- An integer out of reach stands for no time or for as long as 64 bits allow. -/
theorem saturated_of_not_inReach (unit : ℕ) (h : ¬ InReach N) :
    saturated unit N = 0 ∨ saturated unit N = min ((2 ^ 63 - 1) * unit) longestDuration := by
  by_cases hneg : N < 0
  · exact .inl (saturated_of_neg unit hneg)
  · right
    have hclamp : clampLong N = 2 ^ 63 - 1 := by
      simp only [InReach, clampLong, leastLong, greatestLong] at h ⊢
      omega
    rw [saturated, hclamp]
    rfl

/-- Whether a duration is what a configured integer stands for, which holds just within reach:
there a negative integer gives no time, and beyond it the default is taken. -/
structure IsGranted (unit dflt : ℕ) (N : ℤ) (seconds : ℕ) : Prop where
  eq_saturated_iff : seconds = saturated unit N ↔ InReach N
  eq_zero : InReach N → N < 0 → seconds = 0
  eq_default : ¬ InReach N → seconds = dflt

/-- A duration is granted if its default is none that an integer out of reach stands for. -/
theorem isGranted_duration (h : Configures v expr N) {unit dflt : ℕ} {number : ℤ}
    (hdflt : min (number.toNat * unit) longestDuration = dflt) (hpos : dflt ≠ 0)
    (hmost : dflt ≠ min ((2 ^ 63 - 1) * unit) longestDuration) :
    IsGranted unit dflt N (duration v expr number unit) := by
  rw [duration_of_configures h, hdflt]
  by_cases hreach : InReach N
  · rw [if_pos hreach]
    exact ⟨⟨fun _ => hreach, fun _ => rfl⟩, fun _ hneg => saturated_of_neg unit hneg,
      fun hout => absurd hreach hout⟩
  · rw [if_neg hreach]
    refine ⟨⟨fun heq => ?_, fun h => absurd h hreach⟩, fun h => absurd h hreach, fun _ => rfl⟩
    rcases saturated_of_not_inReach unit hreach with hzero | hlong
    · exact absurd (heq.trans hzero) hpos
    · exact absurd (heq.trans hlong) hmost

/-- Within reach a larger integer never gives a shorter duration. -/
theorem duration_mono {v' : View} (h : Configures v expr N) (h' : Configures v' expr N')
    (hreach : InReach N) (hreach' : InReach N') (hle : N ≤ N') (dflt : ℤ) (unit : ℕ) :
    duration v expr dflt unit ≤ duration v' expr dflt unit := by
  rw [duration_of_configures h, if_pos hreach, duration_of_configures h', if_pos hreach']
  exact saturated_mono unit hle

/-- The durations of settings that are given. -/
theorem durations_of_ofView {s : DatabaseSettings} (h : ofView v = .ok s) :
    s.maxLifetime = duration v "db.max_lifetime_minute" 5 60 ∧
      s.acquireTimeout = duration v "db.acquire_timeout_seconds" 5 1 := by
  rw [ofView] at h
  split at h
  · cases h
  · obtain rfl := Except.ok.inj h
    exact ⟨rfl, rfl⟩

/-- **Saturating durations.** With an address, settings are given. Their durations are the
configured integers clamped and multiplied exactly for the integers within reach of 64 bits, for
which they are monotone. -/
theorem durations_saturate_iff (hurl : v.text "db.url" "" ≠ "") :
    ∃ s, ofView v = .ok s ∧
      (∀ N, Configures v "db.max_lifetime_minute" N → IsGranted 60 300 N s.maxLifetime) ∧
      (∀ N, Configures v "db.acquire_timeout_seconds" N → IsGranted 1 5 N s.acquireTimeout) ∧
      ∀ v' s', ofView v' = .ok s' → ∀ N N', InReach N → InReach N' → N ≤ N' →
        (Configures v "db.max_lifetime_minute" N → Configures v' "db.max_lifetime_minute" N' →
          s.maxLifetime ≤ s'.maxLifetime) ∧
        (Configures v "db.acquire_timeout_seconds" N →
          Configures v' "db.acquire_timeout_seconds" N' →
            s.acquireTimeout ≤ s'.acquireTimeout) := by
  obtain ⟨s, hs⟩ : ∃ s, ofView v = .ok s := by
    have hne : (v.text "db.url" "").isEmpty = false := by simpa using hurl
    rw [ofView]
    simp only [hne, Bool.false_eq_true, if_false]
    exact ⟨_, rfl⟩
  obtain ⟨hlifetime, hacquire⟩ := durations_of_ofView hs
  refine ⟨s, hs, fun N h => ?_, fun N h => ?_, fun v' s' hs' N N' hreach hreach' hle => ?_⟩
  · rw [hlifetime]
    exact isGranted_duration h (by decide) (by decide) (by decide)
  · rw [hacquire]
    exact isGranted_duration h (by decide) (by decide) (by decide)
  · obtain ⟨hlifetime', hacquire'⟩ := durations_of_ofView hs'
    rw [hlifetime, hacquire, hlifetime', hacquire']
    exact ⟨fun h h' => duration_mono h h' hreach hreach' hle 5 60,
      fun h h' => duration_mono h h' hreach hreach' hle 5 1⟩

/-- The greatest lifetime within reach, and a negative timeout. -/
theorem durations_saturate_iff_edges :
    let v : View := ⟨.map [("db", .map [("acquire_timeout_seconds", .int (-4)),
      ("max_lifetime_minute", .int 9223372036854776832), ("url", .text "postgres://db")])]⟩
    v.text "db.url" "" ≠ "" ∧ ∃ s, ofView v = .ok s ∧
      s.maxLifetime = 2 ^ 64 - 1 ∧ s.acquireTimeout = 0 := by
  intro v
  have hurl : v.text "db.url" "" ≠ "" := by decide
  obtain ⟨s, hs, hlifetime, hacquire, -⟩ := durations_saturate_iff hurl
  have hlong : Configures v "db.max_lifetime_minute" 9223372036854776832 :=
    ⟨.int 9223372036854776832, rfl, .int _⟩
  have hshort : Configures v "db.acquire_timeout_seconds" (-4) :=
    ⟨.int (-4), rfl, .int _⟩
  exact ⟨hurl, s, hs, (hlifetime _ hlong).eq_saturated_iff.mpr (by decide),
    (hacquire _ hshort).eq_zero (by decide) (by decide)⟩

/-- A lifetime beyond the reach is not the longest one, but the default. -/
theorem maxLifetime_ne_saturated :
    let v : View := ⟨.map [("db", .map [("max_lifetime_minute", .int 18446744073709551615),
      ("url", .text "postgres://db")])]⟩
    v.text "db.url" "" ≠ "" ∧ Configures v "db.max_lifetime_minute" 18446744073709551615 ∧
      ∃ s, ofView v = .ok s ∧ s.maxLifetime = 300 ∧
        s.maxLifetime ≠ saturated 60 18446744073709551615 := by
  intro v
  have hurl : v.text "db.url" "" ≠ "" := by decide
  have hlong : Configures v "db.max_lifetime_minute" 18446744073709551615 :=
    ⟨.int 18446744073709551615, rfl, .int _⟩
  obtain ⟨s, hs⟩ : ∃ s, ofView v = .ok s := ⟨_, rfl⟩
  have hlifetime : s.maxLifetime = 300 := by
    rw [(durations_of_ofView hs).1, duration_of_configures hlong, if_neg (by decide)]
    rfl
  refine ⟨hurl, hlong, s, hs, hlifetime, ?_⟩
  rw [hlifetime]
  decide

end DatabaseSettings

end QueryGateway
