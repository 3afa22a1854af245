import HeaderRelay.Proofs.Attendance
import HeaderRelay.Proofs.Rounding
import Mathlib.Data.Rat.Floor
import Mathlib.Tactic.NormNum

set_option autoImplicit false

namespace HeaderRelay

/-- A finite number, exactly. -/
def Binary64.value? : Binary64 → Option ℚ
  | .finite negative mantissa exponent =>
      some (signedNumerator negative mantissa exponent / denominator exponent)
  | _ => none

namespace Retry

/-- What may be done with a policy and its schedule. -/
inductive Turn
  | reset
  /-- The delay after a fault is asked for. -/
  | ask (fault : Fault) (failures : Nat)

namespace Policy

/-- Where a schedule stands after a turn. -/
def after (policy : Policy) (backoff : Backoff) : Turn → Backoff
  | .reset => backoff.reset
  | .ask fault failures => (policy.nextDelay backoff fault failures).2

/-- Where a schedule stands after some turns. -/
def afterAll (policy : Policy) (backoff : Backoff) (turns : List Turn) : Backoff :=
  turns.foldl policy.after backoff

/-- How many delays are drawn since the last reset, with those that a turn draws. -/
def drawing (policy : Policy) (drawn : Nat) : Turn → Nat
  | .reset => 0
  | .ask fault failures => if policy.givesUp fault failures then drawn else drawn + 1

/-- How many delays some turns have drawn since the last reset. -/
def drawn (policy : Policy) (turns : List Turn) : Nat := turns.foldl policy.drawing 0

end Policy

namespace Growth

/-- The share of a limit that an interval must reach, exactly: nothing is left of it by an infinite
multiplier. -/
def share (multiplier : Binary64) (limit : Nat) : ℚ :=
  multiplier.value?.elim 0 fun factor => limit / factor

/-- Intervals up to a bound are compared and multiplied exactly, and cut to whole nanoseconds. -/
structure Exact (growth : Growth) (multiplier : Binary64) (bound : Nat) : Prop where
  reaches_iff : ∀ current ≤ bound, ∀ limit ≤ bound,
    growth.reaches current limit = true ↔ share multiplier limit ≤ current
  grown_eq : ∀ current ≤ bound, ∀ factor, multiplier.value? = some factor →
    growth.grown current = ⌊current * factor⌋₊
  delay_eq : ∀ current ≤ bound, growth.delay current = current

/-- Growth by a factor without any rounding. -/
def exact (multiplier : Binary64) : Growth where
  reaches current limit := decide (share multiplier limit ≤ current)
  grown current := multiplier.value?.elim current fun factor => ⌊current * factor⌋₊
  delay current := current

theorem exact_exact (multiplier : Binary64) (bound : Nat) :
    (exact multiplier).Exact multiplier bound where
  reaches_iff _ _ _ _ := decide_eq_true_iff
  grown_eq current _ factor same := by rw [exact, same]; rfl
  delay_eq _ _ := rfl

end Growth

namespace Backoff

/-- The delay of a schedule after so many others. -/
def delayAfter (backoff : Backoff) (n : Nat) : Nat := (backoff.advanced n).next.1

/-- The interval of a growing schedule after so many delays. -/
def interval (growth : Growth) (initial limit : Nat) : Nat → Nat
  | 0 => initial
  | n + 1 =>
      if growth.reaches (interval growth initial limit n) limit then limit
      else growth.grown (interval growth initial limit n)

variable {growth : Growth} {multiplier : Binary64} {initial limit : Nat} {factor : ℚ}

theorem delayAfter_fixed (delay n : Nat) : (Backoff.fixed delay).delayAfter n = delay := by
  have same : ∀ n, (Backoff.fixed delay).advanced n = .fixed delay := by
    intro n
    induction n with
    | zero => rfl
    | succ n ih => rw [advanced, ih, next]
  rw [delayAfter, same, next]

theorem delayAfter_growing (n : Nat) :
    (Backoff.growing growth initial limit initial).delayAfter n =
      growth.delay (interval growth initial limit n) := by
  have same : ∀ n, (Backoff.growing growth initial limit initial).advanced n =
      .growing growth initial limit (interval growth initial limit n) := by
    intro n
    induction n with
    | zero => rfl
    | succ n ih => rw [advanced, ih, next, interval]
  rw [delayAfter, same, next]

/-- One step of exact growth leads to the limit, or multiplies an interval that stays below it. -/
theorem interval_succ (exact : growth.Exact multiplier (max initial limit)) {n : Nat}
    (large : ∀ factor, multiplier.value? = some factor → 1 ≤ factor)
    (bounded : interval growth initial limit n ≤ max initial limit) :
    interval growth initial limit (n + 1) = limit ∨
      ∃ factor, multiplier.value? = some factor ∧ 1 ≤ factor ∧
        interval growth initial limit n * factor < limit ∧
        interval growth initial limit (n + 1) = ⌊interval growth initial limit n * factor⌋₊ := by
  rw [interval]
  split
  · exact .inl rfl
  · rename_i below
    rw [exact.reaches_iff _ bounded limit (le_max_right ..), Growth.share] at below
    cases finite : multiplier.value? with
    | none =>
      rw [finite] at below
      exact absurd (Nat.cast_nonneg _) below
    | some factor =>
      rw [finite] at below
      have atLeast := large factor finite
      have positive : 0 < factor := lt_of_lt_of_le one_pos atLeast
      refine .inr ⟨factor, rfl, atLeast, ?_, exact.grown_eq _ bounded factor finite⟩
      exact (lt_div_iff₀ positive).mp (not_le.mp below)

theorem interval_succ_le (exact : growth.Exact multiplier (max initial limit)) {n : Nat}
    (large : ∀ factor, multiplier.value? = some factor → 1 ≤ factor)
    (bounded : interval growth initial limit n ≤ max initial limit) :
    interval growth initial limit (n + 1) ≤ limit := by
  rcases interval_succ exact large bounded with same | ⟨factor, -, -, below, same⟩
  · exact same.le
  · rw [same]
    exact Nat.floor_le_of_le below.le

/-- No interval is above both the initial one and the limit. -/
theorem interval_le (exact : growth.Exact multiplier (max initial limit))
    (large : ∀ factor, multiplier.value? = some factor → 1 ≤ factor) (n : Nat) :
    interval growth initial limit n ≤ max initial limit := by
  induction n with
  | zero => exact le_max_left ..
  | succ n ih => exact (interval_succ_le exact large ih).trans (le_max_right ..)

/-- After the first delay an interval never shrinks. -/
theorem interval_rises (exact : growth.Exact multiplier (max initial limit))
    (large : ∀ factor, multiplier.value? = some factor → 1 ≤ factor) (n : Nat) :
    interval growth initial limit (n + 1) ≤ interval growth initial limit (n + 2) := by
  have capped := interval_succ_le exact large (interval_le exact large n)
  rcases interval_succ exact large (interval_le exact large (n + 1)) with
    same | ⟨factor, -, atLeast, -, same⟩
  · rw [same]
    exact capped
  · rw [same]
    exact Nat.le_floor (le_mul_of_one_le_right (Nat.cast_nonneg _) atLeast)

/-- With a whole multiplier an interval is multiplied, or cut to the limit. -/
theorem interval_succ_of_whole (exact : growth.Exact multiplier (max initial limit)) {k : Nat}
    (whole : multiplier.value? = some (k : ℚ)) (positive : 1 ≤ k) {n : Nat}
    (bounded : interval growth initial limit n ≤ max initial limit) :
    interval growth initial limit (n + 1) = min limit (interval growth initial limit n * k) := by
  have above : (0 : ℚ) < k := by exact_mod_cast positive
  have reaches : growth.reaches (interval growth initial limit n) limit = true ↔
      limit ≤ interval growth initial limit n * k := by
    rw [exact.reaches_iff _ bounded limit (le_max_right ..), Growth.share, whole,
      Option.elim_some, div_le_iff₀ above]
    exact_mod_cast Iff.rfl
  rw [interval]
  by_cases reached : limit ≤ interval growth initial limit n * k
  · rw [if_pos (reaches.mpr reached), min_eq_left reached]
  · rw [if_neg (mt reaches.mp reached), min_eq_right (not_le.mp reached).le,
      exact.grown_eq _ bounded k whole]
    exact_mod_cast Nat.floor_natCast _

/-- With a whole multiplier the intervals are its powers, cut to the limit. -/
theorem interval_of_whole (exact : growth.Exact multiplier (max initial limit)) {k : Nat}
    (large : ∀ factor, multiplier.value? = some factor → 1 ≤ factor)
    (whole : multiplier.value? = some (k : ℚ)) (n : Nat) :
    interval growth initial limit (n + 1) = min limit (initial * k ^ (n + 1)) := by
  have positive : 1 ≤ k := by exact_mod_cast large k whole
  induction n with
  | zero =>
    rw [interval_succ_of_whole exact whole positive (le_max_left ..), interval, pow_one]
  | succ n ih =>
    have grows : limit ≤ limit * k := Nat.le_mul_of_pos_right limit positive
    rw [interval_succ_of_whole exact whole positive (interval_le exact large _), ih,
      ← Nat.mul_min_mul_right, mul_assoc, ← pow_succ, ← min_assoc, min_eq_left grows]

end Backoff

/-- The delays of a schedule that grows by exact arithmetic, times in milliseconds: the first is
the initial interval, and the others follow the powers of the multiplier up to the limit. -/
structure Schedule.Grows (initial : Nat) (multiplier : Binary64) (limit : Nat)
    (delay : Nat → Nat) : Prop where
  first : delay 0 = initial * perMilli
  capped : ∀ n, delay (n + 1) ≤ limit * perMilli
  rising : ∀ n, delay (n + 1) ≤ delay (n + 2)
  whole : ∀ k n : Nat, multiplier.value? = some (k : ℚ) →
    delay (n + 1) = min (limit * perMilli) (initial * perMilli * k ^ (n + 1))

theorem one_le_of_ge {multiplier : Binary64} (large : multiplier.ge (Binary64.ofNat 1) = true)
    {factor : ℚ} (finite : multiplier.value? = some factor) : 1 ≤ factor := by
  have one : Binary64.ofNat 1 = .finite false 4503599627370496 (-52) := by decide
  rw [one] at large
  cases multiplier with
  | nan => cases finite
  | infinite negative => cases finite
  | finite negative mantissa exponent =>
    cases finite
    have positive : (0 : ℚ) < Binary64.denominator exponent := by
      exact_mod_cast Binary64.denominator_pos exponent
    have above : (Binary64.denominator exponent : Int) ≤
        Binary64.signedNumerator negative mantissa exponent := by
      have top : Binary64.signedNumerator false 4503599627370496 (-52) = 4503599627370496 := by
        decide
      have bottom : Binary64.denominator (-52) = 4503599627370496 := by decide
      have scaled := of_decide_eq_true large
      rw [top, bottom] at scaled
      omega
    rw [le_div_iff₀ positive, one_mul]
    exact_mod_cast above

theorem Backoff.grows {growth : Growth} {multiplier : Binary64} {initial limit : Nat}
    (exact : growth.Exact multiplier (max initial limit * perMilli))
    (large : ∀ factor, multiplier.value? = some factor → 1 ≤ factor) :
    Schedule.Grows initial multiplier limit (grow growth initial limit).delayAfter := by
  rw [← Nat.mul_max_mul_right] at exact
  have shown : ∀ n, (grow growth initial limit).delayAfter n =
      interval growth (initial * perMilli) (limit * perMilli) n := by
    intro n
    rw [grow, delayAfter_growing, exact.delay_eq _ (interval_le exact large n)]
  constructor
  · exact shown 0
  · intro n
    rw [shown]
    exact interval_succ_le exact large (interval_le exact large n)
  · intro n
    rw [shown, shown]
    exact interval_rises exact large n
  · intro k n whole
    rw [shown]
    exact interval_of_whole exact large whole n

namespace Policy

variable {policy : Policy} {start : Backoff} {turns : List Turn}

/-- A turn leaves a schedule where as many delays lead as are drawn since the last reset. -/
theorem after_advanced (fresh : start.reset = start) (n : Nat) (turn : Turn) :
    policy.after (start.advanced n) turn = start.advanced (policy.drawing n turn) := by
  cases turn with
  | reset =>
    rw [after, Backoff.reset_advanced, fresh]
    rfl
  | ask fault failures =>
    rw [after, nextDelay, drawing]
    split
    · rfl
    · rfl

theorem afterAll_eq (fresh : start.reset = start) (turns : List Turn) :
    policy.afterAll start turns = start.advanced (policy.drawn turns) := by
  have general : ∀ n, turns.foldl policy.after (start.advanced n) =
      start.advanced (turns.foldl policy.drawing n) := by
    induction turns with
    | nil => exact fun _ => rfl
    | cons turn turns ih =>
      intro n
      rw [List.foldl_cons, List.foldl_cons, after_advanced fresh, ih]
  exact general 0

end Policy

/-- Whatever came before, giving up draws no delay and leaves the schedule where it is, and any
other call draws the delay that follows those since the last reset, so delays never run out. A fixed
schedule always has the same one; one that grows follows its multiplier, as far as its intervals are
computed exactly. -/
theorem delays_follow_schedule (read : Binary64 → Growth) (policy : Policy) (turns : List Turn)
    (fault : Fault) (failures : Nat) :
    (policy.Ends fault failures →
      policy.nextDelay (policy.afterAll (.opening read policy.schedule) turns) fault failures =
        (none, policy.afterAll (.opening read policy.schedule) turns)) ∧
    (¬ policy.Ends fault failures →
      (policy.nextDelay (policy.afterAll (.opening read policy.schedule) turns) fault failures).1 =
        some ((Backoff.opening read policy.schedule).delayAfter (policy.drawn turns))) ∧
    (∀ delay, policy.schedule = .fixed delay →
      ∀ n, (Backoff.opening read policy.schedule).delayAfter n = delay * perMilli) ∧
    (∀ initial multiplier limit, policy.schedule = .exponential initial multiplier limit →
      multiplier.ge (Binary64.ofNat 1) = true →
      (read multiplier).Exact multiplier (max initial limit * perMilli) →
      Schedule.Grows initial multiplier limit
        (Backoff.opening read policy.schedule).delayAfter) := by
  refine ⟨?_, ?_, ?_, ?_⟩
  · intro ends
    rw [Policy.nextDelay, if_pos ((policy.givesUp_iff_ends fault failures).mpr ends)]
  · intro goes
    rw [Policy.nextDelay, if_neg (mt (policy.givesUp_iff_ends fault failures).mp goes),
      Policy.afterAll_eq (Backoff.reset_opening read policy.schedule)]
    rfl
  · intro delay fixed n
    rw [fixed]
    exact Backoff.delayAfter_fixed _ n
  · intro initial multiplier limit growing large exact
    rw [growing]
    exact Backoff.grows exact fun _ => one_le_of_ge large

/-- Faults that may pass are tried again, after delays that double. -/
def doubling : Policy := ⟨.transientOnly, .exponential 400 (Binary64.ofNat 2) 2000, none⟩

def busy : Fault := ⟨.prover, "busy"⟩

def gone : Fault := ⟨.unknownBlock, "gone"⟩

/-- A delay, a refusal, a reset and three more delays. -/
def doublingTurns : List Turn :=
  [.ask busy 1, .ask gone 2, .reset, .ask busy 1, .ask busy 2, .ask busy 3]

theorem value?_two : (Binary64.ofNat 2).value? = some ((2 : Nat) : ℚ) := by
  have two : Binary64.ofNat 2 = .finite false 4503599627370496 (-51) := by decide
  have top : Binary64.signedNumerator false 4503599627370496 (-51) = 4503599627370496 := by decide
  have bottom : Binary64.denominator (-51) = 2251799813685248 := by decide
  rw [two, Binary64.value?, top, bottom]
  norm_num

/-- The fourth delay since the reset would be 3200 milliseconds, and is cut to 2000. -/
theorem delays_follow_schedule_doubling :
    doubling.Ends gone 4 ∧ ¬ doubling.Ends busy 4 ∧
    (Binary64.ofNat 2).ge (Binary64.ofNat 1) = true ∧
    (Growth.exact (Binary64.ofNat 2)).Exact (Binary64.ofNat 2) (max 400 2000 * perMilli) ∧
    doubling.nextDelay (doubling.afterAll (.opening .exact doubling.schedule) doublingTurns)
      gone 4 = (none, doubling.afterAll (.opening .exact doubling.schedule) doublingTurns) ∧
    (doubling.nextDelay (doubling.afterAll (.opening .exact doubling.schedule) doublingTurns)
      busy 4).1 = some (2000 * perMilli) := by
  have ends : doubling.Ends gone 4 := .inl ⟨rfl, rfl⟩
  have goes : ¬ doubling.Ends busy 4 := by
    rw [← Policy.givesUp_iff_ends]
    decide
  have large : (Binary64.ofNat 2).ge (Binary64.ofNat 1) = true := by decide
  have exact := Growth.exact_exact (Binary64.ofNat 2) (max 400 2000 * perMilli)
  obtain ⟨refuses, -⟩ := delays_follow_schedule .exact doubling doublingTurns gone 4
  obtain ⟨-, draws, -, grows⟩ := delays_follow_schedule .exact doubling doublingTurns busy 4
  refine ⟨ends, goes, large, exact, refuses ends, ?_⟩
  have count : doubling.drawn doublingTurns = 2 + 1 := by decide
  rw [draws goes, count, (grows 400 _ 2000 rfl large exact).whole 2 2 value?_two]
  decide

/-- So do the delays that are computed with rounded numbers. -/
example : (List.range 5).map (Backoff.ofSchedule doubling.schedule).delayAfter =
    [400 * perMilli, 800 * perMilli, 1600 * perMilli, 2000 * perMilli, 2000 * perMilli] := by
  decide +kernel

end Retry

end HeaderRelay
