import EvpnMetadata.Proofs.Binary64
import EvpnMetadata.Settings

/-! # Waiting for events

A configured wait that is accepted is above zero and not above the longest one.  It is taken for the
nearest whole number of nanoseconds, so that half a nanosecond or less becomes a wait without end.
-/

namespace EvpnMetadata

namespace TimeSpan

def value (span : TimeSpan) : ℚ := span.seconds + span.nanoseconds / nanosecondsPerSecond

theorem nanosecondsPerSecond_pos : (0 : ℚ) < nanosecondsPerSecond := by
  rw [nanosecondsPerSecond]
  positivity

theorem value_ofNanoseconds (total : Nat) :
    (ofNanoseconds total).value = total / nanosecondsPerSecond := by
  have pos := nanosecondsPerSecond_pos
  have parts : (total : ℚ) = (total / nanosecondsPerSecond : Nat) * nanosecondsPerSecond +
      (total % nanosecondsPerSecond : Nat) := by
    exact_mod_cast (Nat.div_add_mod' total nanosecondsPerSecond).symm
  rw [value, ofNanoseconds]
  field_simp
  exact parts.symm

theorem value_ofNanoseconds_pos_iff {total : Nat} :
    0 < (ofNanoseconds total).value ↔ total ≠ 0 := by
  rw [value_ofNanoseconds, div_pos_iff_of_pos_right nanosecondsPerSecond_pos, Nat.cast_pos,
    Nat.pos_iff_ne_zero]

/-- A span of whole nanoseconds is sent as zero only if it is empty. -/
theorem isZero_inSeconds_iff {total : Nat} :
    (ofNanoseconds total).inSeconds.isZero = true ↔ total = 0 := by
  have small : (ofNanoseconds total).nanoseconds < 2 ^ 53 :=
    Nat.lt_trans (Nat.mod_lt _ (by decide)) (by decide)
  have magnitude (m : Nat) : (Binary64.ofMagnitude false m).isZero = true ↔ m = 0 := by
    rw [Binary64.isZero, Binary64.ofMagnitude, decide_eq_true_iff, Nat.min_eq_zero_iff]
    exact or_iff_left (by decide)
  rw [inSeconds, magnitude, Binary64.plus_eq_zero_iff, Binary64.nearest_eq_zero_iff,
    Binary64.divide_eq_zero_iff small (by decide) (by decide)]
  constructor
  · rintro ⟨seconds, nanoseconds⟩
    rw [← toNanoseconds_ofNanoseconds total, toNanoseconds, seconds, nanoseconds, Nat.zero_mul]
  · rintro rfl
    exact ⟨Nat.zero_div _, Nat.zero_mod _⟩

end TimeSpan

namespace Binary64

open TimeSpan

variable {magnitude : Nat}

/-- Nanoseconds are at most half a nanosecond off. -/
theorem abs_nanoseconds_sub_le (magnitude : Nat) :
    |(nanoseconds magnitude : ℚ) / nanosecondsPerSecond - valueOf magnitude| ≤
      1 / (2 * nanosecondsPerSecond) := by
  have pos := nanosecondsPerSecond_pos
  have near := abs_roundHalfEven_sub_le (numerator magnitude * nanosecondsPerSecond)
    (denominator_pos magnitude)
  have scaled : (nanoseconds magnitude : ℚ) / nanosecondsPerSecond - valueOf magnitude =
      (nanoseconds magnitude -
        (numerator magnitude * nanosecondsPerSecond : Nat) / denominator magnitude) /
        nanosecondsPerSecond := by
    rw [valueOf_eq_div]
    push_cast
    field_simp
  rw [scaled, abs_div, abs_of_pos pos]
  calc _ ≤ 1 / 2 / (nanosecondsPerSecond : ℚ) := div_le_div_of_nonneg_right near pos.le
    _ = 1 / (2 * nanosecondsPerSecond) := by ring

theorem nanoseconds_eq_zero_iff :
    nanoseconds magnitude = 0 ↔ valueOf magnitude ≤ 1 / (2 * nanosecondsPerSecond) := by
  have pos := nanosecondsPerSecond_pos
  have scale : (0 : ℚ) < denominator magnitude := Nat.cast_pos.mpr (denominator_pos magnitude)
  rw [nanoseconds, roundHalfEven_eq_zero_iff, valueOf_eq_div,
    div_le_div_iff₀ scale (by positivity), one_mul, Nat.mul_left_comm]
  exact_mod_cast Iff.rfl

theorem nanoseconds_le {bound : Nat} (le : valueOf magnitude ≤ bound) :
    nanoseconds magnitude ≤ bound * nanosecondsPerSecond := by
  refine roundHalfEven_le (denominator_pos magnitude) ?_
  have scaled := Nat.mul_le_mul_right nanosecondsPerSecond (valueOf_le_iff.mp le)
  rwa [Nat.mul_right_comm] at scaled

end Binary64

namespace Settings

open TimeSpan Binary64

variable {x : Binary64}

theorem isPollLength_iff : isPollLength x = true ↔
    x.isFinite = true ∧ x.negative = false ∧ 0 < valueOf x.magnitude ∧
      valueOf x.magnitude ≤ longestPoll := by
  rw [valueOf_pos_iff, valueOf_le_iff]
  simp [isPollLength, isZero, and_assoc]

theorem value_of_not_negative (positive : x.negative = false) :
    x.value = valueOf x.magnitude := by
  rw [Binary64.value, positive, if_neg Bool.false_ne_true, one_mul]

/-- A wait that may be configured is a span, rounded to whole nanoseconds. -/
theorem timeSpan?_of_isPollLength (isLength : isPollLength x = true) :
    x.timeSpan? = some (.ofNanoseconds (nanoseconds x.magnitude)) := by
  obtain ⟨finite, positive, -, le⟩ := isPollLength_iff.mp isLength
  have short : isSpanLength x = true := by
    rw [isSpanLength, finite, Bool.true_and, decide_eq_true_iff]
    exact Nat.lt_of_le_of_lt (valueOf_le_iff.mp le)
      (Nat.mul_lt_mul_of_pos_right (by decide) (denominator_pos _))
  rw [timeSpan?, short, positive]
  rfl

theorem check_eq_ok_iff (settings : Settings) : settings.check = .ok () ↔
    settings.store.port ≠ 0 ∧ settings.topology.port ≠ 0 ∧ settings.store.table ≠ "" ∧
      settings.events.queueKey ≠ "" ∧ isPollLength settings.events.pollSeconds = true := by
  simp only [check, String.isEmpty_iff]
  split_ifs with ports table queue isLength
  · exact iff_of_false nofun fun ⟨store, topology, _⟩ => ports.elim store topology
  · exact iff_of_false nofun fun ⟨_, _, named, _⟩ => named table
  · exact iff_of_false nofun fun ⟨_, _, _, named, _⟩ => named queue
  · exact iff_of_true rfl ⟨fun zero => ports (.inl zero), fun zero => ports (.inr zero), table,
      queue, isLength⟩
  · exact iff_of_false nofun fun ⟨_, _, _, _, short⟩ => isLength short

theorem poll_of_check {settings : Settings} (accepted : settings.check = .ok ()) :
    settings.poll = .ofNanoseconds (nanoseconds settings.events.pollSeconds.magnitude) := by
  obtain ⟨-, -, -, -, isLength⟩ := (check_eq_ok_iff settings).mp accepted
  rw [poll, timeSpan?_of_isPollLength isLength, Option.getD_some]

/-- An accepted wait is a number of seconds above zero and not above the longest one.  It is taken
for a span, never for the default, that is at most half a nanosecond off and not above the longest
one either.  The span is empty, and the server waits without end, exactly for half a nanosecond or
less. -/
theorem accepted_wait (settings : Settings) (accepted : settings.check = .ok ()) :
    settings.events.pollSeconds.isFinite = true ∧
      0 < settings.events.pollSeconds.value ∧
      settings.events.pollSeconds.value ≤ longestPoll ∧
      settings.events.pollSeconds.timeSpan? = some settings.poll ∧
      |settings.poll.value - settings.events.pollSeconds.value| ≤ 1 / (2 * nanosecondsPerSecond) ∧
      settings.poll.value ≤ longestPoll ∧
      (0 < settings.poll.value ↔
        1 / (2 * nanosecondsPerSecond) < settings.events.pollSeconds.value) ∧
      ((settings.events.queue.wait settings.poll).isEndless = true ↔
        settings.events.pollSeconds.value ≤ 1 / (2 * nanosecondsPerSecond)) := by
  obtain ⟨-, -, -, -, isLength⟩ := (check_eq_ok_iff settings).mp accepted
  obtain ⟨finite, positive, above, le⟩ := isPollLength_iff.mp isLength
  rw [value_of_not_negative positive, poll_of_check accepted]
  refine ⟨finite, above, le, timeSpan?_of_isPollLength isLength, ?_, ?_, ?_, ?_⟩
  · rw [value_ofNanoseconds]
    exact abs_nanoseconds_sub_le _
  · rw [value_ofNanoseconds, div_le_iff₀ nanosecondsPerSecond_pos]
    exact_mod_cast nanoseconds_le le
  · rw [value_ofNanoseconds_pos_iff, ne_eq, nanoseconds_eq_zero_iff, not_le]
  · rw [← nanoseconds_eq_zero_iff]
    exact isZero_inSeconds_iff

def shortWait : Settings where
  events := { pollSeconds := .ofMagnitude false (ofDecimal 5 (-1)) }

theorem accepted_wait_shortWait :
    shortWait.events.pollSeconds.timeSpan? = some shortWait.poll ∧ 0 < shortWait.poll.value ∧
      (shortWait.events.queue.wait shortWait.poll).isEndless = false := by
  obtain ⟨-, -, -, span, -, -, positive, endless⟩ := accepted_wait shortWait (by decide +kernel)
  have long : 1 / (2 * nanosecondsPerSecond) < shortWait.events.pollSeconds.value := by
    have bits : shortWait.events.pollSeconds = ⟨false, 0x3FE0000000000000, by decide⟩ := by
      decide +kernel
    have top : numerator 0x3FE0000000000000 = 2 ^ 52 := by decide +kernel
    have bottom : denominator 0x3FE0000000000000 = 2 ^ 53 := by decide +kernel
    rw [bits, value_of_not_negative rfl, valueOf_eq_div, top, bottom]
    norm_num [nanosecondsPerSecond]
  exact ⟨span, positive.mpr long, Bool.eq_false_iff.mpr (mt endless.mp (not_le.mpr long))⟩

def tinyWait : Settings where
  events := { pollSeconds := .ofMagnitude false (ofDecimal 1 (-10)) }

/-- A tenth of a nanosecond is accepted, and the server waits without end. -/
theorem accepted_wait_endless :
    tinyWait.check = .ok () ∧ tinyWait.poll = ⟨0, 0⟩ ∧
      (tinyWait.events.queue.wait tinyWait.poll).isEndless = true := by
  decide +kernel

end Settings

end EvpnMetadata
