import Mathlib.Algebra.Order.BigOperators.Group.List
import Widgetry.Proofs.Animation.Easing
import Widgetry.Proofs.Animation.Timing

/-! A transition in exact arithmetic. The state of its channel is a function of the time since it
began, and a step of some time adds to that time. So it does not matter how the time is cut into
steps, and what the steps answer goes one way, from the start to the target. -/
namespace Widgetry

/-- From where a number moves and to where, in what time and along which curve. -/
structure Transition (α : Type) where
  start : α
  target : α
  duration : α
  easing : Easing

namespace Transition

/-- Begins a transition and takes steps one after the other. -/
def play {α σ χ : Type} [Channel α σ χ] (T : Transition α) (dts : List α) :
    Step χ σ (List (Reading α)) := do
  Channel.begin T.start T.target T.duration T.easing
  dts.mapM fun dt => Channel.step dt

/-- The times at which steps end. -/
def moments (time : Rat) : List Rat → List Rat
  | [] => []
  | dt :: dts => (time + dt) :: moments (time + dt) dts

theorem moments_append (time : Rat) (before after : List Rat) :
    moments time (before ++ after) = moments time before ++ moments (time + before.sum) after := by
  induction before generalizing time with
  | nil => rw [List.sum_nil, add_zero]; rfl
  | cons dt before ih =>
    rw [List.cons_append, moments, moments, ih, List.sum_cons, add_assoc]
    rfl

theorem length_moments (time : Rat) (dts : List Rat) : (moments time dts).length = dts.length := by
  induction dts generalizing time with
  | nil => rfl
  | cons dt dts ih => rw [moments, List.length_cons, List.length_cons, ih]

/-- A step cut in two ends when it did before, and there is one end more. -/
theorem moments_split (time a b : Rat) (before after : List Rat) :
    moments time (before ++ a :: b :: after) =
      (moments time (before ++ (a + b) :: after)).take before.length ++
        (time + before.sum + a) ::
          (moments time (before ++ (a + b) :: after)).drop before.length := by
  have hlength := length_moments time before
  rw [moments_append, moments_append, List.take_left' hlength, List.drop_left' hlength]
  simp only [moments, add_assoc]

/-- The time that step `k` and those before it take. -/
def elapsed (dts : List Rat) (k : Nat) : Rat := (dts.take (k + 1)).sum

theorem elapsed_mono {dts : List Rat} (hdts : ∀ dt ∈ dts, 0 ≤ dt) {j k : Nat} (hjk : j ≤ k) :
    elapsed dts j ≤ elapsed dts k := by
  have htake : (dts.take (j + 1)).Sublist (dts.take (k + 1)) :=
    List.take_sublist_take_left (Nat.succ_le_succ hjk)
  exact htake.sum_le_sum fun dt hdt => hdts dt (List.mem_of_mem_take hdt)

theorem eq_of_moments {time moment : Rat} {dts : List Rat} {k : Nat}
    (hk : (moments time dts)[k]? = some moment) : moment = time + elapsed dts k := by
  induction dts generalizing time k with
  | nil => exact nomatch hk
  | cons dt dts ih =>
    rw [elapsed, List.take_succ_cons, List.sum_cons, ← add_assoc]
    cases k with
    | zero =>
      obtain rfl := Option.some.inj hk
      rw [List.take_zero, List.sum_nil, add_zero]
    | succ k => exact ih hk

/-- Time does not go back. -/
theorem moments_pairwise (time : Rat) {dts : List Rat} (hdts : ∀ dt ∈ dts, 0 ≤ dt) :
    (time :: moments time dts).Pairwise (· ≤ ·) := by
  induction dts generalizing time with
  | nil => exact List.pairwise_singleton _ _
  | cons dt dts ih =>
    obtain ⟨hdt, hdts⟩ := List.forall_mem_cons.mp hdts
    have hrest := ih (time + dt) hdts
    have hle : time ≤ time + dt := le_add_of_nonneg_right hdt
    refine List.pairwise_cons.mpr ⟨fun moment hmem => ?_, hrest⟩
    rcases List.mem_cons.mp hmem with rfl | hmem
    · exact hle
    · exact hle.trans ((List.pairwise_cons.mp hrest).1 moment hmem)

variable (T : Transition Rat) {s t dt : Rat} {dts : List Rat}

/-- The part of the way that is behind after some time. -/
def progress (time : Rat) : Rat :=
  if time < T.duration then T.easing.apply (time / T.duration) else 1

/-- Where a part of the way ends. -/
def point (part : Rat) : Rat := T.start + (T.target - T.start) * part

def valueAt (time : Rat) : Rat := T.point (T.progress time)

/-- The channel of the transition after some time. -/
def channelAt (time : Rat) : Timing Rat where
  start := T.start
  target := T.target
  duration := T.duration
  elapsed := min time T.duration
  easing := T.easing
  current := T.valueAt time
  started := true
  running := decide (time < T.duration)

section Values

variable {T}

theorem progress_of_lt (h : t < T.duration) :
    T.progress t = T.easing.apply (t / T.duration) := if_pos h

theorem progress_of_le (h : T.duration ≤ t) : T.progress t = 1 := if_neg (not_lt.mpr h)

theorem progress_zero (hd : 0 < T.duration) : T.progress 0 = 0 := by
  rw [progress_of_lt hd, zero_div, Easing.apply_zero]

theorem progress_mem (t : Rat) : 0 ≤ T.progress t ∧ T.progress t ≤ 1 := by
  rcases lt_or_ge t T.duration with hlt | hle
  · rw [progress_of_lt hlt]
    exact T.easing.apply_mem _
  · rw [progress_of_le hle]
    exact ⟨zero_le_one, le_rfl⟩

theorem progress_monotone (hd : 0 ≤ T.duration) : Monotone T.progress := by
  intro s t h
  rcases lt_or_ge t T.duration with hlt | hle
  · rw [progress_of_lt hlt, progress_of_lt (h.trans_lt hlt)]
    exact T.easing.apply_monotone (div_le_div_of_nonneg_right h hd)
  · rw [progress_of_le hle]
    exact (progress_mem s).2

theorem point_zero : T.point 0 = T.start := by
  rw [point, mul_zero, add_zero]

theorem point_one : T.point 1 = T.target := by
  rw [point, mul_one, add_sub_cancel]

theorem point_monotone (h : T.start ≤ T.target) : Monotone T.point := fun _ _ hle =>
  add_le_add_right (mul_le_mul_of_nonneg_left hle (sub_nonneg.mpr h)) T.start

theorem point_antitone (h : T.target ≤ T.start) : Antitone T.point := fun _ _ hle =>
  add_le_add_right (mul_le_mul_of_nonpos_left hle (sub_nonpos.mpr h)) T.start

theorem valueAt_of_lt (h : t < T.duration) :
    T.valueAt t = T.start + (T.target - T.start) * T.easing.apply (t / T.duration) := by
  rw [valueAt, progress_of_lt h, point]

theorem valueAt_of_le (h : T.duration ≤ t) : T.valueAt t = T.target := by
  rw [valueAt, progress_of_le h, point_one]

theorem valueAt_zero (hd : 0 < T.duration) : T.valueAt 0 = T.start := by
  rw [valueAt, progress_zero hd, point_zero]

end Values

/-- On its way the channel is on the curve. -/
theorem channelAt_of_lt (h : t < T.duration) : T.channelAt t =
    ⟨T.start, T.target, T.duration, t, T.easing,
      T.start + (T.target - T.start) * T.easing.apply (t / T.duration), true, true⟩ := by
  rw [channelAt, min_eq_left h.le, valueAt_of_lt h, decide_eq_true h]

/-- Once the time is up it is at the target, and no later time shows. -/
theorem channelAt_of_le (h : T.duration ≤ t) : T.channelAt t =
    ⟨T.start, T.target, T.duration, T.duration, T.easing, T.target, true, false⟩ := by
  rw [channelAt, min_eq_right h, valueAt_of_le h, decide_eq_false (not_lt.mpr h)]

/-- A transition begins as it is after no time; one of no duration is over then. -/
theorem begin_eq (hd : 0 ≤ T.duration) :
    Timing.begin T.start T.target T.duration T.easing = .ok (T.channelAt 0) := by
  rw [Timing.begin, if_neg (not_lt.mpr hd)]
  rcases hd.eq_or_lt with hzero | hpos
  · have hatOnce : (T.duration == 0) = true := beq_iff_eq.mpr hzero.symm
    rw [hatOnce, T.channelAt_of_le hzero.ge, ← hzero]
    rfl
  · have hatOnce : (T.duration == 0) = false := beq_eq_false_iff_ne.mpr hpos.ne'
    rw [hatOnce, channelAt, min_eq_left hd, valueAt_zero hpos, decide_eq_true hpos]
    rfl

/-- A step of `dt` leads to what the channel is `dt` later. -/
theorem advance_channelAt (hdt : 0 ≤ dt) (t : Rat) :
    (T.channelAt t).advance dt = .ok (T.channelAt (t + dt)) := by
  rcases lt_or_ge t T.duration with hlt | hle
  · rw [T.channelAt_of_lt hlt, Timing.advance, if_neg (not_lt.mpr hdt)]
    dsimp only
    rcases lt_or_ge (t + dt) T.duration with hlt' | hle'
    · rw [T.channelAt_of_lt hlt', min_eq_left hlt'.le, if_neg (not_le.mpr hlt')]
      rfl
    · rw [T.channelAt_of_le hle', min_eq_right hle', if_pos le_rfl]
      rfl
  · have hle' : T.duration ≤ t + dt := le_add_of_le_of_nonneg hle hdt
    rw [T.channelAt_of_le hle, T.channelAt_of_le hle', Timing.advance, if_neg (not_lt.mpr hdt)]
    rfl

/-- What a step answers that ends at this time. -/
def readingAt (time : Rat) : Reading Rat := (T.channelAt time).reading

variable {σ : Type} {c : Timing Rat} {h : σ}

theorem ends_step (hdt : 0 ≤ dt) (t : Rat) :
    Ends (Channel.step dt : Step (Timing Rat) σ (Reading Rat)) (T.channelAt t, h) fun r p =>
      r = .ok (T.readingAt (t + dt)) ∧ p = (T.channelAt (t + dt), h) := by
  rw [Timing.ends_advance, T.advance_channelAt hdt t]
  exact ⟨rfl, rfl⟩

theorem ends_steps (hdts : ∀ dt ∈ dts, 0 ≤ dt) (t : Rat) :
    Ends (dts.mapM fun dt => Channel.step dt : Step (Timing Rat) σ (List (Reading Rat)))
      (T.channelAt t, h) fun r p =>
        r = .ok ((moments t dts).map T.readingAt) ∧ p = (T.channelAt (t + dts.sum), h) := by
  induction dts generalizing t with
  | nil =>
    rw [List.mapM_nil, List.sum_nil, add_zero]
    exact ⟨rfl, rfl⟩
  | cons dt dts ih =>
    obtain ⟨hdt, hdts⟩ := List.forall_mem_cons.mp hdts
    rw [List.mapM_cons, ends_bind]
    apply (T.ends_step hdt t).imp
    rintro _ _ ⟨rfl, rfl⟩
    dsimp only
    rw [ends_bind]
    apply (ih hdts (t + dt)).imp
    rintro _ _ ⟨rfl, rfl⟩
    rw [List.sum_cons, ← add_assoc]
    exact ⟨rfl, rfl⟩

/-- Whatever the channel did before, the answers are those of the times at which the steps end, and
it is left as it is after all of them. -/
theorem run_play (hd : 0 ≤ T.duration) (hdts : ∀ dt ∈ dts, 0 ≤ dt) :
    (T.play dts : Step (Timing Rat) σ (List (Reading Rat))).run (c, h) =
      (.ok ((moments 0 dts).map T.readingAt), T.channelAt dts.sum, h) := by
  have hends : Ends (T.play dts : Step (Timing Rat) σ (List (Reading Rat))) (c, h) fun r p =>
      r = .ok ((moments 0 dts).map T.readingAt) ∧ p = (T.channelAt dts.sum, h) := by
    rw [play, ends_bind, Timing.ends_begin, T.begin_eq hd]
    simpa only [zero_add] using T.ends_steps hdts 0
  exact Prod.ext hends.1 hends.2

theorem readingAt_of_lt (h : t < T.duration) : T.readingAt t =
    ⟨T.start + (T.target - T.start) * T.easing.apply (t / T.duration), false⟩ := by
  rw [readingAt, T.channelAt_of_lt h]
  rfl

theorem readingAt_of_le (h : T.duration ≤ t) : T.readingAt t = ⟨T.target, true⟩ := by
  rw [readingAt, T.channelAt_of_le h]
  rfl

theorem eq_of_readings {k : Nat} {reading : Reading Rat}
    (hk : ((moments 0 dts).map T.readingAt)[k]? = some reading) :
    reading = T.readingAt (elapsed dts k) := by
  rw [List.getElem?_map, Option.map_eq_some_iff] at hk
  obtain ⟨moment, hmoment, rfl⟩ := hk
  rw [eq_of_moments hmoment, zero_add]

/-- The parts of the way that are behind at the start, after each step and in the end. -/
def parts (dts : List Rat) : List Rat := 0 :: (moments 0 dts).map T.progress ++ [1]

theorem parts_pairwise (hd : 0 ≤ T.duration) (hdts : ∀ dt ∈ dts, 0 ≤ dt) :
    (T.parts dts).Pairwise (· ≤ ·) := by
  have hmoments : ((moments 0 dts).map T.progress).Pairwise (· ≤ ·) :=
    (moments_pairwise 0 hdts).of_cons.map _ fun _ _ hle => T.progress_monotone hd hle
  have hmem : ∀ part ∈ (moments 0 dts).map T.progress, 0 ≤ part ∧ part ≤ 1 :=
    List.forall_mem_map.mpr fun _ _ => progress_mem _
  refine List.pairwise_append.mpr ⟨List.pairwise_cons.mpr ⟨fun part hpart => ?_, hmoments⟩,
    List.pairwise_singleton _ _, fun part hpart last hlast => ?_⟩
  · exact (hmem part hpart).1
  · obtain rfl := List.mem_singleton.mp hlast
    rcases List.mem_cons.mp hpart with rfl | hpart
    · exact zero_le_one
    · exact (hmem part hpart).2

/-- What is answered lies at the ends of these parts. -/
theorem way_eq : T.start :: ((moments 0 dts).map T.readingAt).map Reading.value ++ [T.target] =
    (T.parts dts).map T.point := by
  rw [parts, List.map_append, List.map_cons, List.map_singleton, point_zero, point_one,
    List.map_map, List.map_map]
  rfl

/-- Whatever the channel did before, each step answers for the time that has passed, on the curve
until the duration is over and from then on at the target. So steps that take the same time together
leave the same channel, and one that is cut in two changes no answer. -/
theorem frame_rate_independent (hd : 0 < T.duration) (c : Timing Rat) (h : σ)
    (dts : List Rat) (hdts : ∀ dt ∈ dts, 0 ≤ dt) :
    ∃ readings last,
      (T.play dts : Step (Timing Rat) σ _).run (c, h) = (.ok readings, last, h) ∧
      readings.length = dts.length ∧
      (∀ k reading, readings[k]? = some reading →
        (elapsed dts k < T.duration → reading =
          ⟨T.start + (T.target - T.start) * T.easing.apply (elapsed dts k / T.duration), false⟩) ∧
        ∀ j ≤ k, T.duration ≤ elapsed dts j → reading = ⟨T.target, true⟩) ∧
      (∀ dts' : List Rat, (∀ dt ∈ dts', 0 ≤ dt) → dts'.sum = dts.sum → ∃ readings',
        (T.play dts' : Step (Timing Rat) σ _).run (c, h) = (.ok readings', last, h)) ∧
      ∀ before a b after, dts = before ++ (a + b) :: after → 0 ≤ a → 0 ≤ b → ∃ first,
        (T.play (before ++ a :: b :: after) : Step (Timing Rat) σ _).run (c, h) =
          (.ok (readings.take before.length ++ first :: readings.drop before.length), last, h) := by
  refine ⟨_, _, T.run_play hd.le hdts, ?_, ?_, ?_, ?_⟩
  · rw [List.length_map, length_moments]
  · intro k reading hk
    obtain rfl := T.eq_of_readings hk
    refine ⟨fun hlt => T.readingAt_of_lt hlt, fun j hjk hle => ?_⟩
    exact T.readingAt_of_le (hle.trans (elapsed_mono hdts hjk))
  · intro dts' hdts' hsum
    rw [← hsum]
    exact ⟨_, T.run_play hd.le hdts'⟩
  · rintro before a b after rfl ha hb
    obtain ⟨hbefore, hafter⟩ := List.forall_mem_append.mp hdts
    obtain ⟨-, hafter⟩ := List.forall_mem_cons.mp hafter
    have hcut : ∀ dt ∈ before ++ a :: b :: after, 0 ≤ dt :=
      List.forall_mem_append.mpr ⟨hbefore,
        List.forall_mem_cons.mpr ⟨ha, List.forall_mem_cons.mpr ⟨hb, hafter⟩⟩⟩
    have hsum : (before ++ a :: b :: after).sum = (before ++ (a + b) :: after).sum := by
      simp only [List.sum_append, List.sum_cons, add_assoc]
    refine ⟨T.readingAt (0 + before.sum + a), ?_⟩
    rw [T.run_play hd.le hcut, hsum, moments_split, List.map_append, List.map_cons, List.map_take,
      List.map_drop]

/-- A number that shows up in a fifth of a second. -/
def reveal : Transition Rat := ⟨0, 100, 1 / 5, .easeOut⟩

theorem frame_rate_independent_reveal :
    0 < reveal.duration ∧ (∀ dt ∈ [1 / 10, (1 / 2 : Rat)], 0 ≤ dt) ∧
    ∃ last : Timing Rat,
      (reveal.play [1 / 10, 1 / 2] : Step (Timing Rat) Unit _).run (.idle, ()) =
        (.ok [⟨75, false⟩, ⟨100, true⟩], last, ()) ∧
      ∃ first, (reveal.play [1 / 20, 1 / 20, 1 / 2] : Step (Timing Rat) Unit _).run (.idle, ()) =
        (.ok [first, ⟨75, false⟩, ⟨100, true⟩], last, ()) := by
  have hd : 0 < reveal.duration := by decide +kernel
  have hdts : ∀ dt ∈ [1 / 10, (1 / 2 : Rat)], 0 ≤ dt := by decide +kernel
  obtain ⟨readings, last, hrun, hlength, hreadings, -, hcut⟩ :=
    frame_rate_independent reveal hd .idle () [1 / 10, 1 / 2] hdts
  obtain ⟨first, second, rfl⟩ := List.length_eq_two.mp hlength
  obtain rfl : first = ⟨75, false⟩ := by
    rw [(hreadings 0 first rfl).1 (by decide +kernel)]
    exact congrArg (Reading.mk · false) (by decide +kernel)
  obtain rfl : second = ⟨100, true⟩ :=
    (hreadings 1 second rfl).2 1 le_rfl (by decide +kernel)
  exact ⟨hd, hdts, last, hrun, hcut [] (1 / 20) (1 / 20) [1 / 2] (by decide +kernel)
    (by decide +kernel) (by decide +kernel)⟩

/-- Each curve rises from zero to one, and what a transition answers goes one way, from the start to
the target and no further. -/
theorem moves_one_way :
    (∀ easing : Easing, Monotone (easing.apply : Rat → Rat) ∧
      (∀ t : Rat, 0 ≤ easing.apply t ∧ easing.apply t ≤ 1) ∧
      easing.apply (0 : Rat) = 0 ∧ easing.apply (1 : Rat) = 1) ∧
    ∀ (T : Transition Rat) (c : Timing Rat) (h : σ) (dts : List Rat), 0 ≤ T.duration →
      (∀ dt ∈ dts, 0 ≤ dt) → ∃ readings last,
        (T.play dts : Step (Timing Rat) σ _).run (c, h) = (.ok readings, last, h) ∧
        readings.length = dts.length ∧
        (T.start ≤ T.target →
          (T.start :: readings.map Reading.value ++ [T.target]).Pairwise (· ≤ ·)) ∧
        (T.target ≤ T.start →
          (T.start :: readings.map Reading.value ++ [T.target]).Pairwise (· ≥ ·)) ∧
        ∀ k reading, readings[k]? = some reading → T.duration ≤ elapsed dts k →
          reading.value = T.target := by
  refine ⟨fun easing => ⟨easing.apply_monotone, easing.apply_mem, easing.apply_zero,
    easing.apply_one⟩, fun T c h dts hd hdts => ?_⟩
  refine ⟨_, _, T.run_play hd hdts, ?_, fun hup => ?_, fun hdown => ?_, ?_⟩
  · rw [List.length_map, length_moments]
  · rw [T.way_eq]
    exact (T.parts_pairwise hd hdts).map _ fun _ _ hle => T.point_monotone hup hle
  · rw [T.way_eq]
    exact (T.parts_pairwise hd hdts).map _ fun _ _ hle => T.point_antitone hdown hle
  · intro k reading hk hle
    obtain rfl := T.eq_of_readings hk
    rw [T.readingAt_of_le hle]

/-- A number that goes down. -/
def sink : Transition Rat := ⟨40, 10, 1 / 5, .easeInOut⟩

theorem moves_one_way_down :
    0 ≤ sink.duration ∧ (∀ dt ∈ [1 / 20, 0, 1 / 10, (1 : Rat)], 0 ≤ dt) ∧ sink.target ≤ sink.start ∧
    ∃ readings last,
      (sink.play [1 / 20, 0, 1 / 10, 1] : Step (Timing Rat) Unit _).run (.idle, ()) =
        (.ok readings, last, ()) ∧
      (40 :: readings.map Reading.value ++ [10]).Pairwise (· ≥ ·) ∧
      ∃ reading, readings[3]? = some reading ∧ reading.value = 10 := by
  have hd : 0 ≤ sink.duration := by decide +kernel
  have hdts : ∀ dt ∈ [1 / 20, 0, 1 / 10, (1 : Rat)], 0 ≤ dt := by decide +kernel
  have hdown : sink.target ≤ sink.start := by decide +kernel
  obtain ⟨readings, last, hrun, hlength, -, hway, hlanded⟩ :=
    moves_one_way.2 sink .idle () [1 / 20, 0, 1 / 10, 1] hd hdts
  obtain ⟨reading, hreading⟩ : ∃ reading, readings[3]? = some reading :=
    ⟨_, List.getElem?_eq_getElem (by rw [hlength]; decide)⟩
  exact ⟨hd, hdts, hdown, readings, last, hrun, hway hdown, reading, hreading,
    hlanded 3 reading hreading (by decide +kernel)⟩

end Transition

end Widgetry
