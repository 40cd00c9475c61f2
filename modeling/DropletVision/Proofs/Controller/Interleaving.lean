import DropletVision.Controller.Interleaving
import DropletVision.Proofs.Buffer.Ring

/-!
# 交互の実行の一歩

処理の糸の一歩を手順ごとに書き下し、一歩が共有の状態と手元の状態のどこを変えうるかを述べる。
そこから、どの実行でも崩れない関係 `System.Consistent` を導く。

* `Worker.step_of_top` ほか — 手順ごとの一歩。
* `Worker.step_shared_epoch` ほか — 処理の糸は世代も設定も変えず、列からは先頭を取り出すだけ。
  手元の世代と版は、元のままか共有の値の写し。
* `System.Consistent` — 手元の世代と版は共有の値を超えず、列は容量 `frameQueueCapacity` を
  超えない。開始した直後に成り立ち、どの一歩でも保たれる（`Consistent.run`）。
-/

namespace DropletVision

namespace Worker

variable {w : Worker} {sh : Shared} {clock : Nat}

@[simp] theorem syncEpoch_point (w : Worker) (e : Nat) : (w.syncEpoch e).point = w.point := by
  unfold syncEpoch; split <;> rfl

@[simp] theorem syncEpoch_epoch (w : Worker) (e : Nat) : (w.syncEpoch e).epoch = e := by
  unfold syncEpoch; split
  · rename_i h; exact h.symm
  · rfl

@[simp] theorem syncEpoch_configVersion (w : Worker) (e : Nat) :
    (w.syncEpoch e).configVersion = w.configVersion := by
  unfold syncEpoch; split <;> rfl

/-- 世代が変わっていれば検出器は準備中へ戻る。 -/
theorem syncEpoch_detector (w : Worker) (e : Nat) :
    (w.syncEpoch e).detector = if e = w.epoch then w.detector else w.detector.reset := by
  unfold syncEpoch; split <;> rfl

theorem syncEpoch_of_eq (w : Worker) : w.syncEpoch w.epoch = w := by
  simp [syncEpoch]

theorem step_of_top (h : w.point = .top) :
    w.step sh clock = ({ w.syncEpoch sh.epoch with point := .config }, sh) := by
  simp only [step, h]

theorem step_of_config (h : w.point = .config) :
    w.step sh clock =
      (if w.configVersion = sh.configVersion then { w with point := .background }
       else { w with detector := w.detector.applyConfig sh.config,
                     configVersion := sh.configVersion, point := .background }, sh) := by
  simp only [step, h]
  split <;> rfl

theorem step_of_background_none (h : w.point = .background) (hp : sh.pending = none) :
    w.step sh clock = ({ w with point := .dequeue }, sh) := by
  simp only [step, h, hp]

theorem step_of_background_some {frames : List Frame} (h : w.point = .background)
    (hp : sh.pending = some frames) :
    w.step sh clock =
      ({ w with detector := w.detector.seedOrKeep frames, point := .dequeue },
       { sh with pending := none }) := by
  simp only [step, h, hp]

/-- 列に `f` があれば取り出して手に持つ。 -/
theorem step_of_dequeue_cons {f : Frame} {rest : List Frame} (h : w.point = .dequeue)
    (hq : sh.queue.toList = f :: rest) :
    w.step sh clock = ({ w with point := .resync f }, { sh with queue := sh.queue.pop.1 }) := by
  have hp : sh.queue.pop = (sh.queue.pop.1, some f) := by
    rw [Prod.ext_iff]
    simp [hq]
  simp only [step, h]
  rw [hp]

/-- 列が空なら頭へ戻る。 -/
theorem step_of_dequeue_nil (h : w.point = .dequeue) (hq : sh.queue.toList = []) :
    w.step sh clock = ({ w with point := .top }, sh) := by
  have hp : sh.queue.pop = (sh.queue.pop.1, none) := by
    rw [Prod.ext_iff]
    simp [hq]
  simp only [step, h]
  rw [hp]

theorem step_of_resync {f : Frame} (h : w.point = .resync f) :
    w.step sh clock = ({ w.syncEpoch sh.epoch with point := .detect f }, sh) := by
  simp only [step, h]

theorem step_of_detect {f : Frame} (h : w.point = .detect f) :
    w.step sh clock =
      ({ w with detector := (w.detector.processFrame f).1,
                point := .append (w.detector.processFrame f).2.1
                  (w.detector.processFrame f).2.2 }, sh) := by
  simp only [step, h]

theorem step_of_append_eq {metrics : List DropletMetrics} {stages : List Stage}
    (h : w.point = .append metrics stages) (he : sh.epoch = w.epoch) :
    w.step sh clock =
      ({ w with point := .top },
       { sh with measurements := sh.measurements.record metrics stages clock w.detector.state }) := by
  simp only [step, h, he, if_true]

theorem step_of_append_ne {metrics : List DropletMetrics} {stages : List Stage}
    (h : w.point = .append metrics stages) (he : sh.epoch ≠ w.epoch) :
    w.step sh clock = ({ w with point := .top }, sh) := by
  simp only [step, h, he, if_false]

/-! ### 一歩が共有の状態にすること -/

/-- 処理の糸の一歩が共有の状態にしうることは四つ：何もしないか、待っている背景を取るか、
列の先頭を取り出すか、結果を蓄えに足すか。 -/
theorem step_shared_cases (w : Worker) (sh : Shared) (clock : Nat) :
    (w.step sh clock).2 = sh ∨ (w.step sh clock).2 = { sh with pending := none } ∨
      (w.step sh clock).2 = { sh with queue := sh.queue.pop.1 } ∨
      ∃ metrics stages, (w.step sh clock).2 =
        { sh with measurements := sh.measurements.record metrics stages clock w.detector.state } := by
  cases hp : w.point with
  | top => exact .inl (by rw [step_of_top hp])
  | config => exact .inl (by rw [step_of_config hp])
  | background =>
    cases hb : sh.pending with
    | none => exact .inl (by rw [step_of_background_none hp hb])
    | some frames => exact .inr (.inl (by rw [step_of_background_some hp hb]))
  | dequeue =>
    cases hq : sh.queue.toList with
    | nil => exact .inl (by rw [step_of_dequeue_nil hp hq])
    | cons f rest => exact .inr (.inr (.inl (by rw [step_of_dequeue_cons hp hq])))
  | resync f => exact .inl (by rw [step_of_resync hp])
  | detect f => exact .inl (by rw [step_of_detect hp])
  | append metrics stages =>
    by_cases he : sh.epoch = w.epoch
    · exact .inr (.inr (.inr ⟨metrics, stages, by rw [step_of_append_eq hp he]⟩))
    · exact .inl (by rw [step_of_append_ne hp he])

@[simp] theorem step_shared_epoch : (w.step sh clock).2.epoch = sh.epoch := by
  rcases step_shared_cases w sh clock with h | h | h | ⟨_, _, h⟩ <;>
    rw [h]

@[simp] theorem step_shared_configVersion :
    (w.step sh clock).2.configVersion = sh.configVersion := by
  rcases step_shared_cases w sh clock with h | h | h | ⟨_, _, h⟩ <;>
    rw [h]

@[simp] theorem step_shared_config : (w.step sh clock).2.config = sh.config := by
  rcases step_shared_cases w sh clock with h | h | h | ⟨_, _, h⟩ <;>
    rw [h]

/-- 処理の糸は列から先頭を取り出すほかに列を変えない。 -/
theorem step_shared_queue (w : Worker) (sh : Shared) (clock : Nat) :
    (w.step sh clock).2.queue = sh.queue ∨ (w.step sh clock).2.queue = sh.queue.pop.1 := by
  rcases step_shared_cases w sh clock with h | h | h | ⟨_, _, h⟩ <;>
    rw [h]
  · exact .inl rfl
  · exact .inl rfl
  · exact .inr rfl
  · exact .inl rfl

/-! ### 一歩が手元の状態にすること -/

/-- 手元の世代は、元のままか共有の世代の写し。 -/
theorem step_epoch (w : Worker) (sh : Shared) (clock : Nat) :
    (w.step sh clock).1.epoch = w.epoch ∨ (w.step sh clock).1.epoch = sh.epoch := by
  cases hp : w.point with
  | top => exact .inr (by rw [step_of_top hp]; exact syncEpoch_epoch _ _)
  | resync f => exact .inr (by rw [step_of_resync hp]; exact syncEpoch_epoch _ _)
  | config => rw [step_of_config hp]; split <;> exact .inl rfl
  | background =>
    cases hb : sh.pending with
    | none => exact .inl (by rw [step_of_background_none hp hb])
    | some frames => exact .inl (by rw [step_of_background_some hp hb])
  | dequeue =>
    cases hq : sh.queue.toList with
    | nil => exact .inl (by rw [step_of_dequeue_nil hp hq])
    | cons f rest => exact .inl (by rw [step_of_dequeue_cons hp hq])
  | detect f => exact .inl (by rw [step_of_detect hp])
  | append metrics stages =>
    by_cases he : sh.epoch = w.epoch
    · exact .inl (by rw [step_of_append_eq hp he])
    · exact .inl (by rw [step_of_append_ne hp he])

/-- 手元の版は、元のままか共有の版の写し。 -/
theorem step_configVersion (w : Worker) (sh : Shared) (clock : Nat) :
    (w.step sh clock).1.configVersion = w.configVersion ∨
      (w.step sh clock).1.configVersion = sh.configVersion := by
  cases hp : w.point with
  | top => exact .inl (by rw [step_of_top hp]; exact syncEpoch_configVersion _ _)
  | resync f => exact .inl (by rw [step_of_resync hp]; exact syncEpoch_configVersion _ _)
  | config =>
    rw [step_of_config hp]
    split
    · exact .inl rfl
    · exact .inr rfl
  | background =>
    cases hb : sh.pending with
    | none => exact .inl (by rw [step_of_background_none hp hb])
    | some frames => exact .inl (by rw [step_of_background_some hp hb])
  | dequeue =>
    cases hq : sh.queue.toList with
    | nil => exact .inl (by rw [step_of_dequeue_nil hp hq])
    | cons f rest => exact .inl (by rw [step_of_dequeue_cons hp hq])
  | detect f => exact .inl (by rw [step_of_detect hp])
  | append metrics stages =>
    by_cases he : sh.epoch = w.epoch
    · exact .inl (by rw [step_of_append_eq hp he])
    · exact .inl (by rw [step_of_append_ne hp he])

end Worker

/-! ## 呼び出し側の一歩 -/

namespace Shared

variable (sh : Shared)

theorem call_epoch_le (c : CallerStep) : sh.epoch ≤ (sh.call c).epoch := by
  cases c <;> simp only [call] <;> (try split) <;> simp [installConfig]

theorem call_configVersion_le (c : CallerStep) : sh.configVersion ≤ (sh.call c).configVersion := by
  cases c <;> simp only [call] <;> (try split) <;> simp [installConfig]

/-- 呼び出し側の一歩は、列に一枚足すか、列を空にするか、列を変えない。 -/
theorem call_queue (c : CallerStep) :
    (sh.call c).queue = sh.queue ∨ (sh.call c).queue = sh.queue.clear ∨
      ∃ f, (sh.call c).queue = (sh.queue.push f).1 := by
  cases c with
  | addFrame f =>
    simp only [call]
    split
    · exact .inr (.inr ⟨f, rfl⟩)
    · exact .inl rfl
  | resetClear => exact .inl rfl
  | resetDrain => exact .inr (.inl rfl)
  | updateConfig p =>
    simp only [call]
    split
    · exact .inl rfl
    · exact .inl rfl
  | initializeBackground frames =>
    simp only [call]
    split <;> exact .inl rfl

end Shared

/-! ## 実行 -/

namespace System

variable (s : System)

@[simp] theorem run_nil : s.run [] = s := rfl

@[simp] theorem run_cons (m : Move) (ms : List Move) : s.run (m :: ms) = (s.step m).run ms := rfl

theorem run_append (ms ms' : List Move) : s.run (ms ++ ms') = (s.run ms).run ms' :=
  List.foldl_append

@[simp] theorem step_worker_shared (clock : Nat) :
    (s.step (.worker clock)).shared = (s.worker.step s.shared clock).2 := rfl

@[simp] theorem step_worker_worker (clock : Nat) :
    (s.step (.worker clock)).worker = (s.worker.step s.shared clock).1 := rfl

@[simp] theorem step_caller_shared (c : CallerStep) : (s.step (.caller c)).shared = s.shared.call c :=
  rfl

@[simp] theorem step_caller_worker (c : CallerStep) : (s.step (.caller c)).worker = s.worker := rfl

/-- どの実行でも崩れない関係：手元の世代と版は共有の値を超えず、列は容量を超えない。 -/
structure Consistent (s : System) : Prop where
  epoch_le : s.worker.epoch ≤ s.shared.epoch
  configVersion_le : s.worker.configVersion ≤ s.shared.configVersion
  queue_bounded : s.shared.queue.Bounded
  queue_capacity : s.shared.queue.capacity = frameQueueCapacity

theorem consistent_started {sh : Shared} (hb : sh.queue.Bounded)
    (hc : sh.queue.capacity = frameQueueCapacity) : (started sh).Consistent :=
  ⟨Nat.le_refl _, Nat.le_refl _, hb.clear, hc⟩

theorem consistent_started_ofConfig (c : DetectionConfig) :
    (started (Shared.ofConfig c)).Consistent :=
  consistent_started (RingBuffer.bounded_new _) rfl

variable {s}

theorem Consistent.step (h : s.Consistent) (m : Move) : (s.step m).Consistent := by
  cases m with
  | worker clock =>
    refine ⟨?_, ?_, ?_, ?_⟩
    · rcases Worker.step_epoch s.worker s.shared clock with he | he <;>
        simp only [step_worker_worker, step_worker_shared, he, Worker.step_shared_epoch]
      · exact h.epoch_le
      · exact Nat.le_refl _
    · rcases Worker.step_configVersion s.worker s.shared clock with he | he <;>
        simp only [step_worker_worker, step_worker_shared, he, Worker.step_shared_configVersion]
      · exact h.configVersion_le
      · exact Nat.le_refl _
    · rcases Worker.step_shared_queue s.worker s.shared clock with hq | hq <;>
        simp only [step_worker_shared, hq]
      · exact h.queue_bounded
      · exact h.queue_bounded.pop
    · rcases Worker.step_shared_queue s.worker s.shared clock with hq | hq <;>
        simp only [step_worker_shared, hq, RingBuffer.capacity_pop]
      all_goals exact h.queue_capacity
  | caller c =>
    refine ⟨?_, ?_, ?_, ?_⟩
    · exact Nat.le_trans h.epoch_le (Shared.call_epoch_le _ c)
    · exact Nat.le_trans h.configVersion_le (Shared.call_configVersion_le _ c)
    · rcases Shared.call_queue s.shared c with hq | hq | ⟨f, hq⟩ <;>
        simp only [step_caller_shared, hq]
      · exact h.queue_bounded
      · exact h.queue_bounded.clear
      · exact h.queue_bounded.push f
    · rcases Shared.call_queue s.shared c with hq | hq | ⟨f, hq⟩ <;>
        simp only [step_caller_shared, hq, RingBuffer.capacity_clear, RingBuffer.capacity_push]
      all_goals exact h.queue_capacity

theorem Consistent.run (h : s.Consistent) (ms : List Move) : (s.run ms).Consistent := by
  induction ms generalizing s with
  | nil => exact h
  | cons m ms ih => exact ih (h.step m)

end System

end DropletVision
