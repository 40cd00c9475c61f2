import DropletVision.Proofs.Controller.Interleaving
import DropletVision.Proofs.Detector.WarmUp

/-!
# 渡したフレームが見る要求

呼び出し側がリセット、設定の更新、背景の初期化を終えてからフレームを渡したとき、そのフレームを
処理する検出器がその要求を反映しているかを述べる。処理の糸は世代をループの頭と列から取った
直後の二度合わせるが、設定の写しと待っている背景はループの頭でしか見ない。

* `frame_taken_after_request` — どの実行でも、処理の糸が検出器にかけるフレームは、取る前の
  どの時点で共有の世代がいくつであっても、その世代以降に合わせた検出器にかかる。設定の更新は、
  処理の糸が設定の写しを合わせる前に戻っていれば、待っている背景は、処理の糸が背景を取る前に
  あれば、その後で検出器にかけるフレームに効く。
* `request_missed_by_next_frame` — 処理の糸が列で待っている間に背景の初期化が戻り、すぐに
  フレームを渡すと、そのフレームは背景を与える前の検出器にかかる。また、明るさにできない背景の
  フレームも初期化は受け付け、何も変えずに成功を返す。
-/

namespace DropletVision

/-- 取ったフレームを検出器にかけたか、かけている途中か。 -/
def LoopPoint.pastResync : LoopPoint → Bool
  | .detect _ | .append _ _ => true
  | _ => false

/-- 設定の写しを合わせる前か。 -/
def LoopPoint.beforeConfig : LoopPoint → Bool
  | .top | .config => true
  | _ => false

/-- 待っている背景を取る前か。 -/
def LoopPoint.beforeBackground : LoopPoint → Bool
  | .top | .config | .background => true
  | _ => false

/-- 背景を与える。明るさにできないフレームがあれば与えられず、検出器はそのまま。 -/
theorem DropletDetector.seedOrKeep_of_unreadable {d : DropletDetector} {frames : List Frame}
    (h : frames.all (·.intensity.isOk) = false) : d.seedOrKeep frames = d := by
  have hok := (DropletDetector.initializeBackground_spec (d := d) frames).1
  rw [h] at hok
  unfold seedOrKeep
  split
  · rename_i d' hd
    rw [hd] at hok
    simp [Except.isOk, Except.toBool] at hok
  · rfl

/-- 動いている制御に背景を与える：検出器に渡して、与えられなければそのまま。 -/
theorem DetectionController.applyPendingBackground_of_running {k : DetectionController}
    {s : Session} {frames : List Frame} (hs : k.session = some s)
    (hp : k.pendingBackground = some frames) :
    k.applyPendingBackground =
      { k with session := some { s with detector := s.detector.seedOrKeep frames },
               pendingBackground := none } := by
  simp only [applyPendingBackground, hs, hp]
  rfl

namespace System

variable {s : System}

/-! ## 世代：列から取った後で合わせ直す -/

/-- 共有の世代は `e` 以降で、処理の糸が検出器にかけたフレームは `e` 以降に合わせた検出器に
かかっている。 -/
def SyncedSince (e : Nat) (s : System) : Prop :=
  e ≤ s.shared.epoch ∧ (s.worker.point.pastResync = true → e ≤ s.worker.epoch)

theorem SyncedSince.step {e : Nat} (h : s.SyncedSince e) (m : Move) : (s.step m).SyncedSince e := by
  obtain ⟨hs, hw⟩ := h
  cases m with
  | caller c => exact ⟨Nat.le_trans hs (Shared.call_epoch_le _ c), hw⟩
  | worker clock =>
    refine ⟨by simpa using hs, ?_⟩
    simp only [step_worker_worker]
    cases hp : s.worker.point with
    | top => simp [Worker.step_of_top hp, LoopPoint.pastResync]
    | config => rw [Worker.step_of_config hp]; split <;> simp [LoopPoint.pastResync]
    | background =>
      cases hb : s.shared.pending with
      | none => simp [Worker.step_of_background_none hp hb, LoopPoint.pastResync]
      | some frames => simp [Worker.step_of_background_some hp hb, LoopPoint.pastResync]
    | dequeue =>
      cases hq : s.shared.queue.toList with
      | nil => simp [Worker.step_of_dequeue_nil hp hq, LoopPoint.pastResync]
      | cons f rest => simp [Worker.step_of_dequeue_cons hp hq, LoopPoint.pastResync]
    | resync f =>
      -- 取ったフレームで共有の世代に合わせ直す
      simp [Worker.step_of_resync hp, hs]
    | detect f =>
      simp only [hp, LoopPoint.pastResync, forall_const] at hw
      simp [Worker.step_of_detect hp, hw]
    | append metrics stages =>
      by_cases he : s.shared.epoch = s.worker.epoch
      · simp [Worker.step_of_append_eq hp he, LoopPoint.pastResync]
      · simp [Worker.step_of_append_ne hp he, LoopPoint.pastResync]

theorem SyncedSince.run {e : Nat} (h : s.SyncedSince e) (ms : List Move) :
    (s.run ms).SyncedSince e := by
  induction ms generalizing s with
  | nil => exact h
  | cons m ms ih => exact ih (h.step m)

/-! ## 設定：ループの頭で写す -/

/-- 共有の設定は版 `v` 以降で、処理の糸は設定の写しを合わせた後なら版 `v` 以降の写しを持つ。 -/
def ConfiguredSince (v : Nat) (s : System) : Prop :=
  v ≤ s.shared.configVersion ∧ (s.worker.point.beforeConfig = false → v ≤ s.worker.configVersion)

theorem ConfiguredSince.step {v : Nat} (h : s.ConfiguredSince v) (m : Move) :
    (s.step m).ConfiguredSince v := by
  obtain ⟨hs, hw⟩ := h
  cases m with
  | caller c => exact ⟨Nat.le_trans hs (Shared.call_configVersion_le _ c), hw⟩
  | worker clock =>
    refine ⟨by simpa using hs, ?_⟩
    simp only [step_worker_worker]
    cases hp : s.worker.point with
    | top => simp [Worker.step_of_top hp, LoopPoint.beforeConfig]
    | config =>
      -- 版が違えば共有の版を写す
      rw [Worker.step_of_config hp]
      split
      · rename_i he
        simp [he, hs]
      · simp [hs]
    | background =>
      simp only [hp, LoopPoint.beforeConfig, forall_const] at hw
      cases hb : s.shared.pending with
      | none => simp [Worker.step_of_background_none hp hb, hw]
      | some frames => simp [Worker.step_of_background_some hp hb, hw]
    | dequeue =>
      simp only [hp, LoopPoint.beforeConfig, forall_const] at hw
      cases hq : s.shared.queue.toList with
      | nil => simp [Worker.step_of_dequeue_nil hp hq, LoopPoint.beforeConfig]
      | cons f rest => simp [Worker.step_of_dequeue_cons hp hq, hw]
    | resync f =>
      simp only [hp, LoopPoint.beforeConfig, forall_const] at hw
      simp [Worker.step_of_resync hp, hw]
    | detect f =>
      simp only [hp, LoopPoint.beforeConfig, forall_const] at hw
      simp [Worker.step_of_detect hp, hw]
    | append metrics stages =>
      by_cases he : s.shared.epoch = s.worker.epoch
      · simp [Worker.step_of_append_eq hp he, LoopPoint.beforeConfig]
      · simp [Worker.step_of_append_ne hp he, LoopPoint.beforeConfig]

theorem ConfiguredSince.run {v : Nat} (h : s.ConfiguredSince v) (ms : List Move) :
    (s.run ms).ConfiguredSince v := by
  induction ms generalizing s with
  | nil => exact h
  | cons m ms ih => exact ih (h.step m)

/-! ## 背景：ループの頭で取る -/

/-- 処理の糸が背景を取った後なら、待っている背景は無い。 -/
def BackgroundTaken (s : System) : Prop :=
  s.worker.point.beforeBackground = false → s.shared.pending = none

/-- 背景を新たに待たせない一歩は、背景を取った後で背景が無いことを保つ。 -/
theorem BackgroundTaken.step (h : s.BackgroundTaken) {m : Move}
    (hm : ∀ frames, m ≠ .caller (.initializeBackground frames)) : (s.step m).BackgroundTaken := by
  cases m with
  | caller c =>
    intro hb
    have hp := h hb
    simp only [step_caller_shared]
    cases c with
    | initializeBackground frames => exact absurd rfl (hm frames)
    | addFrame f => simp only [Shared.call]; split <;> exact hp
    | resetClear => exact hp
    | resetDrain => exact hp
    | updateConfig p => simp only [Shared.call]; split <;> exact hp
  | worker clock =>
    intro hb
    simp only [step_worker_shared]
    simp only [step_worker_worker] at hb
    cases hp : s.worker.point with
    | top => simp [Worker.step_of_top hp, LoopPoint.beforeBackground] at hb
    | config =>
      rw [Worker.step_of_config hp] at hb
      split at hb <;> simp [LoopPoint.beforeBackground] at hb
    | background =>
      -- 背景を取れば空になる
      cases hb' : s.shared.pending with
      | none => simp [Worker.step_of_background_none hp hb', hb']
      | some frames => simp [Worker.step_of_background_some hp hb']
    | dequeue =>
      have hn := h (by simp [hp, LoopPoint.beforeBackground])
      cases hq : s.shared.queue.toList with
      | nil => simp [Worker.step_of_dequeue_nil hp hq, LoopPoint.beforeBackground] at hb
      | cons f rest => simp [Worker.step_of_dequeue_cons hp hq, hn]
    | resync f =>
      have hn := h (by simp [hp, LoopPoint.beforeBackground])
      simp [Worker.step_of_resync hp, hn]
    | detect f =>
      have hn := h (by simp [hp, LoopPoint.beforeBackground])
      simp [Worker.step_of_detect hp, hn]
    | append metrics stages =>
      by_cases he : s.shared.epoch = s.worker.epoch
      · simp [Worker.step_of_append_eq hp he, LoopPoint.beforeBackground] at hb
      · simp [Worker.step_of_append_ne hp he, LoopPoint.beforeBackground] at hb

theorem BackgroundTaken.run (h : s.BackgroundTaken) {ms : List Move}
    (hms : ∀ frames, Move.caller (.initializeBackground frames) ∉ ms) : (s.run ms).BackgroundTaken := by
  induction ms generalizing s with
  | nil => exact h
  | cons m ms ih =>
    have hm : ∀ frames, m ≠ .caller (.initializeBackground frames) :=
      fun frames e => hms frames (e ▸ List.mem_cons_self)
    exact ih (h.step hm) fun frames hf => hms frames (List.mem_cons_of_mem _ hf)

/-! ## 検出器にかけるフレーム -/

/-- **渡したフレームが見る要求。** どの実行 `ms` でも、処理の糸が最後にフレーム `g` を検出器に
かけようとしているなら、出発点 `s` について：
処理の糸が `s` でまだ取ったフレームを検出器にかけていなければ、`g` は `s` の共有の世代以降に
合わせた検出器にかかる（リセットは、処理の糸が列で待っている間に戻っても次に取るフレームに効く）。
処理の糸が `s` で設定の写しを合わせる前なら、`g` は `s` の共有の設定の版以降の写しを持つ検出器に
かかる。処理の糸が `s` で背景を取る前で、その後に背景を待たせなければ、`g` を検出器にかけるときに
待っている背景は無い（検出器に渡っている）。 -/
theorem frame_taken_after_request (s : System) (ms : List Move) {g : Frame}
    (hd : (s.run ms).worker.point = .detect g) :
    (s.worker.point.pastResync = false → s.shared.epoch ≤ (s.run ms).worker.epoch) ∧
      (s.worker.point.beforeConfig = true →
        s.shared.configVersion ≤ (s.run ms).worker.configVersion) ∧
      (s.worker.point.beforeBackground = true →
        (∀ frames, Move.caller (.initializeBackground frames) ∉ ms) →
        (s.run ms).shared.pending = none) := by
  refine ⟨fun hp => ?_, fun hp => ?_, fun hp hms => ?_⟩
  · have h : s.SyncedSince s.shared.epoch := ⟨Nat.le_refl _, by simp [hp]⟩
    exact (h.run ms).2 (by simp [hd, LoopPoint.pastResync])
  · have h : s.ConfiguredSince s.shared.configVersion := ⟨Nat.le_refl _, by simp [hp]⟩
    exact (h.run ms).2 (by simp [hd, LoopPoint.beforeConfig])
  · have h : s.BackgroundTaken := by simp [BackgroundTaken, hp]
    exact (h.run hms) (by simp [hd, LoopPoint.beforeBackground])

/-- 開始した後、設定の更新と背景の初期化が戻ってから（処理の糸はまだループの頭にいる）一枚渡し、
処理の糸がそれを検出器にかけるまで進める実行。二つの要求は待っており、フレームはどちらも
反映した検出器にかかる。 -/
theorem frame_taken_after_request_with_pending :
    let g := Frame.mono 1 1 ⟨#[40]⟩
    let f := Frame.mono 1 1 ⟨#[200]⟩
    let s := (started (Shared.ofConfig {})).run
      [.caller (.updateConfig { minArea := some 10.0 }), .caller (.initializeBackground [g])]
    let ms : List Move := [.caller (.addFrame f), .worker 0, .worker 0, .worker 0, .worker 0,
      .worker 0]
    s.shared.configVersion = 1 ∧ s.shared.pending = some [g] ∧
      (s.run ms).worker.point = .detect f ∧
      (s.worker.point.pastResync = false → s.shared.epoch ≤ (s.run ms).worker.epoch) ∧
      (s.worker.point.beforeConfig = true →
        s.shared.configVersion ≤ (s.run ms).worker.configVersion) ∧
      (s.worker.point.beforeBackground = true →
        (∀ frames, Move.caller (.initializeBackground frames) ∉ ms) →
        (s.run ms).shared.pending = none) := by
  intro g f s ms
  have hp : ({ minArea := some 10.0 } : ConfigPatch).apply {} =
      .ok (({ minArea := some 10.0 } : ConfigPatch).overwrite {}) := rfl
  have hg : DetectionController.checkBackground [g] = .ok () := rfl
  have hf : f.validate = .ok () := rfl
  have hq : ((RingBuffer.new frameQueueCapacity).clear.push f).1.pop =
      (RingBuffer.new frameQueueCapacity, some f) := rfl
  have hs : s.shared.configVersion = 1 ∧ s.shared.pending = some [g] := by
    simp [s, run, step, Shared.call, hp, hg, started, Shared.ofConfig, Shared.installConfig]
  have hd : (s.run ms).worker.point = .detect f := by
    simp [s, ms, run, step, Shared.call, hp, hg, hf, hq, Worker.step, started, Shared.ofConfig,
      Shared.installConfig, Worker.syncEpoch]
  exact ⟨hs.1, hs.2, hd, frame_taken_after_request s ms hd⟩

/-- 背景の初期化が戻った後に渡したフレームが、背景を与える前の検出器にかかる二つの場合。
一つは、処理の糸が背景を見た後、列で待っている間に初期化が戻り、すぐにフレームを渡した場合：
処理の糸はそのフレームを取って検出器にかけようとし、背景はまだ待っている。もう一つは、検出器が
明るさにできない（四次元の）背景のフレーム：初期化は受け付けて成功を返すが、動いている制御は
何も変わらない。 -/
theorem request_missed_by_next_frame :
    (let g := Frame.mono 1 1 ⟨#[0]⟩
     let f := Frame.mono 1 1 ⟨#[255]⟩
     let s := (started (Shared.ofConfig {})).run [
        -- 処理の糸：頭で世代を合わせ、設定と背景を見て、列で待つ
        .worker 0, .worker 0, .worker 0,
        -- 呼び出し側：背景を待たせて戻り、フレームを渡す
        .caller (.initializeBackground [g]), .caller (.addFrame f),
        -- 処理の糸：`f` を取り、世代を合わせ直す
        .worker 0, .worker 0]
     s.worker.point = .detect f ∧ s.shared.pending = some [g] ∧
       s.worker.detector = .ofConfig {}) ∧
    (let g : Frame := ⟨[1, 1, 1, 1], ⟨#[0]⟩, 0, none⟩
     let k : DetectionController :=
       { config := {}, measurements := .ofConfig {}, session := some ⟨.ofConfig {}, ⟨0, 0, 1, 1⟩⟩ }
     k.initializeBackground [g] = .ok k) := by
  constructor
  · intro g f s
    have hf : f.validate = .ok () := rfl
    have hg : DetectionController.checkBackground [g] = .ok () := rfl
    have hq : ((RingBuffer.new frameQueueCapacity).clear.push f).1.pop =
        (RingBuffer.new frameQueueCapacity, some f) := rfl
    simp [s, run, step, Shared.call, hf, hg, hq, Worker.step, started, Shared.ofConfig,
      Worker.syncEpoch]
  · intro g k
    have hg : DetectionController.checkBackground [g] = .ok () := rfl
    have hi : [g].all (·.intensity.isOk) = false := rfl
    simp only [DetectionController.initializeBackground, hg, bind, Except.bind, pure, Except.pure]
    rw [DetectionController.applyPendingBackground_of_running rfl rfl,
      DropletDetector.seedOrKeep_of_unreadable hi]

end System

end DropletVision
