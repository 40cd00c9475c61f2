import DropletVision.Proofs.Controller.Interleaving

/-!
# リセットの後に数えられるフレーム

リセットは蓄えの鍵の下で世代を進めて蓄えを捨てるが、列を空にするのは鍵を放した後になる。
処理の糸が結果を足すのは、取ったフレームで世代を合わせ直し、その世代が結果を足すときにも
変わっていなかったときだけ。だから、リセットが始まったときに列にあったフレームも、処理の糸が
取ったまま世代を合わせ直していなかったフレームも、リセットが戻った後に数えられうる。

* `System.inFlight` — まだ数えられうるフレームの数：列にあるものと、処理の糸が手にしていて
  今の世代で数えられうるもの。
* `frameCount_add_inFlight_run_le` — フレームを渡さない限り、数えた枚数とまだ数えられうる
  枚数の和は増えない。
* `frameCount_after_reset_le_inFlight` — リセットの後、フレームを渡さない限り、数えられる
  フレームは、リセットが始まったときに列にあったものと処理の糸が合わせ直す前に手にしていた
  ものだけで、高々 `frameQueueCapacity + 1` 枚。そのどちらも無ければ蓄えは空のまま。
* `reset_counts_frame_taken_before_drain` — リセットが列を空にする前に処理の糸が列から取った
  フレームは、リセットが戻った後に数えられる。
-/

namespace DropletVision

/-! ## 何も数えていない蓄え -/

/-- 何も数えていない蓄え：数は 0 で、度数分布の窓も記録も空。 -/
structure Measurements.Blank (m : Measurements) : Prop where
  frameCount : m.frameCount = 0
  dropletCountTotal : m.dropletCountTotal = 0
  histogram : m.histogram.clear = m.histogram
  rawLog : m.rawLog.toList = []

namespace Measurements

theorem blank_clear (m : Measurements) : m.clear.Blank :=
  ⟨rfl, rfl, rfl, rfl⟩

/-- 設定を入れ替えても空のまま：度数分布は作り直すか比だけ変え、記録は移し替える。 -/
theorem Blank.applyConfig {m : Measurements} (h : m.Blank) (previous next : DetectionConfig) :
    (m.applyConfig previous next).Blank := by
  refine ⟨h.frameCount, h.dropletCountTotal, ?_, ?_⟩
  · simp only [Measurements.applyConfig]
    split
    · rfl
    · exact congrArg (·.setPixelRatio next.umPerPx) h.histogram
  · have hr := h.rawLog
    simp only [Measurements.applyConfig, RawMeasurementLog.setCapacity]
    split
    · exact hr
    · have hr' : m.rawLog.records.toList = [] := hr
      simp [RawMeasurementLog.toList, hr', RingBuffer.extend]

/-- 空の記録は書き出すと何も無い。 -/
theorem Blank.exportTable {m : Measurements} (h : m.Blank) (f : ExportFormat) :
    m.rawLog.exportTable f = none := by
  have hr := h.rawLog
  simp only [RawMeasurementLog.toList, RingBuffer.toList, Array.toList_eq_nil_iff] at hr
  simp [RawMeasurementLog.exportTable, RingBuffer.isEmpty, hr]

end Measurements

/-! ## まだ数えられうるフレーム -/

/-- 処理の糸が手にしていて、共有の世代が `epoch` のときに数えられうるフレームの数：
世代を合わせ直す前のものか、`epoch` で合わせたもの。 -/
def Worker.held (w : Worker) (epoch : Nat) : Nat :=
  match w.point with
  | .resync _ => 1
  | .detect _ | .append _ _ => if w.epoch = epoch then 1 else 0
  | _ => 0

/-- 処理の糸が手にしていて、まだ世代を合わせ直していないフレームの数。 -/
def Worker.unsynced (w : Worker) : Nat :=
  match w.point with
  | .resync _ => 1
  | _ => 0

/-- まだ数えられうるフレームの数：列にあるものと処理の糸が手にしているもの。 -/
def System.inFlight (s : System) : Nat := s.shared.queue.len + s.worker.held s.shared.epoch

namespace Worker

theorem held_le_one (w : Worker) (epoch : Nat) : w.held epoch ≤ 1 := by
  unfold held
  split
  case h_1 => exact Nat.le_refl 1
  case h_2 | h_3 => split <;> omega
  case h_4 => exact Nat.zero_le 1

/-- 手元の世代より新しい世代では、合わせ直す前のフレームだけが数えられうる。 -/
theorem held_of_lt {w : Worker} {epoch : Nat} (h : w.epoch < epoch) : w.held epoch = w.unsynced := by
  have hne : w.epoch ≠ epoch := Nat.ne_of_lt h
  cases hp : w.point <;> simp [held, unsynced, hp, hne]

theorem unsynced_le_held (w : Worker) (epoch : Nat) : w.unsynced ≤ w.held epoch := by
  cases hp : w.point <;> simp [held, unsynced, hp]

end Worker

namespace System

variable {s : System}

/-- 列の容量と、手にする一枚。 -/
theorem Consistent.inFlight_le (h : s.Consistent) : s.inFlight ≤ frameQueueCapacity + 1 := by
  have hq : s.shared.queue.len ≤ frameQueueCapacity := h.queue_capacity ▸ h.queue_bounded.len_le
  have hw := s.worker.held_le_one s.shared.epoch
  unfold inFlight
  omega

/-- 処理の糸の一歩：フレームを列から手に移すか、手にしたフレームを数えるか捨てるかで、
数えた枚数とまだ数えられうる枚数の和は増えない。 -/
theorem frameCount_add_inFlight_step_worker_le (clock : Nat) :
    (s.step (.worker clock)).shared.measurements.frameCount + (s.step (.worker clock)).inFlight ≤
      s.shared.measurements.frameCount + s.inFlight := by
  simp only [inFlight, step_worker_shared, step_worker_worker]
  cases hp : s.worker.point with
  | top => simp [Worker.step_of_top hp, Worker.held, hp]
  | config =>
    rw [Worker.step_of_config hp]
    split <;> simp [Worker.held, hp]
  | background =>
    cases hb : s.shared.pending with
    | none => simp [Worker.step_of_background_none hp hb, Worker.held, hp]
    | some frames => simp [Worker.step_of_background_some hp hb, Worker.held, hp]
  | dequeue =>
    cases hq : s.shared.queue.toList with
    | nil => simp [Worker.step_of_dequeue_nil hp hq, Worker.held, hp]
    | cons f rest =>
      -- 列から一枚抜け、手に一枚入る
      simp only [Worker.step_of_dequeue_cons hp hq, Worker.held, hp, RingBuffer.len_eq_length,
        RingBuffer.toList_pop, hq, List.tail_cons, List.length_cons]
      omega
  | resync f => simp [Worker.step_of_resync hp, Worker.held, hp]
  | detect f => simp [Worker.step_of_detect hp, Worker.held, hp]
  | append metrics stages =>
    by_cases he : s.shared.epoch = s.worker.epoch
    · -- 数えた一枚が手から抜ける
      simp only [Worker.step_of_append_eq hp he, Worker.held, hp, he, Measurements.record,
        if_true]
      omega
    · have hne : s.worker.epoch ≠ s.shared.epoch := fun e => he e.symm
      simp [Worker.step_of_append_ne hp he, Worker.held, hp, hne]

/-- 呼び出し側の一歩：フレームを渡さなければ、リセットは数えた枚数を 0 にし、世代を進めて
今の世代で合わせたフレームを数えられなくし、列を空にするだけで、和は増えない。 -/
theorem frameCount_add_inFlight_step_caller_le (h : s.Consistent) {c : CallerStep}
    (hc : ∀ f, c ≠ .addFrame f) :
    (s.step (.caller c)).shared.measurements.frameCount + (s.step (.caller c)).inFlight ≤
      s.shared.measurements.frameCount + s.inFlight := by
  simp only [inFlight, step_caller_shared, step_caller_worker]
  cases c with
  | addFrame f => exact absurd rfl (hc f)
  | resetClear =>
    have hlt : s.worker.epoch < s.shared.epoch + 1 := Nat.lt_succ_of_le h.epoch_le
    have hu := Worker.held_of_lt hlt
    simp only [Shared.call, Measurements.clear, hu]
    -- 合わせ直す前のフレームだけが残る
    have := s.worker.unsynced_le_held s.shared.epoch
    omega
  | resetDrain =>
    simp [Shared.call, RingBuffer.len_eq_length]
  | updateConfig p =>
    simp only [Shared.call]
    split <;> simp [Shared.installConfig, Measurements.applyConfig]
  | initializeBackground frames =>
    simp only [Shared.call]
    split <;> simp

theorem frameCount_add_inFlight_step_le (h : s.Consistent) {m : Move}
    (hm : ∀ f, m ≠ .caller (.addFrame f)) :
    (s.step m).shared.measurements.frameCount + (s.step m).inFlight ≤
      s.shared.measurements.frameCount + s.inFlight := by
  cases m with
  | worker clock => exact frameCount_add_inFlight_step_worker_le clock
  | caller c => exact frameCount_add_inFlight_step_caller_le h fun f e => hm f (by rw [e])

/-- フレームを渡さない限り、数えた枚数とまだ数えられうる枚数の和は増えない。 -/
theorem frameCount_add_inFlight_run_le (h : s.Consistent) {ms : List Move}
    (hms : ∀ f, Move.caller (.addFrame f) ∉ ms) :
    (s.run ms).shared.measurements.frameCount + (s.run ms).inFlight ≤
      s.shared.measurements.frameCount + s.inFlight := by
  induction ms generalizing s with
  | nil => exact Nat.le_refl _
  | cons m ms ih =>
    have hm : ∀ f, m ≠ .caller (.addFrame f) := fun f e => hms f (e ▸ List.mem_cons_self)
    have hrest : ∀ f, Move.caller (.addFrame f) ∉ ms :=
      fun f hf => hms f (List.mem_cons_of_mem _ hf)
    exact Nat.le_trans (ih (h.step m) hrest) (frameCount_add_inFlight_step_le h hm)

/-- 数えられうるフレームが無く、蓄えが空なら、フレームを渡さない一歩の後もそのまま。 -/
theorem blank_step (h : s.Consistent) (hz : s.inFlight = 0) (hb : s.shared.measurements.Blank)
    {m : Move} (hm : ∀ f, m ≠ .caller (.addFrame f)) :
    (s.step m).inFlight = 0 ∧ (s.step m).shared.measurements.Blank := by
  have hle := frameCount_add_inFlight_step_le h hm
  rw [hz, hb.frameCount] at hle
  refine ⟨by omega, ?_⟩
  have hcount : (s.step m).shared.measurements.frameCount = 0 := by omega
  cases m with
  | worker clock =>
    simp only [step_worker_shared] at hcount ⊢
    rcases Worker.step_shared_cases s.worker s.shared clock with he | he | he | ⟨_, _, he⟩ <;>
      rw [he] at hcount ⊢
    · exact hb
    · exact hb
    · exact hb
    · -- 結果を足せば一枚数える
      simp [Measurements.record] at hcount
  | caller c =>
    simp only [step_caller_shared]
    cases c with
    | addFrame f => exact absurd rfl (hm f)
    | resetClear => exact Measurements.blank_clear _
    | resetDrain => exact hb
    | updateConfig p =>
      simp only [Shared.call]
      split
      · exact hb.applyConfig _ _
      · exact hb
    | initializeBackground frames =>
      simp only [Shared.call]
      split <;> exact hb

theorem blank_run (h : s.Consistent) (hz : s.inFlight = 0) (hb : s.shared.measurements.Blank)
    {ms : List Move} (hms : ∀ f, Move.caller (.addFrame f) ∉ ms) :
    (s.run ms).shared.measurements.Blank := by
  induction ms generalizing s with
  | nil => exact hb
  | cons m ms ih =>
    have hm : ∀ f, m ≠ .caller (.addFrame f) := fun f e => hms f (e ▸ List.mem_cons_self)
    obtain ⟨hz', hb'⟩ := blank_step h hz hb hm
    exact ih (h.step m) hz' hb' fun f hf => hms f (List.mem_cons_of_mem _ hf)

/-- リセットの前半の直後：数えた枚数は 0 で、まだ数えられうるのは、列にあったものと
処理の糸が合わせ直す前に手にしていたものだけ。 -/
theorem inFlight_resetClear (h : s.Consistent) :
    (s.step (.caller .resetClear)).inFlight = s.shared.queue.len + s.worker.unsynced := by
  simp only [inFlight, step_caller_shared, step_caller_worker, Shared.call]
  rw [Worker.held_of_lt (Nat.lt_succ_of_le h.epoch_le)]

/-- **リセットの後に数えられるフレーム。** リセットが始まった状態 `s` から、前半（世代を進めて
蓄えを捨てる）の後にフレームを渡さないどんな歩み `ms`（後半の列を空にする歩みも、処理の糸の
歩みも、ほかの呼び出しも含む）を進めても、数えたフレームは、リセットが始まったときに列に
あったものと、処理の糸が取って世代を合わせ直す前だったものの数を超えず、それは高々
`frameQueueCapacity + 1`。どちらも無かったなら、蓄えは数も度数分布も記録も空のまま。 -/
theorem frameCount_after_reset_le_inFlight (s : System) (h : s.Consistent) (ms : List Move)
    (hms : ∀ f, Move.caller (.addFrame f) ∉ ms) :
    let s' := (s.step (.caller .resetClear)).run ms
    s'.shared.measurements.frameCount ≤ s.shared.queue.len + s.worker.unsynced ∧
      s.shared.queue.len + s.worker.unsynced ≤ frameQueueCapacity + 1 ∧
      (s.shared.queue.len + s.worker.unsynced = 0 → s'.shared.measurements.Blank) := by
  have hc := h.step (.caller .resetClear)
  have hclear : (s.step (.caller .resetClear)).shared.measurements.Blank :=
    Measurements.blank_clear _
  have hin := inFlight_resetClear h
  refine ⟨?_, ?_, fun hz => blank_run hc (hin.trans hz) hclear hms⟩
  · have hle := frameCount_add_inFlight_run_le hc hms
    rw [hin, hclear.frameCount] at hle
    omega
  · rw [← hin]
    exact hc.inFlight_le

/-- 上の境界が 1 になる実行：リセットの前に一枚渡し、処理の糸がそれを列から取った後で
リセットが列を空にする。 -/
theorem frameCount_after_reset_le_inFlight_of_taken :
    let f := Frame.mono 1 1 ⟨#[0]⟩
    let s := (started (Shared.ofConfig {})).step (.caller (.addFrame f))
    let ms : List Move := [.worker 0, .worker 0, .worker 0, .worker 0, .caller .resetDrain,
      .worker 0, .worker 0, .worker 0]
    s.Consistent ∧ (∀ g, Move.caller (.addFrame g) ∉ ms) ∧
      let s' := (s.step (.caller .resetClear)).run ms
      s'.shared.measurements.frameCount ≤ s.shared.queue.len + s.worker.unsynced ∧
        s.shared.queue.len + s.worker.unsynced ≤ frameQueueCapacity + 1 ∧
        (s.shared.queue.len + s.worker.unsynced = 0 → s'.shared.measurements.Blank) :=
  have hs := (consistent_started_ofConfig {}).step (.caller (.addFrame (Frame.mono 1 1 ⟨#[0]⟩)))
  have hms : ∀ g, Move.caller (.addFrame g) ∉ ([.worker 0, .worker 0, .worker 0, .worker 0,
      .caller .resetDrain, .worker 0, .worker 0, .worker 0] : List Move) := by simp
  ⟨hs, hms, frameCount_after_reset_le_inFlight _ hs _ hms⟩

/-- リセットの前に渡したフレームが、リセットが戻った後に数えられる実行。リセットの前半が
世代を進めた後、処理の糸がループの頭で新しい世代に合わせてから列のフレームを取り、そこで
リセットの後半が列を空にして戻る。処理の糸は取ったフレームで世代を合わせ直しても世代は
変わっておらず、結果を足す。 -/
theorem reset_counts_frame_taken_before_drain :
    let f := Frame.mono 1 1 ⟨#[0]⟩
    ((started (Shared.ofConfig {})).run
      [.caller (.addFrame f), .caller .resetClear,
       -- 処理の糸：頭で世代を合わせ、設定と背景を見て、列から `f` を取る
       .worker 0, .worker 0, .worker 0, .worker 0,
       -- リセットの後半：列を空にして戻る
       .caller .resetDrain,
       -- 処理の糸：合わせ直し、検出器にかけ、結果を足す
       .worker 0, .worker 0, .worker 0]).shared.measurements.frameCount = 1 := by
  intro f
  have hf : f.validate = .ok () := rfl
  have hq : ((RingBuffer.new frameQueueCapacity).clear.push f).1.pop =
      (RingBuffer.new frameQueueCapacity, some f) := rfl
  simp [run, step, Shared.call, hf, hq, Worker.step, started, Shared.ofConfig, Worker.syncEpoch,
    Measurements.clear, Measurements.record]

end System

end DropletVision
