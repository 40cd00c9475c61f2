import DropletVision.Proofs.Buffer.Ring
import DropletVision.Proofs.Controller.Session

/-!
# 検出の蓄えの帳尻

制御がどんな順に操作を受けても、蓄え（度数分布、計測値の記録、処理時間、数）が互いに
食い違わないこと。

* 記録の数は、効いている設定の記録の容量を超えない。
* 度数分布の液滴の数と記録の数は、見つけた液滴の総数を超えない。
* 記録の画像番号は古い順に減らず、どれも処理した枚数より小さい。
* 度数分布の更新と一枚全体の処理時間は、どちらも `min 1000 処理した枚数` 個ある。

蓄えを変えるのは `Measurements.record`、`clear`、`applyConfig` の三つだけで、それぞれが
不変条件 `Measurements.Ledger` を保つ。制御の操作はどれもこの三つと、記録の容量を 1 以上に
保つ設定の入れ替えからなる（`DetectionController.Ledger.perform`）。主定理は
`DetectionController.measurements_consistent`。
-/

namespace DropletVision

theorem Stage.beq_iff {a b : Stage} : (a == b) = true ↔ a = b := by
  cases a <;> cases b <;> decide

/-! ## 段階ごとの処理時間 -/

namespace StageTimings

variable {t : StageTimings} {s s' : Stage} {x : Float}

/-- 段階を変えない写像の後で段階を探すことは、探してから写すことと同じ。 -/
theorem find?_map_of_fst {β : Type} (g : Stage × β → Stage × β) (hg : ∀ q, (g q).1 = q.1)
    (l : List (Stage × β)) :
    (l.map g).find? (·.1 == s') = (l.find? (·.1 == s')).map g := by
  induction l with
  | nil => rfl
  | cons q l ih =>
    simp only [List.map_cons, List.find?_cons, hg, ih]
    split <;> rfl

theorem exists_find?_of_keys (hk : t.samples.map (·.1) = Stage.all) (s : Stage) :
    ∃ b, t.samples.find? (·.1 == s) = some (s, b) := by
  have hs : s ∈ t.samples.map (·.1) := by rw [hk]; cases s <;> simp [Stage.all]
  obtain ⟨⟨a, b⟩, hmem, rfl⟩ := List.mem_map.mp hs
  cases hf : t.samples.find? (·.1 == a) with
  | none => exact absurd (Stage.beq_iff.mpr rfl) (List.find?_eq_none.mp hf _ hmem)
  | some q =>
    obtain ⟨a', b'⟩ := q
    have ha : a' = a :=
      Stage.beq_iff.mp (List.find?_some (p := fun q : Stage × RingBuffer Float => q.1 == a) hf)
    subst ha
    exact ⟨b', rfl⟩

/-- 段階がすべて揃っていれば、記録はその段階の列だけに一つ足す。 -/
theorem buffer_record (hk : t.samples.map (·.1) = Stage.all) :
    (t.record s x).buffer s' = if s' = s then ((t.buffer s).push x).1 else t.buffer s' := by
  obtain ⟨b, hb⟩ := exists_find?_of_keys hk s'
  have hbuf : t.buffer s' = b := by simp [buffer, hb]
  have hrec : (t.record s x).buffer s' = if s' = s then (b.push x).1 else b := by
    unfold buffer record
    rw [find?_map_of_fst _ (fun ⟨a, c⟩ => by dsimp only; split <;> rfl), hb]
    by_cases h : s' = s
    · subst h; simp [Stage.beq_iff]
    · simp [Stage.beq_iff, h]
  rw [hrec, ← hbuf]
  split
  · rename_i h; subst h; rfl
  · rfl

theorem buffer_clear : t.clear.buffer s = (t.buffer s).clear := by
  unfold buffer clear
  rw [find?_map_of_fst _ (fun ⟨a, c⟩ => by rfl)]
  cases t.samples.find? (·.1 == s) <;> rfl

theorem samples_record_keys : (t.record s x).samples.map (·.1) = t.samples.map (·.1) := by
  simp only [record, List.map_map]
  congr 1
  funext ⟨a, b⟩
  simp only [Function.comp]
  split <;> rfl

/-- 各段階の列が表示の順に一つずつあり、どれも容量 `timingSamples` の列である。 -/
structure Sized (t : StageTimings) : Prop where
  keys : t.samples.map (·.1) = Stage.all
  bounded : ∀ s, (t.buffer s).Bounded
  capacity : ∀ s, (t.buffer s).capacity = Measurements.timingSamples

theorem sized_new : (new Measurements.timingSamples).Sized := by
  have hbuf : ∀ s, (new Measurements.timingSamples).buffer s = .new Measurements.timingSamples := by
    intro s; cases s <;> rfl
  exact ⟨by simp [new, Stage.all], fun s => hbuf s ▸ RingBuffer.bounded_new _,
    fun s => by rw [hbuf s]; rfl⟩

theorem Sized.record (h : t.Sized) (s : Stage) (x : Float) : (t.record s x).Sized where
  keys := samples_record_keys.trans h.keys
  bounded s' := by
    rw [buffer_record h.keys]
    split
    · exact (h.bounded s).push x
    · exact h.bounded s'
  capacity s' := by
    rw [buffer_record h.keys]
    split
    · rw [RingBuffer.capacity_push]; exact h.capacity s
    · exact h.capacity s'

theorem Sized.clear (h : t.Sized) : t.clear.Sized where
  keys := by simp only [StageTimings.clear, List.map_map]; exact h.keys
  bounded s := buffer_clear ▸ (h.bounded s).clear
  capacity s := by rw [buffer_clear, RingBuffer.capacity_clear]; exact h.capacity s

/-- 一つ記録すると、その段階の数は一つ増えて容量で止まる。 -/
theorem Sized.count_record_self (h : t.Sized) :
    (t.record s x).count s = min (t.count s + 1) Measurements.timingSamples := by
  unfold count
  rw [buffer_record h.keys, if_pos rfl, (h.bounded s).len_push, h.capacity s]

theorem Sized.count_record_of_ne (h : t.Sized) (hne : s' ≠ s) :
    (t.record s x).count s' = t.count s' := by
  unfold count
  rw [buffer_record h.keys, if_neg hne]

/-- 記録の列に現れない段階の数は変わらない。 -/
theorem Sized.foldl_record (h : t.Sized) (stages : List Stage) (hs : s' ∉ stages) :
    (stages.foldl (fun t s => t.record s x) t).Sized ∧
      (stages.foldl (fun t s => t.record s x) t).count s' = t.count s' := by
  induction stages generalizing t with
  | nil => exact ⟨h, rfl⟩
  | cons s stages ih =>
    simp only [List.mem_cons, not_or] at hs
    obtain ⟨hsz, hc⟩ := ih (h.record s x) hs.2
    exact ⟨hsz, hc.trans (h.count_record_of_ne hs.1)⟩

@[simp] theorem count_clear : t.clear.count s = 0 := by
  simp [count, buffer_clear, RingBuffer.len_eq_length]

end StageTimings

/-! ## 計測値の記録と度数分布 -/

namespace RawMeasurementLog

variable {l : RawMeasurementLog}

@[simp] theorem capacity_clear : l.clear.capacity = l.capacity := rfl

@[simp] theorem toList_clear : l.clear.toList = [] := rfl

theorem len_eq_length (l : RawMeasurementLog) : l.len = l.toList.length :=
  RingBuffer.len_eq_length l.records

/-- 計測値を足した記録は、もとの記録に新しい記録を続けた列の後ろの部分。 -/
theorem toList_extendFromMetrics (h : l.records.Bounded) (ms : List DropletMetrics)
    (ts frame : Nat) :
    (l.extendFromMetrics ms ts frame).toList =
      (l.toList ++ ms.map (RawRecord.ofMetrics · ts frame)).drop (l.len + ms.length - l.capacity) := by
  simp [extendFromMetrics, toList, RingBuffer.toList_extend _ h, len, capacity]

@[simp] theorem capacity_extendFromMetrics (ms : List DropletMetrics) (ts frame : Nat) :
    (l.extendFromMetrics ms ts frame).capacity = l.capacity := by
  simp [extendFromMetrics, capacity]

theorem len_extendFromMetrics_le (h : l.records.Bounded) (ms : List DropletMetrics)
    (ts frame : Nat) : (l.extendFromMetrics ms ts frame).len ≤ l.len + ms.length := by
  simpa [extendFromMetrics, len] using
    RingBuffer.len_extend_le (ms.map (RawRecord.ofMetrics · ts frame)) h

/-- 容量を変えた記録は新しい容量（1 以上に切り上げ）を持ち、もとの記録の後ろの部分を残す。 -/
theorem setCapacity_spec (h : l.records.Bounded) (c : Nat) :
    (l.setCapacity c).capacity = max c 1 ∧ (l.setCapacity c).records.Bounded ∧
      ∃ k, (l.setCapacity c).toList = l.toList.drop k := by
  unfold setCapacity
  split
  · rename_i heq
    have hc : c = l.capacity := by simpa using heq
    refine ⟨?_, h, 0, rfl⟩
    have := h.pos
    simp only [capacity] at hc this ⊢
    omega
  · refine ⟨by simp [capacity], (RingBuffer.bounded_new c).extend _, l.len - max c 1, ?_⟩
    simp [toList, RingBuffer.toList_extend _ (RingBuffer.bounded_new c), len_eq_length,
      RingBuffer.len_eq_length]

end RawMeasurementLog

namespace DropletHistogram

variable {h : DropletHistogram}

/-- 液滴を足した分だけしか数は増えない。 -/
theorem len_update_le (ms : List DropletMetrics) : (h.update ms).len ≤ h.len + ms.length := by
  induction ms generalizing h with
  | nil => simp [update]
  | cons m ms ih =>
    refine Nat.le_trans ih ?_
    have hpush := RingBuffer.len_push_le h.width (Metric.width.value m)
    simp only [len, List.length_cons] at hpush ⊢
    omega

@[simp] theorem len_clear : h.clear.len = 0 := rfl

@[simp] theorem len_reconfigure (w b : Nat) : (h.reconfigure w b).len = 0 := rfl

@[simp] theorem len_setPixelRatio (r : Float) : (h.setPixelRatio r).len = h.len := rfl

end DropletHistogram

/-! ## 検出器が終える段階 -/

namespace DropletDetector

/-- 一枚の処理が終えたと報告する段階は、前処理だけか、前処理から計測までの四つ。 -/
theorem tryProcessFrame_stages {d : DropletDetector} {f : Frame} {ms : List DropletMetrics}
    {stages : List Stage} (h : (d.tryProcessFrame f).2 = .ok (ms, stages)) :
    stages = [.preprocessing] ∨
      stages = [.preprocessing, .segmentation, .artifactRejection, .measurement] := by
  unfold tryProcessFrame at h
  split at h
  · simp at h
  · dsimp only at h
    split at h
    · simp at h
    · split at h
      · simp only [Except.ok.injEq, Prod.mk.injEq] at h
        exact .inl h.2.symm
      · split at h
        · simp at h
        · simp only [Except.ok.injEq, Prod.mk.injEq] at h
          exact .inr h.2.symm

/-- 検出器は度数分布の更新と一枚全体の時間を報告しない（それは蓄えが足す）。 -/
theorem processFrame_stages_not_mem (d : DropletDetector) (f : Frame) :
    Stage.histogramUpdate ∉ (d.processFrame f).2.2 ∧ Stage.totalPerFrame ∉ (d.processFrame f).2.2 := by
  unfold processFrame
  dsimp only
  generalize hr : tryProcessFrame _ f = r
  rcases r with ⟨d', _ | ⟨ms, stages⟩⟩
  · simp
  · rcases tryProcessFrame_stages (by rw [hr]) with rfl | rfl <;> simp

end DropletDetector

/-! ## 検査を通った設定の記録の容量 -/

theorem DetectionConfig.rawLogCapacity_pos {c : DetectionConfig} (h : c.validate = .ok ()) :
    1 ≤ c.rawLogCapacity := by
  unfold DetectionConfig.validate at h
  split at h
  · rename_i hv
    -- 規則の並びは `delta` で開く。等式の補題を作らせると、それだけで十秒を超える。
    delta DetectionConfig.violations at hv
    simp only [List.append_eq_nil_iff, DetectionConfig.rule] at hv
    have hcap := hv.1.1.2
    by_contra hlt
    rw [if_neg (by simpa using hlt)] at hcap
    simp at hcap
  · simp at h

theorem ConfigPatch.validate_of_apply {p : ConfigPatch} {base next : DetectionConfig}
    (h : p.apply base = .ok next) : next.validate = .ok () := by
  unfold ConfigPatch.apply at h
  cases hv : (p.overwrite base).validate with
  | error e => simp [hv, bind, Except.bind] at h
  | ok u =>
    simp only [hv, bind, Except.bind, pure, Except.pure, Except.ok.injEq] at h
    rw [← h, hv]

theorem validate_of_configOfSection {sec : List (String × Json)} {c : DetectionConfig}
    (h : configOfSection sec = .ok c) : c.validate = .ok () := by
  unfold configOfSection at h
  simp only [bind, Except.bind] at h
  split at h
  · simp at h
  · split at h
    · simp at h
    · rename_i c' _ _ hv
      simp only [pure, Except.pure, Except.ok.injEq] at h
      subst h
      exact hv

/-- プロファイルから読めた設定は検査を通っている。 -/
theorem validate_of_loadProfile {files : FileTree} {path : String} {c : DetectionConfig}
    (h : (loadProfile files path).1 = .ok c) : c.validate = .ok () := by
  unfold loadProfile at h
  split at h
  · simp at h
  · split at h
    · rename_i c' notes hc
      simp only [Except.ok.injEq] at h
      subst h
      unfold configOfDocumentNoted at hc
      split at hc
      · simp at hc
      · simp only [Prod.mk.injEq] at hc
        exact validate_of_configOfSection hc.1
    · rename_i hne
      exact (hne c _ (Prod.ext h rfl)).elim

/-! ## 蓄えの不変条件 -/

namespace Measurements

variable {m : Measurements} {cap : Nat}

@[simp] theorem record_rawLog (ms : List DropletMetrics) (stages : List Stage) (ts : Nat)
    (st : DetectorState) :
    (m.record ms stages ts st).rawLog = m.rawLog.extendFromMetrics ms ts m.frameCount := rfl

@[simp] theorem record_frameCount (ms : List DropletMetrics) (stages : List Stage) (ts : Nat)
    (st : DetectorState) : (m.record ms stages ts st).frameCount = m.frameCount + 1 := rfl

@[simp] theorem record_dropletCountTotal (ms : List DropletMetrics) (stages : List Stage)
    (ts : Nat) (st : DetectorState) :
    (m.record ms stages ts st).dropletCountTotal = m.dropletCountTotal + ms.length := rfl

@[simp] theorem record_histogram (ms : List DropletMetrics) (stages : List Stage) (ts : Nat)
    (st : DetectorState) : (m.record ms stages ts st).histogram = m.histogram.update ms := rfl

@[simp] theorem record_timings (ms : List DropletMetrics) (stages : List Stage) (ts : Nat)
    (st : DetectorState) :
    (m.record ms stages ts st).timings =
      (stages ++ [Stage.histogramUpdate, Stage.totalPerFrame]).foldl (fun t s => t.record s 0.0)
        m.timings :=
  rfl

/-- 蓄えが互いに食い違わないこと（`cap` は効いている設定の記録の容量）。 -/
structure Ledger (cap : Nat) (m : Measurements) : Prop where
  rawLog_capacity : m.rawLog.capacity = max cap 1
  rawLog_bounded : m.rawLog.records.Bounded
  timings_sized : m.timings.Sized
  histogram_len_le : m.histogram.len ≤ m.dropletCountTotal
  rawLog_len_le : m.rawLog.len ≤ m.dropletCountTotal
  /-- 記録の画像番号は古い順に減らない。 -/
  frameIds_sorted : (m.rawLog.toList.map (·.frameId)).Pairwise (· ≤ ·)
  frameId_lt : ∀ r ∈ m.rawLog.toList, r.frameId < m.frameCount
  count_histogramUpdate : m.timings.count .histogramUpdate = min m.frameCount timingSamples
  count_totalPerFrame : m.timings.count .totalPerFrame = min m.frameCount timingSamples

theorem ledger_ofConfig (c : DetectionConfig) : (ofConfig c).Ledger c.rawLogCapacity where
  rawLog_capacity := rfl
  rawLog_bounded := RingBuffer.bounded_new _
  timings_sized := StageTimings.sized_new
  histogram_len_le := Nat.zero_le _
  rawLog_len_le := by simp [ofConfig, RawMeasurementLog.len, RawMeasurementLog.new, RingBuffer.len,
    RingBuffer.new]
  frameIds_sorted := List.Pairwise.nil
  frameId_lt := by simp [ofConfig, RawMeasurementLog.toList, RawMeasurementLog.new]
  count_histogramUpdate := rfl
  count_totalPerFrame := rfl

theorem Ledger.clear (h : m.Ledger cap) : m.clear.Ledger cap where
  rawLog_capacity := h.rawLog_capacity
  rawLog_bounded := h.rawLog_bounded.clear
  timings_sized := h.timings_sized.clear
  histogram_len_le := by simp [Measurements.clear]
  rawLog_len_le := by simp [Measurements.clear, RawMeasurementLog.len_eq_length]
  frameIds_sorted := by simp [Measurements.clear]
  frameId_lt := by simp [Measurements.clear]
  count_histogramUpdate := by simp [Measurements.clear]
  count_totalPerFrame := by simp [Measurements.clear]

/-- 設定の入れ替えは、度数分布と記録を縮めるだけで、数と処理時間には触れない。 -/
theorem Ledger.applyConfig (h : m.Ledger cap) (previous next : DetectionConfig) :
    (m.applyConfig previous next).Ledger next.rawLogCapacity := by
  obtain ⟨hcap', hb', hk⟩ := RawMeasurementLog.setCapacity_spec h.rawLog_bounded next.rawLogCapacity
  obtain ⟨k, hk⟩ := hk
  have hsub : ((m.applyConfig previous next).rawLog.toList.map (·.frameId)).Sublist
      (m.rawLog.toList.map (·.frameId)) := by
    simp only [Measurements.applyConfig, hk]
    exact (List.drop_sublist _ _).map _
  have hlen : (m.applyConfig previous next).rawLog.len ≤ m.rawLog.len := by
    simp only [Measurements.applyConfig, RawMeasurementLog.len_eq_length, hk, List.length_drop]
    omega
  refine ⟨hcap', hb', h.timings_sized, ?_, Nat.le_trans hlen h.rawLog_len_le,
    h.frameIds_sorted.sublist hsub, ?_, h.count_histogramUpdate, h.count_totalPerFrame⟩
  · -- 形が変われば度数分布は空になり、変わらなければ長さはそのまま
    have := h.histogram_len_le
    simp only [Measurements.applyConfig]
    split
    · simp
    · simpa using this
  · intro r hr
    simp only [Measurements.applyConfig, hk] at hr
    exact h.frameId_lt r (List.mem_of_mem_drop hr)

/-- 一枚の結果を足しても帳尻は合う。足す記録の画像番号はそれまでに処理した枚数なので、
古い記録より小さくならない。 -/
theorem Ledger.record (h : m.Ledger cap) (ms : List DropletMetrics) (stages : List Stage)
    (hst : Stage.histogramUpdate ∉ stages ∧ Stage.totalPerFrame ∉ stages) (ts : Nat)
    (st : DetectorState) : (m.record ms stages ts st).Ledger cap := by
  have hlist := RawMeasurementLog.toList_extendFromMetrics h.rawLog_bounded ms ts m.frameCount
  have hnew : ∀ r ∈ ms.map (RawRecord.ofMetrics · ts m.frameCount), r.frameId = m.frameCount := by
    simp [RawRecord.ofMetrics]
  -- 新しい記録を続けた列は、画像番号が減らない
  have hall : ((m.rawLog.toList ++ ms.map (RawRecord.ofMetrics · ts m.frameCount)).map
      (·.frameId)).Pairwise (· ≤ ·) := by
    rw [List.map_append, List.pairwise_append]
    refine ⟨h.frameIds_sorted, List.pairwise_of_forall_mem_list ?_, ?_⟩
    · intro a ha b hb
      obtain ⟨ra, hra, rfl⟩ := List.mem_map.mp ha
      obtain ⟨rb, hrb, rfl⟩ := List.mem_map.mp hb
      exact Nat.le_of_eq ((hnew ra hra).trans (hnew rb hrb).symm)
    · intro a ha b hb
      obtain ⟨ra, hra, rfl⟩ := List.mem_map.mp ha
      obtain ⟨rb, hrb, rfl⟩ := List.mem_map.mp hb
      rw [hnew rb hrb]
      exact Nat.le_of_lt (h.frameId_lt ra hra)
  -- 処理時間：検出器の段階の後に、度数分布の更新と一枚全体を一つずつ
  have hfold := h.timings_sized.foldl_record (x := 0.0) stages hst.1
  have hfold' := h.timings_sized.foldl_record (x := 0.0) stages hst.2
  have hne : Stage.totalPerFrame ≠ Stage.histogramUpdate := by decide
  have hsz₁ := hfold.1.record .histogramUpdate 0.0
  refine ⟨?_, h.rawLog_bounded.extend _, ?_, ?_, ?_, ?_, ?_, ?_, ?_⟩
  · simpa using h.rawLog_capacity
  · simp only [record_timings, List.foldl_append, List.foldl_cons, List.foldl_nil]
    exact hsz₁.record _ _
  · have := DropletHistogram.len_update_le (h := m.histogram) ms
    have := h.histogram_len_le
    simp only [record_histogram, record_dropletCountTotal]
    omega
  · have := RawMeasurementLog.len_extendFromMetrics_le h.rawLog_bounded ms ts m.frameCount
    have := h.rawLog_len_le
    simp only [record_rawLog, record_dropletCountTotal]
    omega
  · simp only [record_rawLog, hlist]
    exact hall.sublist ((List.drop_sublist _ _).map _)
  · intro r hr
    simp only [record_rawLog, hlist] at hr
    rcases List.mem_append.mp (List.mem_of_mem_drop hr) with hr | hr
    · simp only [record_frameCount]
      exact Nat.lt_succ_of_lt (h.frameId_lt r hr)
    · simp [hnew r hr]
  · simp only [record_timings, List.foldl_append, List.foldl_cons, List.foldl_nil, record_frameCount]
    rw [hsz₁.count_record_of_ne hne.symm, hfold.1.count_record_self, hfold.2,
      h.count_histogramUpdate]
    simp only [timingSamples]
    omega
  · simp only [record_timings, List.foldl_append, List.foldl_cons, List.foldl_nil, record_frameCount]
    rw [hsz₁.count_record_self, hfold.1.count_record_of_ne hne, hfold'.2, h.count_totalPerFrame]
    simp only [timingSamples]
    omega

end Measurements

/-! ## 制御の操作 -/

namespace DetectionController

variable {k k' : DetectionController}

theorem applyPendingBackground_config_measurements (k : DetectionController) :
    k.applyPendingBackground.config = k.config ∧
      k.applyPendingBackground.measurements = k.measurements := by
  unfold applyPendingBackground
  split <;> exact ⟨rfl, rfl⟩

/-- 効いている設定の記録の容量が 1 以上で、蓄えがその容量について帳尻が合うこと。 -/
structure Ledger (k : DetectionController) : Prop where
  capacity_pos : 1 ≤ k.config.rawLogCapacity
  measurements : k.measurements.Ledger k.config.rawLogCapacity

theorem ledger_fresh {c : DetectionConfig} (hc : 1 ≤ c.rawLogCapacity) :
    ({ config := c, measurements := .ofConfig c } : DetectionController).Ledger :=
  ⟨hc, Measurements.ledger_ofConfig c⟩

theorem Ledger.of_eq (h : k.Ledger) (hc : k'.config = k.config)
    (hm : k'.measurements = k.measurements) : k'.Ledger := by
  obtain ⟨h₁, h₂⟩ := h
  exact ⟨hc ▸ h₁, hc ▸ hm ▸ h₂⟩

theorem Ledger.installConfig (h : k.Ledger) {next : DetectionConfig}
    (hn : 1 ≤ next.rawLogCapacity) : (k.installConfig next).Ledger :=
  ⟨hn, h.measurements.applyConfig k.config next⟩

theorem Ledger.start (h : k.Ledger) {cam : Camera} (hs : k.start cam = .ok k') : k'.Ledger := by
  unfold DetectionController.start at hs
  cases hr : k.isRunning
  · cases hroi : cam.roi with
    | none => simp [hr, hroi, bind, Except.bind, throw, throwThe, MonadExceptOf.throw] at hs
    | some r =>
      cases hv : r.validateForSensor cam.sensorSize.1 cam.sensorSize.2 with
      | error e => simp [hr, hroi, hv, bind, Except.bind, pure, Except.pure] at hs
      | ok u =>
        simp only [hr, hroi, hv, bind, Except.bind, pure, Except.pure, Except.ok.injEq,
          Bool.false_eq_true, if_false] at hs
        subst hs
        refine Ledger.of_eq ?_ (applyPendingBackground_config_measurements _).1
          (applyPendingBackground_config_measurements _).2
        -- 較正が設定と違うときだけ、較正を入れた設定に入れ替わる（記録の容量は同じ）
        cases hc : cam.calibration with
        | none => exact h.of_eq rfl rfl
        | some cal =>
          by_cases hd : calibrationDiffers cal k.config.calibration = true
          · simp only [hd, if_true]
            exact (Ledger.installConfig (k := { k with cameraCalibration := some cal })
              (h.of_eq rfl rfl)
              (show 1 ≤ (k.config.withCalibration cal).rawLogCapacity from h.capacity_pos)).of_eq
              rfl rfl
          · simp only [hd]
            exact h.of_eq rfl rfl
  · simp [hr, bind, Except.bind, throw, throwThe, MonadExceptOf.throw] at hs

theorem Ledger.addFrame (h : k.Ledger) (f : Frame) (t : Nat) : (k.addFrame f t).2.Ledger := by
  unfold DetectionController.addFrame
  cases hs : k.session with
  | none => exact h
  | some s =>
    cases hv : f.validate with
    | error e => exact h
    | ok u =>
      exact ⟨h.capacity_pos, h.measurements.record _ _
        (DropletDetector.processFrame_stages_not_mem s.detector f) _ _⟩

theorem Ledger.updateConfig (h : k.Ledger) {p : ConfigPatch} (hu : k.updateConfig p = .ok k') :
    k'.Ledger := by
  unfold DetectionController.updateConfig at hu
  cases ha : p.apply k.config with
  | error e => simp [ha, bind, Except.bind] at hu
  | ok next =>
    simp only [ha, bind, Except.bind, pure, Except.pure, Except.ok.injEq] at hu
    subst hu
    exact h.installConfig (DetectionConfig.rawLogCapacity_pos (ConfigPatch.validate_of_apply ha))

theorem Ledger.loadConfig (h : k.Ledger) {next : DetectionConfig}
    (hn : 1 ≤ next.rawLogCapacity) : (k.loadConfig next).Ledger := by
  unfold DetectionController.loadConfig
  split <;> exact h.installConfig hn

theorem Ledger.initializeBackground (h : k.Ledger) {frames : List Frame}
    (hi : k.initializeBackground frames = .ok k') : k'.Ledger := by
  unfold DetectionController.initializeBackground at hi
  cases hc : checkBackground frames with
  | error e => simp [hc, bind, Except.bind] at hi
  | ok u =>
    simp only [hc, bind, Except.bind, pure, Except.pure, Except.ok.injEq] at hi
    subst hi
    exact h.of_eq (applyPendingBackground_config_measurements _).1
      (applyPendingBackground_config_measurements _).2

theorem Ledger.orKeep (h : k.Ledger) {r : Outcome DetectionController}
    (hr : ∀ k', r = .ok k' → k'.Ledger) : (k.orKeep r).Ledger := by
  cases r with
  | ok k' => exact hr k' rfl
  | error e => exact h

theorem perform_loadProfile (files : FileTree) (path : String) :
    k.perform (.loadProfile files path) =
      match (loadProfile files path).1 with
      | .ok c => k.loadConfig c
      | .error _ => k := rfl

/-- 一つの操作は帳尻を保つ。 -/
theorem Ledger.perform (h : k.Ledger) (op : ControllerOp) : (k.perform op).Ledger := by
  cases op with
  | start cam =>
    show (k.orKeep (k.start cam)).Ledger
    exact h.orKeep fun _ hs => h.start hs
  | stop => exact h.of_eq rfl rfl
  | reset => exact ⟨h.capacity_pos, h.measurements.clear⟩
  | frame f t => exact h.addFrame f t
  | updateConfig p =>
    show (k.orKeep (k.updateConfig p)).Ledger
    exact h.orKeep fun _ hu => h.updateConfig hu
  | loadProfile files path =>
    rw [perform_loadProfile]
    cases hl : (loadProfile files path).1 with
    | ok c => exact h.loadConfig (DetectionConfig.rawLogCapacity_pos (validate_of_loadProfile hl))
    | error e => exact h
  | initializeBackground frames =>
    show (k.orKeep (k.initializeBackground frames)).Ledger
    exact h.orKeep fun _ hi => h.initializeBackground hi

theorem Ledger.performAll (h : k.Ledger) (ops : List ControllerOp) : (k.performAll ops).Ledger := by
  induction ops generalizing k with
  | nil => exact h
  | cons op ops ih => exact ih (h.perform op)

/-- **蓄えの帳尻。** 記録の容量が 1 以上の設定から作った制御（`new` が返すものはみなこれ）に
どんな操作の列を施しても、記録は容量を超えず、度数分布と記録は見つけた液滴の総数を超えず、
記録の画像番号は古い順に減らずに処理した枚数より小さく、度数分布の更新と一枚全体の処理時間は
`min 1000 処理した枚数` 個ずつある。 -/
theorem measurements_consistent (c : DetectionConfig) (hc : 1 ≤ c.rawLogCapacity)
    (ops : List ControllerOp) :
    let k := ({ config := c, measurements := .ofConfig c } : DetectionController).performAll ops
    k.measurements.rawLog.len ≤ k.config.rawLogCapacity ∧
      k.measurements.histogram.len ≤ k.measurements.dropletCountTotal ∧
      k.measurements.rawLog.len ≤ k.measurements.dropletCountTotal ∧
      (k.measurements.rawLog.toList.map (·.frameId)).Pairwise (· ≤ ·) ∧
      (∀ r ∈ k.measurements.rawLog.toList, r.frameId < k.measurements.frameCount) ∧
      k.measurements.timings.count .totalPerFrame = min 1000 k.measurements.frameCount ∧
      k.measurements.timings.count .histogramUpdate = min 1000 k.measurements.frameCount := by
  obtain ⟨hpos, hm⟩ := (ledger_fresh hc).performAll ops
  generalize ({ config := c, measurements := .ofConfig c } : DetectionController).performAll ops = k
    at hpos hm ⊢
  have hlen : k.measurements.rawLog.len ≤ k.config.rawLogCapacity := by
    have hb := hm.rawLog_bounded.len_le
    have hcap := hm.rawLog_capacity
    simp only [RawMeasurementLog.capacity, RawMeasurementLog.len] at hcap ⊢
    omega
  refine ⟨hlen, hm.histogram_len_le, hm.rawLog_len_le, hm.frameIds_sorted, hm.frameId_lt, ?_, ?_⟩
  · rw [hm.count_totalPerFrame, Nat.min_comm]; rfl
  · rw [hm.count_histogramUpdate, Nat.min_comm]; rfl

/-- 既定の設定の制御を合成カメラで開始し、明るさの違う二枚を処理してリセットし、もう一枚を
処理して止めた後でも帳尻が合う。 -/
theorem measurements_consistent_after_frames_and_reset :
    1 ≤ ({} : DetectionConfig).rawLogCapacity ∧
      let cam : Camera := .synthetic { SyntheticCamera.new { width := 8, height := 8 } with
        roi := some ⟨0, 0, 8, 8⟩ }
      let f : UInt8 → Nat → Frame := fun v i => ⟨[8, 8], ⟨Array.replicate 64 v⟩, i, none⟩
      let k := ({ config := {}, measurements := .ofConfig {} } : DetectionController).performAll
        [.start cam, .frame (f 30 0) 100, .frame (f 220 1) 133, .reset, .frame (f 90 2) 166, .stop]
      k.measurements.rawLog.len ≤ k.config.rawLogCapacity ∧
        k.measurements.histogram.len ≤ k.measurements.dropletCountTotal ∧
        k.measurements.rawLog.len ≤ k.measurements.dropletCountTotal ∧
        (k.measurements.rawLog.toList.map (·.frameId)).Pairwise (· ≤ ·) ∧
        (∀ r ∈ k.measurements.rawLog.toList, r.frameId < k.measurements.frameCount) ∧
        k.measurements.timings.count .totalPerFrame = min 1000 k.measurements.frameCount ∧
        k.measurements.timings.count .histogramUpdate = min 1000 k.measurements.frameCount :=
  ⟨by decide, measurements_consistent {} (by decide) _⟩

end DetectionController

end DropletVision
