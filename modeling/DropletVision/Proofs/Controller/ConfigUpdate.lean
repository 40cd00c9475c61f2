import DropletVision.Proofs.Config.Fields
import DropletVision.Proofs.Controller.Calibration

/-!
# 設定の更新は検査の後でしか入らない

`updateConfig` は更新を当てた設定を検査し、通らなければ誤りを返して制御の状態に触れない
（操作としては何も変えない）。通ったときだけ設定を入れ替え、蓄えを新しい設定に合わせる。

* 度数分布は、窓と区間の数が変わらなければ中身を残して換算だけを新しい値にし、
  変われば新しい設定で空から作り直す。
* 計測値の記録は、新しい容量に収まる分だけを、新しい方から順序を保って残す。
* 処理時間、処理した枚数、見つけた液滴の総数はそのまま。

記録の残し方は、記録が容量を超えていないこと（`DetectionController.Ledger`）に拠る。
-/

namespace DropletVision

namespace RawMeasurementLog

variable {l : RawMeasurementLog}

/-- 容量を変えた記録は、もとの記録のうち新しい容量（1 以上に切り上げ）に収まる分を、
新しい方から残す。 -/
theorem toList_setCapacity (h : l.records.Bounded) (c : Nat) :
    (l.setCapacity c).toList = l.toList.drop (l.toList.length - max c 1) := by
  unfold setCapacity
  split
  · -- 容量が同じなら記録はそのままで、容量を超えていないので何も落ちない
    rename_i heq
    have hc : c = l.capacity := by simpa using heq
    have hlen : l.toList.length ≤ max c 1 := by
      have := h.len_le
      rw [hc]
      simp only [capacity, toList, ← RingBuffer.len_eq_length]
      omega
    rw [Nat.sub_eq_zero_of_le hlen, List.drop_zero]
  · simp [toList, RingBuffer.toList_extend _ (RingBuffer.bounded_new c), RingBuffer.len_eq_length]

end RawMeasurementLog

namespace DropletHistogram

/-- 作り直してから換算を変えた度数分布は、新しい換算で空から作ったもの。 -/
@[simp] theorem setPixelRatio_reconfigure (h : DropletHistogram) (w b : Nat) (r : Float) :
    (h.reconfigure w b).setPixelRatio r = new w b r := rfl

end DropletHistogram

namespace Measurements

variable (m : Measurements) (previous next : DetectionConfig)

/-- 窓と区間の数が変わらなければ度数分布の中身は残り、変われば空から作り直す。
換算はどちらでも新しい値。 -/
theorem histogram_applyConfig :
    (m.applyConfig previous next).histogram =
      if next.histogramWindowSize = previous.histogramWindowSize ∧
          next.histogramBins = previous.histogramBins then
        m.histogram.setPixelRatio next.umPerPx
      else DropletHistogram.new next.histogramWindowSize next.histogramBins next.umPerPx := by
  unfold applyConfig DetectionConfig.histogramShapeChanged
  by_cases hs : next.histogramWindowSize = previous.histogramWindowSize ∧
      next.histogramBins = previous.histogramBins
  · obtain ⟨hw, hb⟩ := hs
    simp [hw, hb]
  · have hc : (previous.histogramWindowSize != next.histogramWindowSize ||
        previous.histogramBins != next.histogramBins) = true := by
      simp only [Bool.or_eq_true, bne_iff_ne, ne_eq]
      omega
    rw [if_neg hs, if_pos hc]
    rfl

/-- 記録は新しい容量に収まる分だけ、新しい方から残る。 -/
theorem rawLog_toList_applyConfig (h : m.rawLog.records.Bounded)
    (hc : 1 ≤ next.rawLogCapacity) :
    (m.applyConfig previous next).rawLog.toList =
      m.rawLog.toList.drop (m.rawLog.toList.length - next.rawLogCapacity) := by
  rw [show (m.applyConfig previous next).rawLog = m.rawLog.setCapacity next.rawLogCapacity from rfl,
    RawMeasurementLog.toList_setCapacity h, Nat.max_eq_left hc]

@[simp] theorem timings_applyConfig : (m.applyConfig previous next).timings = m.timings := rfl

@[simp] theorem frameCount_applyConfig :
    (m.applyConfig previous next).frameCount = m.frameCount := rfl

@[simp] theorem dropletCountTotal_applyConfig :
    (m.applyConfig previous next).dropletCountTotal = m.dropletCountTotal := rfl

end Measurements

namespace DetectionController

variable {k : DetectionController} {p : ConfigPatch}

@[simp] theorem installConfig_measurements (next : DetectionConfig) :
    (k.installConfig next).measurements = k.measurements.applyConfig k.config next := rfl

/-- 更新は、当てた設定が検査に通らなければその誤りを返す。 -/
theorem updateConfig_of_apply_error {e : DetectorError} (ha : p.apply k.config = .error e) :
    k.updateConfig p = .error e := by
  simp [updateConfig, ha, bind, Except.bind]

/-- 当てた設定 `c` が検査に通れば、更新は `c` を入れた制御を返す。 -/
theorem updateConfig_of_apply_ok {c : DetectionConfig} (ha : p.apply k.config = .ok c) :
    k.updateConfig p = .ok (k.installConfig c) := by
  simp [updateConfig, ha, bind, Except.bind, pure, Except.pure]

/-- 検査に通らない更新は、操作として何も変えない。 -/
theorem perform_updateConfig_of_apply_error {e : DetectorError}
    (ha : p.apply k.config = .error e) : k.perform (.updateConfig p) = k := by
  show k.orKeep (k.updateConfig p) = k
  rw [updateConfig_of_apply_error ha]
  rfl

theorem perform_updateConfig_of_apply_ok {c : DetectionConfig} (ha : p.apply k.config = .ok c) :
    k.perform (.updateConfig p) = k.installConfig c := by
  show k.orKeep (k.updateConfig p) = _
  rw [updateConfig_of_apply_ok ha]
  rfl

/-- 検査を通る設定から作った制御は、どんな操作の列の後でも帳尻が合う。 -/
theorem ledger_of_new {c₀ : DetectionConfig} {k₀ : DetectionController} (h₀ : new c₀ = .ok k₀)
    (ops : List ControllerOp) : (k₀.performAll ops).Ledger := by
  have hv : c₀.validate = .ok () := by
    unfold new at h₀
    cases hv : c₀.validate with
    | error e => simp [hv, bind, Except.bind] at h₀
    | ok u => rfl
  rw [new_eq_ok h₀]
  exact (ledger_fresh (DetectionConfig.rawLogCapacity_pos hv)).performAll ops

/-- **設定の更新。** どの設定 `base` に当てる更新も、欄ごとに「指定があればその値、無ければ
`base` の値」の設定（流路の帯は、入れる指定が外す指定に優先）を検査し、通ればそれを返し、
通らなければそれの破る規則をすべて挙げた誤りを返す。検査を通る設定から作った制御にどんな
操作の列を施した後でも、制御の更新は、誤りのときは何も変えず、通ったときは設定を入れ替え、
度数分布は窓と区間の数が変わらなければ中身を残して換算を新しくし（変われば空から作り直し）、
記録は新しい容量に収まる分だけを新しい方から順序を保って残し、処理時間と数には触れない。 -/
theorem updateConfig_validates_before_install {c₀ : DetectionConfig} {k₀ k : DetectionController}
    (h₀ : new c₀ = .ok k₀) {ops : List ControllerOp} (hk : k₀.performAll ops = k)
    (p : ConfigPatch) :
    (∀ base c, p.apply base = .ok c ↔
        (∀ f, c.get f = (p.get f).getD (base.get f)) ∧ c.validate = .ok ()) ∧
      (∀ base e, p.apply base = .error e ↔
        ∃ c : DetectionConfig, (∀ f, c.get f = (p.get f).getD (base.get f)) ∧
          c.violations ≠ [] ∧ e = .invalidConfig c.violations) ∧
      (∀ e, p.apply k.config = .error e →
        k.updateConfig p = .error e ∧ k.perform (.updateConfig p) = k) ∧
      (∀ c, p.apply k.config = .ok c →
        k.updateConfig p = .ok (k.perform (.updateConfig p)) ∧
          (k.perform (.updateConfig p)).config = c ∧
          (k.perform (.updateConfig p)).measurements.histogram =
            (if c.histogramWindowSize = k.config.histogramWindowSize ∧
                c.histogramBins = k.config.histogramBins then
              k.measurements.histogram.setPixelRatio c.umPerPx
            else DropletHistogram.new c.histogramWindowSize c.histogramBins c.umPerPx) ∧
          (k.perform (.updateConfig p)).measurements.rawLog.toList =
            k.measurements.rawLog.toList.drop
              (k.measurements.rawLog.toList.length - c.rawLogCapacity) ∧
          (k.perform (.updateConfig p)).measurements.timings = k.measurements.timings ∧
          (k.perform (.updateConfig p)).measurements.frameCount = k.measurements.frameCount ∧
          (k.perform (.updateConfig p)).measurements.dropletCountTotal =
            k.measurements.dropletCountTotal) := by
  refine ⟨fun _ _ => ConfigPatch.apply_eq_ok_iff, fun _ _ => ConfigPatch.apply_eq_error_iff,
    fun e ha => ⟨updateConfig_of_apply_error ha, perform_updateConfig_of_apply_error ha⟩,
    fun c ha => ?_⟩
  have hl : k.Ledger := hk ▸ ledger_of_new h₀ ops
  -- 通った設定は検査に通るので、記録の容量は 1 以上
  have hc : 1 ≤ c.rawLogCapacity :=
    DetectionConfig.rawLogCapacity_pos (ConfigPatch.validate_of_apply ha)
  rw [perform_updateConfig_of_apply_ok ha]
  exact ⟨updateConfig_of_apply_ok ha, rfl, Measurements.histogram_applyConfig _ _ _,
    Measurements.rawLog_toList_applyConfig _ _ _ hl.measurements.rawLog_bounded hc, rfl, rfl, rfl⟩

/-- 既定の設定の制御を合成カメラで開始し、暗い背景を与えて、明るい四角の位置が違う二枚を処理した
後に、区間の数を 32、記録の容量を 1 にする更新を当てる場合の
`updateConfig_validates_before_install`：度数分布は作り直し、記録は新しい方から一件だけ残す。 -/
theorem updateConfig_validates_before_install_after_frames :
    let cam : Camera := .synthetic { SyntheticCamera.new { width := 32, height := 32 } with
      roi := some ⟨0, 0, 32, 32⟩ }
    let background : Frame := ⟨[32, 32], ⟨Array.replicate 1024 20⟩, 0, none⟩
    let square : Nat → Nat → Frame := fun col i => ⟨[32, 32], ⟨(Array.range 1024).map fun j =>
      if 12 ≤ j / 32 ∧ j / 32 < 18 ∧ col ≤ j % 32 ∧ j % 32 < col + 8 then 220 else 20⟩, i, none⟩
    let k₀ : DetectionController := { config := {}, measurements := .ofConfig {} }
    let k := k₀.performAll [.start cam, .initializeBackground [background],
      .frame (square 4 1) 100, .frame (square 12 2) 133]
    let p : ConfigPatch := { histogramBins := some 32, rawLogCapacity := some 1 }
    new {} = .ok k₀ ∧
      (∀ base c, p.apply base = .ok c ↔
        (∀ f, c.get f = (p.get f).getD (base.get f)) ∧ c.validate = .ok ()) ∧
      (∀ base e, p.apply base = .error e ↔
        ∃ c : DetectionConfig, (∀ f, c.get f = (p.get f).getD (base.get f)) ∧
          c.violations ≠ [] ∧ e = .invalidConfig c.violations) ∧
      (∀ e, p.apply k.config = .error e →
        k.updateConfig p = .error e ∧ k.perform (.updateConfig p) = k) ∧
      (∀ c, p.apply k.config = .ok c →
        k.updateConfig p = .ok (k.perform (.updateConfig p)) ∧
          (k.perform (.updateConfig p)).config = c ∧
          (k.perform (.updateConfig p)).measurements.histogram =
            (if c.histogramWindowSize = k.config.histogramWindowSize ∧
                c.histogramBins = k.config.histogramBins then
              k.measurements.histogram.setPixelRatio c.umPerPx
            else DropletHistogram.new c.histogramWindowSize c.histogramBins c.umPerPx) ∧
          (k.perform (.updateConfig p)).measurements.rawLog.toList =
            k.measurements.rawLog.toList.drop
              (k.measurements.rawLog.toList.length - c.rawLogCapacity) ∧
          (k.perform (.updateConfig p)).measurements.timings = k.measurements.timings ∧
          (k.perform (.updateConfig p)).measurements.frameCount = k.measurements.frameCount ∧
          (k.perform (.updateConfig p)).measurements.dropletCountTotal =
            k.measurements.dropletCountTotal) := by
  intro cam background square k₀ k p
  have hnew : new {} = .ok k₀ := rfl
  exact ⟨hnew, @updateConfig_validates_before_install {} k₀ k hnew _ rfl p⟩

end DetectionController

end DropletVision
