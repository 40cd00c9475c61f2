import DropletVision.Config.Patch

/-!
# 設定を欄ごとに見る、更新を欄ごとに当てる

設定の値を欄ごとに取り出す `DetectionConfig.get` と、更新が欄ごとに何を指定するかを取り出す
`ConfigPatch.get` を置き、更新の当て方を欄ごとの規則一つで述べる。

* `DetectionConfig.ext_get` — どの欄の値も同じ設定は同じ。見方は設定のすべての欄を覆う。
* `ConfigPatch.get_overwrite` — 上書きした設定のどの欄も、更新に指定があればその値、
  無ければ元の値。流路の帯では、帯を入れる指定が外す指定に優先する（`ConfigPatch.get` の
  `channelBand` の欄）。
* `ConfigPatch.apply_eq_ok_iff` — 更新が設定 `c` を返すのは、`c` のどの欄も上の規則どおりで、
  `c` が検査に通るときに限る。
* `ConfigPatch.apply_eq_error_iff` — そうでなければ、規則どおりの設定が破る規則をすべて
  （検査の順に）挙げた誤りを返す。

欄ごとに書いた上書きに一つでも書き漏らした欄があれば、`get_overwrite` はその欄で破れる。
-/

namespace DropletVision

/-- 設定の欄。 -/
inductive ConfigField where
  | backgroundMethod
  | backgroundFrames
  | blurKernelSize
  | thresholdMethod
  | adaptiveBlockSize
  | adaptiveC
  | morphKernelSize
  | morphOperation
  | minArea
  | maxArea
  | minAspectRatio
  | maxAspectRatio
  | channelBand
  | channelBandMargin
  | minMotion
  | maxPerpDrift
  | acceptEntering
  | useFrameDiff
  | frameDiffThreshold
  | minContourPoints
  | histogramWindowSize
  | histogramBins
  | rawLogCapacity
  | umPerPx
  | radiusOffsetPx
  deriving DecidableEq

namespace ConfigField

/-- 欄の値の型。 -/
def Value : ConfigField → Type
  | .backgroundMethod => BackgroundMethod
  | .thresholdMethod => ThresholdMethod
  | .morphOperation => MorphOperation
  | .adaptiveC | .frameDiffThreshold => Float32
  | .minArea | .maxArea | .minAspectRatio | .maxAspectRatio | .minMotion | .maxPerpDrift
  | .umPerPx | .radiusOffsetPx => Float
  | .channelBand => Option (Nat × Nat)
  | .acceptEntering | .useFrameDiff => Bool
  | .backgroundFrames | .blurKernelSize | .adaptiveBlockSize | .morphKernelSize
  | .channelBandMargin | .minContourPoints | .histogramWindowSize | .histogramBins
  | .rawLogCapacity => Nat

end ConfigField

/-- 設定の欄の値。 -/
def DetectionConfig.get (c : DetectionConfig) : (f : ConfigField) → f.Value
  | .backgroundMethod => c.backgroundMethod
  | .backgroundFrames => c.backgroundFrames
  | .blurKernelSize => c.blurKernelSize
  | .thresholdMethod => c.thresholdMethod
  | .adaptiveBlockSize => c.adaptiveBlockSize
  | .adaptiveC => c.adaptiveC
  | .morphKernelSize => c.morphKernelSize
  | .morphOperation => c.morphOperation
  | .minArea => c.minArea
  | .maxArea => c.maxArea
  | .minAspectRatio => c.minAspectRatio
  | .maxAspectRatio => c.maxAspectRatio
  | .channelBand => c.channelBand
  | .channelBandMargin => c.channelBandMargin
  | .minMotion => c.minMotion
  | .maxPerpDrift => c.maxPerpDrift
  | .acceptEntering => c.acceptEntering
  | .useFrameDiff => c.useFrameDiff
  | .frameDiffThreshold => c.frameDiffThreshold
  | .minContourPoints => c.minContourPoints
  | .histogramWindowSize => c.histogramWindowSize
  | .histogramBins => c.histogramBins
  | .rawLogCapacity => c.rawLogCapacity
  | .umPerPx => c.umPerPx
  | .radiusOffsetPx => c.radiusOffsetPx

/-- 更新が欄に指定する値（指定が無ければ `none`）。流路の帯は、帯の指定があればその帯、
無くて外す指定（`clearChannelBand = some true`）があれば帯なし。 -/
def ConfigPatch.get (p : ConfigPatch) : (f : ConfigField) → Option f.Value
  | .backgroundMethod => p.backgroundMethod
  | .backgroundFrames => p.backgroundFrames
  | .blurKernelSize => p.blurKernelSize
  | .thresholdMethod => p.thresholdMethod
  | .adaptiveBlockSize => p.adaptiveBlockSize
  | .adaptiveC => p.adaptiveC
  | .morphKernelSize => p.morphKernelSize
  | .morphOperation => p.morphOperation
  | .minArea => p.minArea
  | .maxArea => p.maxArea
  | .minAspectRatio => p.minAspectRatio
  | .maxAspectRatio => p.maxAspectRatio
  | .channelBand =>
    match p.channelBand with
    | some band => some (some band)
    | none => if p.clearChannelBand = some true then some none else none
  | .channelBandMargin => p.channelBandMargin
  | .minMotion => p.minMotion
  | .maxPerpDrift => p.maxPerpDrift
  | .acceptEntering => p.acceptEntering
  | .useFrameDiff => p.useFrameDiff
  | .frameDiffThreshold => p.frameDiffThreshold
  | .minContourPoints => p.minContourPoints
  | .histogramWindowSize => p.histogramWindowSize
  | .histogramBins => p.histogramBins
  | .rawLogCapacity => p.rawLogCapacity
  | .umPerPx => p.umPerPx
  | .radiusOffsetPx => p.radiusOffsetPx

namespace DetectionConfig

/-- どの欄の値も同じ設定は同じ。 -/
theorem ext_get {c d : DetectionConfig} (h : ∀ f, c.get f = d.get f) : c = d := by
  cases c
  cases d
  simp only [mk.injEq]
  exact ⟨h .backgroundMethod, h .backgroundFrames, h .blurKernelSize, h .thresholdMethod,
    h .adaptiveBlockSize, h .adaptiveC, h .morphKernelSize, h .morphOperation, h .minArea,
    h .maxArea, h .minAspectRatio, h .maxAspectRatio, h .channelBand, h .channelBandMargin,
    h .minMotion, h .maxPerpDrift, h .acceptEntering, h .useFrameDiff, h .frameDiffThreshold,
    h .minContourPoints, h .histogramWindowSize, h .histogramBins, h .rawLogCapacity, h .umPerPx,
    h .radiusOffsetPx⟩

/-- 検査に通らないのは規則が一つでも破れているときで、誤りは破れた規則をすべて挙げる。 -/
theorem validate_eq_error_iff {c : DetectionConfig} {e : DetectorError} :
    c.validate = .error e ↔ c.violations ≠ [] ∧ e = .invalidConfig c.violations := by
  unfold validate
  split
  · rename_i h
    simp [h]
  · rename_i es h
    simp only [Except.error.injEq]
    exact ⟨fun he => ⟨h, he.symm⟩, fun he => he.2.symm⟩

end DetectionConfig

namespace ConfigPatch

variable {p : ConfigPatch} {base c : DetectionConfig}

/-- **上書きの規則。** 上書きした設定のどの欄も、更新に指定があればその値、無ければ元の値。 -/
theorem get_overwrite (p : ConfigPatch) (base : DetectionConfig) (f : ConfigField) :
    (p.overwrite base).get f = (p.get f).getD (base.get f) := by
  cases f with
  | channelBand =>
    -- 帯を入れる指定が外す指定に優先する
    simp only [overwrite, DetectionConfig.get, get]
    cases p.channelBand with
    | some band => rfl
    | none =>
      by_cases hc : p.clearChannelBand = some true
      · rw [if_pos (beq_iff_eq.2 hc), if_pos hc]
        rfl
      · rw [if_neg (mt beq_iff_eq.1 hc), if_neg hc]
        rfl
  | _ => rfl

/-- 欄ごとに上書きの規則どおりの設定は、上書きした設定そのもの。 -/
theorem eq_overwrite_iff : (∀ f, c.get f = (p.get f).getD (base.get f)) ↔ c = p.overwrite base :=
  ⟨fun h => DetectionConfig.ext_get fun f => (h f).trans (get_overwrite p base f).symm,
    fun h f => by rw [h]; exact get_overwrite p base f⟩

/-- 更新は上書きした設定を検査し、通ればその設定を、通らなければ検査の誤りを返す。 -/
theorem apply_eq (p : ConfigPatch) (base : DetectionConfig) :
    p.apply base =
      match (p.overwrite base).validate with
      | .ok () => .ok (p.overwrite base)
      | .error e => .error e := by
  unfold apply
  cases hv : (p.overwrite base).validate with
  | ok u => simp only [hv, bind, Except.bind, pure, Except.pure]
  | error e => simp only [hv, bind, Except.bind]

/-- 更新が設定 `c` を返すのは、`c` のどの欄も上書きの規則どおりで、`c` が検査に通るとき。 -/
theorem apply_eq_ok_iff :
    p.apply base = .ok c ↔ (∀ f, c.get f = (p.get f).getD (base.get f)) ∧ c.validate = .ok () := by
  rw [eq_overwrite_iff, apply_eq]
  cases hv : (p.overwrite base).validate with
  | ok u =>
    simp only [Except.ok.injEq]
    exact ⟨fun h => ⟨h.symm, h ▸ hv⟩, fun h => h.1.symm⟩
  | error e =>
    simp only [reduceCtorEq, false_iff, not_and]
    rintro rfl
    simp [hv]

/-- 更新が誤りを返すのは、上書きの規則どおりの設定が検査に通らないときで、誤りはその設定の
破る規則をすべて挙げる。 -/
theorem apply_eq_error_iff {e : DetectorError} :
    p.apply base = .error e ↔
      ∃ c : DetectionConfig, (∀ f, c.get f = (p.get f).getD (base.get f)) ∧ c.violations ≠ [] ∧
        e = .invalidConfig c.violations := by
  simp only [eq_overwrite_iff, exists_eq_left]
  rw [← DetectionConfig.validate_eq_error_iff, apply_eq]
  cases (p.overwrite base).validate with
  | ok u => simp
  | error e' => simp

end ConfigPatch

end DropletVision
