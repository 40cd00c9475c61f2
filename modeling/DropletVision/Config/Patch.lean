import DropletVision.Config.Basic

/-!
# 設定の部分的な更新

欄ごとに「変えない」か新しい値を持つ `ConfigPatch`。

`apply` は、指定のある欄をすべて上書きし、`clearChannelBand = some true` なら流路の帯を外し、
帯の指定があればそれを入れ（外す指定より優先）、結果を検査する。
検査に通らなければ元の設定はそのまま（結果は誤り）。
-/

namespace DropletVision

/-- 設定の部分的な更新。 -/
structure ConfigPatch where
  backgroundMethod : Option BackgroundMethod := none
  backgroundFrames : Option Nat := none
  blurKernelSize : Option Nat := none
  thresholdMethod : Option ThresholdMethod := none
  adaptiveBlockSize : Option Nat := none
  adaptiveC : Option Float32 := none
  morphKernelSize : Option Nat := none
  morphOperation : Option MorphOperation := none
  minArea : Option Float := none
  maxArea : Option Float := none
  minAspectRatio : Option Float := none
  maxAspectRatio : Option Float := none
  channelBand : Option (Nat × Nat) := none
  /-- 以前の流路の帯を外す。 -/
  clearChannelBand : Option Bool := none
  channelBandMargin : Option Nat := none
  minMotion : Option Float := none
  maxPerpDrift : Option Float := none
  acceptEntering : Option Bool := none
  useFrameDiff : Option Bool := none
  frameDiffThreshold : Option Float32 := none
  minContourPoints : Option Nat := none
  histogramWindowSize : Option Nat := none
  histogramBins : Option Nat := none
  rawLogCapacity : Option Nat := none
  umPerPx : Option Float := none
  radiusOffsetPx : Option Float := none

namespace ConfigPatch

instance : Inhabited ConfigPatch := ⟨{}⟩

/-- 指定のある欄を上書きした設定（検査はしない）。 -/
def overwrite (p : ConfigPatch) (c : DetectionConfig) : DetectionConfig :=
  let band :=
    match p.channelBand with
    | some b => some b
    | none => if p.clearChannelBand == some true then none else c.channelBand
  { backgroundMethod := p.backgroundMethod.getD c.backgroundMethod
    backgroundFrames := p.backgroundFrames.getD c.backgroundFrames
    blurKernelSize := p.blurKernelSize.getD c.blurKernelSize
    thresholdMethod := p.thresholdMethod.getD c.thresholdMethod
    adaptiveBlockSize := p.adaptiveBlockSize.getD c.adaptiveBlockSize
    adaptiveC := p.adaptiveC.getD c.adaptiveC
    morphKernelSize := p.morphKernelSize.getD c.morphKernelSize
    morphOperation := p.morphOperation.getD c.morphOperation
    minArea := p.minArea.getD c.minArea
    maxArea := p.maxArea.getD c.maxArea
    minAspectRatio := p.minAspectRatio.getD c.minAspectRatio
    maxAspectRatio := p.maxAspectRatio.getD c.maxAspectRatio
    channelBand := band
    channelBandMargin := p.channelBandMargin.getD c.channelBandMargin
    minMotion := p.minMotion.getD c.minMotion
    maxPerpDrift := p.maxPerpDrift.getD c.maxPerpDrift
    acceptEntering := p.acceptEntering.getD c.acceptEntering
    useFrameDiff := p.useFrameDiff.getD c.useFrameDiff
    frameDiffThreshold := p.frameDiffThreshold.getD c.frameDiffThreshold
    minContourPoints := p.minContourPoints.getD c.minContourPoints
    histogramWindowSize := p.histogramWindowSize.getD c.histogramWindowSize
    histogramBins := p.histogramBins.getD c.histogramBins
    rawLogCapacity := p.rawLogCapacity.getD c.rawLogCapacity
    umPerPx := p.umPerPx.getD c.umPerPx
    radiusOffsetPx := p.radiusOffsetPx.getD c.radiusOffsetPx }

/-- 上書きして検査する。 -/
def apply (p : ConfigPatch) (base : DetectionConfig) : Outcome DetectionConfig := do
  let next := p.overwrite base
  next.validate
  pure next

/-- 何も指定していない。 -/
def isEmpty (p : ConfigPatch) : Bool :=
  p.backgroundMethod.isNone && p.backgroundFrames.isNone && p.blurKernelSize.isNone &&
  p.thresholdMethod.isNone && p.adaptiveBlockSize.isNone && p.adaptiveC.isNone &&
  p.morphKernelSize.isNone && p.morphOperation.isNone && p.minArea.isNone &&
  p.maxArea.isNone && p.minAspectRatio.isNone && p.maxAspectRatio.isNone &&
  p.channelBand.isNone && p.clearChannelBand.isNone && p.channelBandMargin.isNone &&
  p.minMotion.isNone && p.maxPerpDrift.isNone && p.acceptEntering.isNone &&
  p.useFrameDiff.isNone && p.frameDiffThreshold.isNone && p.minContourPoints.isNone &&
  p.histogramWindowSize.isNone && p.histogramBins.isNone && p.rawLogCapacity.isNone &&
  p.umPerPx.isNone && p.radiusOffsetPx.isNone

end ConfigPatch

end DropletVision
