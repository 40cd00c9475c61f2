import DropletVision.Statistics.Histogram
import DropletVision.Log.RawLog
import DropletVision.Log.Timing
import DropletVision.Detection.Detector

/-!
# 検出の蓄え

検出を続けている間に積み上がるもの：度数分布、計測値の記録、段階ごとの処理時間、
処理した枚数、見つけた液滴の総数、最後に見た検出器の段階。

* `record` — 一枚の結果を足す。記録の画像番号は、それまでに処理した枚数。
  処理時間には検出器が終えた段階に加えて、度数分布の更新と一枚全体の二つを必ず数える。
* `clear` — すべて捨て、検出器の段階は準備中とする（リセットの後は準備からやり直すため）。
* `applyConfig` — 新しい設定に合わせる。度数分布の形（窓と区間の数）が変わったときだけ
  度数分布を作り直し、換算と記録の容量はいつも新しい値にする。

時間は計らないので、処理時間の値はすべて 0 ミリ秒として記録する（数だけが意味を持つ）。
-/

namespace DropletVision

/-- 検出の蓄え。 -/
structure Measurements where
  histogram : DropletHistogram
  rawLog : RawMeasurementLog
  timings : StageTimings
  frameCount : Nat := 0
  dropletCountTotal : Nat := 0
  detectorState : DetectorState := .uninitialized

namespace Measurements

/-- 段階ごとに残す処理時間の数。 -/
def timingSamples : Nat := 1000

/-- 設定から空の蓄えを作る。 -/
def ofConfig (c : DetectionConfig) : Measurements :=
  { histogram := .new c.histogramWindowSize c.histogramBins c.umPerPx
    rawLog := .new c.rawLogCapacity
    timings := .new timingSamples }

/-- すべて捨てる。検出器の段階は準備中。 -/
def clear (m : Measurements) : Measurements :=
  { histogram := m.histogram.clear, rawLog := m.rawLog.clear, timings := m.timings.clear,
    frameCount := 0, dropletCountTotal := 0, detectorState := .warmingUp }

/-- 設定 `previous` から `next` へ切り替える。 -/
def applyConfig (m : Measurements) (previous next : DetectionConfig) : Measurements :=
  let h := if previous.histogramShapeChanged next then
      m.histogram.reconfigure next.histogramWindowSize next.histogramBins
    else m.histogram
  { m with histogram := h.setPixelRatio next.umPerPx,
           rawLog := m.rawLog.setCapacity next.rawLogCapacity }

/-- 一枚の結果を足す。`stages` は検出器が終えた段階、`timestampMs` は記録に付ける時刻。 -/
def record (m : Measurements) (metrics : List DropletMetrics) (stages : List Stage)
    (timestampMs : Nat) (state : DetectorState) : Measurements :=
  let stages := stages ++ [.histogramUpdate, .totalPerFrame]
  { histogram := m.histogram.update metrics
    rawLog := m.rawLog.extendFromMetrics metrics timestampMs m.frameCount
    timings := stages.foldl (fun t s => t.record s 0.0) m.timings
    frameCount := m.frameCount + 1
    dropletCountTotal := m.dropletCountTotal + metrics.length
    detectorState := state }

end Measurements

end DropletVision
