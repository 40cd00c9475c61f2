import DropletVision.Detection.Preprocess
import DropletVision.Detection.Segment
import DropletVision.Detection.Artifact
import DropletVision.Detection.Measure

/-!
# 一枚ごとの検出

前処理、選別、動かない物の除去、計測をこの順に行う。

* 画像の形 `(高さ, 幅)` が前の画像と違えば、重心の列を捨てる。
* 前処理が準備中なら何も報告しない。
* 計測した重心が次の画像の比較の相手になる。
* 処理できない画像（検査に通らない、明るさにできない）は何も報告しない。処理した枚数は数える。

## 仕組み

`processFrame` は検出結果と、終えた段階の列を返す（時間の計測に使う）。
-/

namespace DropletVision

/-- 処理の段階。 -/
inductive Stage where
  | preprocessing
  | segmentation
  | artifactRejection
  | measurement
  | histogramUpdate
  | totalPerFrame
  deriving BEq, Repr, Inhabited, DecidableEq

namespace Stage

/-- すべての段階（表示の順）。 -/
def all : List Stage :=
  [.preprocessing, .segmentation, .artifactRejection, .measurement, .histogramUpdate, .totalPerFrame]

/-- 性能の報告で使うキー。 -/
def key : Stage → String
  | .preprocessing => "preprocessing"
  | .segmentation => "segmentation"
  | .artifactRejection => "artifact_rejection"
  | .measurement => "measurement"
  | .histogramUpdate => "histogram_update"
  | .totalPerFrame => "total_per_frame"

/-- 表示名。 -/
def label : Stage → String
  | .preprocessing => "Preprocessing"
  | .segmentation => "Segmentation"
  | .artifactRejection => "Artifact rejection"
  | .measurement => "Measurement"
  | .histogramUpdate => "Histogram update"
  | .totalPerFrame => "Total per frame"

end Stage

/-- 検出器の段階。最初の画像までは未初期化、以後の形の変化やリセットでは準備中へ戻る。 -/
inductive DetectorState where
  | uninitialized
  | warmingUp
  | ready
  deriving BEq, Repr, Inhabited

/-- 段階の名前。 -/
def DetectorState.label : DetectorState → String
  | .uninitialized => "uninitialized"
  | .warmingUp => "warming up"
  | .ready => "ready"

/-- 一枚ごとの検出器。 -/
structure DropletDetector where
  preprocessor : Preprocessor
  segmenter : Segmenter
  rejector : ArtifactRejector
  measurer : Measurer
  history : CentroidHistory
  calibration : Calibration
  channelBand : Option (Nat × Nat)
  lastShape : Option (Nat × Nat)
  framesProcessed : Nat
  started : Bool

namespace DropletDetector

/-- 設定から作る。 -/
def ofConfig (c : DetectionConfig) : DropletDetector :=
  ⟨Preprocessor.ofConfig c, Segmenter.ofConfig c, ArtifactRejector.ofConfig c, Measurer.ofConfig c,
   [], c.calibration, c.channelBand, none, 0, false⟩

/-- 画像の合間に新しい設定へ切り替える。 -/
def applyConfig (d : DropletDetector) (c : DetectionConfig) : DropletDetector :=
  { d with preprocessor := d.preprocessor.applyConfig c, segmenter := Segmenter.ofConfig c,
           rejector := d.rejector.applyConfig c, measurer := Measurer.ofConfig c,
           calibration := c.calibration, channelBand := c.channelBand }

/-- 段階。 -/
def state (d : DropletDetector) : DetectorState :=
  match d.preprocessor.backgroundPhase with
  | .uninitialized => if d.started then .warmingUp else .uninitialized
  | .warmingUp => .warmingUp
  | .ready => .ready

/-- 集めた枚数と要る枚数。 -/
def warmUpProgress (d : DropletDetector) : Nat × Nat := d.preprocessor.warmUpProgress

/-- 準備中へ戻り、重心の列を忘れる。 -/
def reset (d : DropletDetector) : DropletDetector :=
  { d with preprocessor := d.preprocessor.reset, rejector := d.rejector.reset, history := [],
           lastShape := none, framesProcessed := 0, started := true }

/-- 与えた画像からすぐ背景を作る。 -/
def initializeBackground (d : DropletDetector) (frames : List Frame) : Outcome DropletDetector := do
  let p ← d.preprocessor.seedBackground frames
  pure { d with preprocessor := p, rejector := d.rejector.reset, history := [], started := true,
                lastShape := frames.head?.map (fun f => (f.height, f.width)) }

/-- 一枚の処理の本体。失敗すれば誤り（それまでの状態の変化は残る）。 -/
def tryProcessFrame (d : DropletDetector) (f : Frame) :
    DropletDetector × Outcome (List DropletMetrics × List Stage) :=
  match f.validate with
  | .error e => (d, .error e)
  | .ok () =>
    let shape := (f.height, f.width)
    let d := if d.lastShape != some shape then { d with history := [], lastShape := some shape } else d
    match d.preprocessor.tryProcess f with
    | .error e => (d, .error e)
    | .ok (p, mask) =>
      let d := { d with preprocessor := p }
      if !p.isReady then (d, .ok ([], [.preprocessing]))
      else
        let contours := d.segmenter.detect mask d.channelBand
        let rejected : Outcome (DropletDetector × List Contour) :=
          if d.rejector.useFrameDiff then do
            let gray ← f.intensity
            let (r, cs) := d.rejector.filterByFrameDifference contours gray
            pure ({ d with rejector := r }, cs)
          else pure (d, d.rejector.filter contours d.history)
        match rejected with
        | .error e => (d, .error e)
        | .ok (d, moving) =>
          let metrics := d.measurer.measure moving d.calibration
          ({ d with history := metrics.map (·.centroid) },
           .ok (metrics, [.preprocessing, .segmentation, .artifactRejection, .measurement]))

/-- 一枚を処理する。失敗した画像は何も報告しない。返すのは計測値と終えた段階。 -/
def processFrame (d : DropletDetector) (f : Frame) :
    DropletDetector × List DropletMetrics × List Stage :=
  let d := { d with framesProcessed := d.framesProcessed + 1, started := true }
  match d.tryProcessFrame f with
  | (d, .ok (ms, stages)) => (d, ms, stages)
  | (d, .error _) => (d, [], [])

end DropletDetector

end DropletVision
