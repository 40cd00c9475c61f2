import DropletVision.Controller.Measurements
import DropletVision.Camera.Source
import DropletVision.Config.Patch
import DropletVision.Json.Write

/-!
# 検出の制御

カメラから受け取ったフレームを一枚ずつ検出器にかけ、結果を蓄える。
フレームは受け取った順に、前のフレームの処理が終わってから処理する。

* `start` — 動いていれば「すでに動いている」。カメラに関心領域が無ければ「領域が無い」、
  領域がセンサーからはみ出せば領域の誤り。どれでも何も変えない。
  通れば、カメラの較正を覚え、それが設定の較正と違えば設定に入れ、新しい検出器を作る。
  待っている背景があればすぐに与える。
* `stop` — 検出器を捨てる。止まっていれば何もしない。蓄えはそのまま残る。
* `reset` — 蓄えを捨て、動いていれば検出器を準備中へ戻す。
* `addFrame` — 動いていて、フレームが検査に通るときだけ受け取り、処理して蓄える。
* `initializeBackground` — 背景のフレームを検査して待たせる。動いていればすぐに与える。
* `updateConfig`、`loadConfig` — 設定を入れ替え、蓄えと動いている検出器を合わせる。
  プロファイルから読んだ設定は、動いている間はカメラの較正を優先する。

## 仕組み

動いている間の検出器と関心領域は `Session` にまとめる。`session` があることが「動いている」こと。
処理の速さは時計を持たないので数えず、いつも 0 と報告する。
-/

namespace DropletVision

open Json

/-- 動いている間の検出器と、開始したときの関心領域。 -/
structure Session where
  detector : DropletDetector
  roi : Roi

/-- 検出の制御の状態。 -/
structure DetectionController where
  config : DetectionConfig
  measurements : Measurements
  session : Option Session := none
  /-- 検出器に与える前の背景のフレーム。 -/
  pendingBackground : Option (List Frame) := none
  /-- 最後に開始したときのカメラの較正。 -/
  cameraCalibration : Option Calibration := none

/-- 状態の報告。 -/
structure ControllerStatus where
  running : Bool
  frameCount : Nat
  dropletCountTotal : Nat
  processingRateHz : Float
  detectorState : DetectorState
  roi : Option Roi

/-- 統計の報告：度数分布の統計と数。 -/
structure ControllerStatistics where
  histogram : HistogramStatistics
  frameCount : Nat
  dropletCountTotal : Nat
  processingRateHz : Float

namespace DetectionController

/-- 検査した設定から作る。 -/
def new (c : DetectionConfig) : Outcome DetectionController := do
  c.validate
  pure { config := c, measurements := .ofConfig c }

/-- 動いているか。 -/
def isRunning (k : DetectionController) : Bool := k.session.isSome

/-- 動いている間の関心領域。 -/
def roi (k : DetectionController) : Option Roi := k.session.map (·.roi)

/-- 動いている検出器を変える。 -/
def mapDetector (k : DetectionController) (f : DropletDetector → DropletDetector) :
    DetectionController :=
  { k with session := k.session.map (fun s => { s with detector := f s.detector }) }

/-- 設定を入れ替え、蓄えと動いている検出器を合わせる。 -/
def installConfig (k : DetectionController) (next : DetectionConfig) : DetectionController :=
  { k.mapDetector (·.applyConfig next) with
    config := next, measurements := k.measurements.applyConfig k.config next }

/-- 待っている背景を動いている検出器に与える。与えられなかった背景も捨てる。 -/
def applyPendingBackground (k : DetectionController) : DetectionController :=
  match k.session, k.pendingBackground with
  | some s, some frames =>
    let d := match s.detector.initializeBackground frames with
      | .ok d => d
      | .error _ => s.detector
    { k with session := some { s with detector := d }, pendingBackground := none }
  | _, _ => k

/-- 二つの較正が違うか（値ごとの `==` で比べる）。 -/
def calibrationDiffers (a b : Calibration) : Bool :=
  !(a.umPerPx == b.umPerPx && a.radiusOffsetPx == b.radiusOffsetPx)

/-- カメラ `cam` から検出を始める。 -/
def start (k : DetectionController) (cam : Camera) : Outcome DetectionController := do
  if k.isRunning then throw .alreadyRunning
  let roi ← match cam.roi with
    | some r => pure r
    | none => throw .roiNotConfigured
  roi.validateForSensor cam.sensorSize.1 cam.sensorSize.2
  let k := { k with cameraCalibration := cam.calibration }
  let k := match cam.calibration with
    | some cal => if calibrationDiffers cal k.config.calibration then
        k.installConfig (k.config.withCalibration cal) else k
    | none => k
  pure (applyPendingBackground { k with session := some ⟨.ofConfig k.config, roi⟩ })

/-- 検出を止める。 -/
def stop (k : DetectionController) : DetectionController := { k with session := none }

/-- 蓄えを捨て、検出器を準備中へ戻す。 -/
def reset (k : DetectionController) : DetectionController :=
  { k.mapDetector (·.reset) with measurements := k.measurements.clear }

/-- フレームを受け取って処理する。受け取ったかを返す。`timestampMs` は記録に付ける時刻。 -/
def addFrame (k : DetectionController) (f : Frame) (timestampMs : Nat) :
    Bool × DetectionController :=
  match k.session with
  | none => (false, k)
  | some s =>
    match f.validate with
    | .error _ => (false, k)
    | .ok () =>
      let (d, metrics, stages) := s.detector.processFrame f
      (true, { k with session := some { s with detector := d },
                      measurements := k.measurements.record metrics stages timestampMs d.state })

/-- 背景のフレームの検査：一枚以上あり、どれも検査に通り、最初のものと高さと幅が同じ。 -/
def checkBackground (frames : List Frame) : Outcome Unit := do
  let first ← match frames.head? with
    | some f => pure f
    | none => throw (.invalidFrame "no background frames given")
  let h := first.height
  let w := first.width
  frames.forM (fun f => do
    f.validate
    if f.height != h || f.width != w then
      let index := f.index
      let shape := Frame.showShape f.shape
      throw (.invalidFrame s!"background frame {index} has shape {shape}, expected ({h}, {w})"))

/-- 背景のフレームを検査して待たせる。動いていればすぐに与える。 -/
def initializeBackground (k : DetectionController) (frames : List Frame) :
    Outcome DetectionController := do
  checkBackground frames
  pure (applyPendingBackground { k with pendingBackground := some frames })

/-- 更新を当てる。検査に通らなければ何も変えない。 -/
def updateConfig (k : DetectionController) (p : ConfigPatch) : Outcome DetectionController := do
  pure (k.installConfig (← p.apply k.config))

/-- プロファイルから読んだ設定に入れ替える。動いている間はカメラの較正を優先する。 -/
def loadConfig (k : DetectionController) (next : DetectionConfig) : DetectionController :=
  let next := match k.isRunning, k.cameraCalibration with
    | true, some cal => next.withCalibration cal
    | _, _ => next
  k.installConfig next

/-- 状態の報告。 -/
def status (k : DetectionController) : ControllerStatus :=
  ⟨k.isRunning, k.measurements.frameCount, k.measurements.dropletCountTotal, 0.0,
   k.measurements.detectorState, k.roi⟩

/-- 統計の報告。 -/
def statistics (k : DetectionController) : ControllerStatistics :=
  ⟨k.measurements.histogram.statistics, k.measurements.frameCount,
   k.measurements.dropletCountTotal, 0.0⟩

/-- 段階ごとの処理時間の要約。 -/
def performance (k : DetectionController) : List (String × StageSummary) :=
  k.measurements.timings.summary

/-- 計測値の記録（古い順）。 -/
def rawRecords (k : DetectionController) : List RawRecord := k.measurements.rawLog.toList

/-- 記録の数。 -/
def rawLogLen (k : DetectionController) : Nat := k.measurements.rawLog.len

/-- 記録を形式 `format`（`csv` か `txt`）の表にする。記録が無ければ `none`。 -/
def exportMeasurements (k : DetectionController) (format : String) : Outcome (Option String) := do
  pure (k.measurements.rawLog.exportTable (← ExportFormat.ofString format))

/-- 待っているフレームの数。フレームは受け取るとすぐに処理するので 0。 -/
def pendingFrames (_ : DetectionController) : Nat := 0

end DetectionController

/-- 関心領域のオブジェクト。 -/
def Roi.toObject (r : Roi) : Json :=
  .obj [("x", .ofNat r.x), ("y", .ofNat r.y), ("width", .ofNat r.width), ("height", .ofNat r.height)]

/-- 状態の報告の JSON の値。 -/
def ControllerStatus.toJson (s : ControllerStatus) : Json :=
  .obj [("running", .bool s.running), ("frame_count", .ofNat s.frameCount),
    ("droplet_count_total", .ofNat s.dropletCountTotal),
    ("processing_rate_hz", .ofFloat s.processingRateHz),
    ("detector_state", .str s.detectorState.label),
    ("roi", (s.roi.map Roi.toObject).getD .null)]

/-- 統計の報告の JSON の値（度数分布の統計の欄の後に数を並べる）。 -/
def ControllerStatistics.toJson (s : ControllerStatistics) : Json :=
  let counters : List (String × Json) := [("frame_count", .ofNat s.frameCount),
    ("droplet_count_total", .ofNat s.dropletCountTotal),
    ("processing_rate_hz", .ofFloat s.processingRateHz)]
  match s.histogram.toJson with
  | .obj fields => .obj (fields ++ counters)
  | j => j

end DropletVision
