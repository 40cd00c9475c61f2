import DropletVision.Camera.Synthetic
import DropletVision.Camera.Ser
import DropletVision.Camera.Sequence

/-!
# フレームの供給源

検出に渡すフレームを出すカメラ。合成カメラ・SER の記録・画像の並びの三種類。

* `setRoi` — センサーの内側の領域を指定する（ソフトウェアで切り出す）。
* `captureFrame` — 次のフレーム。尽きたら `none`。合成カメラはハードウェアの領域が
  指定されていればその領域を、そうでなければ全体を描く。
* `frameRoi` — 領域を指定した取り込み。合成カメラは領域を確かめてその領域を描き、
  ほかは全体を取り込んでから切り出す（切り出せなくても取り込みは進む）。
* `setHardwareRoi` — センサーに領域だけを読ませる。合成カメラだけが対応する。
-/

namespace DropletVision

/-- フレームの供給源。 -/
inductive Camera where
  | synthetic (c : SyntheticCamera)
  | ser (c : SerCamera)
  | images (c : ImageSequenceCamera)

/-- 取り込みの結果：フレーム（尽きたら `none`）、その後のカメラ、記録。 -/
structure Capture where
  frame : Outcome (Option Frame)
  camera : Camera
  notes : List Diagnostic := []

namespace Camera

/-- 名前。 -/
def name : Camera → String
  | .synthetic _ => "synthetic"
  | .ser _ => "ser"
  | .images _ => "image-sequence"

/-- センサーの大きさ（幅・高さ）。 -/
def sensorSize : Camera → Nat × Nat
  | .synthetic c => (c.config.width, c.config.height)
  | .ser c => (c.reader.width, c.reader.height)
  | .images c => c.sensor

/-- 指定された関心領域。 -/
def roi : Camera → Option Roi
  | .synthetic c => c.roi
  | .ser c => c.roi
  | .images c => c.roi

/-- 較正。 -/
def calibration : Camera → Option Calibration
  | .synthetic c => c.calibration
  | .ser c => c.calibration
  | .images c => c.calibration

/-- 較正を与える。 -/
def withCalibration (cam : Camera) (k : Calibration) : Camera :=
  match cam with
  | .synthetic c => .synthetic { c with calibration := some k }
  | .ser c => .ser { c with calibration := some k }
  | .images c => .images { c with calibration := some k }

/-- 枚数（限りのあるもの）。 -/
def frameCount : Camera → Option Nat
  | .synthetic c => c.config.frameLimit
  | .ser c => c.frameCount
  | .images c => some c.files.length

/-- センサーの内側にあることを確かめる。 -/
def checkRoi (cam : Camera) (r : Roi) : Outcome Unit :=
  r.validateForSensor cam.sensorSize.1 cam.sensorSize.2

/-- 関心領域を指定する。 -/
def setRoi (cam : Camera) (r : Roi) : Outcome Camera := do
  cam.checkRoi r
  pure <| match cam with
    | .synthetic c => .synthetic { c with roi := some r, hardwareRoi := false }
    | .ser c => .ser { c with roi := some r }
    | .images c => .images { c with roi := some r }

/-- 関心領域を外す。 -/
def clearRoi : Camera → Camera
  | .synthetic c => .synthetic { c with roi := none, hardwareRoi := false }
  | .ser c => .ser { c with roi := none }
  | .images c => .images { c with roi := none }

/-- センサーに領域だけを読ませる。 -/
def setHardwareRoi (cam : Camera) (r : Roi) : Outcome Camera :=
  match cam with
  | .synthetic c => do
    cam.checkRoi r
    pure (.synthetic { c with roi := some r, hardwareRoi := true })
  | _ => .error (.unsupported s!"hardware ROI on {cam.name}")

/-- 次のフレーム。 -/
def captureFrame : Camera → Capture
  | .synthetic c =>
    let region := match c.hardwareRoi, c.roi with
      | true, some r => r
      | _, _ => c.fullSensor
    match c.nextFrame region with
    | .ok (f, c) => ⟨.ok f, .synthetic c, []⟩
    | .error m => ⟨.error (.abort m), .synthetic c, []⟩
  | .ser c =>
    let (f, c) := c.capture
    ⟨f, .ser c, []⟩
  | .images c =>
    let (f, c, notes) := c.capture
    ⟨f, .images c, notes⟩

/-- 領域を指定した取り込み。 -/
def frameRoi (cam : Camera) (r : Roi) : Capture :=
  match cam with
  | .synthetic c =>
    match cam.checkRoi r with
    | .error e => ⟨.error e, cam, []⟩
    | .ok () =>
      match c.nextFrame r with
      | .ok (f, c) => ⟨.ok f, .synthetic c, []⟩
      | .error m => ⟨.error (.abort m), cam, []⟩
  | _ =>
    let cap := cam.captureFrame
    match cap.frame with
    | .ok (some full) =>
      match r.extract full with
      | .ok f => { cap with frame := .ok (some f) }
      | .error e => { cap with frame := .error e }
    | _ => cap

/-- SER の記録を先頭に戻す（ほかのカメラでは何もしない）。 -/
def rewind : Camera → Camera
  | .ser c => .ser c.rewind
  | cam => cam

/-- ROI があればその領域、なければ全体を取り込む。 -/
def captureInRoi (cam : Camera) : Capture :=
  match cam.roi with
  | some r => cam.frameRoi r
  | none => cam.captureFrame

end Camera

end DropletVision
