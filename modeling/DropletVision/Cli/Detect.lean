import DropletVision.Cli.Report
import DropletVision.Cli.Preset
import DropletVision.Camera.Source
import DropletVision.Controller.Basic
import DropletVision.Json.Write

/-!
# 検出の実行（`run`）

供給源から枚数だけフレームを取り込み、一枚ずつ検出にかけて、統計を示す。

1. 設定：プロファイルがあれば読み（読めなければ `Invalid profile パス`）、無ければプリセット。
   換算・半径の補正・入ってくる液滴の指定で上書きし、検査する。
2. 供給源：入力が無ければ合成の流路（関心領域の既定は流路）、ディレクトリなら画像の並び
   （`Failed to read images from パス`）、それ以外は SER の記録（`Failed to open パス`）。
   後の二つの関心領域の既定はセンサー全体。
3. 関心領域を指定する。合わなければ `ROI Roi { … } does not fit the source`。
4. JSON でなければ見出しを書く。枚数は指定の枚数と供給源の枚数の小さい方。
5. 検出を始め、一枚取り込んでは渡して処理を待つ。取り込みの誤りはそのまま失敗になる。
6. 止めて、統計を JSON かまとめで示す。
7. 書き出し先があれば、拡張子（無ければ `csv`）の形式で記録を書く。記録が無ければその旨を書く。
8. プロファイルの保存先があれば保存する（`Failed to save profile to パス`）。

## 停止性

取り込みの繰り返しは枚数を燃料にする。
-/

namespace DropletVision.Cli

open CliM

/-- 関心領域の詳しい表示（`Roi { x: 0, y: 5, width: 81, height: 20 }`）。 -/
def roiDetail (r : Roi) : String :=
  "Roi \x7b x: " ++ toString r.x ++ ", y: " ++ toString r.y ++ ", width: " ++ toString r.width ++
    ", height: " ++ toString r.height ++ " \x7d"

/-- 検出の設定を決める。 -/
def detectionConfig (a : RunArgs) : CliM DetectionConfig := do
  let c ← match a.profile with
    | some path => do
      let (r, notes) := loadProfile (← files) path
      note notes
      checkIn ("Invalid profile " ++ path) r
    | none => presetConfig a.preset
  let c := match a.umPerPx with
    | some v => { c with umPerPx := v }
    | none => c
  let c := match a.radiusOffset with
    | some v => { c with radiusOffsetPx := v }
    | none => c
  let c := if a.acceptEntering then { c with acceptEntering := true } else c
  check c.validate
  pure c

/-- 供給源を開き、関心領域の既定と一緒に返す。 -/
def openSource (input : Option String) (looping : Bool) : CliM (Camera × Roi) := do
  match input with
  | none =>
    let cam := SyntheticCamera.new {}
    pure (.synthetic cam, cam.channelRoi)
  | some path =>
    let t ← files
    let cam ← if t.isDir path then do
        let (c, n) ← checkIn ("Failed to read images from " ++ path) (ImageSequenceCamera.openDir t path)
        note [n]
        pure (Camera.images c)
      else do
        let (c, n) ← checkIn ("Failed to open " ++ path) (SerCamera.load t path)
        note [n]
        pure (Camera.ser { c with looping })
    let (w, h) := cam.sensorSize
    pure (cam, ⟨0, 0, w, h⟩)

/-- 一枚ずつ取り込んで渡す。送った枚数を数える。 -/
def pump (roi : Roi) : Nat → DetectionController → Camera → Nat → CliM (DetectionController × Nat)
  | 0, k, _, sent => pure (k, sent)
  | fuel + 1, k, cam, sent => do
    let cap := cam.frameRoi roi
    note cap.notes
    match ← check cap.frame with
    | none => pure (k, sent)
    | some f =>
      let (accepted, k) := k.addFrame f 0
      if !accepted then fail ⟨"Detector rejected frame " ++ toString sent, []⟩
      pump roi fuel k cap.camera (sent + 1)

/-- 記録を書き出す。 -/
def exportRecords (k : DetectionController) (path : String) : CliM Unit := do
  let ext := (FileTree.extension? path).getD "csv"
  let format ← check (ExportFormat.ofString ext)
  match ← check (k.exportMeasurements ext) with
  | some body =>
    match (← files).writeFile path body.toUTF8 with
    | .ok t => setFiles t
    | .error e => fail ⟨"Failed to write " ++ path, [e.message]⟩
    say (toString k.rawLogLen ++ " measurements exported to " ++ path ++ " (" ++ format.extension ++ ")")
  | none => say "No droplets measured; nothing exported"

/-- `run` を実行する。 -/
def detectDroplets (a : RunArgs) : CliM Unit := do
  let config ← detectionConfig a
  let (cam, defaultRoi) ← openSource a.input a.looping
  let roi := a.roi.getD defaultRoi
  let cam ← checkIn ("ROI " ++ roiDetail roi ++ " does not fit the source") (cam.setRoi roi)
  let k ← check (DetectionController.new config)
  unless a.json do header k.config cam.name roi
  let total := match cam.frameCount with
    | some n => min n a.frames
    | none => a.frames
  let k ← check (k.start cam)
  let (k, sent) ← pump roi total k cam 0
  let k := k.stop
  if a.json then say (Json.pretty k.statistics.toJson)
  else summary k.status k.statistics k.performance sent
  if let some path := a.exportPath then exportRecords k path
  if let some path := a.saveProfile then
    storeProfile k.config path (if a.nested then .nested else .flat) ("Failed to save profile to " ++ path)
    say ("Profile saved to " ++ path)

end DropletVision.Cli
