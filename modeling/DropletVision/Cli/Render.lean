import DropletVision.Cli.Console
import DropletVision.Cli.Invocation
import DropletVision.Cli.Value
import DropletVision.Camera.Source
import DropletVision.Ser.Writer
import DropletVision.Image.File
import DropletVision.Numeric

/-!
# 合成の記録を作る（`simulate`）

合成カメラで流路を描き、SER の記録（白黒 8 ビット）か PNG の並びとして保存する。

* 液滴の大きさは `流れに沿った半軸,横切る半軸`。読めない数があれば
  `Invalid droplet size '…'`（原因は数の誤り）、二つでなければ `Droplet size needs two values`。
* 流路の中心はセンサーの高さの半分、流路の高さは `min(横切る半軸 × 5, 高さ - 2)`。
* ごみは流路に沿って等間隔（`(i + 1/2) × 幅 / 個数`）に置き、中心線の上下に交互に
  流路の高さの 4 分の 1 だけずらす（偶数番目が上）。
* SER の記録は描き始める前に作る。作れなければ `Failed to create パス`。
  PNG の並びは、ディレクトリを作って `frame_00000.png` から順に書く。
* 最後に空行と `枚数 synthetic frames (幅x高さ) saved to パス` を書く。

## 停止性

取り込みは枚数の上限で終わるので、枚数 + 1 を燃料にして回す。
-/

namespace DropletVision.Cli

open CliM

/-- 液滴の半軸を読む。 -/
def dropletAxes (s : String) : CliM (Float × Float) := do
  let axes ← (s.splitOn ",").mapM (fun p =>
    match readReal (Unicode.trim p) with
    | .ok x => pure x
    | .error e => fail ⟨"Invalid droplet size '" ++ s ++ "'", [e]⟩)
  match axes with
  | [major, minor] => pure (major, minor)
  | _ => fail ⟨"Droplet size needs two values, got '" ++ s ++ "'", []⟩

/-- 引数から合成の設定を作る。 -/
def syntheticConfigOf (a : SimulateArgs) (major minor : Float) : SyntheticConfig :=
  let centerY := a.height.toFloat / 2.0
  let channelHeight := Float.minNum (minor * 5.0) (a.height.toFloat - 2.0)
  let debris := (List.range a.debris).map (fun i =>
    let x := (i.toFloat + 0.5) * a.width.toFloat / a.debris.toFloat
    let side : Float := if i % 2 == 0 then -1.0 else 1.0
    (x, centerY + side * channelHeight / 4.0))
  { width := a.width, height := a.height, channelCenterY := centerY, channelHeight,
    dropletSemiMajor := major, dropletSemiMinor := minor, spacing := a.spacing, speed := a.speed,
    noise := a.noise.toUInt8, debris, seed := a.seed.toUInt64, frameLimit := some a.frames }

/-- 番号の画像のファイル名（`frame_00042.png`）。 -/
def frameFileName (index : Nat) : String :=
  let digits := toString index
  "frame_" ++ String.ofList (List.replicate (5 - digits.length) '0') ++ digits ++ ".png"

/-- 尽きるまで取り込み、画像ごとに `keep` を呼ぶ。 -/
def renderFrames (keep : Frame → CliM Unit) : Nat → Camera → CliM Unit
  | 0, _ => pure ()
  | fuel + 1, cam => do
    let cap := cam.captureFrame
    match ← check cap.frame with
    | none => pure ()
    | some f =>
      keep f
      renderFrames keep fuel cap.camera

/-- `simulate` を実行する。 -/
def simulateRecording (a : SimulateArgs) : CliM Unit := do
  let (major, minor) ← dropletAxes a.droplet
  let config := syntheticConfigOf a major minor
  let cam := Camera.synthetic (SyntheticCamera.new config)
  let out := a.output
  if a.png then
    match (← files).createDirAll out with
    | .ok t => setFiles t
    | .error e => fail ⟨"Failed to create " ++ out, [e.message]⟩
    renderFrames (fun f => do
      let path := FileTree.join out (frameFileName f.index)
      match saveImage (← files) f path with
      | .ok t => setFiles t
      | .error e => fail (.withContext ("Failed to write " ++ path) e)) (a.frames + 1) cam
  else
    match (← files).writeFile out .empty with
    | .ok t => setFiles t
    | .error e => fail (.withContext ("Failed to create " ++ out) (.io e))
    let writer ← renderInto (SerWriter.create config.width config.height .mono) (a.frames + 1) cam
    match (← files).writeFile out writer.finalize with
    | .ok t => setFiles t
    | .error e => fail (.ofError (.io e))
  say ("\n" ++ toString a.frames ++ " synthetic frames (" ++ toString config.width ++ "x" ++
    toString config.height ++ ") saved to " ++ out)
where
  /-- 尽きるまで取り込み、SER の記録に書き足す。 -/
  renderInto (w : SerWriter) : Nat → Camera → CliM SerWriter
    | 0, _ => pure w
    | fuel + 1, cam => do
      let cap := cam.captureFrame
      match ← check cap.frame with
      | none => pure w
      | some f => renderInto (← check (w.writeFrame f)) fuel cap.camera

end DropletVision.Cli
