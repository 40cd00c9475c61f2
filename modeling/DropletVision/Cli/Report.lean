import DropletVision.Cli.Console
import DropletVision.Cli.Spec
import DropletVision.Controller.Basic
import DropletVision.Decimal.Text
import DropletVision.Numeric

/-!
# 検出の見出しとまとめ

`run` が標準出力に書く表。

* 見出し — 供給源と関心領域、前処理（背景・二値化・形態演算）、ふるい（面積・縦横比・
  流路の帯・入ってくる液滴・フレーム差）、換算。
* まとめ — 処理した枚数と送った枚数、液滴の数、処理速度、検出器の段階、四つの量の統計
  （平均・標準偏差・最小・最大・最頻値を小数点以下二桁で）、段階ごとの所要時間（名前の順、
  一度も測っていない段階は省く）。
* 名前の列は 14 字（所要時間の表は 20 字）に左寄せ、数の列は 10 字に右寄せ。
* 数の表示は、最短で読み戻せる十進（指数表記は使わない）か、小数点以下の桁数を決めた十進。

処理速度と所要時間の行は時計に依存するので、`OutputLine.render` が経過時間を受け取って文字にする。
-/

namespace DropletVision.Cli

open CliM

/-- 左を空白で埋める。 -/
def padLeft (s : String) (width : Nat) : String := spaces (width - s.length) ++ s

/-- 名前と値の行（字下げ `indent`、名前の列は 14 字）。 -/
def labelled (indent : Nat) (label value : String) : String :=
  spaces indent ++ padRight label 14 ++ value

/-- 関心領域の表示（`640x80 at (0, 80)`）。 -/
def placement (r : Roi) : String :=
  let w := r.width
  let h := r.height
  let x := r.x
  let y := r.y
  s!"{w}x{h} at ({x}, {y})"

/-- 見出しを書く。 -/
def header (c : DetectionConfig) (source : String) (roi : Roi) : CliM Unit := do
  let num := Decimal.showDouble
  say ""
  say "  Droplet Detection"
  say ("  " ++ String.ofList (List.replicate 17 '═'))
  say ""
  say (labelled 2 "Source" source)
  say (labelled 2 "ROI" (placement roi))
  say ""
  say "  Preprocessing"
  say (labelled 4 "Background" (c.backgroundMethod.label ++ " (" ++ toString c.backgroundFrames ++ " frames)"))
  say (labelled 4 "Threshold" c.thresholdMethod.label)
  say (labelled 4 "Morphology" (c.morphOperation.label ++ " (" ++ toString c.morphKernelSize ++ "px)"))
  say ""
  say "  Filters"
  say (labelled 4 "Area" (num c.minArea ++ " .. " ++ num c.maxArea ++ " px"))
  say (labelled 4 "Aspect" (num c.minAspectRatio ++ " .. " ++ num c.maxAspectRatio))
  match c.channelBand with
  | some (lo, hi) =>
    say (labelled 4 "Channel"
      ("rows " ++ toString lo ++ " .. " ++ toString hi ++ " (+/- " ++ toString c.channelBandMargin ++ ")"))
  | none => say (labelled 4 "Channel" "whole ROI")
  if c.acceptEntering then say (labelled 4 "Entering" "accepted")
  if c.useFrameDiff then
    say (labelled 4 "Rejection" ("frame difference (> " ++ Decimal.showSingle c.frameDiffThreshold ++ ")"))
  say ""
  say (labelled 2 "Calibration"
    (num c.umPerPx ++ " um/px, radius offset " ++ num c.radiusOffsetPx ++ " px"))
  say ""

/-- 一つの量の統計の行。 -/
def metricRow (name : String) (m : MetricStatistics Float) : String :=
  "    " ++ padRight name 14 ++
    String.join ([m.mean, m.std, m.min, m.max, m.mode].map (fun x => padLeft (Decimal.fixedDouble 2 x) 10))

/-- まとめを書く。`pumped` は送った枚数。 -/
def summary (status : ControllerStatus) (stats : ControllerStatistics)
    (performance : List (String × StageSummary)) (pumped : Nat) : CliM Unit := do
  say ""
  say "  Session"
  say (labelled 4 "Frames" (toString status.frameCount ++ " processed / " ++ toString pumped ++ " sent"))
  say (labelled 4 "Droplets" (toString status.dropletCountTotal))
  emit (.throughput status.frameCount)
  say (labelled 4 "Detector" status.detectorState.label)
  say ""
  let h := stats.histogram
  if h.count == 0 then
    say (labelled 2 "Statistics" "no droplets measured")
    say ""
  else
    say ("  Statistics (" ++ toString h.count ++ " droplets, " ++ h.unit ++ ")")
    say ("    " ++ spaces 14 ++ String.join (["mean", "std", "min", "max", "mode"].map (padLeft · 10)))
    for k in Metric.all do
      say (metricRow k.key (h.get k))
    say ""
  say "  Stage timings (ms)"
  say ("    " ++ spaces 20 ++ String.join (["mean", "p95", "max"].map (padLeft · 10)))
  let stages := performance.mergeSort (fun a b => decide (a.1 ≤ b.1))
  for (name, s) in stages do
    if s.count > 0 then emit (.stageTiming name s)
  say ""

/-- 行を文字にする。`stamp` は記録の時刻、`elapsed` は検出にかかった秒数。 -/
def OutputLine.render (stamp : String) (elapsed : Float) : OutputLine → String
  | .text s => s
  | .log d => stamp ++ " " ++ d.render
  | .throughput n =>
    let rate := n.toFloat / Float.maxNum elapsed 2.220446049250313e-16
    labelled 4 "Throughput" (Decimal.fixedDouble 1 rate ++ " fps")
  | .stageTiming name s =>
    "    " ++ padRight name 20 ++
      String.join ([s.mean, s.p95, s.max].map (fun x => padLeft (Decimal.fixedDouble 3 x) 10))

end DropletVision.Cli
