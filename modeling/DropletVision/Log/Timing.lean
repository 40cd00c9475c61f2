import DropletVision.Buffer.Ring
import DropletVision.Detection.Detector
import DropletVision.Numeric

/-!
# 段階ごとの処理時間

段階ごとに最近の処理時間（ミリ秒）を容量つきの列に保ち、要約を出す。

* 要約 — 平均、標準偏差（母集団）、最小、最大、95・99 パーセンタイル、個数。無ければすべて 0。
* パーセンタイルは、全順序で並べた値の位置 `q/100 · (n - 1)` の前後を線形に補う。
* ナノ秒の時間は `秒 + ナノ秒 / 10^9` の秒にしてから 1000 倍する。
-/

namespace DropletVision

/-- 一つの段階の要約。 -/
structure StageSummary where
  mean : Float := 0
  std : Float := 0
  min : Float := 0
  max : Float := 0
  p95 : Float := 0
  p99 : Float := 0
  count : Nat := 0
  deriving Repr, Inhabited

/-- 全順序の比較に使う鍵（倍精度）。 -/
def totalOrderKey64 (x : Float) : UInt64 :=
  let b := x.toBits
  if b &&& 0x8000000000000000 != 0 then ~~~b else b ||| 0x8000000000000000

/-- 並べた値の `q` パーセンタイル。 -/
def percentile (sorted : Array Float) (q : Float) : Float :=
  let rank := q / 100 * (sorted.size - 1).toFloat
  let lo := rank.floor.toUInt64.toNat
  let hi := rank.ceil.toUInt64.toNat
  let frac := rank - lo.toFloat
  let a := sorted.getD lo 0
  a + (sorted.getD hi 0 - a) * frac

namespace StageSummary

/-- 値の列の要約。 -/
def ofSamples (samples : List Float) : StageSummary :=
  if samples.isEmpty then {}
  else
    let n := samples.length.toFloat
    let mean := negZeroSum samples / n
    let var := negZeroSum (samples.map (fun v => (v - mean) * (v - mean))) / n
    let sorted := (samples.mergeSort (fun a b => totalOrderKey64 a ≤ totalOrderKey64 b)).toArray
    { mean, std := var.sqrt, min := sorted.getD 0 0, max := sorted.getD (sorted.size - 1) 0,
      p95 := percentile sorted 95, p99 := percentile sorted 99, count := samples.length }

/-- JSON の値。 -/
def toJson (s : StageSummary) : Json :=
  .obj [("mean", .ofFloat s.mean), ("std", .ofFloat s.std), ("min", .ofFloat s.min),
    ("max", .ofFloat s.max), ("p95", .ofFloat s.p95), ("p99", .ofFloat s.p99), ("count", .ofNat s.count)]

end StageSummary

/-- ナノ秒の時間をミリ秒に。 -/
def nanosToMillis (n : Nat) : Float :=
  ((n / 1000000000).toFloat + (n % 1000000000).toFloat / 1e9) * 1000

/-- 段階ごとの処理時間。 -/
structure StageTimings where
  samples : List (Stage × RingBuffer Float)

namespace StageTimings

/-- 各段階に容量 `maxSamples` の空の列。 -/
def new (maxSamples : Nat) : StageTimings := ⟨Stage.all.map (fun s => (s, .new maxSamples))⟩

/-- 段階の列。 -/
def buffer (t : StageTimings) (s : Stage) : RingBuffer Float :=
  ((t.samples.find? (·.1 == s)).map (·.2)).getD (.new 1)

/-- 時間（ミリ秒）を記録する。 -/
def record (t : StageTimings) (s : Stage) (ms : Float) : StageTimings :=
  ⟨t.samples.map (fun (s', b) => if s' == s then (s', (b.push ms).1) else (s', b))⟩

/-- 段階の記録の数。 -/
def count (t : StageTimings) (s : Stage) : Nat := (t.buffer s).len

/-- すべて捨てる。 -/
def clear (t : StageTimings) : StageTimings := ⟨t.samples.map (fun (s, b) => (s, b.clear))⟩

/-- 段階の要約。 -/
def stageSummary (t : StageTimings) (s : Stage) : StageSummary :=
  StageSummary.ofSamples (t.buffer s).toList

/-- 全段階の要約（キーつき）。 -/
def summary (t : StageTimings) : List (String × StageSummary) :=
  Stage.all.map (fun s => (s.key, t.stageSummary s))

end StageTimings

end DropletVision
