import DropletVision.Buffer.Ring
import DropletVision.Detection.Measure
import DropletVision.Numeric
import DropletVision.Error

/-!
# 計測値の度数分布

最近の液滴の四つの量（幅 = 長軸、高さ = 外接矩形の短辺、直径 = 等価直径、面積）を、
同じ長さの窓に入れて保ち、度数分布と統計を出す。

* 度数分布 — 窓の最小と最大（等しければ 0.5 ずつ広げる）を `bins` 等分する。値 `v` は
  `⌊(v - lo) / (hi - lo) · bins⌋` 番目（最後の区間に切り詰める）。窓が空なら `[0, 100]` の区間で度数は 0。
* 棒 — 値を整数に丸めたものごとの個数（整数の昇順）。
* 統計 — 窓の値に換算（面積は二乗）を掛けた値の平均・標準偏差（母集団）・最小・最大と、
  最頻値（丸めた整数のうち個数が最大の最小のもの）に換算を掛けた値。窓が空ならすべて 0。

## 数の型

度数分布と統計（`Stats.histogram`、`Stats.summary`）は値の型 `α` と、その上の演算の組
`Stats.Arith α` について書く。動かすのは倍精度の組 `Stats.Arith.double` で、同じ定義を丸めの無い
数で読めば、計算が何を求めているかを述べられる。
-/

namespace DropletVision

/-- 度数分布をとる量。 -/
inductive Metric where
  | width
  | height
  | diameter
  | area
  deriving BEq, Repr, Inhabited, DecidableEq

namespace Metric

/-- すべての量。 -/
def all : List Metric := [.width, .height, .diameter, .area]

/-- キー。 -/
def key : Metric → String
  | .width => "width"
  | .height => "height"
  | .diameter => "diameter"
  | .area => "area"

/-- 名前から読む。大文字小文字を区別する。 -/
def ofString (s : String) : Outcome Metric :=
  match s with
  | "width" => .ok .width
  | "height" => .ok .height
  | "diameter" => .ok .diameter
  | "area" => .ok .area
  | other => .error (.unknownMetric other)

/-- 液滴の計測値からの値。 -/
def value (k : Metric) (m : DropletMetrics) : Float :=
  match k with
  | .width => m.majorAxisPx
  | .height => m.minorExtentPx
  | .diameter => m.equivalentDiameterPx
  | .area => m.areaPx

end Metric

/-- 一つの量の統計。値の型は `α`。 -/
structure MetricStatistics (α : Type) where
  mean : α
  std : α
  min : α
  max : α
  mode : α
  count : Nat
  deriving Repr, Inhabited

/-- 四つの量の統計。 -/
structure HistogramStatistics where
  count : Nat
  unit : String
  pixelRatio : Float
  width : MetricStatistics Float
  height : MetricStatistics Float
  diameter : MetricStatistics Float
  area : MetricStatistics Float
  deriving Repr, Inhabited

/-- 量の統計を取り出す。 -/
def HistogramStatistics.get (s : HistogramStatistics) : Metric → MetricStatistics Float
  | .width => s.width
  | .height => s.height
  | .diameter => s.diameter
  | .area => s.area

/-- 一つの量の度数分布。 -/
structure MetricHistogram where
  counts : List Nat
  edges : List Float
  bars : List (Float × Nat)

/-- 度数分布と統計の計算に使う、値の型 `α` の上の演算。動かすのは倍精度（`Stats.Arith.double`）で、
同じ定義を拡張実数で読めば丸めの無い計算になる。 -/
structure Stats.Arith (α : Type) where
  /-- 自然数から。 -/
  ofNat : Nat → α
  /-- 整数から。 -/
  ofInt : Int → α
  /-- 0 へ向けて切り捨てた添字。負と NaN は 0。 -/
  toIndex : α → Nat
  /-- 値を丸めた整数：最も近い整数（ちょうど半分なら 0 から遠い方）を 64 ビットに収めたもの。 -/
  roundKey : α → Int
  sqrt : α → α
  /-- 小さい方・大きい方。片方が NaN ならもう片方。 -/
  minNum : α → α → α
  maxNum : α → α → α
  /-- 正の無限大。最小と最大を畳み込む初めの値（最大は `-inf` から）。 -/
  inf : α
  /-- 最小と最大が等しいときに両側へ広げる幅 `0.5`。 -/
  half : α

namespace Stats

/-- 倍精度の演算。 -/
def Arith.double : Arith Float where
  ofNat := Nat.toFloat
  ofInt := Float.ofInt
  toIndex := Float.toNatSat
  roundKey := fun v => Float.toInt64Sat v.round
  sqrt := Float.sqrt
  minNum := Float.minNum
  maxNum := Float.maxNum
  inf := 1 / 0
  half := 0.5

variable {α : Type} [Add α] [Sub α] [Mul α] [Div α] [Neg α] [OfNat α 0] [BEq α] (A : Arith α)

/-- `lo` から `hi` まで `n` 点の等間隔の列（最後の点はちょうど `hi`）。 -/
def linspace (lo hi : α) (n : Nat) : List α :=
  if n ≤ 1 then List.replicate n lo
  else
    let step := (hi - lo) / A.ofNat (n - 1)
    (List.range n).map (fun i => if i == n - 1 then hi else lo + step * A.ofNat i)

/-- 整列した整数の列を後ろから（値, 個数）にまとめる一歩：先頭と同じ値なら数を一つ増やし、
違えば新しい組を前に置く。 -/
def countRun (k : Int) : List (Int × Nat) → List (Int × Nat)
  | (k', c) :: rest => if k == k' then (k, c + 1) :: rest else (k, 1) :: (k', c) :: rest
  | [] => [(k, 1)]

/-- 値を整数に丸めたもの（`key`）ごとの個数（整数の昇順）。 -/
def roundedCounts (key : α → Int) (values : List α) : List (Int × Nat) :=
  let keys := values.map key
  let sorted := keys.mergeSort (· ≤ ·)
  sorted.foldr countRun []

/-- 最頻値を選ぶ一歩：個数が今までの最大より真に多いときだけ取り替える（同数なら先の方）。 -/
def keepFirstMax : Option (Int × Nat) → Int × Nat → Option (Int × Nat)
  | some (b, bc), (v, c) => if c > bc then some (v, c) else some (b, bc)
  | none, (v, c) => some (v, c)

/-- 値の列の統計。`scale` を掛けて数える。空なら 0。 -/
def summary (values : List α) (scale : α) : MetricStatistics α :=
  if values.isEmpty then ⟨0, 0, 0, 0, 0, 0⟩
  else
    let n := A.ofNat values.length
    let scaled := values.map (· * scale)
    let mean := negZeroSum scaled / n
    let var := negZeroSum (scaled.map (fun v => (v - mean) * (v - mean))) / n
    let lo := scaled.foldl A.minNum A.inf
    let hi := scaled.foldl A.maxNum (-A.inf)
    let best := (roundedCounts A.roundKey values).foldl keepFirstMax none
    let mode := match best with
      | some (v, _) => A.ofInt v * scale
      | none => 0
    ⟨mean, A.sqrt var, lo, hi, mode, values.length⟩

/-- 区間の端（`bins + 1` 個）と度数（`bins` 個）。値の最小と最大（等しければ `half` ずつ広げる）を
`bins` 等分し、値 `v` は `⌊(v - lo) / (hi - lo) · bins⌋` 番目（最後の区間に切り詰める）に数える。
値が無ければ `[0, 100]` を等分し、度数は 0。 -/
def histogram (bins : Nat) (vs : List α) : List α × List Nat :=
  if vs.isEmpty then (linspace A (A.ofNat 0) (A.ofNat 100) (bins + 1), List.replicate bins 0)
  else
    let lo := vs.foldl A.minNum A.inf
    let hi := vs.foldl A.maxNum (-A.inf)
    let (lo, hi) := if lo == hi then (lo - A.half, hi + A.half) else (lo, hi)
    let span := hi - lo
    let counts := vs.foldl (fun (cs : Array Nat) v =>
      let idx := min (A.toIndex (((v - lo) / span) * A.ofNat bins)) (bins - 1)
      cs.modify idx (· + 1)) (Array.replicate bins 0)
    (linspace A lo hi (bins + 1), counts.toList)

end Stats

/-- 倍精度の値の列の統計。 -/
def metricStatistics (values : List Float) (scale : Float) : MetricStatistics Float :=
  Stats.summary Stats.Arith.double values scale

/-- 液滴の四つの量の窓。 -/
structure DropletHistogram where
  windowSize : Nat
  bins : Nat
  pixelRatio : Float
  width : RingBuffer Float
  height : RingBuffer Float
  diameter : RingBuffer Float
  area : RingBuffer Float

namespace DropletHistogram

/-- 空の窓。区間の数は 1 以上に切り上げる。 -/
def new (windowSize bins : Nat) (pixelRatio : Float) : DropletHistogram :=
  ⟨windowSize, max bins 1, pixelRatio, .new windowSize, .new windowSize, .new windowSize,
   .new windowSize⟩

/-- 量の窓。 -/
def window (h : DropletHistogram) : Metric → RingBuffer Float
  | .width => h.width
  | .height => h.height
  | .diameter => h.diameter
  | .area => h.area

/-- 単位：換算が 1 ちょうどなら `px`、それ以外は `um`。 -/
def unit (h : DropletHistogram) : String := if h.pixelRatio != 1.0 then "um" else "px"

/-- 窓の中の液滴の数。 -/
def len (h : DropletHistogram) : Nat := h.width.len

/-- 窓の大きさと区間の数を変える。中身は捨てる。 -/
def reconfigure (h : DropletHistogram) (windowSize bins : Nat) : DropletHistogram :=
  new windowSize bins h.pixelRatio

/-- 換算を変える。 -/
def setPixelRatio (h : DropletHistogram) (r : Float) : DropletHistogram := { h with pixelRatio := r }

/-- 中身を捨てる。 -/
def clear (h : DropletHistogram) : DropletHistogram :=
  { h with width := h.width.clear, height := h.height.clear, diameter := h.diameter.clear,
           area := h.area.clear }

/-- 液滴を窓に足す。 -/
def update (h : DropletHistogram) (ms : List DropletMetrics) : DropletHistogram :=
  ms.foldl (fun h m =>
    { h with width := (h.width.push (Metric.width.value m)).1,
             height := (h.height.push (Metric.height.value m)).1,
             diameter := (h.diameter.push (Metric.diameter.value m)).1,
             area := (h.area.push (Metric.area.value m)).1 }) h

/-- 量の値（古い順）。 -/
def values (h : DropletHistogram) (k : Metric) : List Float := (h.window k).toList

/-- 区間の端と度数。 -/
def histogram (h : DropletHistogram) (k : Metric) : List Float × List Nat :=
  Stats.histogram Stats.Arith.double h.bins (h.values k)

/-- 丸めた値ごとの棒。 -/
def bars (h : DropletHistogram) (k : Metric) : List (Float × Nat) :=
  (Stats.roundedCounts Stats.Arith.double.roundKey (h.values k)).map (fun (v, c) => (Float.ofInt v, c))

/-- 四つの量の統計。 -/
def statistics (h : DropletHistogram) : HistogramStatistics :=
  let r := h.pixelRatio
  let stats (k : Metric) := metricStatistics (h.values k) (if k == .area then r * r else r)
  ⟨h.len, h.unit, r, stats .width, stats .height, stats .diameter, stats .area⟩

/-- 一つの量の度数分布。 -/
def metricHistogram (h : DropletHistogram) (k : Metric) : MetricHistogram :=
  let (edges, counts) := h.histogram k
  ⟨counts, edges, h.bars k⟩

end DropletHistogram

/-- 統計の JSON の値。 -/
def MetricStatistics.toJson (s : MetricStatistics Float) : Json :=
  .obj [("mean", .ofFloat s.mean), ("std", .ofFloat s.std), ("min", .ofFloat s.min),
    ("max", .ofFloat s.max), ("mode", .ofFloat s.mode), ("count", .ofNat s.count)]

/-- 四つの量の統計の JSON の値。 -/
def HistogramStatistics.toJson (s : HistogramStatistics) : Json :=
  .obj [("count", .ofNat s.count), ("unit", .str s.unit), ("pixel_ratio", .ofFloat s.pixelRatio),
    ("width", s.width.toJson), ("height", s.height.toJson), ("diameter", s.diameter.toJson),
    ("area", s.area.toJson)]

/-- 度数分布の JSON の値。 -/
def MetricHistogram.toJson (m : MetricHistogram) : Json :=
  .obj [("counts", .arr (m.counts.map Json.ofNat)), ("bins", .arr (m.edges.map Json.ofFloat)),
    ("bars", .arr (m.bars.map (fun (v, c) => .arr [.ofFloat v, .ofNat c])))]

/-- 度数分布と統計をまとめた JSON の値。 -/
def DropletHistogram.toJson (h : DropletHistogram) : Json :=
  .obj [("histograms", .obj (Metric.all.map (fun k => (k.key, (h.metricHistogram k).toJson)))),
    ("statistics", h.statistics.toJson), ("pixel_ratio", .ofFloat h.pixelRatio),
    ("unit", .str h.unit), ("count", .ofNat h.len)]

end DropletVision
