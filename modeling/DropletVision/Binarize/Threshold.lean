import DropletVision.Plane
import DropletVision.Mask
import DropletVision.Numeric
import DropletVision.Config.Basic

/-!
# しきい値による二値化

背景を引いた明るさの平面（値はおよそ `[0, 1]`）を二値にする。

* `otsuThreshold` — 256 区間の度数分布でクラス間分散を最大にする値。
  値 `v` は `[0, 1]` に収めて `⌊v · 255⌋` 番目の区間に入る（NaN は 0 番目）。
  区間 `i` まで背景としたときの分散が最大になる `i` を選び、しきい値は `(i + 1) / 255`。
  分けられない（一様な）平面では無限大で、前景は無い。
* `adaptiveThreshold` — 画素を中心とする `block × block` の窓（画像の端で切る）の平均より
  `offset` を超えて明るい画素を前景にする。窓の和は累積和の表から求めるので窓の大きさに依らない。
* `applyThreshold` — 設定の方法で二値にする。適応的な方法の `c` は 8 ビットの単位で、
  `c / 255` にして使う。

## 数の型

どちらの方法も、画素の値の型 `α` と和をとる型 `β` について一度だけ書く（`Otsu`、`Adaptive`）。
動かすのは `α` が単精度、`β` が倍精度の場合で、分散の計算と累積和は倍精度、しきい値との比較は
単精度で行う。同じ定義を有理数や拡張実数で読めば、丸めの無い計算になる。型の間の変換
（0 へ向けた切り捨て、自然数から、単精度と倍精度の間）は引数で渡す。
-/

namespace DropletVision

/-- 大津の方法の区間の数。 -/
def otsuBins : Nat := 256

/-- 8 ビットの最大値。 -/
def u8Max : Float32 := 255

/-- 平面の値を行優先に並べた列。 -/
def rowMajor {α : Type} (h w : Nat) (get : Nat → Nat → α) : List α :=
  (List.range h).flatMap fun r => (List.range w).map (get r)

namespace Otsu

section Sample

variable {α : Type} [LT α] [DecidableLT α] [Mul α] [OfNat α 0] [OfNat α 1] [OfNat α 255]

/-- 値の入る区間。`[0, 1]` に収めて 255 倍し、`trunc` で 0 へ向けて切り捨てる。NaN はどの比較も
偽なので、そのまま `trunc` に渡る。 -/
def bin (trunc : α → Nat) (v : α) : Nat :=
  let x := if v < 0 then (0 : α) else v
  let x := if x > 1 then (1 : α) else x
  min (trunc (x * 255)) (otsuBins - 1)

/-- 度数分布。 -/
def histogram (trunc : α → Nat) (vs : List α) : Array Nat :=
  vs.foldl (fun hist v => hist.modify (bin trunc v) (· + 1)) (Array.replicate otsuBins 0)

end Sample

/-- 区間を順に見ていくときの途中の値：背景の重み・背景の和・最大の分散・その区間。 -/
structure Scan (β : Type) where
  weightBg : β
  sumBg : β
  bestVariance : β
  bestBin : Option Nat

section Scan

variable {β : Type} [Add β] [Sub β] [Mul β] [Div β] [LT β] [DecidableLT β] [BEq β] [OfNat β 0]

/-- 走査の始め：重みも和も最大の分散も 0、区間は無い。 -/
def Scan.init : Scan β := ⟨0, 0, 0, none⟩

/-- 区間 `i`（度数 `count`）まで背景としたときの分散で更新する。`weight` は度数を重みにする。
背景がまだ空なら重みだけ足して次へ、前景が空になったら `none` で走査を止める。 -/
def Scan.step (weight : Nat → β) (total sumAll : β) (s : Scan β) (i count : Nat) : Option (Scan β) :=
  let weightBg := s.weightBg + weight count
  if weightBg == 0 then some { s with weightBg }
  else
    let weightFg := total - weightBg
    if weightFg == 0 then none
    else
      let sumBg := s.sumBg + weight i * weight count
      let meanBg := sumBg / weightBg
      let meanFg := (sumAll - sumBg) / weightFg
      let d := meanBg - meanFg
      let v := weightBg * weightFg * (d * d)
      if v > s.bestVariance then some ⟨weightBg, sumBg, v, some i⟩
      else some { s with weightBg, sumBg }

/-- 区間を先頭から走査する。 -/
def scan (weight : Nat → β) (total sumAll : β) : List (Nat × Nat) → Scan β → Scan β
  | [], s => s
  | (i, count) :: rest, s =>
    match s.step weight total sumAll i count with
    | some s' => scan weight total sumAll rest s'
    | none => s

/-- 度数分布 `hist`（値は全部で `n` 個）で分散が最大になる区間。分けられなければ `none`。 -/
def bestBin [Neg β] (weight : Nat → β) (hist : Array Nat) (n : Nat) : Option Nat :=
  let indexed := hist.toList.zipIdx.map (fun (c, i) => (i, c))
  let total := weight n
  let sumAll := indexed.foldl (fun acc (i, c) => acc + weight i * weight c) (-0)
  (scan weight total sumAll indexed Scan.init).bestBin

end Scan

section Threshold

variable {α β : Type} [LT α] [DecidableLT α] [Mul α] [Div α] [OfNat α 0] [OfNat α 1] [OfNat α 255]
  [Add β] [Sub β] [Mul β] [Div β] [Neg β] [LT β] [DecidableLT β] [BEq β] [OfNat β 0]

/-- 大津の方法のしきい値。区間 `b` までを背景とするのが最良なら `(b + 1) / 255`、分けられなければ
`inf`。`trunc` は 0 へ向けた切り捨て、`ofNat` と `weight` は自然数から値と重みへ。 -/
def threshold (trunc : α → Nat) (ofNat : Nat → α) (inf : α) (weight : Nat → β) (vs : List α) : α :=
  match bestBin weight (histogram trunc vs) vs.length with
  | some b => ofNat (b + 1) / ofNat (otsuBins - 1)
  | none => inf

/-- しきい値以上の画素を前景にした `h × w` の平面。 -/
def mask [LE α] [DecidableLE α] (trunc : α → Nat) (ofNat : Nat → α) (inf : α) (weight : Nat → β)
    (h w : Nat) (get : Nat → Nat → α) : Mask :=
  let t := threshold trunc ofNat inf weight (rowMajor h w get)
  Mask.ofFn h w (fun r c => get r c ≥ t)

end Threshold

end Otsu

namespace Adaptive

variable {α β : Type}

/-- 画素の行 `row` の左からの累積和 `[0, x₀, x₀ + x₁, …]`（長さ `w + 1`）。 -/
def prefixSums [Add β] [OfNat β 0] (widen : α → β) (w : Nat) (row : Nat → α) : List β :=
  (List.range w).scanl (fun s c => s + widen (row c)) 0

/-- 累積和の表。`h + 1` 行 `w + 1` 列で、先頭の行と列は 0。行 `r + 1` は行 `r` に画素の行 `r` の
累積和を足したもの。 -/
def table [Add β] [OfNat β 0] (widen : α → β) (h w : Nat) (get : Nat → Nat → α) : Array (Array β) :=
  let rows := (List.range h).scanl
    (fun above r => List.zipWith (· + ·) above (prefixSums widen w (get r)))
    (List.replicate (w + 1) 0)
  (rows.map List.toArray).toArray

/-- 窓 `[r0, r1) × [c0, c1)` の和。 -/
def boxSum [Add β] [Sub β] [OfNat β 0] (t : Array (Array β)) (r0 r1 c0 c1 : Nat) : β :=
  let at_ (r c : Nat) := (t.getD r #[]).getD c 0
  at_ r1 c1 - at_ r0 c1 - at_ r1 c0 + at_ r0 c0

/-- 局所的なしきい値：窓の平均より `offset` を超えて明るい画素が前景。和は `β` でとり、`widen` と
`narrow` で値の型との間を移す。`ofNat` は窓の画素の数を `β` にする。 -/
def mask [Add α] [LT α] [DecidableLT α] [Add β] [Sub β] [Div β] [OfNat β 0]
    (widen : α → β) (narrow : β → α) (ofNat : Nat → β) (h w : Nat) (get : Nat → Nat → α)
    (block : Nat) (offset : α) : Mask :=
  let t := table widen h w get
  let rad := block / 2
  Mask.ofFn h w (fun r c =>
    let r0 := r - rad
    let c0 := c - rad
    let r1 := min (r + rad + 1) h
    let c1 := min (c + rad + 1) w
    let s := boxSum t r0 r1 c0 c1
    let count := ofNat ((r1 - r0) * (c1 - c0))
    let mean := narrow (s / count)
    get r c > mean + offset)

end Adaptive

/-- 大津の方法のしきい値。これ以上の値が前景。分けられなければ無限大。 -/
def otsuThreshold (p : Plane) : Float32 :=
  Otsu.threshold (fun x => x.toUInt64.toNat) Float32.ofNat (1 / 0) Nat.toFloat
    (rowMajor p.height p.width p.get)

/-- 局所的なしきい値：窓の平均より `offset` を超えて明るい画素が前景。 -/
def adaptiveThreshold (p : Plane) (block : Nat) (offset : Float32) : Mask :=
  Adaptive.mask Float32.toFloat Float.toFloat32 Nat.toFloat p.height p.width p.get block offset

/-- 設定の方法で二値にする。`c` は 8 ビットの単位。 -/
def applyThreshold (p : Plane) (method : ThresholdMethod) (block : Nat) (c : Float32) : Mask :=
  match method with
  | .otsu => Otsu.mask (fun x => x.toUInt64.toNat) Float32.ofNat (1 / 0) Nat.toFloat p.height p.width p.get
  | .adaptive => adaptiveThreshold p block (c / u8Max)

end DropletVision
