import DropletVision.Plane
import DropletVision.Numeric

/-!
# ガウスぼかし

奇数の大きさ `k` の核で、行方向・列方向の順に一次元のたたみ込みをする。

* 標準偏差は `0.3 · ((k - 1) / 2 - 1) + 0.8`。
* 核の値は `exp(-x² / 2σ²)`（`x = -r, …, r`）を和で割ったもの。
* 画像の外は端の画素を繰り返したものとみなす。
* 半径 0（`k ≤ 1`）なら何もしない。

## 仕組み

すべて単精度で計算し、和は核の並びの順に足す。和の初期値は負の 0
（足す値がすべて負の 0 なら結果も負の 0）。行方向の結果は一度平面に置き、それを列方向に
たたみ込む。

## 数の型

標準偏差、核とたたみ込み（`Blur.sigmaFor`、`Blur.kernel`、`Blur.convolve`）は値の型 `α` について
一度だけ書き、指数関数と自然数からの変換は引数で渡す。画素は `h × w` の添字から値への関数として渡す。
動かすのは単精度で、たたみ込んだ結果を平面に置く場合（`gaussianBlur`）。同じ定義を実数で読めば、
丸めの無い計算になる。
-/

namespace DropletVision

namespace Blur

/-- 端の画素を繰り返すときの添字：`i` を `[0, n - 1]` に収める。 -/
def clampIndex (i : Int) (n : Nat) : Nat := (max 0 (min i ((n : Int) - 1))).toNat

/-- たたみ込みの向き。 -/
inductive Pass where
  | rows
  | cols

variable {α : Type} [Add α] [Sub α] [Mul α] [Div α] [Neg α] [OfNat α 0] [OfNat α 1] [OfNat α 2]
  [OfScientific α]

/-- 核の大きさから決まる標準偏差。 -/
def sigmaFor (ofNat : Nat → α) (k : Nat) : α :=
  0.3 * ((ofNat k - 1) * 0.5 - 1) + 0.8

/-- 半径 `r` の正規化したガウス核。 -/
def kernel (exp : α → α) (ofNat : Nat → α) (sigma : α) (r : Nat) : List α :=
  let s2 := 2 * sigma * sigma
  let raw := (List.range (2 * r + 1)).map (fun i =>
    let x := ofNat i - ofNat r
    exp (-x * x / s2))
  let total := negZeroSum raw
  raw.map (· / total)

/-- 核の `i` 番目の重みを、中心から `i - r` 離れた値 `tap (i - r)` に掛けて、核の順に足す
（`r` は核の半径）。 -/
def weigh (kern : List α) (tap : Int → α) : α :=
  negZeroSum (kern.mapIdx fun i kv => tap ((i : Int) - (kern.length / 2 : Nat)) * kv)

/-- `h × w` の画素 `x` の一次元のたたみ込み。行方向は同じ行の左右の、列方向は同じ列の上下の画素に
重みを掛けて足す。外は端の画素を繰り返す。 -/
def convolve (h w : Nat) (x : Nat → Nat → α) (kern : List α) : Pass → Nat → Nat → α
  | .rows => fun r c => weigh kern fun d => x r (clampIndex (c + d) w)
  | .cols => fun r c => weigh kern fun d => x (clampIndex (r + d) h) c

end Blur

/-- 核の大きさから決まる単精度の標準偏差。 -/
def sigmaForKernel (k : Nat) : Float32 := Blur.sigmaFor Float32.ofNat k

/-- 大きさ `k` の核でぼかす。半径が 0 なら平面そのものを返し、そうでなければ行方向の結果を
平面に置いてから列方向にたたみ込む。 -/
def gaussianBlur (p : Plane) (k : Nat) : Plane :=
  if k / 2 = 0 then p
  else
    let kern := Blur.kernel Float32.exp Float32.ofNat (sigmaForKernel k) (k / 2)
    let rowPass := Plane.ofFn p.height p.width (Blur.convolve p.height p.width p.get kern .rows)
    Plane.ofFn p.height p.width (Blur.convolve p.height p.width rowPass.get kern .cols)

end DropletVision
