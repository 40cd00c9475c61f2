import DropletVision.Numeric
import DropletVision.Error

/-!
# 輪郭の幾何

輪郭は境界の画素の中心を通る多角形（ROI 内の画素座標、x は右、y は下）。
面積とモーメントは多角形のものなので、一画素や幅一画素の線の面積は 0。

* `area` — 靴ひも公式。符号なし。三点未満なら 0。
* `boundingBox` — 端の画素を含む外接矩形。点が無ければすべて 0。
* `moments` — グリーンの定理による二次までのモーメント。向きによらず `m00` は非負の面積。
* `centroid`、`central` — 重心と正規化した中心モーメント。面積が 0 なら誤り。
* `fitEllipse` — 二次モーメントが等しい楕円（長軸・短軸は全長、角度は x 軸から）。

モーメントから先は係数の型 `α` について一度だけ書く（`momentsIn`、`Moments.centroid`、
`Moments.fitEllipse`）。動かすのは倍精度の場合で、同じ定義を有理数で読めば丸めの無い計算になる。

## 仕組み

座標の積和は 64 ビットの整数で取り、あふれたら 2^64 を法として折り返す。モーメントは倍精度で、
辺の順に足していく。
-/

namespace DropletVision

/-- 画素座標の点。 -/
structure Point where
  x : Int
  y : Int
  deriving BEq, Repr, Inhabited, DecidableEq

/-- 外接矩形（端の画素を含む）。 -/
structure BoundingBox where
  x : Int
  y : Int
  width : Nat
  height : Nat
  deriving BEq, Repr, Inhabited

namespace BoundingBox

/-- 矩形の中心。 -/
def center (b : BoundingBox) : Float × Float :=
  (Float.ofInt b.x + b.width.toFloat / 2, Float.ofInt b.y + b.height.toFloat / 2)

/-- 長辺と短辺（1 以上に切り上げ）の比。 -/
def aspectRatio (b : BoundingBox) : Float :=
  (max b.width b.height).toFloat / (max (min b.width b.height) 1).toFloat

end BoundingBox

/-- 二次までのモーメント（値は型 `α`）。 -/
structure Moments (α : Type) where
  m00 : α
  m10 : α
  m01 : α
  m20 : α
  m11 : α
  m02 : α
  deriving Repr, Inhabited

/-- グリーンの定理の辺ごとの和。`m00` は向き付きの面積の二倍、ほかは正規化する前の一次・二次の
モーメント。 -/
structure MomentSums (α : Type) where
  m00 : α
  m10 : α
  m01 : α
  m20 : α
  m11 : α
  m02 : α

/-- 倍精度の計算機イプシロン。 -/
def f64Epsilon : Float := 2.220446049250313e-16

/-- 楕円のあてはめが四則のほかに使う演算と定数。倍精度では `Float` の演算で、丸めの無い計算を
調べるときは同じ定義を有理数などの上で読む。 -/
class EllipseOps (α : Type) where
  /-- 絶対値。 -/
  abs : α → α
  /-- これより小さい面積は 0 とみなす。 -/
  epsilon : α
  /-- 平方根。 -/
  sqrt : α → α
  /-- `√(x² + y²)`。 -/
  hypot : α → α → α
  /-- 点 `(x, y)` の偏角 `atan2 y x`。 -/
  atan2 : α → α → α
  /-- 大きい方（片方が NaN ならもう片方）。 -/
  maxNum : α → α → α

instance : EllipseOps Float :=
  ⟨Float.abs, f64Epsilon, Float.sqrt, Float.hypot, Float.atan2, Float.maxNum⟩

/-- モーメントの等しい楕円。 -/
structure EllipseFit (α : Type) where
  center : α × α
  /-- 長軸の全長。 -/
  majorAxis : α
  /-- 短軸の全長。 -/
  minorAxis : α
  /-- 長軸の向き（ラジアン、x 軸から）。 -/
  angle : α
  deriving Repr, Inhabited

namespace Moments

variable {α : Type} [Sub α] [Mul α] [Div α] [LT α] [DecidableLT α] [EllipseOps α]

/-- 重心。面積が 0 なら誤り。 -/
def centroid (m : Moments α) : Outcome (α × α) :=
  if EllipseOps.abs m.m00 < EllipseOps.epsilon then .error .moments
  else .ok (m.m10 / m.m00, m.m01 / m.m00)

/-- 正規化した中心モーメント `(μ20, μ11, μ02)`。 -/
def central (m : Moments α) : Outcome (α × α × α) := do
  let (cx, cy) ← m.centroid
  pure (m.m20 / m.m00 - cx * cx, m.m11 / m.m00 - cx * cy, m.m02 / m.m00 - cy * cy)

/-- モーメントの等しい楕円。面積が無いか、二次の中心モーメントが正でなければ誤り。 -/
def fitEllipse [Add α] [OfNat α 0] [OfNat α 2] [OfNat α 4] [OfScientific α] (m : Moments α) :
    Outcome (EllipseFit α) := do
  let center ← m.centroid
  let (mu20, mu11, mu02) ← m.central
  let mean := (mu20 + mu02) / 2
  let diff := EllipseOps.hypot ((mu20 - mu02) / 2) mu11
  let lambdaMax := mean + diff
  let lambdaMin := EllipseOps.maxNum (mean - diff) 0
  if !(lambdaMax > 0) then throw .moments
  pure { center
         majorAxis := 4 * EllipseOps.sqrt lambdaMax
         minorAxis := 4 * EllipseOps.sqrt lambdaMin
         angle := 0.5 * EllipseOps.atan2 (2 * mu11) (mu20 - mu02) }

end Moments

/-- 一つの前景の領域の境界をたどる多角形。 -/
structure Contour where
  points : Array Point
  deriving BEq, Repr, Inhabited

/-- 64 ビット符号つき整数への折り返し。 -/
def wrapI64 (i : Int) : Int :=
  let m := i % Int.pow 2 64
  if m ≥ Int.pow 2 63 then m - Int.pow 2 64 else m

namespace Contour

/-- 点の数。 -/
def len (c : Contour) : Nat := c.points.size

/-- 隣り合う点の組（最後の点から最初の点へ戻る辺を含む）。 -/
def edges (c : Contour) : List (Point × Point) :=
  let n := c.points.size
  (List.range n).map (fun i => (c.points.getD i default, c.points.getD ((i + 1) % n) default))

/-- 靴ひも公式の和：辺ごとの外積 `a.x * b.y - b.x * a.y` の和（向き付きの面積の二倍）。 -/
def shoelace (c : Contour) : Int :=
  (c.edges.map (fun (a, b) => a.x * b.y - b.x * a.y)).foldl (· + ·) 0

/-- 多角形の面積（符号なし）。 -/
def area (c : Contour) : Float :=
  if c.points.size < 3 then 0
  else
    let twice := wrapI64 c.shoelace
    (Float.ofInt twice / 2).abs

/-- 外接矩形。 -/
def boundingBox (c : Contour) : BoundingBox :=
  match c.points.toList with
  | [] => ⟨0, 0, 0, 0⟩
  | p :: rest =>
    let (x0, x1, y0, y1) := rest.foldl (fun (x0, x1, y0, y1) q =>
      (min x0 q.x, max x1 q.x, min y0 q.y, max y1 q.y)) (p.x, p.x, p.y, p.y)
    ⟨x0, y0, (x1 - x0 + 1).toNat, (y1 - y0 + 1).toNat⟩

/-- 一辺の寄与を足す。係数は型 `α` で、整数の座標を `ofInt` で写して計算する。 -/
def addEdge {α : Type} [Add α] [Sub α] [Mul α] [OfNat α 2] (ofInt : Int → α) (m : MomentSums α)
    (e : Point × Point) : MomentSums α :=
  let x0 := ofInt e.1.x
  let y0 := ofInt e.1.y
  let x1 := ofInt e.2.x
  let y1 := ofInt e.2.y
  let a := x0 * y1 - x1 * y0
  { m00 := m.m00 + a
    m10 := m.m10 + a * (x0 + x1)
    m01 := m.m01 + a * (y0 + y1)
    m20 := m.m20 + a * (x0 * x0 + x0 * x1 + x1 * x1)
    m11 := m.m11 + a * (x0 * (2 * y0 + y1) + x1 * (y0 + 2 * y1))
    m02 := m.m02 + a * (y0 * y0 + y0 * y1 + y1 * y1) }

/-- グリーンの定理の辺ごとの和（係数は型 `α`）。 -/
def edgeSums {α : Type} [Add α] [Sub α] [Mul α] [OfNat α 0] [OfNat α 2] (ofInt : Int → α)
    (c : Contour) : MomentSums α :=
  c.edges.foldl (addEdge ofInt) ⟨0, 0, 0, 0, 0, 0⟩

/-- グリーンの定理によるモーメント（係数は型 `α`）。三点より少なければ 0。辺ごとの和の向きを
そろえ、`m00 / 2`, `m10 / 6`, `m01 / 6`, `m20 / 12`, `m11 / 24`, `m02 / 12` に正規化する。 -/
def momentsIn {α : Type} [Add α] [Sub α] [Mul α] [Div α] [Neg α] [LT α] [DecidableLT α]
    [OfNat α 0] [OfNat α 1] [OfNat α 2] [OfNat α 6] [OfNat α 12] [OfNat α 24]
    (ofInt : Int → α) (c : Contour) : Moments α :=
  if c.points.size < 3 then ⟨0, 0, 0, 0, 0, 0⟩
  else
    let m := c.edgeSums ofInt
    let sign : α := if m.m00 < 0 then -1 else 1
    { m00 := sign * m.m00 / 2
      m10 := sign * m.m10 / 6
      m01 := sign * m.m01 / 6
      m20 := sign * m.m20 / 12
      m11 := sign * m.m11 / 24
      m02 := sign * m.m02 / 12 }

/-- グリーンの定理によるモーメント。辺ごとの和を倍精度で取る。 -/
def moments (c : Contour) : Moments Float := c.momentsIn Float.ofInt

/-- 重心。 -/
def centroid (c : Contour) : Outcome (Float × Float) := c.moments.centroid

/-- モーメントの等しい楕円。面積が無ければ誤り。 -/
def fitEllipse (c : Contour) : Outcome (EllipseFit Float) := c.moments.fitEllipse

end Contour

end DropletVision
