import DropletVision.Contour.Geometry
import DropletVision.Config.Basic
import DropletVision.Json.Value

/-!
# 液滴の計測

面積が 0 でない輪郭ごとに、面積・外接矩形・重心・長軸・等価直径を求める。

* 長さは半径の補正 `radiusOffsetPx` を施した画素の値で、マイクロメートルの値はそれに
  `umPerPx` を掛けたもの。面積と重心は補正しない。
* 長軸は、点が `minContourPoints` 以上あれば当てはめた楕円の長軸（当てはめに失敗すれば
  外接矩形の長辺）、少なければ外接矩形の長辺。
* 等価直径は同じ面積の円の直径 `√(4A/π)`。補正は半径 `d/2 + offset` を 0 以上に切り上げて倍にする。
* 重心が求まらない輪郭は飛ばす。
-/

namespace DropletVision

/-- 一つの液滴の計測値。 -/
structure DropletMetrics where
  areaPx : Float
  areaUm2 : Float
  boundingBox : BoundingBox
  centroid : Float × Float
  aspectRatio : Float
  majorAxisPx : Float
  majorAxisUm : Float
  equivalentDiameterPx : Float
  equivalentDiameterUm : Float
  deriving Repr, Inhabited

namespace DropletMetrics

/-- 等価半径（画素）。 -/
def radiusPx (m : DropletMetrics) : Float := m.equivalentDiameterPx / 2

/-- 等価半径（マイクロメートル）。 -/
def radiusUm (m : DropletMetrics) : Float := m.equivalentDiameterUm / 2

/-- 外接矩形の短辺。流路を横切る向きの液滴の高さ。 -/
def minorExtentPx (m : DropletMetrics) : Float :=
  (min m.boundingBox.width m.boundingBox.height).toFloat

/-- JSON の値（欄の宣言の順）。 -/
def toJson (m : DropletMetrics) : Json :=
  let b := m.boundingBox
  .obj [("area_px", .ofFloat m.areaPx), ("area_um2", .ofFloat m.areaUm2),
    ("bounding_box", .obj [("x", .ofInt b.x), ("y", .ofInt b.y), ("width", .ofNat b.width),
      ("height", .ofNat b.height)]),
    ("centroid", .arr [.ofFloat m.centroid.1, .ofFloat m.centroid.2]),
    ("aspect_ratio", .ofFloat m.aspectRatio), ("major_axis_px", .ofFloat m.majorAxisPx),
    ("major_axis_um", .ofFloat m.majorAxisUm),
    ("equivalent_diameter_px", .ofFloat m.equivalentDiameterPx),
    ("equivalent_diameter_um", .ofFloat m.equivalentDiameterUm)]

end DropletMetrics

/-- 円周率（倍精度）。 -/
def piF64 : Float := 3.141592653589793

/-- 面積 `area` の円の直径。 -/
def equivalentDiameter (area : Float) : Float := (4 * area / piF64).sqrt

/-- 直径に半径の補正を施す。半径は 0 以上に切り上げる（係数は型 `α`、倍精度では `Float.maxNum`）。 -/
def correctDiameter {α : Type} [Add α] [Mul α] [Div α] [OfNat α 0] [OfNat α 2] [EllipseOps α]
    (diameter offset : α) : α :=
  EllipseOps.maxNum (diameter / 2 + offset) 0 * 2

/-- 計測の設定。 -/
structure Measurer where
  minContourPoints : Nat

namespace Measurer

/-- 設定から作る。 -/
def ofConfig (c : DetectionConfig) : Measurer := ⟨c.minContourPoints⟩

/-- 一つの輪郭を計測する。面積が 0 なら `none`。 -/
def measureOne (ms : Measurer) (c : Contour) (k : Calibration) : Outcome (Option DropletMetrics) := do
  let area := c.area
  if area == 0 then return none
  let bbox := c.boundingBox
  let centroid ← c.centroid
  let bboxMajor := (max bbox.width bbox.height).toFloat
  let majorRaw :=
    if c.len ≥ ms.minContourPoints then
      match c.fitEllipse with
      | .ok e => e.majorAxis
      | .error _ => bboxMajor
    else bboxMajor
  let offset := k.radiusOffsetPx
  let scale := k.umPerPx
  let majorPx := correctDiameter majorRaw offset
  let eqPx := correctDiameter (equivalentDiameter area) offset
  pure (some { areaPx := area, areaUm2 := area * scale * scale, boundingBox := bbox, centroid,
               aspectRatio := bbox.aspectRatio, majorAxisPx := majorPx,
               majorAxisUm := majorPx * scale, equivalentDiameterPx := eqPx,
               equivalentDiameterUm := eqPx * scale })

/-- 計測できる輪郭の計測値（入力の順）。 -/
def measure (ms : Measurer) (cs : List Contour) (k : Calibration) : List DropletMetrics :=
  cs.filterMap (fun c =>
    match ms.measureOne c k with
    | .ok m => m
    | .error _ => none)

end Measurer

end DropletVision
