import DropletVision.Contour.Trace
import DropletVision.Config.Basic

/-!
# 候補の輪郭の選別

二値の平面の外側の輪郭のうち、面積・縦横比・流路の帯の条件をすべて満たすものを残す。

* 面積が `[minArea, maxArea]` の外なら落とす。
* 外接矩形の縦横比が `[minAspectRatio, maxAspectRatio]` の外なら落とす。
* 流路の帯 `(yMin, yMax)` があれば、外接矩形の中心の行が `[yMin - margin, yMax + margin]`
  の外なら落とす。
-/

namespace DropletVision

/-- 輪郭の選別の条件。 -/
structure Segmenter where
  minArea : Float
  maxArea : Float
  minAspectRatio : Float
  maxAspectRatio : Float
  bandMargin : Float

namespace Segmenter

/-- 設定から作る。 -/
def ofConfig (c : DetectionConfig) : Segmenter :=
  ⟨c.minArea, c.maxArea, c.minAspectRatio, c.maxAspectRatio, c.channelBandMargin.toFloat⟩

/-- 輪郭が条件を満たすか。 -/
def accepts (s : Segmenter) (c : Contour) (band : Option (Nat × Nat)) : Bool :=
  let area := c.area
  if area < s.minArea || area > s.maxArea then false
  else
    let bbox := c.boundingBox
    let aspect := bbox.aspectRatio
    if aspect < s.minAspectRatio || aspect > s.maxAspectRatio then false
    else
      match band with
      | some (yMin, yMax) =>
        let cy := bbox.center.2
        !(cy < yMin.toFloat - s.bandMargin || cy > yMax.toFloat + s.bandMargin)
      | none => true

/-- 条件を満たす外側の輪郭。 -/
def detect (s : Segmenter) (m : Mask) (band : Option (Nat × Nat)) : List Contour :=
  (findExternalContours m).filter (s.accepts · band)

end Segmenter

end DropletVision
