import DropletVision.Json.Raster
import DropletVision.Contour.Trace

/-!
# 輪郭と成分の JSON 表現

* 点は `[x, y]`（どちらも 32 ビットの符号つき整数）、輪郭は点の配列。
* 成分のラベル付けは、行ごとのラベルの配列 `labels` と、成分ごとの
  `label`、`area`、`bbox`（`[最小行, 最大行, 最小列, 最大列]`）、`first`（`[行, 列]`）の配列 `components`。
* 輪郭の形の説明は、点の数・面積・外接矩形 `[x, y, 幅, 高さ]` とその中心・縦横比・
  六つのモーメント・重心・中心モーメント・楕円。重心から先は誤りになりうるので、
  誤りの書き方は呼ぶ側が与える。
* 倍精度の数は `Json.ofNumber`（非有限の値は文字列）で書く。
-/

namespace DropletVision

open Json

/-- 倍精度の二つ組。 -/
def Json.ofPair (p : Float × Float) : Json := .arr [Json.ofNumber p.1, Json.ofNumber p.2]

/-- 32 ビットの符号つき整数。 -/
def Json.readI32 (what : String) (j : Json) : Read Int :=
  match j with
  | .num (.nat _) | .num (.neg _) => do
    let i ← readInt j
    if i < -Int.pow 2 31 || i ≥ Int.pow 2 31 then .error s!"{what} out of i32 range" else pure i
  | _ => .error s!"{what}: not an integer"

/-- 点を読む。 -/
def Point.ofJson (j : Json) : Read Point := do
  match ← readArray j with
  | [x, y] => pure ⟨← readI32 "x" x, ← readI32 "y" y⟩
  | _ => .error "bad point"

/-- 点の JSON の値。 -/
def Point.toJson (p : Point) : Json := .arr [.ofInt p.x, .ofInt p.y]

/-- 点の配列を読む。 -/
def Json.readPoints (j : Json) : Read (Array Point) := do
  pure (← (← readArray j).mapM Point.ofJson).toArray

/-- 点の配列の JSON の値。 -/
def Json.ofPoints (ps : Array Point) : Json := .arr (ps.toList.map Point.toJson)

/-- 輪郭の列の JSON の値。 -/
def Contour.listToJson (cs : List Contour) : Json := .arr (cs.map (fun c => Json.ofPoints c.points))

/-- 輪郭の列を読む。 -/
def Contour.readList (j : Json) : Read (List Contour) := do
  (← readArray j).mapM (fun c => do pure ⟨← readPoints c⟩)

/-- ラベル付けの JSON の値。 -/
def Labeling.toJson (l : Labeling) : Json :=
  let nums (xs : List Nat) : Json := .arr (xs.map Json.ofNat)
  let labels := (List.range l.height).map (fun r => nums ((List.range l.width).map (l.labelAt r)))
  let comps := l.components.toList.map (fun c =>
    let (a, b, x, y) := c.bbox
    .obj [("label", .ofNat c.label), ("area", .ofNat c.area), ("bbox", nums [a, b, x, y]),
      ("first", nums [c.first.1, c.first.2])])
  .obj [("labels", .arr labels), ("components", .arr comps)]

/-- 楕円の JSON の値。 -/
def EllipseFit.toJson (e : EllipseFit Float) : Json :=
  .obj [("center", Json.ofPair e.center), ("major_axis", Json.ofNumber e.majorAxis),
    ("minor_axis", Json.ofNumber e.minorAxis), ("angle", Json.ofNumber e.angle)]

/-- 輪郭の形の説明。`err` は誤りの書き方。 -/
def Contour.describe (c : Contour) (err : DetectorError → Json) : Json :=
  let b := c.boundingBox
  let m := c.moments
  let orErr {α : Type} (o : Outcome α) (f : α → Json) : Json :=
    match o with
    | .ok a => f a
    | .error e => err e
  .obj [("len", .ofNat c.len), ("area", Json.ofNumber c.area),
    ("bbox", .arr [.ofInt b.x, .ofInt b.y, .ofNat b.width, .ofNat b.height]),
    ("bbox_center", Json.ofPair b.center), ("aspect_ratio", Json.ofNumber b.aspectRatio),
    ("moments", .arr ([m.m00, m.m10, m.m01, m.m20, m.m11, m.m02].map Json.ofNumber)),
    ("centroid", orErr m.centroid Json.ofPair),
    ("central", orErr m.central (fun (a, b, c) => .arr [Json.ofNumber a, Json.ofNumber b, Json.ofNumber c])),
    ("ellipse", orErr c.fitEllipse EllipseFit.toJson)]

end DropletVision
