import DropletVision.Contour.Geometry
import DropletVision.Config.Basic
import DropletVision.Plane
import DropletVision.Binarize.Threshold

/-!
# 動かない物の除去

流れ（+x の向き）に沿って動いていない輪郭（流路に付いたごみなど）を落とす。規則は二つ。

* 重心の比較 — 前の平面の重心の列と比べる。前の重心が無ければ（冷えた状態）すべて通す。
  ある前の重心から、流れを横切る向きに `maxPerpDrift` 未満、流れに沿って `minMotion` を超えて
  下流にあれば残す。`acceptEntering` なら、縦横とも `2 · maxPerpDrift` 以内に前の重心が一つも
  無い輪郭も残す。
* 平面の差 — 重心の画素の明るさが前の平面から `frameDiffThreshold / 255` を超えて変わった輪郭を残す。
  最初の平面や形の変わった直後はすべて通す。与えた平面はいつも次の比較の「前」になる。

重心が求まらない輪郭はどちらの規則でも落とす。
-/

namespace DropletVision

/-- 前の平面で報告した重心。 -/
abbrev CentroidHistory := List (Float × Float)

/-- 比べる相手があるか。 -/
inductive RejectorState where
  | cold
  | warm
  deriving BEq, Repr

/-- 状態の名前。 -/
def RejectorState.label : RejectorState → String
  | .cold => "Cold"
  | .warm => "Warm"

/-- 動かない物の除去。 -/
structure ArtifactRejector where
  minMotion : Float
  maxPerpDrift : Float
  acceptEntering : Bool
  useFrameDiff : Bool
  /-- `[0, 1]` の明るさの単位。 -/
  frameDiffThreshold : Float32
  previousFrame : Option Plane

namespace ArtifactRejector

/-- 設定から作る（前の平面なし）。 -/
def ofConfig (c : DetectionConfig) : ArtifactRejector :=
  ⟨c.minMotion, c.maxPerpDrift, c.acceptEntering, c.useFrameDiff, c.frameDiffThreshold / u8Max, none⟩

/-- 新しい設定を取り込む。前の平面は保つ。 -/
def applyConfig (r : ArtifactRejector) (c : DetectionConfig) : ArtifactRejector :=
  { ofConfig c with previousFrame := r.previousFrame }

/-- 前の平面を忘れる。 -/
def reset (r : ArtifactRejector) : ArtifactRejector := { r with previousFrame := none }

/-- 重心の列からの状態。 -/
def state (previous : CentroidHistory) : RejectorState :=
  if previous.isEmpty then .cold else .warm

/-- ある前の重心から下流へ動いたか。 -/
def movedDownstream (r : ArtifactRejector) (c : Float × Float) (previous : CentroidHistory) : Bool :=
  previous.any (fun (px, py) => (c.2 - py).abs < r.maxPerpDrift && c.1 - px > r.minMotion)

/-- 近くに前の重心が一つも無いか。 -/
def isUntracked (r : ArtifactRejector) (c : Float × Float) (previous : CentroidHistory) : Bool :=
  let reach := 2 * r.maxPerpDrift
  !previous.any (fun (px, py) => (c.1 - px).abs < reach && (c.2 - py).abs < reach)

/-- 重心の比較で選ぶ。 -/
def filter (r : ArtifactRejector) (cs : List Contour) (previous : CentroidHistory) : List Contour :=
  if state previous == .cold then cs
  else
    cs.filter (fun c =>
      match c.centroid with
      | .ok cen => r.movedDownstream cen previous || (r.acceptEntering && r.isUntracked cen previous)
      | .error _ => false)

/-- 平面の差で選ぶ。与えた平面を次の「前」にする。 -/
def filterByFrameDifference (r : ArtifactRejector) (cs : List Contour) (gray : Plane) :
    ArtifactRejector × List Contour :=
  let r' := { r with previousFrame := some gray }
  match r.previousFrame with
  | some prev =>
    if !prev.sameShape gray then (r', cs)
    else
      (r', cs.filter (fun c =>
        match c.centroid with
        | .ok (cx, cy) =>
          if cx < 0 || cy < 0 then false
          else
            let col := Float.toNatSat cx
            let row := Float.toNatSat cy
            row < gray.height && col < gray.width &&
              (gray.get row col - prev.get row col).abs > r.frameDiffThreshold
        | .error _ => false))
  | none => (r', cs)

end ArtifactRejector

end DropletVision
