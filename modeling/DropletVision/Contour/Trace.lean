import DropletVision.Contour.Components
import DropletVision.Contour.Geometry

/-!
# 外側の境界の追跡

各成分の外側の境界を、行優先で最初の画素から時計回りにたどって多角形にする。
穴はたどらない。別の成分の穴の中にある成分は、それ自身の輪郭として数える。

## 仕組み

近傍の向きは `(1,0), (1,1), (0,1), (-1,1), (-1,0), (-1,-1), (0,-1), (1,-1)` の順（画面上で時計回り）。

* 出発点の西から時計回りに最初に見つかる成分の画素を `second` とする。無ければ出発点だけ。
* 現在の点から、来た点の向きの一つ反時計回りから反時計回りに見て、最初の成分の画素へ進む。
  現在の点が `second` で次の点が出発点になったところで止める。
* 直線（水平・垂直・斜め）の途中の点は落とし、端点だけを残す。

## 停止性

追跡は `(現在の点, 来た向き)` の組が 8 × 画素数 を超えて現れないので、その回数を燃料にする。
-/

namespace DropletVision

/-- 近傍への向き `(dx, dy)`。番号が増えると時計回り。 -/
def directions : Array (Int × Int) :=
  #[(1, 0), (1, 1), (0, 1), (-1, 1), (-1, 0), (-1, -1), (0, -1), (1, -1)]

/-- 西の番号。 -/
def west : Nat := 4

/-- `p` から `q` への向きの番号。隣でなければ西。 -/
def direction (p q : Point) : Nat :=
  ((directions.toList.findIdx? (· == (q.x - p.x, q.y - p.y)))).getD west

/-- 向き `d` へ一つ進んだ点。 -/
def stepPoint (p : Point) (d : Nat) : Point :=
  let (dx, dy) := directions.getD (d % 8) (0, 0)
  ⟨p.x + dx, p.y + dy⟩

/-- 点が成分 `label` の画素か。 -/
def inComponent (l : Labeling) (label : Nat) (p : Point) : Bool :=
  p.x ≥ 0 && p.y ≥ 0 && p.x < l.width && p.y < l.height && l.labelAt p.y.toNat p.x.toNat == label

/-- 境界をたどる繰り返し。 -/
def traceLoop (l : Labeling) (label : Nat) (start second : Point) :
    Nat → Point → Point → Array Point → Array Point
  | 0, _, _, acc => acc
  | fuel + 1, prev, current, acc =>
    let acc := acc.push current
    let back := direction current prev
    let next := ((List.range 8).map (fun k => stepPoint current (back + 8 - (k + 1))))
      |>.find? (inComponent l label) |>.getD current
    if next == start && current == second then acc
    else traceLoop l label start second fuel current next acc

/-- 成分 `label` の外側の境界を、行優先で最初の画素 `start` からたどる。 -/
def traceBorder (l : Labeling) (label : Nat) (start : Point) : Array Point :=
  let firstNeighbour := ((List.range 8).map (fun k => stepPoint start (west + k)))
    |>.find? (inComponent l label)
  match firstNeighbour with
  | none => #[start]
  | some second => traceLoop l label start second (8 * l.height * l.width + 8) second start #[]

/-- 直線の途中の点を落とす。 -/
def compressChain (points : Array Point) : Array Point :=
  let n := points.size
  if n ≤ 2 then points
  else
    let at_ (i : Nat) : Point := points.getD i default
    ((List.range n).filter (fun i =>
      direction (at_ ((i + n - 1) % n)) (at_ i) != direction (at_ i) (at_ ((i + 1) % n)))).toArray.map at_

/-- すべての成分の外側の輪郭。成分の最初の画素の行優先の順。 -/
def findExternalContours (m : Mask) : List Contour :=
  let l := connectedComponents m
  l.components.toList.map (fun c =>
    let start : Point := ⟨c.first.2, c.first.1⟩
    ⟨compressChain (traceBorder l c.label start)⟩)

end DropletVision
