import DropletVision.Mask
import DropletVision.Config.Basic

/-!
# 形態演算

楕円形の構造要素による収縮・膨張と、その組み合わせの開閉。

* 構造要素は中心からの `(行, 列)` のずれの列。大きさ `s`（1 以上に切り上げ）、半径 `r = ⌊s/2⌋` で、
  行 `dy = i - r`（`i = 0, …, s-1`）には幅 `dx = round(⌊s/2⌋ · √((r² - dy²)/r²))` の区間
  `max(r - dx, 0) ≤ j < min(r + dx + 1, s)` の列 `j - r` が入る。大きさ 3 なら十字。
* 収縮 — 立っている画素のうち、構造要素の下の画像内の画素がすべて立っているものだけを残す
  （画像の外は縁を削らない）。
* 膨張 — 構造要素の下の画像内の画素のどれかが立っていれば立てる。
* 開 = 収縮してから膨張、閉 = 膨張してから収縮、両方 = 開いてから閉じる。
-/

namespace DropletVision

/-- 楕円形の構造要素。 -/
structure StructuringElement where
  size : Nat
  offsets : List (Int × Int)

namespace StructuringElement

/-- 大きさ `size` の楕円形の構造要素の行 `dy` の半幅 `round(⌊size/2⌋ · √((r² - dy²)/r²))`
（`r = ⌊size/2⌋`、倍精度で計算）。 -/
def rowHalfWidth (size : Nat) (dy : Int) : Nat :=
  let r : Int := size / 2
  let c : Float := (size / 2).toFloat
  let invR2 : Float := if r > 0 then 1 / (r * r).toNat.toFloat else 0
  let q := (r * r - dy * dy)
  let qf : Float := if q < 0 then -(q.natAbs.toFloat) else q.toNat.toFloat
  (c * (qf * invR2).sqrt).round.toUInt64.toNat

/-- 大きさ `size` の楕円形の構造要素。 -/
def ellipse (size : Nat) : StructuringElement :=
  let size := max size 1
  let r : Int := size / 2
  let rowOffsets (i : Nat) : List (Int × Int) :=
    let dy : Int := i - r
    let dx : Int := rowHalfWidth size dy
    let j1 := max (r - dx) 0
    let j2 := min (r + dx + 1) size
    (List.range (j2 - j1).toNat).map (fun (k : Nat) => (dy, j1 + (k : Int) - r))
  ⟨size, (List.range size).flatMap rowOffsets⟩

/-- 要素の数。 -/
def len (e : StructuringElement) : Nat := e.offsets.length

end StructuringElement

/-- `(row, col)` から `(dr, dc)` ずれた画素が立っているか。画像の外なら `outside`。 -/
@[inline] def Mask.shiftedGet (m : Mask) (row col : Nat) (dr dc : Int) (outside : Bool) : Bool :=
  let r := (row : Int) + dr
  let c := (col : Int) + dc
  if r < 0 || c < 0 || r ≥ m.height || c ≥ m.width then outside
  else
    let i := r.toNat * m.width + c.toNat
    if h : i < m.bits.size then m.bits[i] != 0 else false

/-- 構造要素の届く距離（ずれの絶対値の最大）。 -/
def StructuringElement.reach (e : StructuringElement) : Nat :=
  e.offsets.foldl (fun m (dr, dc) => max m (max dr.natAbs dc.natAbs)) 0

/-- 幅 `w` の平面での行優先の番号のずれに `base` を足したもの（内側の画素では非負）。 -/
def StructuringElement.flatShifts (e : StructuringElement) (w base : Nat) : List Nat :=
  e.offsets.map (fun (dr, dc) => ((base : Int) + dr * w + dc).toNat)

/-- 番号 `i` から `shift - base` ずれた画素のどれかが立っているか。 -/
def anyShifted (bits : ByteArray) (i base : Nat) : List Nat → Bool
  | [] => false
  | s :: rest =>
    (let j := i + s - base
     if h : j < bits.size then bits[j] != 0 else false) || anyShifted bits i base rest

/-- 番号 `i` から `shift - base` ずれた画素がすべて立っているか。 -/
def allShifted (bits : ByteArray) (i base : Nat) : List Nat → Bool
  | [] => true
  | s :: rest =>
    (let j := i + s - base
     if h : j < bits.size then bits[j] != 0 else false) && allShifted bits i base rest

/-- 構造要素がどの方向にも画像からはみ出さない画素か。 -/
def Mask.isInner (m : Mask) (reach row col : Nat) : Bool :=
  reach ≤ row && row + reach < m.height && reach ≤ col && col + reach < m.width

/-- 収縮。内側の画素は行優先の番号のずれで、縁の画素は一つずつ位置を確かめて調べる。 -/
def erode (m : Mask) (e : StructuringElement) : Mask :=
  let reach := e.reach
  let base := reach * m.width + reach
  let shifts := e.flatShifts m.width base
  Mask.ofFn m.height m.width (fun row col =>
    m.get row col &&
      if m.isInner reach row col then allShifted m.bits (row * m.width + col) base shifts
      else e.offsets.all (fun (dr, dc) => m.shiftedGet row col dr dc true))

/-- 膨張。内側の画素は行優先の番号のずれで、縁の画素は一つずつ位置を確かめて調べる。 -/
def dilate (m : Mask) (e : StructuringElement) : Mask :=
  let reach := e.reach
  let base := reach * m.width + reach
  let shifts := e.flatShifts m.width base
  Mask.ofFn m.height m.width (fun row col =>
    if m.isInner reach row col then anyShifted m.bits (row * m.width + col) base shifts
    else e.offsets.any (fun (dr, dc) => m.shiftedGet row col dr dc false))

/-- 開：収縮してから膨張。 -/
def opening (m : Mask) (e : StructuringElement) : Mask := dilate (erode m e) e

/-- 閉：膨張してから収縮。 -/
def closing (m : Mask) (e : StructuringElement) : Mask := erode (dilate m e) e

/-- 設定の演算を施す。 -/
def applyMorphology (m : Mask) (e : StructuringElement) (op : MorphOperation) : Mask :=
  match op with
  | .opening => opening m e
  | .closing => closing m e
  | .both => closing (opening m e) e

end DropletVision
