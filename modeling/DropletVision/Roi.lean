import DropletVision.Frame

/-!
# 関心領域

センサー上の長方形 `x, y, width, height`（各 32 ビット符号なし）。

* `ofSigned` — 符号つきの四つ組から作る。幅・高さが正、位置が非負、すべて 32 ビットに収まること。
  この順に調べ、最初に破れた規則を理由にする。
* `validateForSensor` — 幅・高さが正で、右端と下端がセンサーの内側にあること。
* `extract` — フレームから切り出す。三次元目以降はそのまま残す。
-/

namespace DropletVision

/-- 関心領域。 -/
structure Roi where
  x : Nat
  y : Nat
  width : Nat
  height : Nat
  deriving BEq, Repr, Inhabited, DecidableEq

namespace Roi

/-- 32 ビット符号なしの上限。 -/
def u32Limit : Nat := Nat.pow 2 32

/-- 理由つきの誤り。 -/
def invalid (x y w h : Int) (reason : String) : DetectorError := .invalidRoi x y w h reason

/-- 符号つきの四つ組から作る。 -/
def ofSigned (x y w h : Int) : Outcome Roi :=
  if w ≤ 0 || h ≤ 0 then .error (invalid x y w h "width and height must be positive")
  else if x < 0 || y < 0 then .error (invalid x y w h "position must be non-negative")
  else if x < u32Limit && y < u32Limit && w < u32Limit && h < u32Limit then
    .ok ⟨x.toNat, y.toNat, w.toNat, h.toNat⟩
  else .error (invalid x y w h "value out of range")

/-- 幅と高さが正であること。 -/
def validate (r : Roi) : Outcome Unit :=
  if r.width == 0 || r.height == 0 then
    .error (invalid r.x r.y r.width r.height "width and height must be positive")
  else .ok ()

/-- センサーの内側にあること。 -/
def validateForSensor (r : Roi) (sensorWidth sensorHeight : Nat) : Outcome Unit := do
  r.validate
  if r.x + r.width > sensorWidth || r.y + r.height > sensorHeight then
    .error (invalid r.x r.y r.width r.height s!"exceeds sensor bounds {sensorWidth}x{sensorHeight}")
  else .ok ()

/-- フレームから領域を切り出す。 -/
def extract (r : Roi) (f : Frame) : Outcome Frame := do
  match f.shape with
  | h :: w :: rest =>
    r.validateForSensor w h
    let inner := rest.foldl (· * ·) 1
    let rowBytes := w * inner
    let out := Id.run do
      let mut a := ByteArray.emptyWithCapacity (r.height * r.width * inner)
      for row in [r.y:r.y + r.height] do
        a := f.data.copySlice (row * rowBytes + r.x * inner) a a.size (r.width * inner)
      return a
    .ok { f with shape := r.height :: r.width :: rest, data := out }
  | s => .error (.invalidFrame s!"cannot crop frame with shape {Frame.showShape s}")

end Roi

end DropletVision
