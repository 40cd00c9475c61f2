import DropletVision.Error
import DropletVision.Plane

/-!
# フレーム

カメラから来る 8 ビットの画像。形（各次元の長さの列）と行優先のバイト列を持つ。
白黒は `[h, w]`、色つきは `[h, w, c]`。

* `validate` — 二次元以上で、画素が一つ以上あること。
* `intensity` — 明るさの平面（0 から 1）。色つきは輝度の重み（0.299, 0.587, 0.114）で混ぜる。
  四チャネルは最初の三つだけを使い、それ以外のチャネル数は平均をとる。
-/

namespace DropletVision

/-- 8 ビットのフレーム。`data` の長さは `shape` の積。 -/
structure Frame where
  shape : List Nat
  data : ByteArray
  /-- 取り込んだ順の番号。 -/
  index : Nat := 0
  /-- 取り込んだ時刻（マイクロ秒）。 -/
  timestampUs : Option Nat := none

namespace Frame

/-- 形の表示（`[3, 4]`）。 -/
def showShape (shape : List Nat) : String :=
  "[" ++ ", ".intercalate (shape.map toString) ++ "]"

/-- 行数（最初の次元、無ければ 0）。 -/
def height (f : Frame) : Nat := f.shape.head?.getD 0

/-- 列数（二番目の次元、無ければ 0）。 -/
def width (f : Frame) : Nat := (f.shape[1]?).getD 0

/-- 白黒のフレーム。 -/
def mono (height width : Nat) (data : ByteArray) : Frame := ⟨[height, width], data, 0, none⟩

/-- 行優先で `i` 番目のバイト。 -/
def byte (f : Frame) (i : Nat) : UInt8 := if h : i < f.data.size then f.data[i] else 0

/-- 二次元以上で空でないこと。 -/
def validate (f : Frame) : Outcome Unit :=
  if f.shape.length < 2 then
    .error (.invalidFrame s!"expected at least 2 dimensions, got shape {showShape f.shape}")
  else if f.shape.foldl (· * ·) 1 == 0 then
    .error (.invalidFrame s!"empty frame with shape {showShape f.shape}")
  else .ok ()

/-- 輝度の重み（赤）。 -/
def lumaRed : Float32 := 0.299
/-- 輝度の重み（緑）。 -/
def lumaGreen : Float32 := 0.587
/-- 輝度の重み（青）。 -/
def lumaBlue : Float32 := 0.114

/-- 一画素の `c` 個のチャネル値から明るさ（0 から 255）を作る。 -/
def pixelLevel (px : Nat → Float32) (c : Nat) : Float32 :=
  if c == 1 then px 0
  else if c == 3 || c == 4 then lumaRed * px 0 + lumaGreen * px 1 + lumaBlue * px 2
  else (List.range c).foldl (fun s k => s + px k) 0 / (UInt64.toFloat32 c.toUInt64)

/-- 明るさの平面。各値は 0 から 1。 -/
def intensity (f : Frame) : Outcome Plane := do
  f.validate
  match f.shape with
  | [h, w] =>
    .ok (Plane.ofFn h w (fun r c => (f.byte (r * w + c)).toFloat32 / 255))
  | [h, w, ch] =>
    .ok (Plane.ofFn h w (fun r c =>
      pixelLevel (fun k => (f.byte ((r * w + c) * ch + k)).toFloat32) ch / 255))
  | s => .error (.invalidFrame
      s!"unsupported frame with {s.length} dimensions (shape {showShape s})")

end Frame

end DropletVision
