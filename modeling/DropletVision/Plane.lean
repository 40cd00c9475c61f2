/-!
# 単精度の平面

明るさ・差分・ぼかしの結果など、画素ごとに単精度の値を一つ持つ二次元の平面。

値は行優先で倍精度の配列に入れて持つ。入れる値はすべて単精度で表せる値であり、
読むときに単精度へ戻す（`get`）。計算はすべて単精度の演算で行う。
-/

namespace DropletVision

/-- 単精度の値の平面。`data` の長さは `height * width`。 -/
structure Plane where
  height : Nat
  width : Nat
  data : FloatArray

namespace Plane

/-- `(r, c)` の値。範囲外は 0。 -/
def get (p : Plane) (r c : Nat) : Float32 :=
  let i := r * p.width + c
  if h : i < p.data.size then p.data[i].toFloat32 else 0

/-- 行優先で `i` 番目の値。 -/
def getFlat (p : Plane) (i : Nat) : Float32 :=
  if h : i < p.data.size then p.data[i].toFloat32 else 0

/-- 各画素を `f` で決めた平面。 -/
@[inline] def ofFn (height width : Nat) (f : Nat → Nat → Float32) : Plane :=
  let arr := Id.run do
    let mut a : FloatArray := FloatArray.emptyWithCapacity (height * width)
    for r in [0:height] do
      for c in [0:width] do
        a := a.push (f r c).toFloat
    return a
  ⟨height, width, arr⟩

/-- 行優先の値の列から作る。 -/
def ofFlat (height width : Nat) (values : Array Float32) : Plane :=
  ⟨height, width, ⟨values.map Float32.toFloat⟩⟩

/-- すべて `v` の平面。 -/
def fill (height width : Nat) (v : Float32) : Plane :=
  ⟨height, width, ⟨Array.replicate (height * width) v.toFloat⟩⟩

/-- 各値に `f` を施す。 -/
@[inline] def map (f : Float32 → Float32) (p : Plane) : Plane :=
  let arr := Id.run do
    let mut a : FloatArray := FloatArray.emptyWithCapacity p.data.size
    for i in [0:p.data.size] do
      a := a.push (f (p.getFlat i)).toFloat
    return a
  ⟨p.height, p.width, arr⟩

/-- 行ごとの値の列。 -/
def rows (p : Plane) : List (List Float32) :=
  (List.range p.height).map (fun r => (List.range p.width).map (fun c => p.get r c))

/-- 行優先の値の列。 -/
def values (p : Plane) : List Float32 :=
  p.data.data.toList.map Float.toFloat32

/-- 画素数。 -/
def size (p : Plane) : Nat := p.height * p.width

/-- 形が同じか。 -/
def sameShape (p q : Plane) : Bool := p.height == q.height && p.width == q.width

end Plane

end DropletVision
