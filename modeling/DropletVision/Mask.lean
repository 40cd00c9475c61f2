/-!
# 二値の平面

しきい値処理・形態演算・輪郭追跡が扱う、画素ごとに真偽を持つ平面。
行優先のバイト列に 0 と 1 で持つ。
-/

namespace DropletVision

/-- 二値の平面。`bits` の長さは `height * width`、各バイトは 0 か 1。 -/
structure Mask where
  height : Nat
  width : Nat
  bits : ByteArray

namespace Mask

/-- `(r, c)` が立っているか。範囲外は立っていない。 -/
def get (m : Mask) (r c : Nat) : Bool :=
  r < m.height && c < m.width &&
    (let i := r * m.width + c
     if h : i < m.bits.size then m.bits[i] != 0 else false)

/-- 各画素を `f` で決めた平面。 -/
@[inline] def ofFn (height width : Nat) (f : Nat → Nat → Bool) : Mask :=
  let bytes := Id.run do
    let mut a := ByteArray.emptyWithCapacity (height * width)
    for r in [0:height] do
      for c in [0:width] do
        a := a.push (if f r c then 1 else 0)
    return a
  ⟨height, width, bytes⟩

/-- すべて立っていない平面。 -/
def empty (height width : Nat) : Mask :=
  ⟨height, width, ⟨Array.replicate (height * width) 0⟩⟩

/-- `(r, c)` を `v` にする。範囲外は何もしない。 -/
def set (m : Mask) (r c : Nat) (v : Bool) : Mask :=
  if r < m.height && c < m.width then
    ⟨m.height, m.width, m.bits.set! (r * m.width + c) (if v then 1 else 0)⟩
  else m

/-- 立っている画素の数。 -/
def count (m : Mask) : Nat := m.bits.foldl (fun n b => if b != 0 then n + 1 else n) 0

/-- 行ごとの真偽の列。 -/
def rows (m : Mask) : List (List Bool) :=
  (List.range m.height).map (fun r => (List.range m.width).map (fun c => m.get r c))

end Mask

end DropletVision
