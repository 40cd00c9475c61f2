import DropletVision.Numeric

/-!
# 楕円の塗りつぶし

白黒の画素配列に、中心 `(cx, cy)`、横の半径 `a`、縦の半径 `b` の楕円を値 `value` で塗る。
画素 `(row, col)` は `((col - cx)/a)² + ((row - cy)/b)² ≤ 1` のとき塗られる。

調べる範囲は外接矩形 `⌊cy - b⌋ .. ⌈cy + b⌉` 行（両端を含む）と同様の列に限り、
画像の外は切り捨てる。半径が正でなければ何も塗らない。
-/

namespace DropletVision

/-- 楕円を塗った画素配列（`height × width`、行優先）。 -/
def drawEllipse (height width : Nat) (data : ByteArray) (cx cy a b : Float) (value : UInt8) :
    ByteArray := Id.run do
  if a ≤ 0 || b ≤ 0 then return data
  let r0 := Float.toNatSat (Float.maxNum (cy - b).floor 0)
  let r1 := Float.toNatSat (Float.clampTo ((cy + b).ceil + 1) 0 (Float.ofNat height))
  let c0 := Float.toNatSat (Float.maxNum (cx - a).floor 0)
  let c1 := Float.toNatSat (Float.clampTo ((cx + a).ceil + 1) 0 (Float.ofNat width))
  let mut out := data
  for row in [r0:r1] do
    for col in [c0:c1] do
      let nx := (Float.ofNat col - cx) / a
      let ny := (Float.ofNat row - cy) / b
      if nx * nx + ny * ny ≤ 1 then
        out := out.set! (row * width + col) value
  return out

end DropletVision
