/-!
# NeuQuant による減色

RGBA の画素の並びから 256 色の色表を学習し、各画素に一番近い色の番号を与える。
GIF は 256 色までしか持てないので、色が多いフレームはこれで減色してから書く。

## 仕組み

* 網は 256 個の点（青・緑・赤・透明度の小数）。最初は灰色の階段で、透明度は先頭の 16 個だけ
  `16 i`、ほかは 255。
* 学習は画素を素数の歩幅（499・491・478・503 のうち画素数を割らない最初のもの）で巡り、
  画素数の分だけ繰り返す。各画素について、偏りを引いた距離で一番近い点を選び
  （`contest`）、その点と半径の内の点を画素へ引き寄せる。引き寄せる強さ `alpha` と半径は
  画素数の 1/128 ごとに `1/30` ずつ減る。
* 学習の後、点を丸めて 0〜255 に収めた色表を作り、緑の値で並べ替えて緑から引ける索引を作る。
* 画素の番号は、索引の位置から両側へ、緑の差の二乗が今の最良を超えるまで探した一番近い色。

## 停止性

ループはどれも範囲の `for` か、一回ごとに位置が進む燃料つきの再帰。
-/

namespace DropletVision.NeuQuant

/-- 色表の大きさ。 -/
def netSize : Nat := 256

/-- 頻度を減らす割合。 -/
def beta : Float := 1.0 / 1024.0

/-- 偏りを増やす割合（`beta · 1024`）。 -/
def betaGamma : Float := beta * 1024.0

/-- 引き寄せる強さの初め（10 ビットの固定小数点で 1）。 -/
def initAlpha : Nat := 1024

/-- 半径の固定小数点のビット数。 -/
def radiusBiasShift : Nat := 6

/-- 半径を一段ごとに `1/30` ずつ減らす。 -/
def radiusDecay : Nat := 30

/-- 歩幅の候補。 -/
def primes : List Nat := [499, 491, 478, 503]

/-- 倍精度の最大の有限値。 -/
def floatMax : Float := Float.ofBits 0x7FEFFFFFFFFFFFFF

/-- 学習の途中の網：点ごとの青・緑・赤・透明度を四つずつ並べたもの（`weights`）と、
点ごとの偏りと頻度。 -/
structure Network where
  weights : FloatArray
  bias : FloatArray
  freq : FloatArray

/-- 学習の前の網。 -/
def Network.initial : Network := Id.run do
  let n := netSize
  let mut w : FloatArray := .emptyWithCapacity (4 * n)
  for i in [0:n] do
    let t := i.toFloat * 256.0 / n.toFloat
    w := w.push t |>.push t |>.push t |>.push (if i < 16 then i.toFloat * 16.0 else 255.0)
  let zeros := FloatArray.mk (Array.replicate n 0.0)
  let freq := FloatArray.mk (Array.replicate n (1.0 / n.toFloat))
  return ⟨w, zeros, freq⟩

/-- 画素 `(b, g, r, a)` を争わせる：偏りを引いた距離で一番近い点の位置を返し、
各点の頻度と偏りを減衰させ、素の距離で一番近い点の頻度と偏りを強める。
青と赤の差だけで今の最良（偏りつきも含む）に届かない点は、残りの差を足さない。 -/
def Network.contest (net : Network) (b g r a : Float) : Nat × Network :=
  match net with
  | ⟨w, bias0, freq0⟩ => Id.run do
    let mut bestd := floatMax
    let mut bestbiasd := floatMax
    let mut bestpos := 0
    let mut bestbiaspos := 0
    let mut bias := bias0
    let mut freq := freq0
    for i in [0:netSize] do
      let bi := bias.get! i
      let biased := bestbiasd + bi
      let near := (w.get! (4 * i) - b).abs + (w.get! (4 * i + 2) - r).abs
      if near < bestd || near < biased then
        let dist := near + (w.get! (4 * i + 1) - g).abs + (w.get! (4 * i + 3) - a).abs
        if dist < bestd then
          bestd := dist
          bestpos := i
        let biasdist := dist - bi
        if biasdist < bestbiasd then
          bestbiasd := biasdist
          bestbiaspos := i
      let f := freq.get! i
      let f := f - beta * f
      freq := freq.set! i f
      bias := bias.set! i (bi + betaGamma * f)
    freq := freq.set! bestpos (freq.get! bestpos + beta)
    bias := bias.set! bestpos (bias.get! bestpos - betaGamma)
    return (bestbiaspos, ⟨w, bias, freq⟩)

/-- 点 `i` を画素 `(b, g, r, a)` へ `alpha` の割合だけ引き寄せる。 -/
def pull (w : FloatArray) (alpha : Float) (i : Nat) (b g r a : Float) : FloatArray :=
  let move (w : FloatArray) (k : Nat) (v : Float) : FloatArray :=
    let x := w.get! (4 * i + k)
    w.set! (4 * i + k) (x - alpha * (x - v))
  move (move (move (move w 0 b) 1 g) 2 r) 3 a

/-- 点 `i` の両隣を半径 `rad` の内で、離れるほど弱く引き寄せる。下の端 `i - rad` の点は動かない。 -/
def pullNeighbours (w : FloatArray) (alpha : Float) (rad i : Nat) (b g r a : Float) : FloatArray :=
  let lo : Int := max ((i : Int) - rad) 0
  let hi : Int := min ((i : Int) + rad) netSize
  let radSq := rad.toFloat * rad.toFloat
  go (netSize + 1) ((i : Int) + 1) ((i : Int) - 1) 0 lo hi radSq w
where
  /-- `j` は上へ、`k` は下へ進む。`q` は中心からの距離。 -/
  go : Nat → Int → Int → Nat → Int → Int → Float → FloatArray → FloatArray
    | 0, _, _, _, _, _, _, w => w
    | fuel + 1, j, k, q, lo, hi, radSq, w =>
      if j < hi || k > lo then
        let s := (alpha * (radSq - q.toFloat * q.toFloat)) / radSq
        let w := if j < hi then pull w s j.toNat b g r a else w
        let w := if k > lo then pull w s k.toNat b g r a else w
        go fuel (if j < hi then j + 1 else j) (if k > lo then k - 1 else k) (q + 1) lo hi radSq w
      else w

/-- 画素の並び（RGBA の 4 バイトずつ）で網を学習させる。`sampleFactor` は間引きの割合。 -/
def Network.learn (sampleFactor : Nat) (pixels : ByteArray) : Network := Id.run do
  let count := pixels.size / 4
  let samples := count / sampleFactor
  let alphaDec := 30 + (sampleFactor - 1) / 3
  let cycles := if netSize / 2 ≤ 100 then 100 else netSize / 2
  let delta := max 1 (samples / cycles)
  let step := (primes.find? (fun p => count % p != 0)).getD 503
  let mut net := Network.initial
  let mut alpha := initAlpha
  let mut biasRadius := netSize / 8 * Nat.pow 2 radiusBiasShift
  let mut rad := biasRadius / Nat.pow 2 radiusBiasShift
  if rad ≤ 1 then rad := 0
  let mut pos := 0
  for i in [0:samples] do
    let px (k : Nat) : Float := (pixels.get! (4 * pos + k)).toNat.toFloat
    let (r, g, b, a) := (px 0, px 1, px 2, px 3)
    let (j, contested) := net.contest b g r a
    let strength := (1.0 * alpha.toFloat) / initAlpha.toFloat
    net := match contested with
      | ⟨w, bias, freq⟩ =>
        let w := pull w strength j b g r a
        ⟨if rad > 0 then pullNeighbours w strength rad j b g r a else w, bias, freq⟩
    pos := (pos + step) % count
    if (i + 1) % delta == 0 then
      alpha := alpha - alpha / alphaDec
      biasRadius := biasRadius - biasRadius / radiusDecay
      rad := biasRadius / Nat.pow 2 radiusBiasShift
      if rad ≤ 1 then rad := 0
  return net

/-- 小数を丸めて 0〜255 に収める。 -/
def clampByte (x : Float) : Nat :=
  let y := x.round
  if y < 0 then 0 else if y > 255 then 255 else y.toUInt8.toNat

/-- 色表の一色。 -/
structure Color where
  r : Nat
  g : Nat
  b : Nat
  a : Nat

/-- 学習した色表と、緑の値から探し始める位置の索引。 -/
structure Palette where
  /-- 緑の値の昇順に並んだ色。 -/
  colors : Array Color
  /-- 緑の値ごとの探し始める位置（256 個）。 -/
  index : Array Nat

/-- 網を丸めた色表を緑で並べ替え、索引を作る。 -/
def Palette.ofNetwork (net : Network) : Palette := Id.run do
  let n := netSize
  let mut cm : Array Color := (Array.range n).map (fun i =>
    let at_ (k : Nat) : Nat := clampByte (net.weights.get! (4 * i + k))
    ⟨at_ 2, at_ 1, at_ 0, at_ 3⟩)
  let mut index : Array Nat := Array.replicate 256 0
  let mut previous := 0
  let mut start := 0
  for i in [0:n] do
    let mut smallPos := i
    let mut smallVal : Nat := (cm[i]?.map Color.g).getD 0
    for j in [i + 1:n] do
      let gj : Nat := (cm[j]?.map Color.g).getD 0
      if gj < smallVal then
        smallPos := j
        smallVal := gj
    cm := cm.swapIfInBounds i smallPos
    if smallVal != previous then
      index := index.set! previous ((start + i) / 2)
      for j in [previous + 1:smallVal] do
        index := index.set! j i
      previous := smallVal
      start := i
  index := index.set! previous ((start + n - 1) / 2)
  for j in [previous + 1:256] do
    index := index.set! j (n - 1)
  return ⟨cm, index⟩

/-- 色 `(r, g, b, a)` に一番近い色の番号。索引の位置から上と下へ交互に探し、
緑の差の二乗が今の最良の距離以上になったところで止める。番号 0 へは下からは届かない。 -/
def Palette.lookup (p : Palette) (r g b a : Nat) : Nat :=
  let start := p.index[g]?.getD 0
  go (2 * netSize + 2) start (if start > 0 then start - 1 else 0) (Int.pow 2 30) 0
where
  /-- 色 `c` との距離（緑の差が `bestd` 未満のときだけ全部を足す）。最良を更新したら `some`。 -/
  closer (c : Color) (bestd : Int) : Option Int :=
    let sq (x y : Nat) : Int := ((x : Int) - y) * ((x : Int) - y)
    let d := sq c.g g + sq c.b b
    if d < bestd then
      let d := d + sq c.r r
      if d < bestd then
        let d := d + sq c.a a
        if d < bestd then some d else none
      else none
    else none
  go : Nat → Nat → Nat → Int → Nat → Nat
    | 0, _, _, _, best => best
    | fuel + 1, i, j, bestd, best =>
      let n := p.colors.size
      if i < n || j > 0 then
        let c := p.colors[i]?.getD ⟨0, 0, 0, 0⟩
        let gi : Int := ((c.g : Int) - g) * ((c.g : Int) - g)
        if i < n && gi ≥ bestd then best
        else
          let (bestd, best, i) :=
            if i < n then
              match closer c bestd with
              | some d => (d, i, i + 1)
              | none => (bestd, best, i + 1)
            else (bestd, best, i)
          if j > 0 then
            let c := p.colors[j]?.getD ⟨0, 0, 0, 0⟩
            let gj : Int := ((g : Int) - c.g) * ((g : Int) - c.g)
            if gj ≥ bestd then best
            else
              match closer c bestd with
              | some d => go fuel i (j - 1) d j
              | none => go fuel i (j - 1) bestd best
          else go fuel i j bestd best
      else best

/-- RGBA の画素の並びを学習した色表と、各画素の番号。 -/
def quantize (sampleFactor : Nat) (pixels : ByteArray) : Palette × Array Nat :=
  let p := Palette.ofNetwork (Network.learn sampleFactor pixels)
  (p, (Array.range (pixels.size / 4)).map (fun i =>
    let at_ (k : Nat) : Nat := (pixels.get! (4 * i + k)).toNat
    p.lookup (at_ 0) (at_ 1) (at_ 2) (at_ 3)))

end DropletVision.NeuQuant
