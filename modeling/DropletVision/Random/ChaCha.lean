/-!
# ChaCha8 の乱数列

合成カメラの雑音と揺らぎに使う、再現できる乱数。

* `ChaCha8.ofSeed` — 32 バイトの鍵から。ブロックの番号（64 ビット）は 0 から、流れの番号は 0。
* `ChaCha8.seedFromU64` — 64 ビットの種を PCG32 で 32 バイトの鍵に広げる。
  PCG32 は状態を `state · 6364136223846793005 + 11634580027462260723` で進め、
  `((state >> 18) ^ state) >> 27` を `state >> 59` だけ右に回した 32 ビットを小さい桁から並べる。
* `nextU32` — ブロックの 16 語を順に返し、尽きたら次のブロックを作る。
  `nextU64` は続く二語を下位・上位として組む。
* `uniformInclusive` — 閉区間 `[low, high]` の倍精度の一様乱数。
  `[1, 2)` の値を 52 ビットの仮数から作って 1 を引き、`scale` 倍して `low` を足す。
  `scale` は `(high - low) / (1 - 2⁻⁵²)` から始め、最大の値が `high` を超える間は一つ小さい浮動小数点数にする。
* `uniformSmallInt` — 閉区間の 16 ビット以下の整数の一様乱数。32 ビットの乱数と幅の積の上位を使い、
  下位が偏りの出る範囲なら引き直す。

## 停止性

`scale` の調整と整数の引き直しは燃料つき（どちらもほとんど一回で終わる）。
-/

namespace DropletVision.Random

/-- 左に回す。 -/
def rotateLeft (x : UInt32) (n : UInt32) : UInt32 := (x <<< n) ||| (x >>> (32 - n))

/-- 四つの語に一回の四分の一ラウンドをかける。 -/
def quarterRound (s : Array UInt32) (a b c d : Nat) : Array UInt32 :=
  let get (i : Nat) : UInt32 := s[i]?.getD 0
  let va := get a + get b
  let vd := rotateLeft (get d ^^^ va) 16
  let vc := get c + vd
  let vb := rotateLeft (get b ^^^ vc) 12
  let va := va + vb
  let vd := rotateLeft (vd ^^^ va) 8
  let vc := vc + vd
  let vb := rotateLeft (vb ^^^ vc) 7
  ((((s.set! a va).set! b vb).set! c vc).set! d vd)

/-- 列と対角線の二回のラウンド。 -/
def doubleRound (s : Array UInt32) : Array UInt32 :=
  let s := quarterRound s 0 4 8 12
  let s := quarterRound s 1 5 9 13
  let s := quarterRound s 2 6 10 14
  let s := quarterRound s 3 7 11 15
  let s := quarterRound s 0 5 10 15
  let s := quarterRound s 1 6 11 12
  let s := quarterRound s 2 7 8 13
  quarterRound s 3 4 9 14

/-- 定数 "expand 32-byte k"。 -/
def sigma : Array UInt32 := #[0x61707865, 0x3320646e, 0x79622d32, 0x6b206574]

/-- 鍵とブロックの番号から 16 語のブロックを作る（`rounds` は二回のラウンドの数）。 -/
def block (rounds : Nat) (key : Array UInt32) (counter : Nat) : Array UInt32 :=
  let init := sigma ++ key ++ #[(counter % Nat.pow 2 32).toUInt32, (counter / Nat.pow 2 32 % Nat.pow 2 32).toUInt32, 0, 0]
  let mixed := (List.range rounds).foldl (fun s _ => doubleRound s) init
  (Array.range 16).map (fun i => mixed[i]?.getD 0 + init[i]?.getD 0)

/-- ChaCha8 の乱数の状態。`buffer` は今のブロック、`index` はその中の次の位置。 -/
structure ChaCha8 where
  key : Array UInt32
  nextBlock : Nat
  buffer : Array UInt32
  index : Nat

namespace ChaCha8

/-- 二回のラウンドの数（八ラウンド）。 -/
def doubleRounds : Nat := 4

/-- 32 バイトの鍵から作る。 -/
def ofSeed (seed : ByteArray) : ChaCha8 :=
  let key := (Array.range 8).map (fun i =>
    (List.range 4).foldr (fun k acc => acc * 256 + (seed[4 * i + k]?.getD 0).toUInt32) 0)
  ⟨key, 0, #[], 0⟩

/-- PCG32 の一歩：次の状態と出力の 32 ビット。 -/
def pcg32 (state : UInt64) : UInt64 × UInt32 :=
  let state := state * 6364136223846793005 + 11634580027462260723
  let xorshifted := (((state >>> 18) ^^^ state) >>> 27).toUInt32
  let rot := (state >>> 59).toUInt32
  (state, (xorshifted >>> rot) ||| (xorshifted <<< ((32 - rot) % 32)))

/-- 64 ビットの種から作る。 -/
def seedFromU64 (seed : UInt64) : ChaCha8 :=
  let (_, bytes) := (List.range 8).foldl (fun (st, acc) _ =>
    let (st, x) := pcg32 st
    (st, (List.range 4).foldl (fun acc k => acc.push ((x >>> (8 * k).toUInt32) &&& 0xFF).toUInt8) acc))
    (seed, ByteArray.empty)
  ofSeed bytes

/-- 次の 32 ビット。 -/
def nextU32 (g : ChaCha8) : UInt32 × ChaCha8 :=
  if g.index < g.buffer.size then
    (g.buffer[g.index]?.getD 0, { g with index := g.index + 1 })
  else
    let buf := block doubleRounds g.key g.nextBlock
    (buf[0]?.getD 0, { g with nextBlock := g.nextBlock + 1, buffer := buf, index := 1 })

/-- 次の 64 ビット（続く二語の下位・上位）。 -/
def nextU64 (g : ChaCha8) : UInt64 × ChaCha8 :=
  let (lo, g) := g.nextU32
  let (hi, g) := g.nextU32
  ((hi.toUInt64 <<< 32) ||| lo.toUInt64, g)

/-- 52 ビットの仮数から作る `[1, 2)` の値。 -/
def unitInterval (bits : UInt64) : Float := Float.ofBits (((1023 : UInt64) <<< 52) ||| (bits >>> 12))

/-- 閉区間の一様乱数の倍率。最大の値が `high` を超えない最大の倍率。 -/
def inclusiveScale (low high : Float) : Float :=
  let maxRand := unitInterval (0xFFFFFFFFFFFFFFFF) - 1.0
  let start := (high - low) / maxRand
  shrink maxRand 64 start
where
  /-- 超える間は一つ小さい浮動小数点数にする。 -/
  shrink (maxRand : Float) : Nat → Float → Float
    | 0, s => s
    | fuel + 1, s => if s * maxRand + low > high then shrink maxRand fuel (Float.ofBits (s.toBits - 1)) else s

/-- 閉区間 `[low, high]` の倍精度の一様乱数。区間が空（`low ≤ high` でない）か、
幅が倍精度で表せないほど広ければ、その理由で打ち切る。 -/
def uniformInclusive (g : ChaCha8) (low high : Float) : Except String (Float × ChaCha8) :=
  if !(low ≤ high) then .error "cannot sample empty range"
  else
    let maxRand := unitInterval (0xFFFFFFFFFFFFFFFF) - 1.0
    let width := (high - low) / maxRand
    if width.isNaN || width.isInf then .error "Uniform::new_inclusive: range overflow"
    else
      let scale := inclusiveScale low high
      let (bits, g) := g.nextU64
      .ok ((unitInterval bits - 1.0) * scale + low, g)

/-- 閉区間 `[low, high]` の整数の一様乱数（幅は 2¹⁶ 以下）。 -/
def uniformSmallInt (g : ChaCha8) (low high : Int) : Int × ChaCha8 :=
  let range : Nat := (high - low + 1).toNat
  let unsignedMax : Nat := Nat.pow 2 32 - 1
  let zone := unsignedMax - (unsignedMax - range + 1) % range
  draw range zone 64 g
where
  /-- 下位が `zone` 以下になるまで引く。 -/
  draw (range zone : Nat) : Nat → ChaCha8 → Int × ChaCha8
    | 0, g => (low, g)
    | fuel + 1, g =>
      let (v, g) := g.nextU32
      let product := v.toNat * range
      if product % Nat.pow 2 32 ≤ zone then (low + (product / Nat.pow 2 32 : Nat), g) else draw range zone fuel g

end ChaCha8

end DropletVision.Random
