/-!
# 数の変換と比較の規則

浮動小数点数の最大・最小・切り詰めなど、NaN や範囲外での振る舞いを決めておく必要がある演算。

* `maxNum`、`minNum` — 片方が NaN ならもう片方を返す（IEEE 754 の maxNum、minNum）。
  `0` と `-0` のように等しい値どうしでは後の引数を返す。
* `clampTo` — 範囲に収める。NaN は NaN のまま。
* `toNatSat` — 0 へ向けて切り捨てて非負整数にする。負と NaN は 0、上は `2^64 - 1` で止まる。
* `negZeroSum` — 列の和。負の 0 から順に足すので、足す値がすべて負の 0 なら結果も負の 0。
* `hypot` — `√(x² + y²)` を正確に計算して最近接に丸める。片方が無限大なら（もう片方が NaN でも）
  無限大、そうでなく NaN があれば NaN。

## 停止性

整数の平方根はニュートン法で、反復の回数をビット数で抑える。
-/

namespace DropletVision

/-- 負の 0 から順に足した和。 -/
def negZeroSum {α : Type} [Add α] [Neg α] [OfNat α 0] (xs : List α) : α := xs.foldl (· + ·) (-0)

namespace Float

/-- 大きい方。片方が NaN ならもう片方、等しければ（`0` と `-0` も）後の方。 -/
def maxNum (x y : Float) : Float :=
  if x.isNaN then y else if y.isNaN then x else if y < x then x else y

/-- 小さい方。片方が NaN ならもう片方、等しければ（`0` と `-0` も）後の方。 -/
def minNum (x y : Float) : Float :=
  if x.isNaN then y else if y.isNaN then x else if x < y then x else y

/-- `[lo, hi]` に収める。NaN は NaN のまま。 -/
def clampTo (x lo hi : Float) : Float :=
  let x := if x < lo then lo else x
  if x > hi then hi else x

/-- 0 へ向けて切り捨てた非負整数。負と NaN は 0、`2^64` 以上は `2^64 - 1`。 -/
def toNatSat (x : Float) : Nat := x.toUInt64.toNat

/-- 0 へ向けて切り捨てた 64 ビット符号つき整数。NaN は 0、範囲外は端の値で止まる。 -/
def toInt64Sat (x : Float) : Int :=
  if x.isNaN then 0
  else if x ≥ 9223372036854775808.0 then Int.pow 2 63 - 1
  else if x ≤ -9223372036854775808.0 then -Int.pow 2 63
  else if x < 0 then -((-x).toUInt64.toNat : Int) else (x.toUInt64.toNat : Int)

/-- 有限の倍精度の値を `仮数 · 2^指数`（仮数は非負の整数）に分ける。 -/
def toBinary (x : Float) : Nat × Int :=
  let b := x.toBits.toNat
  let e := (b >>> 52) % 2048
  let m := b % Nat.pow 2 52
  if e == 0 then (m, -1074) else (m + Nat.pow 2 52, (e : Int) - 1075)

/-- 上から近づけるニュートン法の反復。 -/
def isqrtLoop (n : Nat) : Nat → Nat → Nat
  | 0, x => x
  | fuel + 1, x =>
    let y := (x + n / x) / 2
    if y < x then isqrtLoop n fuel y else x

/-- 整数の平方根（切り捨て）。 -/
def isqrt (n : Nat) : Nat :=
  if n == 0 then 0 else isqrtLoop n (n.log2 + 2) (Nat.pow 2 (n.log2 / 2 + 1))

/-- `√(x² + y²)` の最近接の値。 -/
def hypot (x y : Float) : Float :=
  if x.isInf || y.isInf then 1 / 0
  else if x.isNaN || y.isNaN then x + y
  else
    let (ma, ea) := toBinary x.abs
    let (mb, eb) := toBinary y.abs
    if ma == 0 then y.abs
    else if mb == 0 then x.abs
    else
      let la := (ma.log2 : Int) + ea
      let lb := (mb.log2 : Int) + eb
      -- 桁が大きく離れていれば小さい方は丸めに効かない。
      if la - lb > 80 then x.abs
      else if lb - la > 80 then y.abs
      else
        let e := min ea eb
        let s := Nat.pow ma 2 * Nat.pow 2 (2 * (ea - e)).toNat + Nat.pow mb 2 * Nat.pow 2 (2 * (eb - e)).toNat
        -- `n = s · 4^k` の平方根が 57 ビット以上になるように `k` を選ぶ。値は `√n · 2^(e - k)`。
        let k : Nat := (114 - s.log2) / 2 + 1
        let n := s * Nat.pow 4 k
        let r := isqrt n
        -- 63 ビットに収め、切り捨てた部分と平方根の端数は最下位のビットに残す。
        let shift := r.log2 - 62
        let kept := r >>> shift
        let sticky := r * r != n || r % Nat.pow 2 shift != 0
        let m := if sticky then kept ||| 1 else kept
        (UInt64.ofNat m).toFloat.scaleB (e - (k : Int) + (shift : Int))

end Float

namespace Float32

/-- 大きい方。片方が NaN ならもう片方、等しければ（`0` と `-0` も）後の方。 -/
def maxNum (x y : Float32) : Float32 :=
  if x.isNaN then y else if y.isNaN then x else if y < x then x else y

/-- 小さい方。片方が NaN ならもう片方、等しければ（`0` と `-0` も）後の方。 -/
def minNum (x y : Float32) : Float32 :=
  if x.isNaN then y else if y.isNaN then x else if x < y then x else y

/-- 非負整数を単精度へ（最近接に丸める）。 -/
def ofNat (n : Nat) : Float32 := n.toUInt64.toFloat32

end Float32

end DropletVision
