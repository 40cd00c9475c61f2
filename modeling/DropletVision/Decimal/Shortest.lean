/-!
# 二進浮動小数点数の最短十進表示

有限の二進浮動小数点数 `v` に対して、読み戻すと `v` に丸められる十進数のうち
**桁数が最小のもの**、さらにその中で `v` に最も近いものを求める。

## 仕組み

`v = m · 2^e` の丸め区間（隣の表現可能数との中点で囲まれた区間。`m` が偶数なら端を含む）を
整数の比で表し、桁数 `n = 1, 2, …` の十進格子それぞれで `v` の両隣の格子点だけを調べる。
区間に格子点が一つでもあれば、`v` の隣の格子点もそこにある（区間は `v` を含む凸集合）。
二つとも入れば近い方、ちょうど等距離なら偶数の方をとる。

計算はすべて `Nat` の正確な演算で行い、表現の規則（指数表記の境目など）は
`Decimal.Text` の書式レコードが決める。

## 停止性

桁数の探索は `List.range` の上の `find?` であり、再帰は使わない。
-/

namespace DropletVision.Decimal

/-- 二進浮動小数点形式。仮数部と指数部のビット数で決まる。 -/
structure BinaryFormat where
  /-- 仮数部（隠れビットを除く）のビット数。 -/
  mantBits : Nat
  /-- 指数部のビット数。 -/
  expBits : Nat
  /-- 最短表示に必要な十進桁数の上限。 -/
  maxDigits : Nat

/-- 倍精度（binary64）。 -/
def BinaryFormat.double : BinaryFormat := ⟨52, 11, 17⟩

/-- 単精度（binary32）。 -/
def BinaryFormat.single : BinaryFormat := ⟨23, 8, 9⟩

/-- 指数のバイアス。 -/
def BinaryFormat.bias (f : BinaryFormat) : Nat := Nat.pow 2 (f.expBits - 1) - 1

/-- 浮動小数点数の分類。有限の値は符号と `mant · 2^exp` で表す。 -/
inductive Decoded where
  | nan
  | infinite (negative : Bool)
  /-- `boundary` は下の隣との間隔が上の半分になる場合（仮数が `2^mantBits` ちょうどで正規化数）。 -/
  | finite (negative : Bool) (mant : Nat) (exp : Int) (boundary : Bool)

/-- ビット列を符号・指数・仮数に分ける。 -/
def BinaryFormat.decode (f : BinaryFormat) (bits : Nat) : Decoded :=
  let frac := bits % Nat.pow 2 f.mantBits
  let biased := (bits / Nat.pow 2 f.mantBits) % Nat.pow 2 f.expBits
  let negative := (bits / Nat.pow 2 (f.mantBits + f.expBits)) % 2 == 1
  if biased == Nat.pow 2 f.expBits - 1 then
    if frac == 0 then .infinite negative else .nan
  else if biased == 0 then
    .finite negative frac (1 - (f.bias : Int) - f.mantBits) false
  else
    .finite negative (frac + Nat.pow 2 f.mantBits) ((biased : Int) - f.bias - f.mantBits)
      (frac == 0 && biased > 1)

/-- 十進の科学表記 `digits · 10^exp`。`digits` は末尾に 0 を持たない（値が 0 のときは 0）。 -/
structure Scientific where
  digits : Nat
  exp : Int
  deriving Repr, BEq, DecidableEq

/-- 整数 `k` を正の部分と負の部分に分ける：`k = pos k - neg k`。 -/
def posPart (k : Int) : Nat := k.toNat

/-- `k` の負の部分。 -/
def negPart (k : Int) : Nat := (-k).toNat

/-- 末尾の 0 を指数へ移す。 -/
def Scientific.normalize (digits : Nat) (exp : Int) : Scientific :=
  go digits exp digits
where
  /-- 第三引数は残りの回数の上限で、`digits` 自身で足りる（割るたびに 1 以上減る）。 -/
  go (d : Nat) (e : Int) : Nat → Scientific
    | 0 => ⟨d, e⟩
    | fuel + 1 => if d ≠ 0 ∧ d % 10 = 0 then go (d / 10) (e + 1) fuel else ⟨d, e⟩

/-- 十進桁数。`0` は 1 桁。 -/
def digitCount (n : Nat) : Nat := (Nat.toDigits 10 n).length

/-- 丸め区間の三点 `mm < mv < mp` を `2^e2` 単位の整数で持つ。 -/
structure Interval where
  mm : Nat
  mv : Nat
  mp : Nat
  e2 : Int
  inclusive : Bool

/-- 有限正数 `mant · 2^exp` の丸め区間。 -/
def Interval.ofBinary (mant : Nat) (exp : Int) (boundary : Bool) : Interval :=
  { mm := 4 * mant - (if boundary then 1 else 2)
    mv := 4 * mant
    mp := 4 * mant + 2
    e2 := exp - 2
    inclusive := mant % 2 == 0 }

/-- `x · 2^e2` と `c · 10^k` を同じ倍率の整数にして比べるための組。 -/
def Interval.scaleBinary (i : Interval) (k : Int) (x : Nat) : Nat :=
  x * Nat.pow 2 (posPart i.e2) * Nat.pow 10 (negPart k)

/-- `c · 10^k` を `scaleBinary` と同じ倍率にする。 -/
def Interval.scaleDecimal (i : Interval) (k : Int) (c : Nat) : Nat :=
  c * Nat.pow 10 (posPart k) * Nat.pow 2 (negPart i.e2)

/-- `c · 10^k` が丸め区間にあるか。 -/
def Interval.contains (i : Interval) (k : Int) (c : Nat) : Bool :=
  let t := i.scaleDecimal k c
  let lo := i.scaleBinary k i.mm
  let hi := i.scaleBinary k i.mp
  if i.inclusive then lo ≤ t && t ≤ hi else lo < t && t < hi

/-- 格子 `10^k` 上で `v` の下隣（切り捨て）。 -/
def Interval.floorOn (i : Interval) (k : Int) : Nat :=
  i.scaleBinary k i.mv / (Nat.pow 10 (posPart k) * Nat.pow 2 (negPart i.e2))

/-- 格子 `10^k` 上の候補のうち、区間に入る最良のもの。 -/
def Interval.pickOn (i : Interval) (k : Int) : Option Nat :=
  let c := i.floorOn k
  let v := i.scaleBinary k i.mv
  let inLo := i.contains k c
  let inHi := i.contains k (c + 1)
  if inLo && inHi then
    let dLo := v - i.scaleDecimal k c
    let dHi := i.scaleDecimal k (c + 1) - v
    if dLo < dHi then some c
    else if dHi < dLo then some (c + 1)
    else if c % 2 == 0 then some c else some (c + 1)
  else if inLo then some c
  else if inHi then some (c + 1)
  else none

/-- `10^p ≤ mv · 2^e2` となる最大の `p`（`mv > 0`）。 -/
def Interval.decimalExponent (i : Interval) : Int :=
  -- 上界を整数部の桁数から、下界を小数部の先頭の 0 の数から取り、正確な比較で決める。
  let num := i.mv * Nat.pow 2 (posPart i.e2)
  let den := Nat.pow 2 (negPart i.e2)
  if num ≥ den then
    ((digitCount (num / den) : Int) - 1)
  else
    -- num < den：小数。den / num の桁数から決める。
    let q := den / num
    let d := (digitCount q : Int)
    -- `q = ⌊1/v⌋` が `d` 桁なので `10^(-d) < v ≤ 10^(1-d)`。右端ちょうどのときだけ `1 - d`。
    if num * Nat.pow 10 (d - 1).toNat ≥ den then 1 - d else -d

/-- 有限正数の最短十進表示。`maxDigits` 桁までに必ず見つかる。 -/
def shortestPositive (maxDigits : Nat) (mant : Nat) (exp : Int) (boundary : Bool) :
    Scientific :=
  let i := Interval.ofBinary mant exp boundary
  let p := i.decimalExponent
  let tries : List Int := (List.range maxDigits).map (fun (n : Nat) => p - (n : Int))
  match tries.findSome? (fun k => (i.pickOn k).map (fun c => (c, k))) with
  | some (c, k) => Scientific.normalize c k
  | none =>
    let k := p + 1 - (maxDigits : Int)
    Scientific.normalize (i.floorOn k) k

/-- 有限の数の最短十進表示（符号は別）。`0` は `⟨0, 0⟩`。 -/
def shortest (f : BinaryFormat) (mant : Nat) (exp : Int) (boundary : Bool) : Scientific :=
  if mant = 0 then ⟨0, 0⟩ else shortestPositive f.maxDigits mant exp boundary

example : Scientific.normalize 1200 0 = ⟨12, 2⟩ := by decide

end DropletVision.Decimal
