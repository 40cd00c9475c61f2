import DropletVision.Proofs.Float.Integers
import DropletVision.Numeric

/-!
# 倍精度の値を切り捨てて自然数にする

`Float.toNatSat` は 0 へ向けて切り捨て、負と NaN を 0 に、大きすぎる値を `2^64 - 1` に止める。
範囲 `[0, n]` に収めてから切り捨てた値（描画の範囲の端）を、収める前の値と比べる。

* `toNatSat_eq`、`roundToInt_eq` — 開いた値 `s · m · 2^e` を切り捨てると `⌊m · 2^e⌋` に符号を
  付けたもの。
* `unpack_bounds` — 開いた値の仮数は 53 ビットに収まり、指数が最小でなければ正規（仮数は
  ちょうど 53 ビット）。
* `le_toNatSat_of_ofNat_lt`、`ofNat_lt_of_lt_toNatSat` — 自然数 `n` との大小は、切り捨てた
  値との大小に移る（`n < 2^53` のとき）。
* `toNatSat_clampTo_le`、`lt_toNatSat_clampTo_iff` — `[0, n]` に収めて切り捨てた値は `n` を
  超えず、`row < h ≤ H` なら、`h` に収めても `H` に収めても `row` を超えるかは変わらない。

## 仕組み

比較は開いた値の辞書式の比較（指数、次に仮数）で、正規の形の値どうしでは値の大小と一致する。
`n` の正規の形 `n · 2^L · 2^(-L)` の仮数はちょうど 53 ビットなので、指数が大きい値は `2^(53-L)`
以上、指数が小さい値は `n` より小さい。
-/

namespace DropletVision

open Float.Model Float.Model.UnpackedFloat

namespace Binary64

/-- 拡張した仮数を `k` ビット右にずらすと、仮数は `2^k` で割った商。 -/
theorem mantissa_shiftRight (em : ExtendedMantissa) (k : Nat) :
    (em >>> k).mantissa = em.mantissa / 2 ^ k := by
  induction k with
  | zero => rw [Nat.pow_zero, Nat.div_one]; rfl
  | succ k ih =>
    show (ExtendedMantissa.shiftRightOne (em >>> k)).mantissa = _
    rw [ExtendedMantissa.shiftRightOne, ih, Nat.pow_succ, Nat.div_div_eq_div_mul]

/-- 有限の値 `s · m · 2^e` を 0 へ向けて切り捨てた整数は、`⌊m · 2^e⌋` に符号を付けたもの。 -/
theorem roundToInt_eq (s : Sign) (m : Nat) (e : Int) :
    roundToInt s m e = s.apply ((m <<< e.toNat) / 2 ^ (-e).toNat : Nat) := by
  simp only [roundToInt, decreaseExponent, shiftToExponent, ExtendedMantissa.ofMantissaAndAccuracy,
    mantissa_shiftRight]
  rw [show (e - 0).toNat = e.toNat by omega,
    show (0 - (e - (e.toNat : Int))).toNat = (-e).toNat by omega]

/-- 切り捨ては、開いた値を整数にして（NaN と負の無限大は 0、正の無限大は `2^64 - 1`）、
`2^64 - 1` で止めたもの。 -/
theorem toNatSat_eq (x : Float) :
    Float.toNatSat x = min (x.toModel.unpack.toInt 0 (2 ^ 64 - 1)).toNat (2 ^ 64 - 1) := by
  show (UInt64.ofNatClamp _).toNat = _
  have hs : ((UInt64.size : Nat) : Int) - 1 = 2 ^ 64 - 1 := by decide
  have hsize : UInt64.size = 2 ^ 64 := rfl
  rw [hs]
  unfold UInt64.ofNatClamp
  split
  · rw [UInt64.toNat_ofNatLT]
    exact (Nat.min_eq_left (by omega)).symm
  · rw [UInt64.toNat_ofNatLT]
    exact (Nat.min_eq_right (by omega)).symm

/-- 開いた有限の値の仮数は 53 ビットに収まり、指数は最小の `-1074` 以上。指数が最小でなければ
正規の数で、仮数はちょうど 53 ビット。 -/
theorem unpack_bounds (x : Float) {s : Sign} {m : Nat} {e : Int} {hm : 0 < m}
    (h : x.toModel.unpack = .finite s m e hm) :
    m < 2 ^ 53 ∧ -1074 ≤ e ∧ (-1074 < e → 2 ^ 52 ≤ m) := by
  unfold Float.Model.unpack UnpackedFloat.unpack at h
  dsimp only at h
  have hb := (@unpackMantissa .binary64 x.toModel.toBits.toBitVec).isLt
  have hbias : Format.binary64.exponentBias = 1023 := by decide
  split at h
  · split at h <;> cases h
  · split at h
    · rename_i hzero
      split at h
      · cases h
      · -- 非正規の数：指数は最小で、仮数は 52 ビットに収まる
        cases h
        simp only [hzero, BitVec.toNat_ofNat, hbias] at *
        omega
    · rename_i hnzero
      cases h
      have he0 : (@unpackExponent .binary64 x.toModel.toBits.toBitVec).toNat ≠ 0 :=
        fun h0 => hnzero (BitVec.eq_of_toNat_eq h0)
      have hm : (1#1 ++ @unpackMantissa .binary64 x.toModel.toBits.toBitVec).toNat =
          2 ^ 52 + (@unpackMantissa .binary64 x.toModel.toBits.toBitVec).toNat := by
        rw [BitVec.toNat_append, ← Nat.shiftLeft_add_eq_or_of_lt hb]
        rfl
      rw [hm, hbias]
      change (@unpackMantissa .binary64 x.toModel.toBits.toBitVec).toNat < 2 ^ 52 at hb
      omega

theorem unpack_ofNat {n : Nat} (hn : n < 2 ^ 53) : (Float.ofNat n).toModel.unpack = scaled n 0 := by
  rw [ofNat_eq hn, toModel_unpack_toFloat, unpack_pack_scaled (by simpa using hn) (by decide)]

theorem lt_iff_compare {x y : Float} :
    x < y ↔ x.toModel.unpack.compare y.toModel.unpack = some .lt := by
  show Float.lt x y = true ↔ _
  simp only [Float.lt, decide_eq_true_eq]
  show (x.toModel.unpack.compare y.toModel.unpack == some .lt) = true ↔ _
  simp

/-- 正の `n < 2^53` の正規の形：仮数 `n · 2^L` はちょうど 53 ビットで、指数は `-L`。 -/
theorem scaled_ofNat {n : Nat} (h0 : 0 < n) :
    scaled n 0 = .finite .positive (n <<< lead n) (-(lead n : Int))
      (by rw [Nat.shiftLeft_eq]; positivity) := by
  rw [scaled_of_ne_zero (by omega)]
  simp only [signOf, Int.natAbs_natCast, Nat.cast_zero, Int.sub_zero]
  rw [if_neg (by omega)]

/-- 指数 `-L` の値 `m · 2^(-L)` を切り捨てると `m / 2^L`。 -/
theorem floor_of_exponent_neg (m L : Nat) :
    (m <<< (-(L : Int)).toNat) / 2 ^ (-(-(L : Int))).toNat = m / 2 ^ L := by
  rw [show (-(L : Int)).toNat = 0 by omega, show (-(-(L : Int))).toNat = L by omega,
    Nat.shiftLeft_zero]

theorem toNatSat_ofNat {n : Nat} (hn : n < 2 ^ 53) : Float.toNatSat (Float.ofNat n) = n := by
  rw [toNatSat_eq, unpack_ofNat hn]
  rcases Nat.eq_zero_or_pos n with rfl | h0
  · rfl
  · rw [scaled_ofNat h0]
    simp only [UnpackedFloat.toInt, roundToInt_eq, Sign.apply, Int.toNat_natCast]
    rw [floor_of_exponent_neg, Nat.shiftLeft_eq, Nat.mul_div_cancel _ (by positivity)]
    omega

/-- 正規の形 `n · 2^L · 2^(-L)` より指数が大きい正規の数は、切り捨てても `n` 以上。 -/
theorem le_floor_of_exponent_lt {n L m : Nat} {e : Int} (hnL : n * 2 ^ L < 2 ^ 53)
    (hm : 2 ^ 52 ≤ m) (he : -(L : Int) < e) :
    n ≤ (m <<< e.toNat) / 2 ^ (-e).toNat := by
  rw [Nat.shiftLeft_eq, Nat.le_div_iff_mul_le (by positivity)]
  rcases Int.lt_or_le e 0 with hneg | hnn
  · -- 指数が負：`n · 2^k` は `n · 2^L` の半分以下で、`2^52` に届かない
    rw [show e.toNat = 0 by omega, Nat.pow_zero, Nat.mul_one]
    have hk : (-e).toNat + 1 ≤ L := by omega
    calc n * 2 ^ (-e).toNat ≤ n * 2 ^ (L - 1) := Nat.mul_le_mul_left _ (Nat.pow_le_pow_right (by omega) (by omega))
      _ ≤ 2 ^ 52 := by
        have h2 : n * 2 ^ L = n * 2 ^ (L - 1) * 2 := by
          rw [Nat.mul_assoc, ← Nat.pow_succ]; congr 2; omega
        omega
      _ ≤ m := hm
  · rw [show (-e).toNat = 0 by omega, Nat.pow_zero, Nat.mul_one]
    rcases Nat.eq_zero_or_pos L with rfl | hL
    · -- `n` がちょうど 53 ビットなら、指数は 1 以上
      have h2 : 2 ≤ 2 ^ e.toNat := by
        calc 2 = 2 ^ 1 := rfl
          _ ≤ 2 ^ e.toNat := Nat.pow_le_pow_right (by omega) (by omega)
      calc n ≤ 2 ^ 53 := by omega
        _ = 2 ^ 52 * 2 := rfl
        _ ≤ m * 2 ^ e.toNat := Nat.mul_le_mul hm h2
    · have h2 : n * 2 ≤ n * 2 ^ L := Nat.mul_le_mul_left _ (by
        calc 2 = 2 ^ 1 := rfl
          _ ≤ 2 ^ L := Nat.pow_le_pow_right (by omega) hL)
      calc n ≤ m := by omega
        _ ≤ m * 2 ^ e.toNat := Nat.le_mul_of_pos_right _ (by positivity)

/-- `n < x` なら、`x` を切り捨てても `n` 以上。 -/
theorem le_toNatSat_of_ofNat_lt {n : Nat} (hn : n < 2 ^ 53) {x : Float} (h : Float.ofNat n < x) :
    n ≤ Float.toNatSat x := by
  rw [toNatSat_eq]
  rcases Nat.eq_zero_or_pos n with rfl | h0
  · exact Nat.zero_le _
  rw [lt_iff_compare, unpack_ofNat hn, scaled_ofNat h0] at h
  have hlead := shiftLeft_lead_mem h0 hn
  have hL : lead n ≤ 52 := by unfold lead; omega
  generalize hu : x.toModel.unpack = u at h
  cases u with
  | notANumber => cases h
  | zero s => cases h
  | infinity s =>
    cases s with
    | positive => simp only [UnpackedFloat.toInt]; omega
    | negative => cases h
  | finite s m e hm =>
    cases s with
    | negative => cases h
    | positive =>
      obtain ⟨-, -, hnorm⟩ := unpack_bounds x hu
      simp only [UnpackedFloat.toInt, roundToInt_eq, Sign.apply, Int.toNat_natCast]
      simp only [UnpackedFloat.compare, Option.some.injEq, Ordering.then_eq_lt, Int.compare_eq_lt,
        Nat.compare_eq_lt] at h
      have hfloor : n ≤ (m <<< e.toNat) / 2 ^ (-e).toNat := by
        rcases h with he | ⟨he, hmlt⟩
        · exact le_floor_of_exponent_lt (by rw [← Nat.shiftLeft_eq]; exact hlead.2) (hnorm (by omega)) he
        · -- 指数が等しければ仮数が大きい
          rw [Int.compare_eq_eq] at he
          subst he
          rw [floor_of_exponent_neg, Nat.le_div_iff_mul_le (by positivity), ← Nat.shiftLeft_eq]
          exact hmlt.le
      omega

/-- 切り捨てた値が `n` を超えるなら、`x` は `n` より大きい。 -/
theorem ofNat_lt_of_lt_toNatSat {n : Nat} (hn : n < 2 ^ 53) {x : Float} (h : n < Float.toNatSat x) :
    Float.ofNat n < x := by
  rw [toNatSat_eq] at h
  rw [lt_iff_compare, unpack_ofNat hn]
  generalize hu : x.toModel.unpack = u at h
  cases u with
  | notANumber => simp [UnpackedFloat.toInt] at h
  | zero s => simp [UnpackedFloat.toInt] at h
  | infinity s =>
    cases s with
    | positive =>
      rcases Nat.eq_zero_or_pos n with rfl | h0
      · rfl
      · rw [scaled_ofNat h0]
        rfl
    | negative => simp [UnpackedFloat.toInt] at h
  | finite s m e hm =>
    cases s with
    | negative =>
      -- 負の値を切り捨てると 0
      simp only [UnpackedFloat.toInt, roundToInt_eq, Sign.apply] at h
      generalize (m <<< e.toNat) / 2 ^ (-e).toNat = k at h
      omega
    | positive =>
      obtain ⟨hm53, -, -⟩ := unpack_bounds x hu
      simp only [UnpackedFloat.toInt, roundToInt_eq, Sign.apply, Int.toNat_natCast] at h
      have hfloor : (n + 1) * 2 ^ (-e).toNat ≤ m * 2 ^ e.toNat := by
        rw [← Nat.le_div_iff_mul_le (by positivity), ← Nat.shiftLeft_eq]
        omega
      rcases Nat.eq_zero_or_pos n with rfl | h0
      · rfl
      rw [scaled_ofNat h0]
      have hlead := shiftLeft_lead_mem h0 hn
      rw [Nat.shiftLeft_eq] at hlead
      simp only [UnpackedFloat.compare, Option.some.injEq, Ordering.then_eq_lt, Int.compare_eq_lt,
        Int.compare_eq_eq, Nat.compare_eq_lt]
      rcases lt_trichotomy (-(lead n : Int)) e with he | he | he
      · exact .inl he
      · -- 指数が等しければ、切り捨てが `n` を超えるので仮数が大きい
        subst he
        refine .inr ⟨rfl, ?_⟩
        rw [show (-(lead n : Int)).toNat = 0 by omega, show (-(-(lead n : Int))).toNat = lead n by omega,
          Nat.pow_zero, Nat.mul_one] at hfloor
        rw [Nat.shiftLeft_eq]
        calc n * 2 ^ lead n < (n + 1) * 2 ^ lead n := Nat.mul_lt_mul_of_pos_right (by omega) (by positivity)
          _ ≤ m := hfloor
      · -- 指数が小さければ、仮数は 53 ビットに収まらない
        exfalso
        rw [show e.toNat = 0 by omega, Nat.pow_zero, Nat.mul_one] at hfloor
        have hk : lead n + 1 ≤ (-e).toNat := by omega
        have h2 : (n + 1) * 2 ^ (lead n + 1) ≤ (n + 1) * 2 ^ (-e).toNat :=
          Nat.mul_le_mul_left _ (Nat.pow_le_pow_right (by omega) hk)
        have h3 : (n + 1) * 2 ^ (lead n + 1) = n * 2 ^ lead n * 2 + 2 ^ (lead n + 1) := by
          rw [Nat.pow_succ]; ring
        have h4 : 0 < 2 ^ (lead n + 1) := by positivity
        omega

/-- `[0, n]` に収めて切り捨てた値は `n` を超えない。 -/
theorem toNatSat_clampTo_le (x : Float) {n : Nat} (hn : n < 2 ^ 53) :
    Float.toNatSat (Float.clampTo x 0 (Float.ofNat n)) ≤ n := by
  unfold Float.clampTo
  dsimp only
  generalize (if x < 0 then 0 else x) = y
  split
  · rw [toNatSat_ofNat hn]
  · rename_i h
    exact Nat.le_of_not_lt fun hc => h (ofNat_lt_of_lt_toNatSat hn hc)

/-- `row < h ≤ H` なら、`[0, h]` に収めても `[0, H]` に収めても、切り捨てた値が `row` を超えるかは
変わらない。領域を切り出して描いても、外側を描いてから切り出しても、描く範囲の端は領域の中で
一致する。 -/
theorem lt_toNatSat_clampTo_iff (x : Float) {row h H : Nat} (hrow : row < h) (hh : h ≤ H)
    (hH : H < 2 ^ 53) :
    row < Float.toNatSat (Float.clampTo x 0 (Float.ofNat h)) ↔
      row < Float.toNatSat (Float.clampTo x 0 (Float.ofNat H)) := by
  unfold Float.clampTo
  dsimp only
  generalize (if x < 0 then 0 else x) = y
  have hh' : h < 2 ^ 53 := by omega
  by_cases h1 : Float.ofNat h < y <;> by_cases h2 : Float.ofNat H < y
  · rw [if_pos h1, if_pos h2, toNatSat_ofNat hh', toNatSat_ofNat hH]
    omega
  · have := le_toNatSat_of_ofNat_lt hh' h1
    rw [if_pos h1, if_neg h2, toNatSat_ofNat hh']
    omega
  · have := le_toNatSat_of_ofNat_lt hH h2
    rw [if_neg h1, if_pos h2, toNatSat_ofNat hH]
    omega
  · rw [if_neg h1, if_neg h2]

end Binary64

end DropletVision
