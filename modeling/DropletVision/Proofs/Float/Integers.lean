import Mathlib

/-!
# 倍精度で整数をちょうど計算する

`|z| < 2^53` の整数は倍精度でちょうど表せ、和・差・積がこの範囲に収まる限り、倍精度の演算は
丸めを起こさない。ここではそれを浮動小数点数の論理的な模型（`Float.Model`、`UnpackedFloat`）の
上で示す。

* `scaled z k` — `z / 2^k` の正規の形（仮数を 53 ビットにそろえる）。0 は正の 0。
* `ofInt_eq` — 整数から変換した値は `scaled z 0`。
* `IsInt x z` — 値 `x` が整数 `z` をちょうど表す。0 は負の 0 でもよい（正の 0 と負の数の積は
  負の 0 になる）。
* `IsInt.add`、`IsInt.sub`、`IsInt.mul`、`IsInt.neg` — 結果が範囲に収まれば、演算は整数の演算と
  一致する。
* `IsInt.lt_zero_iff` — 負かどうかは整数の符号で決まる。
* `IsInt.div_two` — 0 でない整数を 2 で割ると、指数が一つさがるだけ。

## 仕組み

正規化・丸めは、仮数を左にずらして 53 ビットにそろえ、落とすビットがすべて 0 なので丸めの印が
立たない、という一つの計算に帰着する（`round_shiftLeft`、`roundWithAccuracy_canonical`）。
-/

namespace DropletVision

open Float.Model Float.Model.UnpackedFloat

namespace Binary64

/-- 正の整数を 53 ビットの仮数にそろえるときの左シフトの量。 -/
def lead (n : Nat) : Nat := 52 - n.log2

theorem log2_lt_of_lt {n : Nat} (hn : n < 2 ^ 53) : n.log2 ≤ 52 := by
  rcases Nat.eq_zero_or_pos n with rfl | hpos
  · simp
  · have := (Nat.log2_lt (Nat.pos_iff_ne_zero.1 hpos)).2 hn
    omega

/-- そろえた仮数はちょうど 53 ビット。 -/
theorem shiftLeft_lead_mem {n : Nat} (h0 : 0 < n) (hn : n < 2 ^ 53) :
    2 ^ 52 ≤ n <<< lead n ∧ n <<< lead n < 2 ^ 53 := by
  have hl := log2_lt_of_lt hn
  have h1 := Nat.log2_self_le (Nat.pos_iff_ne_zero.1 h0)
  have h2 := @Nat.lt_log2_self n
  rw [Nat.shiftLeft_eq, lead]
  constructor
  · calc 2 ^ 52 = 2 ^ n.log2 * 2 ^ (52 - n.log2) := by rw [← Nat.pow_add]; congr 1; omega
      _ ≤ n * 2 ^ (52 - n.log2) := Nat.mul_le_mul_right _ h1
  · calc n * 2 ^ (52 - n.log2) < 2 ^ (n.log2 + 1) * 2 ^ (52 - n.log2) :=
          Nat.mul_lt_mul_of_pos_right h2 (by positivity)
      _ = 2 ^ 53 := by rw [← Nat.pow_add]; congr 1; omega

theorem log2_shiftLeft {n : Nat} (h0 : 0 < n) (t : Nat) : (n <<< t).log2 = n.log2 + t := by
  rw [Nat.log2_eq_iff (by rw [Nat.shiftLeft_eq]; positivity), Nat.shiftLeft_eq]
  have h1 := Nat.log2_self_le (Nat.pos_iff_ne_zero.1 h0)
  have h2 := @Nat.lt_log2_self n
  constructor
  · rw [Nat.pow_add]; exact Nat.mul_le_mul_right _ h1
  · rw [show n.log2 + t + 1 = (n.log2 + 1) + t by omega, Nat.pow_add]
    exact Nat.mul_lt_mul_of_pos_right h2 (by positivity)

/-- 落とすビットがすべて 0 なら、右シフトは丸めの印を立てない。 -/
theorem shiftRight_shiftLeft (m t : Nat) :
    (⟨m <<< t, false, false⟩ : ExtendedMantissa) >>> t = ⟨m, false, false⟩ := by
  induction t generalizing m with
  | zero => rfl
  | succ t ih =>
    show ExtendedMantissa.shiftRightOne (Nat.repeat ExtendedMantissa.shiftRightOne t _) = _
    have h : m <<< (t + 1) = (2 * m) <<< t := by
      simp only [Nat.shiftLeft_eq, Nat.pow_succ]; ring
    have ih' : Nat.repeat ExtendedMantissa.shiftRightOne t ⟨(2 * m) <<< t, false, false⟩ =
        ⟨2 * m, false, false⟩ := ih (2 * m)
    rw [h, ih']
    simp [ExtendedMantissa.shiftRightOne]

/-- 53 ビットの仮数 `m` と指数 `e` が倍精度の正規の数のとき、`t` ビット左にずらした仮数を
目標の指数へ戻すと、落ちるビットはどれも 0 で元の仮数に戻る。 -/
theorem shiftToTargetExponent_canonical {m : Nat} {e : Int} (hm : 2 ^ 52 ≤ m ∧ m < 2 ^ 53)
    (he : -1074 ≤ e) (t : Nat) :
    shiftToTargetExponent .binary64 (m <<< t) (e - t) .exact = (⟨m, false, false⟩, e) := by
  have hlog : (m <<< t).log2 = 52 + t := by
    rw [log2_shiftLeft (by omega) t, (Nat.log2_eq_iff (by omega)).2 ⟨hm.1, hm.2⟩]
  have htarget : Format.binary64.targetExponent (totalExponent (m <<< t) (e - t)) = e := by
    have hb : Format.binary64.mantissaBits = 53 := rfl
    have hmin : Format.binary64.minExponent = -1074 := by decide
    simp only [Format.targetExponent, totalExponent, hlog, hb, hmin]
    omega
  simp only [shiftToTargetExponent, shiftToExponent, htarget,
    ExtendedMantissa.ofMantissaAndAccuracy]
  rw [show (e - (e - t)).toNat = t by omega, shiftRight_shiftLeft]
  simp

/-- 丸めの印が立たないので、丸めは仮数も指数も変えない。 -/
theorem roundWithAccuracy_canonical (s : Sign) {m : Nat} {e : Int} (hm : 2 ^ 52 ≤ m ∧ m < 2 ^ 53)
    (he : -1074 ≤ e) (t : Nat) :
    roundWithAccuracy .binary64 s (m <<< t) (e - t) .exact = .finite s m e (by omega) := by
  have h0 := shiftToTargetExponent_canonical hm he 0
  simp only [Nat.shiftLeft_zero, Nat.cast_zero, Int.sub_zero] at h0
  simp only [roundWithAccuracy, shiftToTargetExponent_canonical hm he t,
    ExtendedMantissa.roundedMantissa, ExtendedMantissa.accuracy, Accuracy.roundToNearestEven, h0]
  rw [dif_neg (by omega)]

theorem log2_lead {n : Nat} (hn : n < 2 ^ 53) : n.log2 + lead n = 52 := by
  have := log2_lt_of_lt hn
  unfold lead
  omega

/-- 整数 `n · 2^J` を指数 `-J` から丸めると、`n` を 53 ビットにそろえた正規の形になる
（`n < 2^53` なので丸めは起きない）。 -/
theorem round_shiftLeft (s : Sign) {n : Nat} (h0 : 0 < n) (hn : n < 2 ^ 53) (J : Nat) :
    UnpackedFloat.round .binary64 s (n <<< J) (-(J : Int)) =
      .finite s (n <<< lead n) (-(lead n : Int)) (by rw [Nat.shiftLeft_eq]; positivity) := by
  have hc := shiftLeft_lead_mem h0 hn
  have hl := log2_lead hn
  have htarget : Format.binary64.targetExponent (totalExponent (n <<< J) (-(J : Int))) =
      -(lead n : Int) := by
    have hb : Format.binary64.mantissaBits = 53 := rfl
    have hmin : Format.binary64.minExponent = -1074 := by decide
    simp only [Format.targetExponent, totalExponent, log2_shiftLeft h0, hb, hmin]
    omega
  simp only [UnpackedFloat.round, htarget, decreaseExponent]
  have hr := roundWithAccuracy_canonical s hc (by omega : (-1074 : Int) ≤ -(lead n : Int))
  by_cases hJ : J ≤ lead n
  · -- 仮数の桁が足りないので、左にずらして 53 ビットにそろえる
    have h1 : n <<< J <<< (-(J : Int) - -(lead n : Int)).toNat = (n <<< lead n) <<< 0 := by
      rw [← Nat.shiftLeft_add, Nat.shiftLeft_zero]
      congr 1
      omega
    have h2 : -(J : Int) - ((-(J : Int) - -(lead n : Int)).toNat : Int) = -(lead n : Int) - (0 : Nat) := by
      omega
    rw [h1, h2, hr 0]
  · -- 仮数に余分な 0 のビットがあるので、丸めで右にずらす
    have h1 : n <<< J <<< (-(J : Int) - -(lead n : Int)).toNat = (n <<< lead n) <<< (J - lead n) := by
      rw [← Nat.shiftLeft_add, ← Nat.shiftLeft_add]
      congr 1
      omega
    have h2 : -(J : Int) - ((-(J : Int) - -(lead n : Int)).toNat : Int) =
        -(lead n : Int) - ((J - lead n : Nat) : Int) := by
      omega
    rw [h1, h2, hr (J - lead n)]

/-- 整数の符号。 -/
def signOf (z : Int) : Sign := if z < 0 then .negative else .positive

/-- `|z| < 2^53` の整数 `z` を `2^k` で割った値の、倍精度の正規の形（仮数 53 ビット）。
0 は正の 0。 -/
def scaled (z : Int) (k : Nat) : UnpackedFloat :=
  if h : z = 0 then .zero .positive
  else .finite (signOf z) (z.natAbs <<< lead z.natAbs) (-(lead z.natAbs : Int) - k)
    (by rw [Nat.shiftLeft_eq]; exact Nat.mul_pos (Int.natAbs_pos.2 h) (by positivity))

theorem scaled_of_ne_zero {z : Int} (h : z ≠ 0) (k : Nat) :
    scaled z k = .finite (signOf z) (z.natAbs <<< lead z.natAbs) (-(lead z.natAbs : Int) - k)
      (by rw [Nat.shiftLeft_eq]; exact Nat.mul_pos (Int.natAbs_pos.2 h) (by positivity)) :=
  dif_neg h

@[simp] theorem scaled_zero (k : Nat) : scaled 0 k = .zero .positive := rfl

/-- 整数 `z · 2^J` を指数 `-J` から正規化すると `z` の正規の形。 -/
theorem normalize_eq_scaled {z : Int} (hz : z.natAbs < 2 ^ 53) (J : Nat) :
    UnpackedFloat.normalize .binary64 (z * 2 ^ J) (-(J : Int)) .positive = scaled z 0 := by
  have hP : (0 : Int) < 2 ^ J := by positivity
  rcases lt_trichotomy z 0 with hneg | rfl | hpos
  · have hc : compare (z * 2 ^ J) 0 = .lt := compare_lt_iff_lt.2 (Int.mul_neg_of_neg_of_pos hneg hP)
    have hm : (-(z * 2 ^ J)).toNat = z.natAbs <<< J := by
      rw [Nat.shiftLeft_eq, ← Int.toNat_natCast (z.natAbs * 2 ^ J)]
      push_cast
      rw [abs_of_neg hneg]
      ring_nf
    simp only [UnpackedFloat.normalize, hc, hm, round_shiftLeft _ (Int.natAbs_pos.2 hneg.ne) hz J,
      scaled_of_ne_zero hneg.ne, signOf, if_pos hneg, Nat.cast_zero, Int.sub_zero]
  · simp [UnpackedFloat.normalize]
  · have hc : compare (z * 2 ^ J) 0 = .gt := compare_gt_iff_gt.2 (Int.mul_pos hpos hP)
    have hm : (z * 2 ^ J).toNat = z.natAbs <<< J := by
      rw [Nat.shiftLeft_eq, ← Int.toNat_natCast (z.natAbs * 2 ^ J)]
      push_cast
      rw [abs_of_pos hpos]
    simp only [UnpackedFloat.normalize, hc, hm, round_shiftLeft _ (Int.natAbs_pos.2 hpos.ne') hz J,
      scaled_of_ne_zero hpos.ne', signOf, if_neg (not_lt.2 hpos.le), Nat.cast_zero, Int.sub_zero]

theorem unpackSign_packComponents {spec : Format} {sign exponent mantissa} :
    unpackSign (packComponents spec sign exponent mantissa) = sign.toBitVec := by
  ext i hi
  obtain rfl : i = 0 := by omega
  have he := spec.he
  rw [← BitVec.getLsbD_eq_getElem, ← BitVec.getLsbD_eq_getElem]
  simp only [unpackSign, packComponents, BitVec.getLsbD_cast, BitVec.getLsbD_extractLsb,
    BitVec.getLsbD_append]
  rw [if_neg (by omega), if_neg (by omega)]
  simp

theorem Sign.ofBitVec_toBitVec (s : Sign) : Sign.ofBitVec s.toBitVec = s := by
  cases s <;> rfl

/-- 倍精度の正規の数は、詰めて開くと元に戻る。 -/
theorem unpack_pack_finite (s : Sign) {m : Nat} {e : Int} (hm : 2 ^ 52 ≤ m ∧ m < 2 ^ 53)
    (he : -1074 ≤ e ∧ e ≤ 971) (hpos : 0 < m) :
    UnpackedFloat.unpack .binary64 (UnpackedFloat.pack .binary64 (.finite s m e hpos)) =
      .finite s m e hpos := by
  have hlog : m.log2 = 52 := (Nat.log2_eq_iff (by omega)).2 ⟨hm.1, hm.2⟩
  have hbias : Format.binary64.exponentBias = 1023 := by decide
  have hexp : (e + (Format.binary64.exponentBias : Int) + 52).toNat < 2047 := by rw [hbias]; omega
  have hmb : Format.binary64.mantissaBits = 53 := rfl
  simp only [UnpackedFloat.pack, hlog, hbias, hmb]
  rw [if_neg (by omega), if_pos trivial]
  have hB : (BitVec.ofNat 11 (e + (1023 : Nat) + (52 : Nat)).toNat).toNat = (e + 1075).toNat := by
    rw [BitVec.toNat_ofNat]
    omega
  have hmant : (1#1 ++ BitVec.ofNat 52 m).toNat = m := by
    rw [BitVec.toNat_append, BitVec.toNat_ofNat, BitVec.toNat_ofNat,
      ← Nat.shiftLeft_add_eq_or_of_lt (Nat.mod_lt _ (by positivity)), Nat.shiftLeft_eq]
    omega
  simp only [UnpackedFloat.unpack, unpackMantissa_packComponents, unpackExponent_packComponents,
    unpackSign_packComponents, Sign.ofBitVec_toBitVec, hbias]
  rw [if_neg (fun h => by have := congrArg BitVec.toNat h; rw [hB] at this; simp at this; omega),
    if_neg (fun h => by have := congrArg BitVec.toNat h; rw [hB] at this; simp at this; omega)]
  simp only [finite.injEq, true_and, hmant, hB]
  omega

theorem unpack_pack_zero (s : Sign) :
    UnpackedFloat.unpack .binary64 (UnpackedFloat.pack .binary64 (.zero s)) = .zero s := by
  cases s <;> rfl

/-- 正規の形は、詰めて開くと元に戻る。 -/
theorem unpack_pack_scaled {z : Int} (hz : z.natAbs < 2 ^ 53) {k : Nat} (hk : k ≤ 1000) :
    UnpackedFloat.unpack .binary64 (UnpackedFloat.pack .binary64 (scaled z k)) = scaled z k := by
  by_cases h0 : z = 0
  · subst h0
    exact unpack_pack_zero _
  · have hl := log2_lead hz
    rw [scaled_of_ne_zero h0]
    exact unpack_pack_finite _ (shiftLeft_lead_mem (Int.natAbs_pos.2 h0) hz) (by omega) _

/-- 符号を付けた `|a| · 2^J` は `a · 2^J`。 -/
theorem apply_signOf (a : Int) (J : Nat) :
    (signOf a).apply ((a.natAbs <<< J : Nat) : Int) = a * 2 ^ J := by
  rw [Nat.shiftLeft_eq]
  push_cast
  by_cases h : a < 0
  · simp only [signOf, if_pos h, Sign.apply, abs_of_neg h]
    ring
  · simp only [signOf, if_neg h, Sign.apply, abs_of_nonneg (not_lt.1 h)]

/-- 指数を `-J` までさげると、仮数は `|a| · 2^J`。 -/
theorem decreaseExponent_lead {a : Int} {J : Nat} (hJ : lead a.natAbs ≤ J) :
    decreaseExponent (a.natAbs <<< lead a.natAbs) (-(lead a.natAbs : Int) - ((0 : Nat) : Int))
      (-(J : Int)) = (a.natAbs <<< J, -(J : Int)) := by
  simp only [decreaseExponent, Prod.mk.injEq]
  constructor
  · rw [← Nat.shiftLeft_add]
    congr 1
    omega
  · omega

/-- 二つの正規の形の指数の小さい方は、そろえる量の大きい方の分だけさがった指数。 -/
theorem min_exponent_scaled (a b : Int) :
    min (-(lead a.natAbs : Int) - ((0 : Nat) : Int)) (-(lead b.natAbs : Int) - ((0 : Nat) : Int)) =
      -((max (lead a.natAbs) (lead b.natAbs) : Nat) : Int) := by
  omega

/-- 二つの整数の正規の形の和は、和の正規の形（和が `2^53` 未満なら丸めは起きない）。 -/
theorem add_scaled {a b : Int} (ha : a ≠ 0) (hb : b ≠ 0) (hab : (a + b).natAbs < 2 ^ 53) :
    UnpackedFloat.add .binary64 (scaled a 0) (scaled b 0) = scaled (a + b) 0 := by
  rw [scaled_of_ne_zero ha, scaled_of_ne_zero hb]
  simp only [UnpackedFloat.add]
  rw [min_exponent_scaled, decreaseExponent_lead (le_max_left _ _), decreaseExponent_lead (le_max_right _ _)]
  simp only [apply_signOf, ← add_mul]
  exact normalize_eq_scaled hab _

/-- 二つの整数の正規の形の差は、差の正規の形。 -/
theorem sub_scaled {a b : Int} (ha : a ≠ 0) (hb : b ≠ 0) (hab : (a - b).natAbs < 2 ^ 53) :
    UnpackedFloat.sub .binary64 (scaled a 0) (scaled b 0) = scaled (a - b) 0 := by
  rw [scaled_of_ne_zero ha, scaled_of_ne_zero hb]
  simp only [UnpackedFloat.sub]
  rw [min_exponent_scaled, decreaseExponent_lead (le_max_left _ _), decreaseExponent_lead (le_max_right _ _)]
  simp only [apply_signOf, ← sub_mul]
  exact normalize_eq_scaled hab _

theorem signOf_mul {a b : Int} (ha : a ≠ 0) (hb : b ≠ 0) : signOf a * signOf b = signOf (a * b) := by
  unfold signOf
  rcases lt_or_gt_of_ne ha with ha | ha <;> rcases lt_or_gt_of_ne hb with hb | hb
  · rw [if_pos ha, if_pos hb, if_neg (not_lt.2 (Int.mul_nonneg_of_nonpos_of_nonpos ha.le hb.le))]
    rfl
  · rw [if_pos ha, if_neg (not_lt.2 hb.le), if_pos (Int.mul_neg_of_neg_of_pos ha hb)]
    rfl
  · rw [if_neg (not_lt.2 ha.le), if_pos hb, if_pos (Int.mul_neg_of_pos_of_neg ha hb)]
    rfl
  · rw [if_neg (not_lt.2 ha.le), if_neg (not_lt.2 hb.le), if_neg (not_lt.2 (Int.mul_pos ha hb).le)]
    rfl

/-- 積の 2 の冪の指数は、因数の指数の和以上。 -/
theorem log2_add_log2_le_log2_mul {m n : Nat} (hm : 0 < m) (hn : 0 < n) :
    m.log2 + n.log2 ≤ (m * n).log2 := by
  rw [Nat.le_log2 (Nat.mul_pos hm hn).ne', Nat.pow_add]
  exact Nat.mul_le_mul (Nat.log2_self_le hm.ne') (Nat.log2_self_le hn.ne')

/-- 二つの整数の正規の形の積は、積の正規の形（積が `2^53` 未満なら丸めは起きない）。 -/
theorem mul_scaled {a b : Int} (ha : a ≠ 0) (hb : b ≠ 0) (ha' : a.natAbs < 2 ^ 53)
    (hb' : b.natAbs < 2 ^ 53) (hab : (a * b).natAbs < 2 ^ 53) :
    UnpackedFloat.mul .binary64 (scaled a 0) (scaled b 0) = scaled (a * b) 0 := by
  have hab0 : a * b ≠ 0 := Int.mul_ne_zero ha hb
  rw [scaled_of_ne_zero ha, scaled_of_ne_zero hb, scaled_of_ne_zero hab0]
  simp only [UnpackedFloat.mul]
  have hlog := log2_add_log2_le_log2_mul (Int.natAbs_pos.2 ha) (Int.natAbs_pos.2 hb)
  have hlog' : a.natAbs.log2 + b.natAbs.log2 ≤ (a * b).natAbs.log2 := by
    rw [Int.natAbs_mul]; exact hlog
  have hla := log2_lead ha'
  have hlb := log2_lead hb'
  have hlab := log2_lead hab
  -- 仮数の積は、積を 53 ビットにそろえたものをさらに左にずらしたもの
  have hm : (a.natAbs <<< lead a.natAbs) * (b.natAbs <<< lead b.natAbs) =
      ((a * b).natAbs <<< lead (a * b).natAbs) <<<
        (lead a.natAbs + lead b.natAbs - lead (a * b).natAbs) := by
    rw [Int.natAbs_mul] at hlab ⊢
    simp only [Nat.shiftLeft_eq]
    rw [Nat.mul_assoc (a.natAbs * b.natAbs), ← Nat.pow_add,
      show lead (a.natAbs * b.natAbs) + (lead a.natAbs + lead b.natAbs - lead (a.natAbs * b.natAbs)) =
        lead a.natAbs + lead b.natAbs by omega, Nat.pow_add]
    ring
  have he : -(lead a.natAbs : Int) - ((0 : Nat) : Int) + (-(lead b.natAbs : Int) - ((0 : Nat) : Int)) =
      -(lead (a * b).natAbs : Int) - ((lead a.natAbs + lead b.natAbs - lead (a * b).natAbs : Nat) : Int) := by
    omega
  rw [hm, he, signOf_mul ha hb, roundWithAccuracy_canonical _
    (shiftLeft_lead_mem (Int.natAbs_pos.2 hab0) hab) (by omega)]
  simp

/-- 0 でない整数の正規の形の符号を変えると、符号を変えた整数の正規の形。 -/
theorem neg_scaled {a : Int} (ha : a ≠ 0) (k : Nat) : (scaled a k).neg = scaled (-a) k := by
  rw [scaled_of_ne_zero ha, scaled_of_ne_zero (Int.neg_ne_zero.2 ha)]
  simp only [UnpackedFloat.neg, Int.natAbs_neg, finite.injEq, and_true]
  rcases lt_or_gt_of_ne ha with h | h
  · rw [signOf, signOf, if_pos h, if_neg (by omega)]
    rfl
  · rw [signOf, signOf, if_neg (by omega), if_pos (by omega)]
    rfl

theorem scaled_two : scaled 2 0 = .finite .positive (2 ^ 52) (-51) (by positivity) := rfl

/-- 0 でない正規の形を 2 で割ると、指数が一つさがるだけ（丸めは起きない）。 -/
theorem div_scaled_two {z : Int} (hz : z ≠ 0) (hz' : z.natAbs < 2 ^ 53) {k : Nat} (hk : k ≤ 1000) :
    UnpackedFloat.div .binary64 (scaled z k) (scaled 2 0) = scaled z (k + 1) := by
  have hc := shiftLeft_lead_mem (Int.natAbs_pos.2 hz) hz'
  have hl := log2_lead hz'
  have hlog : (z.natAbs <<< lead z.natAbs).log2 = 52 := (Nat.log2_eq_iff (by omega)).2 hc
  rw [scaled_two, scaled_of_ne_zero hz, scaled_of_ne_zero hz]
  have hb : Format.binary64.mantissaBits = 53 := rfl
  have hmin : Format.binary64.minExponent = -1074 := by decide
  have htarget : min (-(lead z.natAbs : Int) - (k : Int) - -51)
      (Format.binary64.targetExponent (totalExponent (z.natAbs <<< lead z.natAbs)
        (-(lead z.natAbs : Int) - (k : Int)) - totalExponent (2 ^ 52) (-51))) =
      -(lead z.natAbs : Int) - (k : Int) - 2 := by
    have h52 : (2 ^ 52 : Nat).log2 = 52 := Nat.log2_two_pow
    simp only [Format.targetExponent, totalExponent, hlog, h52, hb, hmin]
    omega
  have hshift : (-(lead z.natAbs : Int) - (k : Int) - -51 - (-(lead z.natAbs : Int) - (k : Int) - 2)).toNat = 53 := by
    omega
  have hdiv : (z.natAbs <<< lead z.natAbs) <<< 53 / 2 ^ 52 = (z.natAbs <<< lead z.natAbs) <<< 1 := by
    simp only [Nat.shiftLeft_eq, pow_one]
    rw [show 2 ^ 53 = 2 * 2 ^ 52 by norm_num, ← Nat.mul_assoc, Nat.mul_div_cancel _ (by positivity)]
  have hmod : (z.natAbs <<< lead z.natAbs) <<< 53 % 2 ^ 52 = 0 := by
    rw [Nat.shiftLeft_eq, show 2 ^ 53 = 2 * 2 ^ 52 by norm_num, ← Nat.mul_assoc]
    exact Nat.mul_mod_left _ _
  have hsign : signOf z / Sign.positive = signOf z := by cases signOf z <;> rfl
  simp only [UnpackedFloat.div, divCore, htarget, hshift, hdiv, hmod, accuracyOfFraction, if_true,
    hsign]
  rw [show -(lead z.natAbs : Int) - (k : Int) - 2 = (-(lead z.natAbs : Int) - ((k + 1 : Nat) : Int)) - ((1 : Nat) : Int)
    by push_cast; ring, roundWithAccuracy_canonical _ hc (by omega)]

/-- 整数を指数 0 から正規化すると、その正規の形。 -/
theorem ofInt_eq_scaled {z : Int} (hz : z.natAbs < 2 ^ 53) :
    UnpackedFloat.ofInt .binary64 z = scaled z 0 := by
  have h := normalize_eq_scaled hz 0
  rw [UnpackedFloat.ofInt]
  simpa using h

/-- 0 でない正規の形の絶対値は、絶対値の正規の形。 -/
theorem abs_scaled {z : Int} (hz : z ≠ 0) (k : Nat) : (scaled z k).abs = scaled z.natAbs k := by
  have hz' : (z.natAbs : Int) ≠ 0 := by omega
  rw [scaled_of_ne_zero hz, scaled_of_ne_zero hz']
  simp only [UnpackedFloat.abs, Int.natAbs_natCast, finite.injEq, and_true]
  rw [signOf, if_neg (by omega)]

/-! ## 倍精度の値 -/

/-- 詰めた倍精度の値。 -/
def toFloat (u : UnpackedFloat) : Float := .ofModel (Float.Model.pack u)

theorem toModel_unpack_toFloat (u : UnpackedFloat) :
    (toFloat u).toModel.unpack = UnpackedFloat.unpack .binary64 (UnpackedFloat.pack .binary64 u) :=
  rfl

/-- 詰め直し。演算は開いて計算し、詰める。 -/
def repack (u : UnpackedFloat) : UnpackedFloat :=
  UnpackedFloat.unpack .binary64 (UnpackedFloat.pack .binary64 u)

theorem toFloat_mul (u v : UnpackedFloat) :
    toFloat u * toFloat v = toFloat (UnpackedFloat.mul .binary64 (repack u) (repack v)) := rfl

theorem toFloat_neg (u : UnpackedFloat) : -toFloat u = toFloat (repack u).neg := rfl

theorem toFloat_abs (u : UnpackedFloat) : (toFloat u).abs = toFloat (repack u).abs := rfl

/-- 十の冪の表の先頭（`10^0`）は 1 の正規の形。 -/
theorem powersOfTen_zero (h : 0 < Float.exactlyRepresentablePowersOfTen.size) :
    Float.exactlyRepresentablePowersOfTen[0] = toFloat (scaled 1 0) := by
  rfl

/-- 自然数 `n < 2^53` の倍精度の値は、`n` の正規の形。 -/
theorem ofNat_eq {n : Nat} (hn : n < 2 ^ 53) : Float.ofNat n = toFloat (scaled n 0) := by
  have hconv : n.toUInt64.toFloat = toFloat (scaled n 0) := by
    show toFloat (UnpackedFloat.ofInt .binary64 (n.toUInt64.toNat : Int)) = _
    rw [UInt64.toNat_ofNat', Nat.mod_eq_of_lt (by omega), ofInt_eq_scaled (by simpa using hn)]
  show Float.ofScientific n false 0 = _
  rw [Float.ofScientific, dif_pos ⟨hn, by decide⟩]
  simp only [Bool.false_eq_true, if_false]
  rw [hconv, powersOfTen_zero (by decide), toFloat_mul, repack, repack, unpack_pack_scaled (by simpa using hn) (by decide),
    unpack_pack_scaled (by decide) (by decide)]
  by_cases h0 : (n : Int) = 0
  · rw [h0]
    rfl
  · rw [mul_scaled h0 one_ne_zero (by simpa using hn) (by decide) (by simpa using hn), mul_one]

/-- 整数 `|z| < 2^53` の倍精度の値は、`z` の正規の形。 -/
theorem ofInt_eq {z : Int} (hz : z.natAbs < 2 ^ 53) : Float.ofInt z = toFloat (scaled z 0) := by
  cases z with
  | ofNat n => exact ofNat_eq (by simpa using hz)
  | negSucc n =>
    have hn : n + 1 < 2 ^ 53 := by simpa [Int.natAbs_negSucc] using hz
    show -Float.ofNat (n + 1) = _
    rw [ofNat_eq hn, toFloat_neg, repack,
      unpack_pack_scaled (by rw [Int.natAbs_natCast]; exact hn) (by decide),
      neg_scaled (by omega)]
    rfl

/-! ## 整数をちょうど表す値 -/

/-- 開いた値 `u` が整数 `z` を表す：`z` の正規の形か、`z = 0` なら負の 0 でもよい。 -/
def Represents (u : UnpackedFloat) (z : Int) : Prop :=
  u = scaled z 0 ∨ z = 0 ∧ u = .zero .negative

theorem represents_zero (s : Sign) : Represents (.zero s) 0 := by
  cases s with
  | positive => exact .inl rfl
  | negative => exact .inr ⟨rfl, rfl⟩

theorem represents_cases {u : UnpackedFloat} {z : Int} (h : Represents u z) :
    z ≠ 0 ∧ u = scaled z 0 ∨ z = 0 ∧ ∃ s, u = .zero s := by
  by_cases hz : z = 0
  · subst hz
    rcases h with rfl | ⟨-, rfl⟩
    · exact .inr ⟨rfl, _, rfl⟩
    · exact .inr ⟨rfl, _, rfl⟩
  · rcases h with rfl | ⟨h0, -⟩
    · exact .inl ⟨hz, rfl⟩
    · exact absurd h0 hz

namespace Represents

variable {u v : UnpackedFloat} {a b : Int}

theorem repack (hu : Represents u a) (ha : a.natAbs < 2 ^ 53) : Represents (repack u) a := by
  rcases represents_cases hu with ⟨-, rfl⟩ | ⟨rfl, s, rfl⟩
  · exact .inl (unpack_pack_scaled ha (by decide))
  · rw [Binary64.repack, unpack_pack_zero]
    exact represents_zero s

theorem add (hu : Represents u a) (hv : Represents v b) (h : (a + b).natAbs < 2 ^ 53) :
    Represents (UnpackedFloat.add .binary64 u v) (a + b) := by
  rcases represents_cases hu with ⟨ha, rfl⟩ | ⟨rfl, s, rfl⟩ <;>
    rcases represents_cases hv with ⟨hb, rfl⟩ | ⟨rfl, t, rfl⟩
  · exact .inl (add_scaled ha hb h)
  · -- 0 を足しても変わらない（0 の符号によらない）
    rw [scaled_of_ne_zero ha, Int.add_zero]
    exact .inl (by rw [scaled_of_ne_zero ha]; rfl)
  · rw [scaled_of_ne_zero hb, Int.zero_add]
    exact .inl (by rw [scaled_of_ne_zero hb]; rfl)
  · simp only [UnpackedFloat.add, Int.add_zero]
    split
    · exact represents_zero s
    · exact represents_zero _

theorem sub (hu : Represents u a) (hv : Represents v b) (h : (a - b).natAbs < 2 ^ 53) :
    Represents (UnpackedFloat.sub .binary64 u v) (a - b) := by
  rcases represents_cases hu with ⟨ha, rfl⟩ | ⟨rfl, s, rfl⟩ <;>
    rcases represents_cases hv with ⟨hb, rfl⟩ | ⟨rfl, t, rfl⟩
  · exact .inl (sub_scaled ha hb h)
  · rw [scaled_of_ne_zero ha, Int.sub_zero]
    exact .inl (by rw [scaled_of_ne_zero ha]; rfl)
  · -- 0 から引くと符号が変わるだけ
    have hneg := neg_scaled hb 0
    rw [scaled_of_ne_zero hb] at hneg ⊢
    rw [Int.zero_sub]
    exact .inl hneg
  · simp only [UnpackedFloat.sub, Int.sub_zero]
    split
    · exact represents_zero s
    · exact represents_zero _

theorem mul (hu : Represents u a) (hv : Represents v b) (ha : a.natAbs < 2 ^ 53)
    (hb : b.natAbs < 2 ^ 53) (h : (a * b).natAbs < 2 ^ 53) :
    Represents (UnpackedFloat.mul .binary64 u v) (a * b) := by
  rcases represents_cases hu with ⟨ha0, rfl⟩ | ⟨rfl, s, rfl⟩ <;>
    rcases represents_cases hv with ⟨hb0, rfl⟩ | ⟨rfl, t, rfl⟩
  · exact .inl (mul_scaled ha0 hb0 ha hb h)
  · -- 0 との積は符号つきの 0
    rw [scaled_of_ne_zero ha0, Int.mul_zero]
    exact represents_zero _
  · rw [scaled_of_ne_zero hb0, Int.zero_mul]
    exact represents_zero _
  · rw [Int.mul_zero]
    exact represents_zero _

theorem neg (hu : Represents u a) : Represents u.neg (-a) := by
  rcases represents_cases hu with ⟨ha, rfl⟩ | ⟨rfl, s, rfl⟩
  · exact .inl (neg_scaled ha 0)
  · exact represents_zero _

end Represents

/-! ## 比較 -/

theorem compare_scaled_zero {z : Int} (hz : z ≠ 0) (k : Nat) (s : Sign) :
    (scaled z k).compare (.zero s) = some (if z < 0 then .lt else .gt) := by
  rw [scaled_of_ne_zero hz]
  by_cases h : z < 0
  · rw [signOf, if_pos h, if_pos h]
    rfl
  · rw [signOf, if_neg h, if_neg h]
    rfl

theorem unpack_zero : (0 : Float).toModel.unpack = .zero .positive := by rfl

theorem unpack_two : (2 : Float).toModel.unpack = scaled 2 0 := by rfl

/-- 正規の形の値の絶対値は、絶対値の正規の形。 -/
theorem abs_toFloat_scaled {z : Int} (hz : z.natAbs < 2 ^ 53) {k : Nat} (hk : k ≤ 1000) :
    (toFloat (scaled z k)).abs = toFloat (scaled z.natAbs k) := by
  rw [toFloat_abs, repack, unpack_pack_scaled hz hk]
  by_cases h : z = 0
  · subst h
    rfl
  · rw [abs_scaled h]

/-- 正規の形の値が 0 に等しいのは、整数が 0 のときに限る。 -/
theorem toFloat_scaled_beq_zero {z : Int} (hz : z.natAbs < 2 ^ 53) {k : Nat} (hk : k ≤ 1000) :
    (toFloat (scaled z k) == 0) = decide (z = 0) := by
  show (toFloat (scaled z k)).toModel.unpack.beq (0 : Float).toModel.unpack = _
  rw [toModel_unpack_toFloat, unpack_pack_scaled hz hk, unpack_zero]
  by_cases h : z = 0
  · subst h
    rfl
  · simp only [UnpackedFloat.beq, compare_scaled_zero h, decide_eq_false h]
    split <;> rfl

/-! ## 整数をちょうど表す倍精度の値 -/

/-- 倍精度の値 `x` が整数 `z`（`|z| < 2^53`）をちょうど表す。 -/
def IsInt (x : Float) (z : Int) : Prop := z.natAbs < 2 ^ 53 ∧ Represents x.toModel.unpack z

namespace IsInt

variable {x y : Float} {a b z : Int}

theorem ofInt (hz : z.natAbs < 2 ^ 53) : IsInt (Float.ofInt z) z := by
  refine ⟨hz, ?_⟩
  rw [ofInt_eq hz, toModel_unpack_toFloat, unpack_pack_scaled hz (by decide)]
  exact .inl rfl

theorem add (hx : IsInt x a) (hy : IsInt y b) (h : (a + b).natAbs < 2 ^ 53) :
    IsInt (x + y) (a + b) :=
  ⟨h, (hx.2.add hy.2 h).repack h⟩

theorem sub (hx : IsInt x a) (hy : IsInt y b) (h : (a - b).natAbs < 2 ^ 53) :
    IsInt (x - y) (a - b) :=
  ⟨h, (hx.2.sub hy.2 h).repack h⟩

theorem mul (hx : IsInt x a) (hy : IsInt y b) (h : (a * b).natAbs < 2 ^ 53) :
    IsInt (x * y) (a * b) :=
  ⟨h, (hx.2.mul hy.2 hx.1 hy.1 h).repack h⟩

theorem neg (hx : IsInt x a) : IsInt (-x) (-a) :=
  ⟨by rw [Int.natAbs_neg]; exact hx.1, hx.2.neg.repack (by rw [Int.natAbs_neg]; exact hx.1)⟩

/-- 整数を表す値が負なのは、整数が負のときに限る（0 は符号によらず負でない）。 -/
theorem lt_zero_iff (hx : IsInt x z) : x < 0 ↔ z < 0 := by
  show Float.lt x 0 = true ↔ z < 0
  simp only [Float.lt, decide_eq_true_eq]
  show x.toModel.unpack.lt (0 : Float).toModel.unpack = true ↔ z < 0
  rw [unpack_zero]
  rcases represents_cases hx.2 with ⟨hz, hu⟩ | ⟨rfl, s, hu⟩
  · rw [hu]
    simp only [UnpackedFloat.lt, compare_scaled_zero hz]
    by_cases h : z < 0 <;> simp [h]
  · rw [hu]
    cases s <;> simp [UnpackedFloat.lt, UnpackedFloat.compare]

/-- 0 でない整数を表す値を 2 で割ると、丸めずに指数が一つさがる。 -/
theorem div_two (hx : IsInt x z) (hz : z ≠ 0) : x / 2 = toFloat (scaled z 1) := by
  have hu : x.toModel.unpack = scaled z 0 := by
    rcases represents_cases hx.2 with ⟨-, hu⟩ | ⟨h0, -⟩
    · exact hu
    · exact absurd h0 hz
  show toFloat (UnpackedFloat.div .binary64 x.toModel.unpack (2 : Float).toModel.unpack) = _
  rw [hu, unpack_two, div_scaled_two hz hx.1 (by decide)]

/-- 整数を表す値を 2 で割った絶対値は `|z| / 2` の正規の形（0 は正の 0）。 -/
theorem abs_div_two (hx : IsInt x z) : (x / 2).abs = toFloat (scaled z.natAbs 1) := by
  rcases represents_cases hx.2 with ⟨hz, -⟩ | ⟨rfl, s, hu⟩
  · rw [hx.div_two hz, abs_toFloat_scaled hx.1 (by decide)]
  · show toFloat (repack (UnpackedFloat.div .binary64 x.toModel.unpack (2 : Float).toModel.unpack)).abs = _
    rw [hu, unpack_two]
    cases s <;> rfl

end IsInt

end Binary64

end DropletVision
