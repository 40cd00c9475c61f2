import Mathlib
import DropletVision.Decimal.Text

/-!
# 桁数を固定した表示の形

`Decimal.fixedDecoded places` が書く文字列の形。

* `Decimal.FixedText places s` — `s` は、負なら `-`、一桁以上の整数部、小数点、ちょうど
  `places` 桁の小数部がこの順に並び、部分はどれも数字だけからなる。
* `Decimal.fixedDecoded_finite` — 有限の値は、`places ≥ 1` ならこの形に書かれる。
* `Decimal.fixedDouble_fixedText_iff` — 倍精度の値がこの形に書かれるのは、有限のときに限る
  （NaN と無限大は `NaN`、`inf`、`-inf` で、小数点を持たない）。
* `Decimal.mem_fixedDouble` — 書かれる文字は数字か `-`、`.`、`NaN`、`inf` の文字。

有限かどうかは、ビット列の指数部がすべて 1 でないことで決まる。`Float.isFinite` も `decodeDouble`
も同じ 11 ビットを見る（`isFinite_iff_exponent`、`decode_finite_iff_exponent`）。
-/

namespace DropletVision.Decimal

/-- 小数点以下ちょうど `places` 桁の十進表記：負なら `-`、一桁以上の整数部、小数点、`places`
桁の小数部。 -/
def FixedText (places : Nat) (s : String) : Prop :=
  ∃ (neg : Bool) (intPart fracPart : List Char),
    s.toList = (if neg then ['-'] else []) ++ intPart ++ '.' :: fracPart ∧
    intPart ≠ [] ∧ fracPart.length = places ∧ ∀ c ∈ intPart ++ fracPart, c.isDigit

theorem FixedText.dot_mem {places : Nat} {s : String} (h : FixedText places s) : '.' ∈ s.toList := by
  obtain ⟨_, _, _, hs, -⟩ := h
  simp [hs]

/-- 数字の列の前に `0` を足して `places + 1` 桁以上にした列。 -/
theorem padded_digits (places n : Nat) :
    places + 1 ≤ (List.replicate (places + 1 - (Nat.toDigits 10 n).length) '0' ++
        Nat.toDigits 10 n).length ∧
      ∀ c ∈ List.replicate (places + 1 - (Nat.toDigits 10 n).length) '0' ++ Nat.toDigits 10 n,
        c.isDigit := by
  refine ⟨by simp only [List.length_append, List.length_replicate]; omega, ?_⟩
  intro c hc
  rcases List.mem_append.1 hc with hz | hd
  · rw [List.eq_of_mem_replicate hz]
    rfl
  · exact Nat.isDigit_of_mem_toDigits (by decide) (by decide) hd

/-- 有限の値は、符号、整数部、小数点、`places` 桁の小数部の形に書かれる。 -/
theorem fixedDecoded_finite {places : Nat} (hp : 0 < places) (sp : SpecialSpelling) (neg : Bool)
    (m : Nat) (e : Int) (b : Bool) : FixedText places (fixedDecoded places sp (.finite neg m e b)) := by
  unfold fixedDecoded
  dsimp only
  -- 丸めた整数の値そのものは形に関わらない
  generalize (if 0 ≤ e then _ else _) = scaled
  obtain ⟨hlen, hdig⟩ := padded_digits places scaled
  generalize List.replicate (places + 1 - (Nat.toDigits 10 scaled).length) '0' ++
    Nat.toDigits 10 scaled = ds at hlen hdig
  refine ⟨neg, ds.take (ds.length - places), ds.drop (ds.length - places), ?_, ?_, ?_, ?_⟩
  · rw [if_neg (show places ≠ 0 by omega)]
    cases neg <;> simp
  · intro h
    have := congrArg List.length h
    simp only [List.length_take, List.length_nil] at this
    omega
  · simp only [List.length_drop]
    omega
  · rw [List.take_append_drop]
    exact hdig

open Float.Model in
/-- 指数部の 11 ビットは、ビット列を `2^52` で割った余りの `2^11` による剰余。 -/
theorem unpackExponent_eq_allOnes_iff (x : Float) :
    @UnpackedFloat.unpackExponent Format.binary64 x.toModel.toBits.toBitVec = -1#11 ↔
      (x.toBits.toNat / 2 ^ 52) % 2 ^ 11 = 2 ^ 11 - 1 := by
  rw [← BitVec.toNat_inj]
  simp [UnpackedFloat.unpackExponent, Nat.shiftRight_eq_div_pow]
  rfl

/-- 倍精度の値が有限なのは、指数部がすべて 1 ではないとき。 -/
theorem isFinite_iff_exponent (x : Float) :
    x.isFinite = true ↔ (x.toBits.toNat / 2 ^ 52) % 2 ^ 11 ≠ 2 ^ 11 - 1 := by
  rw [ne_eq, ← unpackExponent_eq_allOnes_iff]
  simp only [Float.isFinite, Float.Model.isFinite, Float.Model.unpack,
    Float.Model.UnpackedFloat.unpack]
  split_ifs <;> simp_all [Float.Model.UnpackedFloat.isFinite]

/-- ビット列を分けた結果が有限の値なのは、指数部がすべて 1 ではないとき。 -/
theorem decode_finite_iff_exponent (n : Nat) :
    (∃ neg m e b, BinaryFormat.double.decode n = .finite neg m e b) ↔
      (n / 2 ^ 52) % 2 ^ 11 ≠ 2 ^ 11 - 1 := by
  dsimp only [BinaryFormat.decode, BinaryFormat.double, Nat.pow_eq]
  split_ifs <;> simp_all

theorem decodeDouble_finite_iff (x : Float) :
    (∃ neg m e b, decodeDouble x = .finite neg m e b) ↔ x.isFinite = true := by
  rw [isFinite_iff_exponent]
  exact decode_finite_iff_exponent _

/-- 倍精度の値が小数点以下 `places` 桁の形に書かれるのは、有限のときに限る。 -/
theorem fixedDouble_fixedText_iff {places : Nat} (hp : 0 < places) (x : Float) :
    FixedText places (fixedDouble places x) ↔ x.isFinite = true := by
  rw [← decodeDouble_finite_iff]
  unfold fixedDouble
  constructor
  · intro h
    -- 有限でなければ `NaN`、`inf`、`-inf` で、小数点が無い
    have hdot := h.dot_mem
    cases hd : decodeDouble x with
    | nan => simp [hd, fixedDecoded, SpecialSpelling.plain] at hdot
    | infinite neg => cases neg <;> simp [hd, fixedDecoded, SpecialSpelling.plain] at hdot
    | finite neg m e b => exact ⟨neg, m, e, b, rfl⟩
  · rintro ⟨neg, m, e, b, hd⟩
    rw [hd]
    exact fixedDecoded_finite hp _ neg m e b

/-- `NaN`、`inf`、`-inf` と符号・小数点に現れる、数字でない文字。 -/
def numeralMarks : List Char := ['-', '.', 'N', 'a', 'i', 'n', 'f']

/-- 桁数を固定した表示に現れる文字は、数字か `numeralMarks` のどれか。 -/
theorem mem_fixedDecoded {places : Nat} {d : Decoded} {c : Char}
    (hc : c ∈ (fixedDecoded places .plain d).toList) : c.isDigit ∨ c ∈ numeralMarks := by
  cases d with
  | nan =>
    simp [fixedDecoded, SpecialSpelling.plain] at hc
    rcases hc with rfl | rfl | rfl <;> simp [numeralMarks]
  | infinite neg =>
    cases neg <;> simp [fixedDecoded, SpecialSpelling.plain] at hc <;>
      rcases hc with rfl | rfl | rfl | rfl <;> simp [numeralMarks]
  | finite neg m e b =>
    simp only [fixedDecoded] at hc
    generalize (if 0 ≤ e then _ else _) = scaled at hc
    obtain ⟨-, hdig⟩ := padded_digits places scaled
    generalize List.replicate (places + 1 - (Nat.toDigits 10 scaled).length) '0' ++
      Nat.toDigits 10 scaled = ds at hc hdig
    -- 符号と小数点のほかは、数字の列 `ds` の前の部分か後の部分
    have htake : ∀ k, c ∈ ds.take k → c.isDigit := fun k h => hdig c (List.mem_of_mem_take h)
    have hdrop : ∀ k, c ∈ ds.drop k → c.isDigit := fun k h => hdig c (List.mem_of_mem_drop h)
    split_ifs at hc <;> simp [numeralMarks] at hc ⊢ <;> grind

theorem mem_fixedDouble {places : Nat} {x : Float} {c : Char}
    (hc : c ∈ (fixedDouble places x).toList) : c.isDigit ∨ c ∈ numeralMarks :=
  mem_fixedDecoded hc

end DropletVision.Decimal
