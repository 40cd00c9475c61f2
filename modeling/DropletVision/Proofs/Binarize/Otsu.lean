import Mathlib
import DropletVision.Binarize.Threshold
import DropletVision.Proofs.Background.Median
import DropletVision.Proofs.Binarize.Adaptive
import DropletVision.Proofs.Morphology.Pixels
import DropletVision.Proofs.Statistics.Counting

/-!
# 大津の方法は、クラス間分散を最大にする最初の区間で分ける

大津の方法（`Otsu.threshold`、`Otsu.mask`）を、値を拡張実数、重みと和を有理数として正確に計算した
ときの振る舞い。

* `histogram_toList` — 度数分布の区間 `k` は、`bin` が `k` になる値の数（`binCount`）。
* `bestBin_cases` — 走査は、どちらのクラスも空でない分け方（`Valid`）の中でクラス間分散
  `w_b · w_f · (μ_b - μ_f)²`（`betweenVariance`）を最大にする最初の区間（`IsBestSplit`）を返し、
  そのような分け方が無いときだけ何も返さない。
* `lt_bin_iff` — 区間 `b` より上の区間に入るのは、値が `(b + 1) / 255` 以上のとき。しきい値との比較と
  区間の比較は、区間の境目でも食い違わない。
* `bin_of_isNaN` — 単精度の NaN は区間 0 に入る。

しきい値が有限なら、前景は区間が最良の区間より上の画素で、空でも全部でもない。分けられないのは値が
みな同じ区間に入るときで、しきい値は無限大、前景は値が無限大の画素である。無限大の画素だけの平面では
全部が前景になり、「一様な平面に前景は無い」は値が有限のときに限る。

## 走査

`Scan.step` は区間を一つずつ見る。背景がまだ空なら重みだけ足し、前景が空になったら止まる。どちらも
空でなければ分散を計算し、それまでの最大より真に大きいときだけ最良の区間を取り替える。不変条件
`ScanInv` は、区間 `k` まで見た状態の背景の重みと和が先頭 `k` 個の区間のものであることと、最良の区間が
それまでの分け方の中の最良であること（`BestSoFar`）。止まった後の区間には正しい分け方が無いので、
止まった状態の最良の区間は全体の最良でもある。分散は正しい分け方で正（`betweenVariance_pos`）なので、
正しい分け方が一つでもあれば最良の区間が決まる。
-/

namespace DropletVision

open Finset

/-! ## 単精度の NaN -/

namespace Float32

open Float.Model in
theorem exponent_mantissa_of_isNaN {b : BitVec Format.binary32.numBits}
    (h : (UnpackedFloat.unpack Format.binary32 b).isNaN = true) :
    UnpackedFloat.unpackExponent b = -1#_ ∧ UnpackedFloat.unpackMantissa b ≠ 0#_ := by
  dsimp only [UnpackedFloat.unpack] at h
  split_ifs at h with h1 h2 <;> simp_all [UnpackedFloat.isNaN]

/-- 単精度の NaN は一つしかない（ビット列が正規化されている）。 -/
theorem eq_nan_of_isNaN {v : Float32} (h : v.isNaN = true) : v = 0 / 0 := by
  obtain ⟨⟨b, hb⟩⟩ := v
  obtain ⟨h1, h2⟩ := exponent_mantissa_of_isNaN h
  apply Float32.toBits_injective
  change b = ((0 : Float32) / 0).toBits
  have hnan : ((0 : Float32) / 0).toBits.toBitVec =
      Float.Model.UnpackedFloat.packedNaN Float.Model.Format.binary32 := by decide
  exact UInt32.toBitVec_inj.1 ((hb.eq_packedNaN h1 h2).trans hnan.symm)

end Float32

namespace Otsu

/-- 単精度の NaN は区間 0 に入る：どの比較も偽で、`NaN · 255` の切り捨ては 0。 -/
theorem bin_of_isNaN {v : Float32} (h : v.isNaN = true) :
    bin (fun x : Float32 => x.toUInt64.toNat) v = 0 := by
  rw [Float32.eq_nan_of_isNaN h]
  decide

/-! ## 区間 -/

section Histogram

variable {α : Type} [LT α] [DecidableLT α] [Mul α] [OfNat α 0] [OfNat α 1] [OfNat α 255]
  (trunc : α → ℕ)

/-- 区間 `k` に入る値の数。 -/
def binCount (vs : List α) (k : ℕ) : ℕ := vs.countP fun v => bin trunc v = k

theorem bin_lt (v : α) : bin trunc v < otsuBins := by
  unfold bin
  simp only [otsuBins]
  omega

/-- 度数分布の区間 `k` は、区間 `k` に入る値の数。 -/
theorem histogram_toList (vs : List α) :
    (histogram trunc vs).toList = (List.range otsuBins).map (binCount trunc vs) :=
  Stats.foldl_modify_toList (bin trunc) otsuBins vs

/-- 先頭の `m` 個の区間の度数の和は、区間が `m` より前の値の数。 -/
theorem sum_binCount (vs : List α) (m : ℕ) :
    ∑ k ∈ range m, binCount trunc vs k = vs.countP fun v => bin trunc v < m := by
  induction vs with
  | nil => simp [binCount]
  | cons v vs ih =>
    simp only [binCount, List.countP_cons, decide_eq_true_eq, sum_add_distrib] at ih ⊢
    rw [ih]
    simp only [sum_ite_eq, mem_range]

theorem sum_binCount_otsuBins (vs : List α) :
    ∑ k ∈ range otsuBins, binCount trunc vs k = vs.length := by
  rw [sum_binCount, List.countP_eq_length]
  exact fun v _ => decide_eq_true (bin_lt trunc v)

end Histogram

/-! ## 分け方とクラス間分散 -/

section Split

variable (cnt : ℕ → ℕ)

/-- 先頭の `m` 個の区間の度数の和。区間 `b` までを背景とするときの背景の重みは
`weightBelow cnt (b + 1)`、全体の重みは `weightBelow cnt otsuBins`。 -/
def weightBelow (m : ℕ) : ℕ := ∑ i ∈ range m, cnt i

/-- 先頭の `m` 個の区間の、区間の番号と度数の積の和。 -/
def sumBelow (m : ℕ) : ℕ := ∑ i ∈ range m, i * cnt i

/-- 区間 `b` までを背景、その後を前景とする分け方で、どちらのクラスも空でない。 -/
def Valid (b : ℕ) : Prop :=
  0 < weightBelow cnt (b + 1) ∧ weightBelow cnt (b + 1) < weightBelow cnt otsuBins

/-- 区間 `b` で分けたときのクラス間分散 `w_b · w_f · (μ_b - μ_f)²`。 -/
def betweenVariance (b : ℕ) : ℚ :=
  let wb : ℚ := weightBelow cnt (b + 1)
  let wf : ℚ := weightBelow cnt otsuBins - wb
  let sb : ℚ := sumBelow cnt (b + 1)
  wb * wf * (sb / wb - (sumBelow cnt otsuBins - sb) / wf) ^ 2

/-- `b` は、区間 `k` より前の正しい分け方の中で、クラス間分散が最大の最初の区間。 -/
def IsBestBelow (k b : ℕ) : Prop :=
  b < k ∧ Valid cnt b ∧ ∀ b' < k, Valid cnt b' →
    betweenVariance cnt b' ≤ betweenVariance cnt b ∧
      (betweenVariance cnt b' = betweenVariance cnt b → b ≤ b')

/-- `b` は、正しい分け方の中で、クラス間分散が最大の最初の区間。 -/
def IsBestSplit (b : ℕ) : Prop :=
  Valid cnt b ∧ ∀ b', Valid cnt b' →
    betweenVariance cnt b' ≤ betweenVariance cnt b ∧
      (betweenVariance cnt b' = betweenVariance cnt b → b ≤ b')

variable {cnt}

theorem weightBelow_mono {m m' : ℕ} (h : m ≤ m') : weightBelow cnt m ≤ weightBelow cnt m' :=
  sum_le_sum_of_subset (range_subset_range.2 h)

/-- 正しい分け方の後には、前景に少なくとも一つの区間が残る。 -/
theorem Valid.succ_lt {b : ℕ} (h : Valid cnt b) : b + 1 < otsuBins := by
  obtain ⟨-, hlt⟩ := h
  by_contra hb
  have hle : weightBelow cnt otsuBins ≤ weightBelow cnt (b + 1) := weightBelow_mono (not_lt.1 hb)
  omega

/-- 区間 `k` までで重みが全部そろったら、`k` 以後の分け方は前景が空。 -/
theorem not_valid_of_full {k b : ℕ} (hk : weightBelow cnt (k + 1) = weightBelow cnt otsuBins)
    (hb : k ≤ b) : ¬Valid cnt b := by
  rintro ⟨-, hlt⟩
  have hle : weightBelow cnt (k + 1) ≤ weightBelow cnt (b + 1) := weightBelow_mono (by omega)
  omega

/-- 背景の区間は `b` 以下なので、先頭 `b + 1` 個の区間の番号の和は重みの `b` 倍以下。 -/
theorem sumBelow_le_mul (b : ℕ) : sumBelow cnt (b + 1) ≤ b * weightBelow cnt (b + 1) := by
  rw [sumBelow, weightBelow, mul_sum]
  exact sum_le_sum fun i hi => Nat.mul_le_mul_right _ (by rw [mem_range] at hi; omega)

/-- 前景の区間は `b + 1` 以上なので、その番号の和は重みの `b + 1` 倍以上。 -/
theorem succ_mul_le_sum_Ico (b n : ℕ) :
    (b + 1) * ∑ i ∈ Ico (b + 1) n, cnt i ≤ ∑ i ∈ Ico (b + 1) n, i * cnt i := by
  rw [mul_sum]
  exact sum_le_sum fun i hi => Nat.mul_le_mul_right _ (mem_Ico.1 hi).1

/-- 正しい分け方のクラス間分散は正：背景の平均は `b` 以下、前景の平均は `b + 1` 以上なので、
平均の差は 0 でない。 -/
theorem betweenVariance_pos {b : ℕ} (h : Valid cnt b) : 0 < betweenVariance cnt b := by
  have hb := h.succ_lt.le
  obtain ⟨hpos, hlt⟩ := h
  set W := weightBelow cnt (b + 1)
  set S := sumBelow cnt (b + 1)
  set F := ∑ i ∈ Ico (b + 1) otsuBins, cnt i
  set G := ∑ i ∈ Ico (b + 1) otsuBins, i * cnt i
  -- 全体の重みと和を、背景と前景に分ける
  have hT : weightBelow cnt otsuBins = W + F := (sum_range_add_sum_Ico _ hb).symm
  have hA : sumBelow cnt otsuBins = S + G := (sum_range_add_sum_Ico _ hb).symm
  have hWq : (0 : ℚ) < W := by exact_mod_cast hpos
  have hFq : (0 : ℚ) < F := by exact_mod_cast (show 0 < F by omega)
  have hmb : (S : ℚ) / W ≤ b := by
    rw [div_le_iff₀ hWq]
    exact_mod_cast sumBelow_le_mul b
  have hmf : (b + 1 : ℚ) ≤ G / F := by
    rw [le_div_iff₀ hFq]
    exact_mod_cast succ_mul_le_sum_Ico b otsuBins
  have hd : (S : ℚ) / W - G / F < 0 := by linarith
  unfold betweenVariance
  rw [hT, hA]
  push_cast
  rw [add_sub_cancel_left, add_sub_cancel_left]
  exact mul_pos (mul_pos hWq hFq) (sq_pos_of_neg hd)

end Split

/-! ## 走査の不変条件 -/

section Scan

variable (cnt : ℕ → ℕ)

/-- 区間 `k` より前の正しい分け方について、状態の最良の区間と最大の分散が正しい。正しい分け方が
まだ無ければ、最良の区間は無く最大の分散は 0。 -/
def BestSoFar (k : ℕ) (s : Scan ℚ) : Prop :=
  (s.bestBin = none ∧ s.bestVariance = 0 ∧ ∀ b < k, ¬Valid cnt b) ∨
    ∃ b, s.bestBin = some b ∧ s.bestVariance = betweenVariance cnt b ∧ IsBestBelow cnt k b

/-- 区間 `k` の手前まで走査した状態：背景の重みと和は先頭 `k` 個の区間のもの。 -/
structure ScanInv (k : ℕ) (s : Scan ℚ) : Prop where
  weightBg : s.weightBg = weightBelow cnt k
  sumBg : s.sumBg = sumBelow cnt k
  best : BestSoFar cnt k s

variable {cnt}

theorem scanInv_init : ScanInv cnt 0 Scan.init :=
  ⟨by simp [Scan.init, weightBelow], by simp [Scan.init, sumBelow], Or.inl ⟨rfl, rfl, by simp⟩⟩

/-- 一歩の走査が何をするか。`W` は区間 `k` までを背景としたときの背景の重み。 -/
theorem step_eq {k : ℕ} {s : Scan ℚ} (hw : s.weightBg = weightBelow cnt k)
    (hs : s.sumBg = sumBelow cnt k) :
    s.step Nat.cast (weightBelow cnt otsuBins : ℚ) (sumBelow cnt otsuBins : ℚ) k (cnt k) =
      if weightBelow cnt (k + 1) = 0 then some { s with weightBg := weightBelow cnt (k + 1) }
      else if weightBelow cnt otsuBins = weightBelow cnt (k + 1) then none
      else if betweenVariance cnt k > s.bestVariance then
        some ⟨weightBelow cnt (k + 1), sumBelow cnt (k + 1), betweenVariance cnt k, some k⟩
      else some { s with weightBg := weightBelow cnt (k + 1), sumBg := sumBelow cnt (k + 1) } := by
  have hW : s.weightBg + (cnt k : ℚ) = weightBelow cnt (k + 1) := by
    rw [hw, weightBelow, weightBelow, sum_range_succ, Nat.cast_add]
  have hS : s.sumBg + (k : ℚ) * cnt k = sumBelow cnt (k + 1) := by
    rw [hs, sumBelow, sumBelow, sum_range_succ, Nat.cast_add, Nat.cast_mul]
  simp only [Scan.step, hW, hS, beq_iff_eq, Nat.cast_eq_zero, sub_eq_zero, Nat.cast_inj,
    betweenVariance, sq]

/-- 正しくない分け方を通り過ぎても、最良の区間は変わらない。 -/
theorem BestSoFar.mono {k j : ℕ} {s : Scan ℚ} (h : BestSoFar cnt k s) (hkj : k ≤ j)
    (hv : ∀ b, k ≤ b → b < j → ¬Valid cnt b) : BestSoFar cnt j s := by
  rcases h with ⟨hn, hz, hnone⟩ | ⟨b, hb, hvar, hlt, hvalid, hbest⟩
  · refine Or.inl ⟨hn, hz, fun b hb => ?_⟩
    by_cases hbk : b < k
    · exact hnone b hbk
    · exact hv b (not_lt.1 hbk) hb
  · refine Or.inr ⟨b, hb, hvar, by omega, hvalid, fun b' hb' hv' => ?_⟩
    by_cases hbk : b' < k
    · exact hbest b' hbk hv'
    · exact absurd hv' (hv b' (not_lt.1 hbk) hb')

/-- 分散が最大を真に超える正しい分け方 `k` は、区間 `k + 1` より前の最良の区間になる。 -/
theorem BestSoFar.of_gt {k : ℕ} {s : Scan ℚ} (h : BestSoFar cnt k s) (hk : Valid cnt k)
    (hgt : betweenVariance cnt k > s.bestVariance) : IsBestBelow cnt (k + 1) k := by
  refine ⟨Nat.lt_succ_self k, hk, fun b' hb' hv' => ?_⟩
  rcases Nat.lt_succ_iff_lt_or_eq.1 hb' with hb' | rfl
  · -- それまでの正しい分け方の分散は、それまでの最大以下
    rcases h with ⟨-, -, hnone⟩ | ⟨b, -, hvar, -, -, hbest⟩
    · exact absurd hv' (hnone b' hb')
    · have hle := (hbest b' hb' hv').1
      rw [← hvar] at hle
      exact ⟨by linarith, fun heq => by linarith⟩
  · exact ⟨le_rfl, fun _ => le_rfl⟩

/-- 分散が最大を超えない正しい分け方 `k` を通り過ぎても、最良の区間は変わらない。分散は正なので、
それまでに正しい分け方があったことになる。 -/
theorem BestSoFar.of_not_gt {k : ℕ} {s : Scan ℚ} (h : BestSoFar cnt k s) (hk : Valid cnt k)
    (hle : ¬betweenVariance cnt k > s.bestVariance) : BestSoFar cnt (k + 1) s := by
  rcases h with ⟨-, hz, -⟩ | ⟨b, hb, hvar, hlt, hvalid, hbest⟩
  · exact absurd (hz ▸ betweenVariance_pos hk) hle
  · refine Or.inr ⟨b, hb, hvar, by omega, hvalid, fun b' hb' hv' => ?_⟩
    rcases Nat.lt_succ_iff_lt_or_eq.1 hb' with hb' | rfl
    · exact hbest b' hb' hv'
    · rw [← hvar]
      exact ⟨not_lt.1 hle, fun _ => hlt.le⟩

/-- 一歩で状態が続くなら、不変条件は次の区間へ進む。 -/
theorem ScanInv.step {k : ℕ} {s s' : Scan ℚ} (hk : k < otsuBins) (hs : ScanInv cnt k s)
    (h : s.step Nat.cast (weightBelow cnt otsuBins : ℚ) (sumBelow cnt otsuBins : ℚ) k (cnt k) = some s') :
    ScanInv cnt (k + 1) s' := by
  rw [step_eq hs.weightBg hs.sumBg] at h
  have hW : weightBelow cnt (k + 1) ≤ weightBelow cnt otsuBins := weightBelow_mono hk
  split_ifs at h with h0 hfull hgt <;> cases h
  · -- 背景がまだ空：区間 `k` の度数も 0 なので、和は変わらない
    have hc : cnt k = 0 := by
      rw [weightBelow, sum_range_succ] at h0
      omega
    refine ⟨rfl, ?_, hs.best.mono (Nat.le_succ k) fun b hb hb' => ?_⟩
    · simp only [hs.sumBg, sumBelow, sum_range_succ, hc, mul_zero, add_zero]
    · rintro ⟨hpos, -⟩
      rw [show b = k by omega, h0] at hpos
      exact absurd hpos (lt_irrefl 0)
  · exact ⟨rfl, rfl, Or.inr ⟨k, rfl, rfl, hs.best.of_gt ⟨by omega, by omega⟩ hgt⟩⟩
  · exact ⟨rfl, rfl, hs.best.of_not_gt ⟨by omega, by omega⟩ hgt⟩

/-- 一歩で止まるのは、区間 `k` までで重みが全部そろったとき。 -/
theorem ScanInv.full_of_step_eq_none {k : ℕ} {s : Scan ℚ} (hs : ScanInv cnt k s)
    (h : s.step Nat.cast (weightBelow cnt otsuBins : ℚ) (sumBelow cnt otsuBins : ℚ) k (cnt k) = none) :
    weightBelow cnt (k + 1) = weightBelow cnt otsuBins := by
  rw [step_eq hs.weightBg hs.sumBg] at h
  split_ifs at h with h0 hfull
  exact hfull.symm

/-- 区間 `k` から `m` 個の区間を走査すると、区間 `k + m` より前の最良の区間が残る。止まったときは、
その後に正しい分け方が無い。 -/
theorem ScanInv.scan {m : ℕ} : ∀ {k : ℕ} {s : Scan ℚ}, k + m ≤ otsuBins → ScanInv cnt k s →
    BestSoFar cnt (k + m) (scan Nat.cast (weightBelow cnt otsuBins : ℚ) (sumBelow cnt otsuBins : ℚ)
      ((List.range' k m).map fun i => (i, cnt i)) s) := by
  induction m with
  | zero =>
    intro k s _ hs
    exact hs.best
  | succ m ih =>
    intro k s hkm hs
    rw [List.range'_succ, List.map_cons, Otsu.scan]
    cases h : s.step Nat.cast (weightBelow cnt otsuBins : ℚ) (sumBelow cnt otsuBins : ℚ) k (cnt k) with
    | none =>
      exact hs.best.mono (by omega) fun b hb _ => not_valid_of_full (hs.full_of_step_eq_none h) hb
    | some s' =>
      have := ih (k := k + 1) (by omega) (hs.step (by omega) h)
      rwa [Nat.add_right_comm, Nat.add_assoc] at this

end Scan

/-! ## 最良の区間 -/

section BestBin

variable {cnt : ℕ → ℕ}

theorem zipIdx_range (n : ℕ) : (List.range n).zipIdx = (List.range n).map fun i => (i, i) := by
  apply List.ext_getElem (by simp)
  intro i h1 _
  simp [List.getElem_zipIdx]

/-- 度数分布が `cnt` なら、`bestBin` は区間を順に `cnt` の度数で走査した最後の状態の最良の区間。 -/
theorem bestBin_eq_scan {hist : Array ℕ} (hh : hist.toList = (List.range otsuBins).map cnt) :
    bestBin (Nat.cast : ℕ → ℚ) hist (weightBelow cnt otsuBins) =
      (scan Nat.cast (weightBelow cnt otsuBins : ℚ) (sumBelow cnt otsuBins : ℚ)
        ((List.range' 0 otsuBins).map fun i => (i, cnt i)) Scan.init).bestBin := by
  have hsum : ((List.range otsuBins).map fun i => (i, cnt i)).foldl
      (fun acc x => acc + (x.1 : ℚ) * x.2) (-0) = sumBelow cnt otsuBins := by
    rw [List.foldl_map, neg_zero, Adaptive.foldl_add_range, sumBelow, Nat.cast_sum]
    simp only [Nat.cast_mul]
  have hpair : ((fun x : ℕ × ℕ => (x.2, x.1)) ∘ Prod.map cnt id ∘ fun i => (i, i)) =
      fun i => (i, cnt i) := rfl
  simp only [bestBin, hh, List.zipIdx_map, zipIdx_range, List.map_map]
  rw [← List.range_eq_range', hpair, hsum]

/-- 走査の答え：正しい分け方が無ければ何も返さず、あれば最良の区間を返す。 -/
theorem bestBin_cases {hist : Array ℕ} (hh : hist.toList = (List.range otsuBins).map cnt) :
    (bestBin (Nat.cast : ℕ → ℚ) hist (weightBelow cnt otsuBins) = none ∧ ∀ b, ¬Valid cnt b) ∨
      ∃ b, bestBin (Nat.cast : ℕ → ℚ) hist (weightBelow cnt otsuBins) = some b ∧
        IsBestSplit cnt b := by
  have hrun := (@scanInv_init cnt).scan (m := otsuBins) (by simp)
  rw [Nat.zero_add] at hrun
  rw [bestBin_eq_scan hh]
  -- 正しい分け方はどれも最後の区間より前にある
  rcases hrun with ⟨hn, -, hnone⟩ | ⟨b, hb, -, -, hvalid, hbest⟩
  · exact Or.inl ⟨hn, fun b hv => hnone b (by have := hv.succ_lt; omega) hv⟩
  · exact Or.inr ⟨b, hb, hvalid, fun b' hv' => hbest b' (by have := hv'.succ_lt; omega) hv'⟩

/-- 最良の区間は一つしかない。 -/
theorem IsBestSplit.unique {b b' : ℕ} (h : IsBestSplit cnt b) (h' : IsBestSplit cnt b') :
    b = b' := by
  have h1 := h.2 b' h'.1
  have h2 := h'.2 b h.1
  have heq : betweenVariance cnt b' = betweenVariance cnt b := le_antisymm h1.1 h2.1
  exact le_antisymm (h1.2 heq) (h2.2 heq.symm)

end BestBin

/-! ## 分けられるとき -/

section Values

variable {α : Type} [LT α] [DecidableLT α] [Mul α] [OfNat α 0] [OfNat α 1] [OfNat α 255]
  {trunc : α → ℕ} {vs : List α}

theorem weightBelow_binCount (m : ℕ) :
    weightBelow (binCount trunc vs) m = vs.countP fun v => bin trunc v < m :=
  sum_binCount trunc vs m

theorem weightBelow_binCount_otsuBins : weightBelow (binCount trunc vs) otsuBins = vs.length :=
  sum_binCount_otsuBins trunc vs

/-- 区間 `b` で分けられるのは、区間 `b` 以下の値と、それより上の値がどちらもあるとき。 -/
theorem valid_binCount_iff {b : ℕ} :
    Valid (binCount trunc vs) b ↔ (∃ v ∈ vs, bin trunc v ≤ b) ∧ ∃ v ∈ vs, b < bin trunc v := by
  rw [Valid, weightBelow_binCount, weightBelow_binCount_otsuBins, List.countP_pos_iff,
    lt_iff_le_and_ne, Ne, List.countP_eq_length]
  simp only [decide_eq_true_eq, Nat.lt_succ_iff, not_forall, not_le, exists_prop]
  exact and_congr Iff.rfl (and_iff_right List.countP_le_length)

/-- 分けられないのは、値がみな同じ区間に入るとき（値が無いときも）。 -/
theorem forall_not_valid_iff :
    (∀ b, ¬Valid (binCount trunc vs) b) ↔ ∃ k, ∀ v ∈ vs, bin trunc v = k := by
  simp only [valid_binCount_iff]
  constructor
  · intro h
    cases vs with
    | nil => exact ⟨0, by simp⟩
    | cons v vs =>
      -- どの値も先頭の値と同じ区間に入る：違えば、小さい方の区間で分けられる
      refine ⟨bin trunc v, fun v' hv' => ?_⟩
      rcases lt_trichotomy (bin trunc v') (bin trunc v) with hlt | heq | hgt
      · exact absurd ⟨⟨v', hv', le_rfl⟩, v, List.mem_cons_self, hlt⟩ (h _)
      · exact heq
      · exact absurd ⟨⟨v, List.mem_cons_self, le_rfl⟩, v', hv', hgt⟩ (h _)
  · rintro ⟨k, hk⟩ b ⟨⟨v, hv, hvb⟩, v', hv', hv'b⟩
    rw [hk v hv] at hvb
    rw [hk v' hv'] at hv'b
    omega

end Values

/-! ## 正確な値の区間 -/

/-- 拡張実数の値の、0 へ向けた切り捨て。区間を決めるときは `[0, 255]` の値にだけ使う。 -/
noncomputable def exactFloor (x : EReal) : ℕ := ⌊x.toReal⌋₊

/-- `[0, 1]` に収めた実数 `r` の区間 `min ⌊255 r⌋₊ 255` が `k` より上なのは、`(k + 1) / 255 ≤ r` の
とき。 -/
theorem lt_min_exactFloor_iff {k : ℕ} (hk : k < 255) {r : ℝ} (hr : 0 ≤ r) :
    k < min (exactFloor ((r : EReal) * 255)) 255 ↔ ((k + 1 : ℕ) : ℝ) / 255 ≤ r := by
  rw [lt_min_iff, and_iff_left hk, exactFloor, EReal.toReal_mul, EReal.toReal_coe,
    show (255 : EReal).toReal = 255 from EReal.toReal_coe 255, Nat.lt_iff_add_one_le,
    Nat.le_floor_iff (by positivity), div_le_iff₀ (by norm_num)]

/-- 区間 `k` より上の区間に入るのは、値が `(k + 1) / 255` 以上のとき（`k < 255`）。 -/
theorem lt_bin_iff {k : ℕ} (hk : k < 255) (v : EReal) :
    k < bin exactFloor v ↔ ((k + 1 : ℕ) : EReal) / 255 ≤ v := by
  set q : ℝ := ((k + 1 : ℕ) : ℝ) / 255
  have hq0 : 0 < q := by positivity
  have hq1 : q ≤ 1 := by
    rw [div_le_one (by norm_num)]
    exact_mod_cast (show k + 1 ≤ 255 by omega)
  have hcoe : ((k + 1 : ℕ) : EReal) / 255 = (q : EReal) := by
    rw [EReal.coe_div, EReal.coe_natCast]
    rfl
  -- 収めた値 `x = r` が `q` 以上であることと、もとの値が `q` 以上であることが同じなら十分
  have key : ∀ (x : EReal) (r : ℝ), x = r → 0 ≤ r → (q ≤ r ↔ (q : EReal) ≤ v) →
      (k < min (exactFloor (x * 255)) 255 ↔ (q : EReal) ≤ v) := by
    rintro x r rfl hr hiff
    rw [← hiff, lt_min_exactFloor_iff hk hr]
  rw [hcoe]
  unfold bin
  dsimp only
  rw [show otsuBins - 1 = 255 from rfl]
  split_ifs with hneg hgt hgt'
  · exact absurd hgt (not_lt.2 zero_le_one)
  · -- 負の値は 0 に収まる
    refine key 0 0 EReal.coe_zero.symm le_rfl ⟨fun h => absurd h (not_le.2 hq0), fun h => ?_⟩
    exact absurd (h.trans_lt hneg) (not_lt.2 (EReal.coe_nonneg.2 hq0.le))
  · -- 1 より大きい値は 1 に収まる
    refine key 1 1 EReal.coe_one.symm zero_le_one ⟨fun _ => ?_, fun _ => hq1⟩
    exact (EReal.coe_le_coe_iff.2 hq1).trans (le_of_lt hgt')
  · -- `[0, 1]` の値は実数
    have hv0 : 0 ≤ v := not_lt.1 hneg
    have hv1 : v ≤ 1 := not_lt.1 hgt'
    have hv : v = (v.toReal : EReal) :=
      (EReal.coe_toReal (ne_top_of_le_ne_top (EReal.coe_ne_top 1) hv1) (ne_bot_of_le_ne_bot (by simp) hv0)).symm
    refine key v v.toReal hv (EReal.toReal_nonneg hv0) ?_
    conv_rhs => rw [hv]
    exact EReal.coe_le_coe_iff.symm

/-! ## 正確に計算したしきい値と前景 -/

/-- 値を拡張実数、重みと和を有理数として正確に計算した大津の方法のしきい値。分けられなければ `⊤`。 -/
noncomputable def exactThreshold (vs : List EReal) : EReal :=
  threshold exactFloor Nat.cast ⊤ (Nat.cast : ℕ → ℚ) vs

/-- 正確に計算した大津の方法の前景：しきい値以上の画素。 -/
noncomputable def exactMask (h w : ℕ) (x : ℕ → ℕ → EReal) : Mask :=
  mask exactFloor Nat.cast ⊤ (Nat.cast : ℕ → ℚ) h w x

theorem mem_rowMajor {α : Type} {h w : ℕ} {get : ℕ → ℕ → α} {v : α} :
    v ∈ rowMajor h w get ↔ ∃ r < h, ∃ c < w, get r c = v := by
  simp [rowMajor]

section Exact

variable {vs : List EReal}

/-- しきい値は、分けられなければ `⊤`、分けられれば最良の区間 `b` の上端 `(b + 1) / 255`。 -/
theorem exactThreshold_cases (vs : List EReal) :
    (exactThreshold vs = ⊤ ∧ ∀ b, ¬Valid (binCount exactFloor vs) b) ∨
      ∃ b, exactThreshold vs = ((b + 1 : ℕ) : EReal) / 255 ∧ IsBestSplit (binCount exactFloor vs) b := by
  unfold exactThreshold threshold
  have hn : vs.length = weightBelow (binCount exactFloor vs) otsuBins :=
    weightBelow_binCount_otsuBins.symm
  rw [hn]
  rcases bestBin_cases (histogram_toList exactFloor vs) with ⟨hb, hv⟩ | ⟨b, hb, hbest⟩
  · exact Or.inl ⟨by rw [hb], hv⟩
  · refine Or.inr ⟨b, ?_, hbest⟩
    rw [hb, show otsuBins - 1 = 255 from rfl, Nat.cast_ofNat]

theorem upper_ne_top (b : ℕ) : ((b + 1 : ℕ) : EReal) / 255 ≠ ⊤ := by
  rw [show (255 : EReal) = ((255 : ℝ) : EReal) from rfl, ← EReal.coe_natCast, ← EReal.coe_div]
  exact EReal.coe_ne_top _

theorem upper_injective {b b' : ℕ} (h : ((b + 1 : ℕ) : EReal) / 255 = ((b' + 1 : ℕ) : EReal) / 255) :
    b = b' := by
  rw [show (255 : EReal) = ((255 : ℝ) : EReal) from rfl, ← EReal.coe_natCast, ← EReal.coe_natCast,
    ← EReal.coe_div, ← EReal.coe_div, EReal.coe_eq_coe_iff, div_left_inj' (by norm_num),
    Nat.cast_inj] at h
  omega

/-- しきい値が `(b + 1) / 255` なのは、`b` が最良の区間のとき。 -/
theorem exactThreshold_eq_upper_iff (b : ℕ) :
    exactThreshold vs = ((b + 1 : ℕ) : EReal) / 255 ↔ IsBestSplit (binCount exactFloor vs) b := by
  rcases exactThreshold_cases vs with ⟨ht, hv⟩ | ⟨b', ht, hbest⟩
  · rw [ht]
    exact ⟨fun h => absurd h.symm (upper_ne_top b), fun h => absurd h.1 (hv b)⟩
  · rw [ht]
    exact ⟨fun h => upper_injective h ▸ hbest, fun h => by rw [hbest.unique h]⟩

/-- しきい値が無限大なのは、値がみな同じ区間に入るとき（値が無いときも）。 -/
theorem exactThreshold_eq_top_iff :
    exactThreshold vs = ⊤ ↔ ∃ k, ∀ v ∈ vs, bin exactFloor v = k := by
  rw [← forall_not_valid_iff]
  rcases exactThreshold_cases vs with ⟨ht, hv⟩ | ⟨b, ht, hbest⟩
  · exact ⟨fun _ => hv, fun _ => ht⟩
  · rw [ht]
    exact ⟨fun h => absurd h (upper_ne_top b), fun h => absurd hbest.1 (h b)⟩

theorem exactMask_get {h w : ℕ} {x : ℕ → ℕ → EReal} {r c : ℕ} (hr : r < h) (hc : c < w) :
    (exactMask h w x).get r c = decide (exactThreshold (rowMajor h w x) ≤ x r c) := by
  simp only [exactMask, mask, exactThreshold, Mask.get_ofFn, hr, hc, decide_true, Bool.true_and]
  exact decide_eq_decide.2 Iff.rfl

variable {h w : ℕ} {x : ℕ → ℕ → EReal}

/-- 分けられるとき、前景は区間が最良の区間より上の画素。 -/
theorem exactMask_get_of_isBestSplit {b : ℕ} (hb : IsBestSplit (binCount exactFloor (rowMajor h w x)) b)
    {r c : ℕ} (hr : r < h) (hc : c < w) :
    (exactMask h w x).get r c = decide (b < bin exactFloor (x r c)) := by
  have hb255 : b < 255 := by
    have := hb.1.succ_lt
    simp only [otsuBins] at this
    omega
  rw [exactMask_get hr hc, (exactThreshold_eq_upper_iff b).2 hb]
  exact decide_eq_decide.2 (lt_bin_iff hb255 _).symm

/-- 分けられないとき、前景は値が無限大の画素。 -/
theorem exactMask_get_of_eq_top (ht : exactThreshold (rowMajor h w x) = ⊤) {r c : ℕ} (hr : r < h)
    (hc : c < w) : (exactMask h w x).get r c = decide (x r c = ⊤) := by
  rw [exactMask_get hr hc, ht]
  exact decide_eq_decide.2 top_le_iff

/-- 分けられるとき、前景も背景も空でない。 -/
theorem exactMask_mixed_of_isBestSplit {b : ℕ}
    (hb : IsBestSplit (binCount exactFloor (rowMajor h w x)) b) :
    (∃ r < h, ∃ c < w, (exactMask h w x).get r c = true) ∧
      ∃ r < h, ∃ c < w, (exactMask h w x).get r c = false := by
  obtain ⟨⟨v, hv, hvb⟩, v', hv', hv'b⟩ := valid_binCount_iff.1 hb.1
  obtain ⟨r, hr, c, hc, rfl⟩ := mem_rowMajor.1 hv
  obtain ⟨r', hr', c', hc', rfl⟩ := mem_rowMajor.1 hv'
  refine ⟨⟨r', hr', c', hc', ?_⟩, ⟨r, hr, c, hc, ?_⟩⟩
  · rw [exactMask_get_of_isBestSplit hb hr' hc']
    exact decide_eq_true hv'b
  · rw [exactMask_get_of_isBestSplit hb hr hc]
    exact decide_eq_false (not_lt.2 hvb)

end Exact

/-- **大津の方法は、クラス間分散を最大にする最初の区間で分ける。** 単精度の NaN は区間 0 に入る。
値を拡張実数、重みと和を有理数として正確に計算すると、度数分布の区間 `k` は `bin` が `k` の値の数で、
しきい値が `(b + 1) / 255` なのは `b` がどちらのクラスも空でない分け方の中で
`w_b · w_f · (μ_b - μ_f)²` を最大にする最初の区間のとき、無限大なのは値がみな同じ区間に入るとき
（値が無いときも）。しきい値が有限なら、前景は区間が `b` より上の画素で、空でも全部でもない。
無限大なら、前景は値が無限大の画素。 -/
theorem otsu_best_split_laws (h w : ℕ) (x : ℕ → ℕ → EReal) :
    (∀ v : Float32, v.isNaN = true → bin (fun y : Float32 => y.toUInt64.toNat) v = 0) ∧
      (histogram exactFloor (rowMajor h w x)).toList =
        (List.range otsuBins).map (binCount exactFloor (rowMajor h w x)) ∧
      (∀ b, exactThreshold (rowMajor h w x) = ((b + 1 : ℕ) : EReal) / 255 ↔
        IsBestSplit (binCount exactFloor (rowMajor h w x)) b) ∧
      (exactThreshold (rowMajor h w x) = ⊤ ↔ ∃ k, ∀ v ∈ rowMajor h w x, bin exactFloor v = k) ∧
      (∀ b, IsBestSplit (binCount exactFloor (rowMajor h w x)) b →
        (∀ r < h, ∀ c < w, (exactMask h w x).get r c = decide (b < bin exactFloor (x r c))) ∧
        (∃ r < h, ∃ c < w, (exactMask h w x).get r c = true) ∧
        ∃ r < h, ∃ c < w, (exactMask h w x).get r c = false) ∧
      (exactThreshold (rowMajor h w x) = ⊤ →
        ∀ r < h, ∀ c < w, (exactMask h w x).get r c = decide (x r c = ⊤)) := by
  refine ⟨fun _ hv => bin_of_isNaN hv, histogram_toList exactFloor _, exactThreshold_eq_upper_iff,
    exactThreshold_eq_top_iff, fun b hb => ⟨fun r hr c hc => ?_, exactMask_mixed_of_isBestSplit hb⟩,
    fun ht r hr c hc => exactMask_get_of_eq_top ht hr hc⟩
  exact exactMask_get_of_isBestSplit hb hr hc

/-- 値が無限大だけの一画素の平面は分けられず、しきい値は無限大だが、その画素は前景になる。 -/
theorem exactMask_marks_infinite_pixel :
    exactThreshold (rowMajor 1 1 fun _ _ => ⊤) = ⊤ ∧ (exactMask 1 1 fun _ _ => ⊤).get 0 0 = true := by
  have hvs : rowMajor 1 1 (fun _ _ => (⊤ : EReal)) = [⊤] := rfl
  have ht : exactThreshold (rowMajor 1 1 fun _ _ => ⊤) = ⊤ := by
    refine exactThreshold_eq_top_iff.2 ⟨bin exactFloor ⊤, fun v hv => ?_⟩
    rw [hvs, List.mem_singleton] at hv
    rw [hv]
  refine ⟨ht, ?_⟩
  rw [exactMask_get_of_eq_top ht Nat.zero_lt_one Nat.zero_lt_one]
  exact decide_eq_true rfl

end Otsu

end DropletVision
