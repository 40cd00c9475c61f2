import Mathlib
import DropletVision.Filter.Blur

/-!
# 丸めずに計算したガウスぼかしは、端を繰り返した画素の凸結合

`gaussianBlur` の核とたたみ込み（`Blur.kernel`、`Blur.convolve`）を実数で読み、丸めずに計算した
ぼかし（`Blur.exactBlur`）の振る舞い。

* `Blur.kernel_exact` — 核は正規化したガウスの重み `gaussWeight` の列。重みは正で（`gaussWeight_pos`）、
  中心について対称で（`gaussWeight_symm`）、和は 1（`sum_gaussWeight`）。
* `Blur.convolve_rows_cols`、`Blur.convolve_cols_rows` — 行方向と列方向の二つのたたみ込みは、どちらの
  順でも、端を繰り返した `(2r + 1)²` 個の画素に重み `g i · g j` を掛けた和になる。核より狭い平面では
  多くの項が端の同じ画素に重なるが、和の形は変わらない。
* `Blur.exists_le_double_sum` — 和が 1 の非負の重みで足した値は、足した値のどれか以上で、どれか以下。
* `Blur.blur_convex_combination` — 主定理。

端を繰り返した添字 `clampIndex` は平面の中に入る（`clampIndex_lt`）ので、ぼかした値はいつも平面の
中の画素の凸結合である。
-/

namespace DropletVision.Blur

open Finset

/-! ## 和 -/

/-- 実数では、負の 0 から足した和は列の和。 -/
theorem negZeroSum_eq_sum (xs : List ℝ) : negZeroSum xs = xs.sum := by
  rw [negZeroSum, neg_zero, List.sum_eq_foldl]

theorem sum_map_range (f : ℕ → ℝ) (n : ℕ) : ((List.range n).map f).sum = ∑ i ∈ range n, f i := by
  rw [← List.sum_toFinset f List.nodup_range, List.toFinset_range]

theorem mapIdx_map_range {α β : Type} (g : ℕ → α) (f : ℕ → α → β) (n : ℕ) :
    ((List.range n).map g).mapIdx f = (List.range n).map fun i => f i (g i) := by
  apply List.ext_getElem (by simp)
  intro i h1 h2
  simp

/-! ## 正確な核 -/

/-- 中心 `r` から `i - r` 離れた位置の、正規化する前の重み `exp(-(i - r)² / 2σ²)`。 -/
noncomputable def bell (σ : ℝ) (r i : ℕ) : ℝ :=
  Real.exp (-((i : ℝ) - r) * ((i : ℝ) - r) / (2 * σ * σ))

/-- 半径 `r` の正規化したガウス核の `i` 番目の重み。 -/
noncomputable def gaussWeight (σ : ℝ) (r i : ℕ) : ℝ :=
  bell σ r i / ∑ j ∈ range (2 * r + 1), bell σ r j

/-- 実数で作った核は、正規化したガウスの重みの列。 -/
theorem kernel_exact (σ : ℝ) (r : ℕ) :
    kernel Real.exp Nat.cast σ r = (List.range (2 * r + 1)).map (gaussWeight σ r) := by
  simp only [kernel, negZeroSum_eq_sum, sum_map_range, List.map_map]
  rfl

theorem sum_bell_pos (σ : ℝ) (r : ℕ) : 0 < ∑ j ∈ range (2 * r + 1), bell σ r j :=
  Finset.sum_pos (fun j _ => Real.exp_pos _) ⟨0, by simp⟩

theorem gaussWeight_pos (σ : ℝ) (r i : ℕ) : 0 < gaussWeight σ r i :=
  div_pos (Real.exp_pos _) (sum_bell_pos σ r)

/-- 重みの和は 1。 -/
theorem sum_gaussWeight (σ : ℝ) (r : ℕ) : ∑ i ∈ range (2 * r + 1), gaussWeight σ r i = 1 := by
  simp only [gaussWeight]
  rw [← Finset.sum_div, div_self (sum_bell_pos σ r).ne']

/-- 重みは中心について対称。 -/
theorem bell_symm (σ : ℝ) {r i : ℕ} (hi : i ≤ 2 * r) : bell σ r (2 * r - i) = bell σ r i := by
  unfold bell
  rw [Nat.cast_sub hi]
  congr 1
  push_cast
  ring

theorem gaussWeight_symm (σ : ℝ) {r i : ℕ} (hi : i ≤ 2 * r) :
    gaussWeight σ r (2 * r - i) = gaussWeight σ r i := by
  rw [gaussWeight, gaussWeight, bell_symm σ hi]

/-! ## たたみ込み -/

theorem clampIndex_lt (i : ℤ) {n : ℕ} (hn : 0 < n) : clampIndex i n < n := by
  unfold clampIndex
  omega

/-- 重み `g 0, …, g 2r` の核で足すと、中心から `i - r` 離れた値に `g i` を掛けた和。 -/
theorem weigh_map_range (g : ℕ → ℝ) (r : ℕ) (tap : ℤ → ℝ) :
    weigh ((List.range (2 * r + 1)).map g) tap = ∑ i ∈ range (2 * r + 1), tap (i - r) * g i := by
  have hlen : ((List.range (2 * r + 1)).map g).length / 2 = r := by
    rw [List.length_map, List.length_range]
    omega
  rw [weigh, hlen, mapIdx_map_range, negZeroSum_eq_sum, sum_map_range]

section Passes

variable (h w : ℕ) (x : ℕ → ℕ → ℝ) (g : ℕ → ℝ) (r : ℕ)

/-- **二つの向き。** 行方向、列方向の順にたたみ込んだ値は、端を繰り返した `(2r + 1)²` 個の画素に
重み `g i · g j` を掛けた和。 -/
theorem convolve_rows_cols (row col : ℕ) :
    convolve h w (convolve h w x ((List.range (2 * r + 1)).map g) .rows)
        ((List.range (2 * r + 1)).map g) .cols row col =
      ∑ i ∈ range (2 * r + 1), ∑ j ∈ range (2 * r + 1),
        g i * g j * x (clampIndex (row + ((i : ℤ) - r)) h) (clampIndex (col + ((j : ℤ) - r)) w) := by
  simp only [convolve, weigh_map_range, Finset.sum_mul]
  refine Finset.sum_congr rfl fun i _ => Finset.sum_congr rfl fun j _ => ?_
  ring

/-- 列方向を先にしても、同じ和。 -/
theorem convolve_cols_rows (row col : ℕ) :
    convolve h w (convolve h w x ((List.range (2 * r + 1)).map g) .cols)
        ((List.range (2 * r + 1)).map g) .rows row col =
      ∑ i ∈ range (2 * r + 1), ∑ j ∈ range (2 * r + 1),
        g i * g j * x (clampIndex (row + ((i : ℤ) - r)) h) (clampIndex (col + ((j : ℤ) - r)) w) := by
  simp only [convolve, weigh_map_range, Finset.sum_mul]
  rw [Finset.sum_comm]
  refine Finset.sum_congr rfl fun i _ => Finset.sum_congr rfl fun j _ => ?_
  ring

end Passes

/-! ## 凸結合 -/

section Convex

variable {ι : Type} {s : Finset ι} (hs : s.Nonempty) {g v : ι → ℝ} (hg : ∀ i ∈ s, 0 ≤ g i)
  (h1 : ∑ i ∈ s, g i = 1)
include hs hg h1

/-- 和が 1 の非負の重みで足した値は、どれかの値以上。 -/
theorem exists_le_weighted : ∃ i ∈ s, v i ≤ ∑ j ∈ s, g j * v j := by
  obtain ⟨i, hi, hmin⟩ := s.exists_min_image v hs
  refine ⟨i, hi, ?_⟩
  calc v i = ∑ j ∈ s, g j * v i := by rw [← Finset.sum_mul, h1, one_mul]
    _ ≤ ∑ j ∈ s, g j * v j :=
      Finset.sum_le_sum fun j hj => mul_le_mul_of_nonneg_left (hmin j hj) (hg j hj)

/-- 和が 1 の非負の重みで足した値は、どれかの値以下。 -/
theorem exists_weighted_le : ∃ i ∈ s, ∑ j ∈ s, g j * v j ≤ v i := by
  obtain ⟨i, hi, hmax⟩ := s.exists_max_image v hs
  refine ⟨i, hi, ?_⟩
  calc ∑ j ∈ s, g j * v j ≤ ∑ j ∈ s, g j * v i :=
      Finset.sum_le_sum fun j hj => mul_le_mul_of_nonneg_left (hmax j hj) (hg j hj)
    _ = v i := by rw [← Finset.sum_mul, h1, one_mul]

end Convex

/-- 和が 1 の非負の重み `g` の二つの積 `g i · g j` で足した値は、どれかの値 `f i j` 以上で、どれかの値
以下。 -/
theorem exists_le_double_sum {n : ℕ} (hn : 0 < n) {g : ℕ → ℝ} (hg : ∀ i, 0 ≤ g i)
    (h1 : ∑ i ∈ range n, g i = 1) (f : ℕ → ℕ → ℝ) :
    (∃ i < n, ∃ j < n, f i j ≤ ∑ i ∈ range n, ∑ j ∈ range n, g i * g j * f i j) ∧
      ∃ i < n, ∃ j < n, ∑ i ∈ range n, ∑ j ∈ range n, g i * g j * f i j ≤ f i j := by
  -- 組 `(i, j)` の上の重み `g i · g j` の和として見る
  have hpair : ∑ i ∈ range n, ∑ j ∈ range n, g i * g j * f i j =
      ∑ q ∈ range n ×ˢ range n, g q.1 * g q.2 * f q.1 q.2 :=
    (Finset.sum_product (range n) (range n) fun q => g q.1 * g q.2 * f q.1 q.2).symm
  have hne : (range n ×ˢ range n).Nonempty := ⟨(0, 0), by simp [hn]⟩
  have hnonneg : ∀ q ∈ range n ×ˢ range n, 0 ≤ g q.1 * g q.2 := fun q _ => mul_nonneg (hg _) (hg _)
  have hone : ∑ q ∈ range n ×ˢ range n, g q.1 * g q.2 = 1 := by
    rw [Finset.sum_product, ← Finset.sum_mul_sum, h1, one_mul]
  rw [hpair]
  obtain ⟨⟨i, j⟩, hij, hle⟩ := exists_le_weighted hne hnonneg hone (v := fun q => f q.1 q.2)
  obtain ⟨⟨i', j'⟩, hij', hge⟩ := exists_weighted_le hne hnonneg hone (v := fun q => f q.1 q.2)
  simp only [Finset.mem_product, Finset.mem_range] at hij hij'
  exact ⟨⟨i, hij.1, j, hij.2, hle⟩, ⟨i', hij'.1, j', hij'.2, hge⟩⟩

/-! ## 丸めずに計算したぼかし -/

/-- 大きさ `k` の核の `i` 番目の重み：標準偏差 `sigmaFor k`、半径 `k / 2` の正規化したガウスの重み。 -/
noncomputable def exactWeight (k i : ℕ) : ℝ := gaussWeight (sigmaFor (Nat.cast : ℕ → ℝ) k) (k / 2) i

/-- 実数で丸めずに作った、大きさ `k` の核。 -/
noncomputable def exactKernel (k : ℕ) : List ℝ :=
  kernel Real.exp Nat.cast (sigmaFor (Nat.cast : ℕ → ℝ) k) (k / 2)

/-- 実数で丸めずに計算した、`h × w` の画素 `x` のぼかし。`gaussianBlur` と同じく、半径 `k / 2` が 0 なら
画素をそのまま返し、そうでなければ行方向、列方向の順にたたみ込む（行方向の結果はそのまま使う）。 -/
noncomputable def exactBlur (h w : ℕ) (x : ℕ → ℕ → ℝ) (k : ℕ) : ℕ → ℕ → ℝ :=
  if k / 2 = 0 then x
  else convolve h w (convolve h w x (exactKernel k) .rows) (exactKernel k) .cols

theorem exactKernel_eq (k : ℕ) :
    exactKernel k = (List.range (2 * (k / 2) + 1)).map (exactWeight k) :=
  kernel_exact _ _

/-- 半径が 0 でなければ、ぼかした値は端を繰り返した画素の、重み `exactWeight k i · exactWeight k j`
の和。 -/
theorem exactBlur_eq_sum {h w k : ℕ} (x : ℕ → ℕ → ℝ) (hk : k / 2 ≠ 0) (row col : ℕ) :
    exactBlur h w x k row col =
      ∑ i ∈ range (2 * (k / 2) + 1), ∑ j ∈ range (2 * (k / 2) + 1),
        exactWeight k i * exactWeight k j *
          x (clampIndex (row + ((i : ℤ) - (k / 2 : ℕ))) h) (clampIndex (col + ((j : ℤ) - (k / 2 : ℕ))) w) := by
  rw [exactBlur, if_neg hk, exactKernel_eq, convolve_rows_cols]

/-- 画素が一つでもあれば、ぼかした値は画素のどれか以上で、どれか以下。 -/
theorem exactBlur_between {h w : ℕ} (hh : 0 < h) (hw : 0 < w) (x : ℕ → ℕ → ℝ) (k : ℕ) {row col : ℕ}
    (hrow : row < h) (hcol : col < w) :
    (∃ r0 < h, ∃ c0 < w, x r0 c0 ≤ exactBlur h w x k row col) ∧
      ∃ r1 < h, ∃ c1 < w, exactBlur h w x k row col ≤ x r1 c1 := by
  by_cases hk : k / 2 = 0
  · -- 半径 0：画素そのもの
    rw [exactBlur, if_pos hk]
    exact ⟨⟨row, hrow, col, hcol, le_rfl⟩, ⟨row, hrow, col, hcol, le_rfl⟩⟩
  · -- 重みは正で和が 1、足す画素は端を繰り返した平面の中の画素
    rw [exactBlur_eq_sum x hk]
    obtain ⟨⟨i, -, j, -, hle⟩, ⟨i', -, j', -, hge⟩⟩ :=
      exists_le_double_sum (Nat.succ_pos _) (fun i => (gaussWeight_pos _ _ i).le)
        (sum_gaussWeight _ _) fun i j =>
          x (clampIndex (row + ((i : ℤ) - (k / 2 : ℕ))) h) (clampIndex (col + ((j : ℤ) - (k / 2 : ℕ))) w)
    exact ⟨⟨_, clampIndex_lt _ hh, _, clampIndex_lt _ hw, hle⟩,
      ⟨_, clampIndex_lt _ hh, _, clampIndex_lt _ hw, hge⟩⟩

/-- **ガウスぼかしの法則。** 高さと幅が 1 以上の画素 `x` を丸めずにぼかすと、

* 半径 `k / 2` が 0 なら、画素はそのまま（単精度の平面でも、平面そのものが返る）。
* そうでなければ、核は標準偏差 `sigmaFor k` の正規化したガウスの重みの列で、重みは正、中心について
  対称で、和は 1。ぼかした値は、端を繰り返した画素に重み `exactWeight k i · exactWeight k j` を掛けた
  和で、列方向を先にたたみ込んでも同じ。
* したがって一様な平面はそのまま残り、ぼかした値はどれも画素の最小と最大の間にある。 -/
theorem blur_convex_combination (h w : ℕ) (hh : 0 < h) (hw : 0 < w) (x : ℕ → ℕ → ℝ) (k : ℕ) :
    (k / 2 = 0 → (∀ p : Plane, gaussianBlur p k = p) ∧ exactBlur h w x k = x) ∧
    (0 < k / 2 →
      exactKernel k = (List.range (2 * (k / 2) + 1)).map (exactWeight k) ∧
      (∀ i ≤ 2 * (k / 2), 0 < exactWeight k i ∧ exactWeight k (2 * (k / 2) - i) = exactWeight k i) ∧
      ∑ i ∈ range (2 * (k / 2) + 1), exactWeight k i = 1 ∧
      ∀ row col,
        exactBlur h w x k row col =
          ∑ i ∈ range (2 * (k / 2) + 1), ∑ j ∈ range (2 * (k / 2) + 1),
            exactWeight k i * exactWeight k j *
              x (clampIndex (row + ((i : ℤ) - (k / 2 : ℕ))) h)
                (clampIndex (col + ((j : ℤ) - (k / 2 : ℕ))) w) ∧
        exactBlur h w x k row col =
          convolve h w (convolve h w x (exactKernel k) .cols) (exactKernel k) .rows row col) ∧
    (∀ a, (∀ r < h, ∀ c < w, x r c = a) → ∀ r < h, ∀ c < w, exactBlur h w x k r c = a) ∧
    ∀ r < h, ∀ c < w, (∃ r0 < h, ∃ c0 < w, x r0 c0 ≤ exactBlur h w x k r c) ∧
      ∃ r1 < h, ∃ c1 < w, exactBlur h w x k r c ≤ x r1 c1 := by
  refine ⟨fun hk => ⟨fun p => by rw [gaussianBlur, if_pos hk], by rw [exactBlur, if_pos hk]⟩,
    fun hk => ⟨exactKernel_eq k, fun i hi => ⟨gaussWeight_pos _ _ i, gaussWeight_symm _ hi⟩,
      sum_gaussWeight _ _, fun row col => ⟨exactBlur_eq_sum x hk.ne' row col, ?_⟩⟩,
    fun a ha r hr c hc => ?_, fun r hr c hc => exactBlur_between hh hw x k hr hc⟩
  · rw [exactBlur_eq_sum x hk.ne', exactKernel_eq, convolve_cols_rows]
  · -- 一様な平面：最小も最大も `a`
    obtain ⟨⟨r0, hr0, c0, hc0, hle⟩, ⟨r1, hr1, c1, hc1, hge⟩⟩ := exactBlur_between hh hw x k hr hc
    rw [ha r0 hr0 c0 hc0] at hle
    rw [ha r1 hr1 c1 hc1] at hge
    exact le_antisymm hge hle

/-- 高さ 2、幅 3 の一様な平面を大きさ 3 の核でぼかしても、隅の画素の値は変わらない。 -/
theorem blur_uniform_two_by_three : exactBlur 2 3 (fun _ _ => 5) 3 1 2 = 5 :=
  (blur_convex_combination 2 3 (by norm_num) (by norm_num) (fun _ _ => 5) 3).2.2.1 5
    (fun _ _ _ _ => rfl) 1 (by norm_num) 2 (by norm_num)

end DropletVision.Blur
