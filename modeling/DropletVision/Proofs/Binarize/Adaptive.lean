import Mathlib.Algebra.BigOperators.Intervals
import Mathlib.Algebra.Order.Field.Basic
import Mathlib.Tactic.Abel
import DropletVision.Binarize.Threshold
import DropletVision.Proofs.Morphology.Pixels

/-!
# 局所的なしきい値は、画像の端で切った窓の平均との比較

`Adaptive.mask` は窓の和を累積和の表の四隅から求める（`Adaptive.boxSum`）。丸めの無い計算では、
それは窓の画素を直接足した和に等しく、画素は窓の平均より `offset` を超えて明るいときに限り
前景になる。

* `Adaptive.prefixSums_eq` — 行の累積和の列の `j` 番目は、左から `j` 個の和。
* `Adaptive.getD_table` — 表の `(r, c)` は左上 `r × c` の和（`cornerSum`）。
* `Adaptive.boxSum_table` — 表の四隅の加減は、窓 `[r0, r1) × [c0, c1)` の和。
* `Adaptive.mask_window_mean` — 画素は、端で切った窓の平均より `offset` を超えて明るいときに
  限り前景。

## 仕組み

表は行の列を `scanl` で作るので、`r` 行目は最初の `r` 行を畳み込んだもの。畳み込みは行の数に
ついての帰納法で `cornerSum` の列になる。窓の端 `r - b/2`（0 で止まる）と `min (r + b/2 + 1) h` は、
中心の画素を含む空でない区間を与える。
-/

namespace DropletVision

namespace Adaptive

open Finset

section Table

variable {α β : Type} [AddCommMonoid β] (widen : α → β)

/-- 左上 `r × c` の画素の和。 -/
def cornerSum (get : Nat → Nat → α) (r c : Nat) : β :=
  ∑ i ∈ range r, ∑ j ∈ range c, widen (get i j)

/-- 添字の列を左から足していく畳み込みは、和。 -/
theorem foldl_add_range (g : Nat → β) (n : Nat) :
    (List.range n).foldl (fun s c => s + g c) 0 = ∑ c ∈ range n, g c := by
  induction n with
  | zero => rfl
  | succ n ih => rw [List.range_succ, List.foldl_append, ih, sum_range_succ]; rfl

/-- 行の累積和の列の `j` 番目は、左から `j` 個の画素の和。 -/
theorem prefixSums_eq (w : Nat) (row : Nat → α) :
    prefixSums widen w row = (List.range (w + 1)).map (fun j => ∑ c ∈ range j, widen (row c)) := by
  apply List.ext_getElem?
  intro j
  rw [prefixSums, List.getElem?_scanl, List.getElem?_map, List.length_range]
  by_cases hj : j ≤ w
  · rw [if_pos hj, List.getElem?_range (by omega), List.take_range, Nat.min_eq_left hj,
      foldl_add_range]
    rfl
  · rw [if_neg hj, List.getElem?_eq_none (by simp; omega)]
    rfl

/-- 表の最初の `r` 行を畳み込んだ行は、左上 `r × j` の和の列。 -/
theorem foldl_rows (w : Nat) (get : Nat → Nat → α) (r : Nat) :
    (List.range r).foldl (fun above i => List.zipWith (· + ·) above (prefixSums widen w (get i)))
        (List.replicate (w + 1) 0) =
      (List.range (w + 1)).map (fun j => cornerSum widen get r j) := by
  induction r with
  | zero => simp [cornerSum, List.map_const']
  | succ r ih =>
    rw [List.range_succ, List.foldl_append, ih, List.foldl_cons, List.foldl_nil, prefixSums_eq,
      List.zipWith_map, List.zipWith_self]
    -- 行 `r` を足すことは、外側の和に一項を足すこと。
    simp only [cornerSum, sum_range_succ]

/-- 累積和の表の `(r, c)` は、左上 `r × c` の画素の和。 -/
theorem getD_table {h w r c : Nat} (get : Nat → Nat → α) (hr : r ≤ h) (hc : c ≤ w) :
    ((table widen h w get).getD r #[]).getD c 0 = cornerSum widen get r c := by
  have hrow : (table widen h w get).getD r #[] =
      ((List.range (w + 1)).map (fun j => cornerSum widen get r j)).toArray := by
    rw [table, Array.getD_eq_getD_getElem?, List.getElem?_toArray, List.getElem?_map,
      List.getElem?_scanl, if_pos (by simpa using hr), List.take_range, Nat.min_eq_left hr,
      foldl_rows]
    rfl
  rw [hrow, Array.getD_eq_getD_getElem?, List.getElem?_toArray, List.getElem?_map,
    List.getElem?_range (by omega)]
  rfl

end Table

section Box

variable {α β : Type} [AddCommGroup β] (widen : α → β)

/-- 累積和の表の四隅の加減は、窓 `[r0, r1) × [c0, c1)` の画素の和。 -/
theorem boxSum_table {h w r0 r1 c0 c1 : Nat} (get : Nat → Nat → α) (hr : r0 ≤ r1) (hr1 : r1 ≤ h)
    (hc : c0 ≤ c1) (hc1 : c1 ≤ w) :
    boxSum (table widen h w get) r0 r1 c0 c1 = ∑ i ∈ Ico r0 r1, ∑ j ∈ Ico c0 c1, widen (get i j) := by
  simp only [boxSum, getD_table widen get hr1 hc1, getD_table widen get (hr.trans hr1) hc1,
    getD_table widen get hr1 (hc.trans hc1), getD_table widen get (hr.trans hr1) (hc.trans hc1)]
  -- 包含と排除：行の区間と列の区間をそれぞれ二つの前の部分の差に分ける。
  simp only [sum_Ico_eq_sub _ hc, sum_Ico_eq_sub _ hr, sum_sub_distrib, cornerSum]
  abel

end Box

/-- 中心 `i` から `b / 2` ずつ広げ、`[0, n)` で切った区間。 -/
def windowRange (n b i : Nat) : Finset Nat := Icc (i - b / 2) (min (n - 1) (i + b / 2))

/-- 窓の区間は、コードの端 `i - b/2` と `min (i + b/2 + 1) n` の半開区間。 -/
theorem windowRange_eq_Ico {n b i : Nat} (hi : i < n) :
    windowRange n b i = Ico (i - b / 2) (min (i + b / 2 + 1) n) := by
  ext k
  simp only [windowRange, mem_Icc, mem_Ico]
  omega

theorem card_windowRange {n b i : Nat} (hi : i < n) :
    (windowRange n b i).card = min (i + b / 2 + 1) n - (i - b / 2) := by
  rw [windowRange_eq_Ico hi, Nat.card_Ico]

/-- 丸めの無い計算では、局所的なしきい値の平面の画素 `(r, c)` は、窓（行は `r - b/2` から
`min (h - 1) (r + b/2)`、列も同じで、画像の端で切る）の画素の平均より `offset` を超えて明るいときに
限り立つ。窓の和は、累積和の表の四隅の加減で求めたものが、窓の画素を直接足した和に等しい。 -/
theorem mask_window_mean {K : Type} [Field K] [LinearOrder K] [IsStrictOrderedRing K]
    (h w : Nat) (x : Nat → Nat → K) (b : Nat) (offset : K) {r c : Nat} (hr : r < h) (hc : c < w) :
    boxSum (table id h w x) (r - b / 2) (min (r + b / 2 + 1) h) (c - b / 2)
        (min (c + b / 2 + 1) w) =
      ∑ i ∈ windowRange h b r, ∑ j ∈ windowRange w b c, x i j ∧
    (mask id id (Nat.cast : Nat → K) h w x b offset).get r c =
      decide (x r c > (∑ i ∈ windowRange h b r, ∑ j ∈ windowRange w b c, x i j) /
        ((windowRange h b r).card * (windowRange w b c).card : K) + offset) := by
  have hbox : boxSum (table id h w x) (r - b / 2) (min (r + b / 2 + 1) h) (c - b / 2)
      (min (c + b / 2 + 1) w) = ∑ i ∈ windowRange h b r, ∑ j ∈ windowRange w b c, x i j := by
    rw [boxSum_table id x (show r - b / 2 ≤ min (r + b / 2 + 1) h by omega) (min_le_right _ _)
      (show c - b / 2 ≤ min (c + b / 2 + 1) w by omega) (min_le_right _ _), windowRange_eq_Ico hr,
      windowRange_eq_Ico hc]
    rfl
  refine ⟨hbox, ?_⟩
  rw [mask, Mask.get_ofFn]
  simp only [hr, hc, decide_true, Bool.true_and, id, hbox, card_windowRange hr, card_windowRange hc,
    Nat.cast_mul]

/-- 3 × 3 の平面の真ん中の画素と、大きさ 3 の窓。 -/
theorem mask_window_mean_center :
    (1 : Nat) < 3 ∧ (1 : Nat) < 3 ∧
    boxSum (table id 3 3 (fun i j => ((i * 3 + j : Nat) : ℚ))) (1 - 3 / 2) (min (1 + 3 / 2 + 1) 3)
        (1 - 3 / 2) (min (1 + 3 / 2 + 1) 3) =
      ∑ i ∈ windowRange 3 3 1, ∑ j ∈ windowRange 3 3 1, ((i * 3 + j : Nat) : ℚ) ∧
    (mask id id (Nat.cast : Nat → ℚ) 3 3 (fun i j => ((i * 3 + j : Nat) : ℚ)) 3 0).get 1 1 =
      decide (((1 * 3 + 1 : Nat) : ℚ) >
        (∑ i ∈ windowRange 3 3 1, ∑ j ∈ windowRange 3 3 1, ((i * 3 + j : Nat) : ℚ)) /
          ((windowRange 3 3 1).card * (windowRange 3 3 1).card : ℚ) + 0) :=
  ⟨by decide, by decide, mask_window_mean 3 3 (fun i j => ((i * 3 + j : Nat) : ℚ)) 3 0
    (by decide) (by decide)⟩

end Adaptive

end DropletVision
