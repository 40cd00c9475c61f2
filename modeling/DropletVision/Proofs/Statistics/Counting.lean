import Mathlib

/-!
# 番号ごとに数える配列

値ごとに番号 `idx v` の位置へ 1 を足していく配列（度数分布の数え方）の中身。

* `Stats.foldl_modify_toList` — 位置 `i` の度数は、番号が `i` の値の数。
* `Stats.sum_countP_eq_length` — 番号がどれも配列の中なら、度数の和は値の数。

大津の方法の度数分布（`Otsu.histogram`）も、液滴の量の度数分布（`Stats.histogram`）も、この数え方を
する。
-/

namespace DropletVision.Stats

/-- 値ごとに番号 `idx v` の位置へ 1 を足していくと、位置 `i` の度数は番号が `i` の値の数。 -/
theorem foldl_modify_toList {β : Type} (idx : β → ℕ) (n : ℕ) (vs : List β) :
    (vs.foldl (fun cs v => cs.modify (idx v) (· + 1)) (Array.replicate n 0)).toList =
      (List.range n).map (fun i => vs.countP (idx · = i)) := by
  -- 途中の度数は、初めの度数 `g` に、それまでの値の数を足したもの
  suffices ∀ (acc : Array ℕ) (g : ℕ → ℕ), acc.toList = (List.range n).map g →
      (vs.foldl (fun cs v => cs.modify (idx v) (· + 1)) acc).toList =
        (List.range n).map (fun i => g i + vs.countP (idx · = i)) by
    simpa using this (Array.replicate n 0) (fun _ => 0) (by simp)
  induction vs with
  | nil =>
    intro acc g h
    simpa using h
  | cons v vs ih =>
    intro acc g h
    rw [List.foldl_cons]
    refine (ih _ (fun i => g i + if idx v = i then 1 else 0) ?_).trans ?_
    · rw [Array.toList_modify, h]
      apply List.ext_getElem (by simp)
      intro i h1 _
      simp only [List.getElem_modify, List.getElem_map, List.getElem_range]
      split_ifs <;> rfl
    · refine List.map_congr_left fun i _ => ?_
      simp only [List.countP_cons, decide_eq_true_eq]
      omega

/-- 番号がどれも `n` より小さければ、度数の和は値の数。 -/
theorem sum_countP_eq_length {β : Type} (idx : β → ℕ) (n : ℕ) (vs : List β)
    (h : ∀ v ∈ vs, idx v < n) : ((List.range n).map (fun i => vs.countP (idx · = i))).sum = vs.length := by
  induction vs with
  | nil => simp
  | cons v vs ih =>
    -- 値 `v` は番号 `idx v` の位置だけに数えられる
    have hone : ((List.range n).map (fun i => if idx v = i then 1 else 0)).sum = 1 := by
      rw [List.sum_map_eq_nsmul_single (idx v) _ (fun i hi _ => if_neg (Ne.symm hi)),
        List.count_eq_one_of_mem List.nodup_range (List.mem_range.2 (h v List.mem_cons_self))]
      simp
    simp only [List.countP_cons, decide_eq_true_eq, List.sum_map_add, List.length_cons]
    rw [ih (fun w hw => h w (List.mem_cons_of_mem v hw)), hone]

end DropletVision.Stats
