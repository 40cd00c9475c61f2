import Mathlib
import DropletVision.Proofs.Statistics.Mode
import DropletVision.Proofs.Statistics.Counting

/-!
# 丸めずに計算した度数分布と統計

`Stats.histogram` と `Stats.summary` を、値を拡張実数として丸めずに計算したとき（`Stats.Arith.exact`）
の振る舞い。値は実数の列を拡張実数に移したもの。

* `Stats.binRange`、`Stats.edge`、`Stats.InBin` — 区間をとる範囲（最小から最大まで。等しければ両側へ
  `1/2` 広げる）、それを `bins` 等分した端、値が区間に入ること（`edge i ≤ v < edge (i + 1)`、最後の区間は
  上端の値も）。
* `Stats.binIndex_eq_iff` — 値を数える番号 `min ⌊(v - lo) / (hi - lo) · bins⌋₊ (bins - 1)` は、値が入る
  区間の番号そのもの。端の列と番号は別々に計算するが、端の上の値でも上端の値でも食い違わない。
* `Stats.countP_inBin` — 区間に入る値の数は、番号がその区間の値の数。度数はそれを番号ごとに数えた
  もの（`foldl_modify_toList`）。
* `Stats.histogram_exact`、`Stats.summary_exact` — 度数分布と統計の値。
* `Stats.histogram_summary_exact` — 主定理。

最小と最大は `+∞` と `-∞` から畳むので、空でない列では列の値そのものになる（`foldl_minNum_exact`）。
-/

namespace DropletVision.Stats

/-! ## 丸めの無い演算 -/

/-- 最も近い整数。ちょうど半分なら 0 から遠い方。 -/
noncomputable def roundHalfAway (x : ℝ) : ℤ := if x < 0 then -round (-x) else round x

/-- 拡張実数の上の丸めの無い演算。添字は 0 へ向けた切り捨て、整数への丸めは `roundHalfAway` で、
どちらも幅の制限は無い。 -/
noncomputable def Arith.exact : Arith EReal where
  ofNat n := ((n : ℝ) : EReal)
  ofInt k := ((k : ℝ) : EReal)
  toIndex x := ⌊x.toReal⌋₊
  roundKey x := roundHalfAway x.toReal
  sqrt x := ((Real.sqrt x.toReal : ℝ) : EReal)
  minNum := min
  maxNum := max
  inf := ⊤
  half := ((0.5 : ℝ) : EReal)

/-- 実数を移した列を小さい方で畳むのは、実数の列を畳んで移すこと。 -/
theorem foldl_min_coe (a : ℝ) (vs : List ℝ) :
    (vs.map ((↑) : ℝ → EReal)).foldl min (a : EReal) = ((vs.foldl min a : ℝ) : EReal) := by
  rw [List.foldl_map]
  exact List.foldl_hom _ fun x y => (EReal.coe_strictMono.monotone.map_min).symm

theorem foldl_max_coe (a : ℝ) (vs : List ℝ) :
    (vs.map ((↑) : ℝ → EReal)).foldl max (a : EReal) = ((vs.foldl max a : ℝ) : EReal) := by
  rw [List.foldl_map]
  exact List.foldl_hom _ fun x y => (EReal.coe_strictMono.monotone.map_max).symm

/-- 空でない列の最小：`+∞` から小さい方で畳むと、列の最小の値になる。 -/
theorem foldl_minNum_exact {vs : List ℝ} (hvs : vs ≠ []) :
    ∃ m : ℝ, (vs.map ((↑) : ℝ → EReal)).foldl Arith.exact.minNum Arith.exact.inf = (m : EReal) ∧
      m ∈ vs ∧ ∀ v ∈ vs, m ≤ v := by
  obtain ⟨v, vs, rfl⟩ := List.exists_cons_of_ne_nil hvs
  have hm : (v :: vs).min? = some (vs.foldl min v) := List.min?_cons'
  refine ⟨vs.foldl min v, ?_, List.min?_eq_some_iff.1 hm⟩
  rw [List.map_cons, List.foldl_cons, ← foldl_min_coe]
  simp only [Arith.exact]
  rw [min_eq_right le_top]

/-- 空でない列の最大：`-∞` から大きい方で畳むと、列の最大の値になる。 -/
theorem foldl_maxNum_exact {vs : List ℝ} (hvs : vs ≠ []) :
    ∃ M : ℝ, (vs.map ((↑) : ℝ → EReal)).foldl Arith.exact.maxNum (-Arith.exact.inf) = (M : EReal) ∧
      M ∈ vs ∧ ∀ v ∈ vs, v ≤ M := by
  obtain ⟨v, vs, rfl⟩ := List.exists_cons_of_ne_nil hvs
  have hM : (v :: vs).max? = some (vs.foldl max v) := List.max?_cons'
  refine ⟨vs.foldl max v, ?_, List.max?_eq_some_iff.1 hM⟩
  rw [List.map_cons, List.foldl_cons, ← foldl_max_coe]
  simp only [Arith.exact, EReal.neg_top]
  rw [max_eq_right bot_le]

/-! ## 区間 -/

/-- 区間をとる範囲：最小 `m` から最大 `M` まで。等しければ両側へ `1/2` 広げる。 -/
noncomputable def binRange (m M : ℝ) : ℝ × ℝ := if m = M then (m - 0.5, M + 0.5) else (m, M)

/-- 範囲 `r` を `bins` 等分した `i` 番目の端。 -/
noncomputable def edge (r : ℝ × ℝ) (bins i : ℕ) : ℝ := r.1 + (r.2 - r.1) * i / bins

/-- 値 `v` は、範囲 `r` を `bins` 等分した区間 `i` に入る：`edge i ≤ v < edge (i + 1)`。最後の区間は
範囲の上端 `v = r.2` も含む。 -/
def InBin (r : ℝ × ℝ) (bins i : ℕ) (v : ℝ) : Prop :=
  edge r bins i ≤ v ∧ (v < edge r bins (i + 1) ∨ (i + 1 = bins ∧ v = r.2))

noncomputable instance (r : ℝ × ℝ) (bins i : ℕ) (v : ℝ) : Decidable (InBin r bins i v) :=
  inferInstanceAs (Decidable (_ ∧ _))

theorem binRange_lt {m M : ℝ} (h : m ≤ M) : (binRange m M).1 < (binRange m M).2 := by
  unfold binRange
  split_ifs with hmM
  · linarith
  · exact lt_of_le_of_ne h hmM

/-- 範囲は、最小と最大の間の値をすべて含む。 -/
theorem mem_binRange {m M v : ℝ} (hm : m ≤ v) (hM : v ≤ M) :
    (binRange m M).1 ≤ v ∧ v ≤ (binRange m M).2 := by
  unfold binRange
  split_ifs
  · constructor <;> linarith
  · exact ⟨hm, hM⟩

theorem edge_zero (r : ℝ × ℝ) (bins : ℕ) : edge r bins 0 = r.1 := by simp [edge]

theorem edge_bins (r : ℝ × ℝ) {bins : ℕ} (hb : 0 < bins) : edge r bins bins = r.2 := by
  have : (bins : ℝ) ≠ 0 := by exact_mod_cast hb.ne'
  simp [edge, mul_div_assoc, div_self this]

/-- 値を数える区間の番号：範囲の中の位置 `(v - r.1) / (r.2 - r.1) · bins` の切り捨てを、最後の区間に
切り詰めたもの。 -/
noncomputable def binIndex (r : ℝ × ℝ) (bins : ℕ) (v : ℝ) : ℕ :=
  min ⌊(v - r.1) / (r.2 - r.1) * bins⌋₊ (bins - 1)

theorem binIndex_lt {r : ℝ × ℝ} {bins : ℕ} (hb : 0 < bins) (v : ℝ) : binIndex r bins v < bins := by
  unfold binIndex
  omega

section Bin

variable {r : ℝ × ℝ} {bins : ℕ} (hr : r.1 < r.2) (hb : 0 < bins)
include hr hb

/-- 端 `i` が `v` 以下なのは、`v` の範囲の中の位置 `(v - r.1) / (r.2 - r.1) · bins` が `i` 以上のとき。 -/
theorem edge_le_iff (i : ℕ) (v : ℝ) :
    edge r bins i ≤ v ↔ (i : ℝ) ≤ (v - r.1) / (r.2 - r.1) * bins := by
  have hd : 0 < r.2 - r.1 := sub_pos.2 hr
  have hB : (0 : ℝ) < bins := by exact_mod_cast hb
  rw [edge, ← le_sub_iff_add_le', div_le_iff₀ hB, div_mul_eq_mul_div, le_div_iff₀ hd, mul_comm (i : ℝ)]

theorem lt_edge_iff (i : ℕ) (v : ℝ) :
    v < edge r bins i ↔ (v - r.1) / (r.2 - r.1) * bins < i := by
  rw [← not_le, edge_le_iff hr hb, not_le]

/-- **区間の番号。** 範囲の中の値を数える番号 `binIndex` は、値が入る区間の番号そのもの。端の上の値は
上の区間に、上端の値は最後の区間に入る。 -/
theorem binIndex_eq_iff {v : ℝ} (hv : r.1 ≤ v ∧ v ≤ r.2) {i : ℕ} (hi : i < bins) :
    binIndex r bins v = i ↔ InBin r bins i v := by
  set t := (v - r.1) / (r.2 - r.1) * bins with ht
  have hd : 0 < r.2 - r.1 := sub_pos.2 hr
  have ht0 : 0 ≤ t := mul_nonneg (div_nonneg (sub_nonneg.2 hv.1) hd.le) (Nat.cast_nonneg _)
  unfold InBin binIndex
  rw [edge_le_iff hr hb, lt_edge_iff hr hb, ← ht, Nat.cast_succ]
  rcases hv.2.lt_or_eq with hlt | heq
  · -- 上端より下：位置は `bins` より小さく、切り捨てがそのまま番号
    have htb : t < bins := by
      have hB : (0 : ℝ) < bins := by exact_mod_cast hb
      rw [ht, div_mul_eq_mul_div, div_lt_iff₀ hd, mul_comm (bins : ℝ)]
      exact mul_lt_mul_of_pos_right (sub_lt_sub_right hlt r.1) hB
    have hfl : ⌊t⌋₊ < bins := (Nat.floor_lt ht0).2 htb
    rw [min_eq_left (by omega), Nat.floor_eq_iff ht0]
    simp [hlt.ne]
  · -- 上端：位置は `bins` ちょうどで、最後の区間
    have htb : t = bins := by
      rw [ht, heq, div_self hd.ne', one_mul]
    rw [htb, Nat.floor_natCast, min_eq_right (Nat.sub_le _ _)]
    have : (i : ℝ) + 1 ≤ bins := by exact_mod_cast hi
    constructor
    · intro _
      exact ⟨by exact_mod_cast hi.le, .inr ⟨by omega, heq⟩⟩
    · rintro ⟨-, h | h⟩
      · linarith
      · omega

/-- 範囲の中の値は、ちょうど一つの区間に入る。 -/
theorem existsUnique_inBin {v : ℝ} (hv : r.1 ≤ v ∧ v ≤ r.2) : ∃! i, i < bins ∧ InBin r bins i v :=
  ⟨binIndex r bins v, ⟨binIndex_lt hb v, (binIndex_eq_iff hr hb hv (binIndex_lt hb v)).1 rfl⟩,
    fun _ ⟨hi, hin⟩ => ((binIndex_eq_iff hr hb hv hi).2 hin).symm⟩

/-- 範囲の中の値の列では、区間に入る値の数は番号がその区間の値の数。 -/
theorem countP_inBin {vs : List ℝ} (hvs : ∀ v ∈ vs, r.1 ≤ v ∧ v ≤ r.2) :
    (List.range bins).map (fun i => vs.countP (fun v => InBin r bins i v)) =
      (List.range bins).map (fun i => vs.countP (binIndex r bins · = i)) := by
  refine List.map_congr_left fun i hi => List.countP_congr fun v hv => ?_
  simp only [decide_eq_true_iff]
  exact (binIndex_eq_iff hr hb (hvs v hv) (List.mem_range.1 hi)).symm

end Bin

/-! ## 正確な度数分布 -/

/-- 拡張実数で数える番号は、実数の番号 `binIndex`。 -/
theorem exact_binIndex (v : ℝ) (r : ℝ × ℝ) (bins : ℕ) :
    min (Arith.exact.toIndex (((v : EReal) - r.1) / ((r.2 : EReal) - r.1) * Arith.exact.ofNat bins))
      (bins - 1) = binIndex r bins v := by
  simp only [Arith.exact, ← EReal.coe_sub, ← EReal.coe_div, ← EReal.coe_mul, EReal.toReal_coe, binIndex]

/-- 最小と最大が等しいときに広げた範囲は `binRange`。 -/
theorem exact_widen (m M : ℝ) :
    (if (m : EReal) == M then ((m : EReal) - Arith.exact.half, (M : EReal) + Arith.exact.half)
      else ((m : EReal), (M : EReal))) = (((binRange m M).1 : EReal), ((binRange m M).2 : EReal)) := by
  by_cases h : m = M
  · simp [binRange, h, Arith.exact, EReal.coe_sub, EReal.coe_add]
  · have h' : ((m : EReal) == (M : EReal)) = false := by simpa using h
    simp [binRange, h, h']

/-- 端の列は、範囲を `bins` 等分する `bins + 1` 個の端。 -/
theorem linspace_exact (r : ℝ × ℝ) {bins : ℕ} (hb : 0 < bins) :
    linspace Arith.exact (r.1 : EReal) r.2 (bins + 1) =
      (List.range (bins + 1)).map (fun i => ((edge r bins i : ℝ) : EReal)) := by
  rw [linspace, if_neg (by omega)]
  refine List.map_congr_left fun i _ => ?_
  rw [Nat.add_sub_cancel]
  split
  · -- 最後の端はちょうど上端
    rename_i h
    rw [beq_iff_eq.1 h, edge_bins r hb]
  · simp only [Arith.exact, ← EReal.coe_sub, ← EReal.coe_div, ← EReal.coe_mul, ← EReal.coe_add, edge]
    congr 1
    ring

/-- **正確な度数分布。** 空でない値の列では、`m`、`M` を値の最小と最大として、端は範囲
`binRange m M` を `bins` 等分する `bins + 1` 個、区間 `i` の度数は区間 `i` に入る値の数。 -/
theorem histogram_exact {vs : List ℝ} (hvs : vs ≠ []) {bins : ℕ} (hb : 0 < bins) :
    ∃ m M : ℝ, (m ∈ vs ∧ ∀ v ∈ vs, m ≤ v) ∧ (M ∈ vs ∧ ∀ v ∈ vs, v ≤ M) ∧
      histogram Arith.exact bins (vs.map (↑)) =
        ((List.range (bins + 1)).map (fun i => ((edge (binRange m M) bins i : ℝ) : EReal)),
          (List.range bins).map (fun i => vs.countP (fun v => InBin (binRange m M) bins i v))) := by
  obtain ⟨m, hm, hmv, hmle⟩ := foldl_minNum_exact hvs
  obtain ⟨M, hM, hMv, hMle⟩ := foldl_maxNum_exact hvs
  refine ⟨m, M, ⟨hmv, hmle⟩, ⟨hMv, hMle⟩, ?_⟩
  have hne : (vs.map ((↑) : ℝ → EReal)).isEmpty = false := by simpa using hvs
  have hr : (binRange m M).1 < (binRange m M).2 := binRange_lt (hmle M hMv)
  have hin : ∀ v ∈ vs, (binRange m M).1 ≤ v ∧ v ≤ (binRange m M).2 := fun v hv =>
    mem_binRange (hmle v hv) (hMle v hv)
  simp only [histogram, hne, hm, hM, exact_widen, Bool.false_eq_true, if_false]
  rw [linspace_exact _ hb, foldl_modify_toList, countP_inBin hr hb hin]
  congr 1
  refine List.map_congr_left fun i _ => ?_
  rw [List.countP_map]
  exact List.countP_congr fun v _ => by simp only [Function.comp_apply, exact_binIndex]

/-! ## 統計 -/

section Summary

variable {α : Type} [Add α] [Sub α] [Mul α] [Div α] [Neg α] [OfNat α 0] (A : Arith α)
  {values : List α} (scale : α)

theorem summary_count : (summary A values scale).count = values.length := by
  unfold summary
  split <;> simp_all

variable (h : values ≠ [])
include h

theorem summary_mean :
    (summary A values scale).mean = negZeroSum (values.map (· * scale)) / A.ofNat values.length := by
  rw [summary, if_neg (by simpa using h)]

theorem summary_min : (summary A values scale).min = (values.map (· * scale)).foldl A.minNum A.inf := by
  rw [summary, if_neg (by simpa using h)]

theorem summary_max :
    (summary A values scale).max = (values.map (· * scale)).foldl A.maxNum (-A.inf) := by
  rw [summary, if_neg (by simpa using h)]

/-- 最頻値は、丸めた値ごとの個数を `keepFirstMax` で畳んで残った整数に換算を掛けたもの。 -/
theorem summary_mode {k : Int} {c : Nat}
    (hk : (roundedCounts A.roundKey values).foldl keepFirstMax none = some (k, c)) :
    (summary A values scale).mode = A.ofInt k * scale := by
  rw [summary, if_neg (by simpa using h)]
  simp only [hk]

end Summary

/-- 実数を移した列の和は、実数の和を移したもの。 -/
theorem negZeroSum_coe (ws : List ℝ) :
    negZeroSum (ws.map ((↑) : ℝ → EReal)) = ((ws.sum : ℝ) : EReal) := by
  rw [negZeroSum, neg_zero, ← EReal.coe_zero, List.foldl_map,
    List.foldl_hom _ fun x y => (EReal.coe_add x y).symm, List.sum_eq_foldl]

theorem map_mul_coe (vs : List ℝ) (scale : ℝ) :
    (vs.map ((↑) : ℝ → EReal)).map (· * (scale : EReal)) = (vs.map (· * scale)).map ((↑) : ℝ → EReal) := by
  simp only [List.map_map]
  exact List.map_congr_left fun v _ => (EReal.coe_mul v scale).symm

/-- 空でない列の平均は、最小と最大の間。 -/
theorem mean_mem_Icc {ws : List ℝ} (hws : ws ≠ []) {lo hi : ℝ} (hlo : ∀ w ∈ ws, lo ≤ w)
    (hhi : ∀ w ∈ ws, w ≤ hi) : lo ≤ ws.sum / ws.length ∧ ws.sum / ws.length ≤ hi := by
  have hn : (0 : ℝ) < ws.length := by exact_mod_cast List.length_pos_iff.2 hws
  have h1 := List.card_nsmul_le_sum ws lo hlo
  have h2 := List.sum_le_card_nsmul ws hi hhi
  rw [nsmul_eq_mul] at h1 h2
  constructor
  · rw [le_div_iff₀ hn, mul_comm]
    exact h1
  · rw [div_le_iff₀ hn, mul_comm]
    exact h2

/-- **正確な統計。** 空でない値の列に換算 `scale` を掛けた列 `ws` について、数は値の数、平均は `ws` の
和を数で割ったもの、最小と最大は `ws` の最小と最大、最頻値は丸めて `k` になる値の数を最大にする
最小の整数 `k` に換算を掛けたもの。 -/
theorem summary_exact {vs : List ℝ} (hvs : vs ≠ []) (scale : ℝ) :
    (summary Arith.exact (vs.map (↑)) scale).count = vs.length ∧
    (summary Arith.exact (vs.map (↑)) scale).mean =
      (((vs.map (· * scale)).sum / vs.length : ℝ) : EReal) ∧
    (∃ lo : ℝ, (summary Arith.exact (vs.map (↑)) scale).min = lo ∧
      lo ∈ vs.map (· * scale) ∧ ∀ w ∈ vs.map (· * scale), lo ≤ w) ∧
    (∃ hi : ℝ, (summary Arith.exact (vs.map (↑)) scale).max = hi ∧
      hi ∈ vs.map (· * scale) ∧ ∀ w ∈ vs.map (· * scale), w ≤ hi) ∧
    ∃ k : ℤ, (summary Arith.exact (vs.map (↑)) scale).mode = ((k * scale : ℝ) : EReal) ∧
      IsSmallestMode (fun j => vs.countP (roundHalfAway · = j)) k := by
  have hne : vs.map ((↑) : ℝ → EReal) ≠ [] := by simpa using hvs
  have hws : vs.map (· * scale) ≠ [] := by simpa using hvs
  refine ⟨by rw [summary_count, List.length_map], ?_, ?_, ?_, ?_⟩
  · rw [summary_mean _ _ hne, map_mul_coe, negZeroSum_coe, List.length_map]
    exact (EReal.coe_div _ _).symm
  · obtain ⟨lo, hlo, hmem⟩ := foldl_minNum_exact hws
    exact ⟨lo, by rw [summary_min _ _ hne, map_mul_coe, hlo], hmem⟩
  · obtain ⟨hi, hhi, hmem⟩ := foldl_maxNum_exact hws
    exact ⟨hi, by rw [summary_max _ _ hne, map_mul_coe, hhi], hmem⟩
  · -- 丸めた拡張実数は、もとの実数を丸めたもの
    obtain ⟨k, c, hk, hmode⟩ := roundedCounts_mode Arith.exact.roundKey _ hne
    refine ⟨k, by rw [summary_mode _ _ hne hk, EReal.coe_mul]; rfl, ?_⟩
    have hcnt : (fun j => vs.countP (roundHalfAway · = j)) =
        fun j => (vs.map ((↑) : ℝ → EReal)).countP (Arith.exact.roundKey · = j) := by
      funext j
      rw [List.countP_map]
      rfl
    rw [hcnt]
    exact hmode

/-- **度数分布と統計の法則。** 空でない値の列と `bins ≥ 1` について、丸めずに計算すると、

* 端は、値の最小 `m` から最大 `M` までの範囲 `binRange m M`（等しければ両側へ `1/2` 広げる）を
  `bins` 等分する `bins + 1` 個で、最初は範囲の下端、最後は上端。
* 度数は `bins` 個で、区間 `i` の度数は区間 `i` に入る値の数。どの値もちょうど一つの区間に入り
  （最後の区間は上端の値も）、度数の和は値の数。
* 統計の数は値の数。最頻値は、丸めて `k` になる値の数を最大にする最小の整数 `k` に換算を掛けたもの。
  平均は換算した値の和を数で割ったもので、最小と最大は換算した値の最小と最大、平均はその間。 -/
theorem histogram_summary_exact (vs : List ℝ) (hvs : vs ≠ []) (bins : ℕ) (hb : 0 < bins)
    (scale : ℝ) :
    (∃ m M : ℝ, (m ∈ vs ∧ ∀ v ∈ vs, m ≤ v) ∧ (M ∈ vs ∧ ∀ v ∈ vs, v ≤ M) ∧
      (histogram Arith.exact bins (vs.map (↑))).1 =
        (List.range (bins + 1)).map (fun i => ((edge (binRange m M) bins i : ℝ) : EReal)) ∧
      (histogram Arith.exact bins (vs.map (↑))).1.head? = some ((binRange m M).1 : EReal) ∧
      (histogram Arith.exact bins (vs.map (↑))).1.getLast? = some ((binRange m M).2 : EReal) ∧
      (histogram Arith.exact bins (vs.map (↑))).2 =
        (List.range bins).map (fun i => vs.countP (fun v => InBin (binRange m M) bins i v)) ∧
      (∀ v ∈ vs, ∃! i, i < bins ∧ InBin (binRange m M) bins i v) ∧
      (histogram Arith.exact bins (vs.map (↑))).2.sum = vs.length) ∧
    (summary Arith.exact (vs.map (↑)) scale).count = vs.length ∧
    (∃ k : ℤ, (summary Arith.exact (vs.map (↑)) scale).mode = ((k * scale : ℝ) : EReal) ∧
      IsSmallestMode (fun j => vs.countP (roundHalfAway · = j)) k) ∧
    (summary Arith.exact (vs.map (↑)) scale).mean =
      (((vs.map (· * scale)).sum / vs.length : ℝ) : EReal) ∧
    (∃ lo hi : ℝ, (summary Arith.exact (vs.map (↑)) scale).min = lo ∧
      (summary Arith.exact (vs.map (↑)) scale).max = hi ∧
      (lo ∈ vs.map (· * scale) ∧ ∀ w ∈ vs.map (· * scale), lo ≤ w) ∧
      (hi ∈ vs.map (· * scale) ∧ ∀ w ∈ vs.map (· * scale), w ≤ hi)) ∧
    (summary Arith.exact (vs.map (↑)) scale).min ≤ (summary Arith.exact (vs.map (↑)) scale).mean ∧
    (summary Arith.exact (vs.map (↑)) scale).mean ≤ (summary Arith.exact (vs.map (↑)) scale).max := by
  obtain ⟨m, M, hm, hM, hh⟩ := histogram_exact hvs hb
  obtain ⟨hcount, hmean, ⟨lo, hlo, hlomem, hlole⟩, ⟨hi, hhi, himem, hile⟩, hmode⟩ :=
    summary_exact hvs scale
  have hr := binRange_lt (hm.2 M hM.1)
  have hin : ∀ v ∈ vs, (binRange m M).1 ≤ v ∧ v ≤ (binRange m M).2 := fun v hv =>
    mem_binRange (hm.2 v hv) (hM.2 v hv)
  -- 平均は、換算した値の最小と最大の間
  have hmid := mean_mem_Icc (by simpa using hvs) hlole hile
  rw [List.length_map] at hmid
  refine ⟨⟨m, M, hm, hM, by rw [hh], ?_, ?_, by rw [hh], fun v hv => existsUnique_inBin hr hb (hin v hv),
    ?_⟩, hcount, hmode, hmean, ⟨lo, hi, hlo, hhi, ⟨hlomem, hlole⟩, ⟨himem, hile⟩⟩, ?_, ?_⟩
  · rw [hh, List.range_succ_eq_map, List.map_cons, List.head?_cons, edge_zero]
  · simp [hh, List.getLast?_range, edge_bins _ hb]
  · rw [hh, countP_inBin hr hb hin]
    exact sum_countP_eq_length _ bins vs fun v _ => binIndex_lt hb v
  · rw [hlo, hmean]
    exact EReal.coe_le_coe_iff.2 hmid.1
  · rw [hhi, hmean]
    exact EReal.coe_le_coe_iff.2 hmid.2

/-- 値 `1, 2, 2` を二つの区間に分け、換算 `1` で統計をとる。 -/
theorem histogram_summary_exact_one_two_two :
    (histogram Arith.exact 2 (([1, 2, 2] : List ℝ).map (↑))).2.sum = 3 ∧
      (summary Arith.exact (([1, 2, 2] : List ℝ).map (↑)) 1).count = 3 := by
  obtain ⟨⟨_, _, -, -, -, -, -, -, -, hsum⟩, hcount, -⟩ :=
    histogram_summary_exact [1, 2, 2] (by simp) 2 (by norm_num) 1
  exact ⟨hsum, hcount⟩

end DropletVision.Stats
