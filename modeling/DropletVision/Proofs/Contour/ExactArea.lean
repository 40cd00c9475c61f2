import DropletVision.Proofs.Contour.Polygon
import DropletVision.Proofs.Float.Integers

/-!
# 小さい輪郭の面積は倍精度でもちょうど求まる

座標の大きさが `2^20` 未満で、点が `2^12` 個より少ない輪郭（`Contour.Small`）では、辺ごとの外積は
`2^41` 未満、その和は `2^53` 未満なので、倍精度の計算に丸めは起きない。

* `Contour.Small.isInt_m00_edgeSums` — 倍精度のグリーンの定理の和の `m00` は、靴ひも公式の和を
  ちょうど表す。
* `Contour.Small.area_eq` — 面積は、靴ひも公式の和の絶対値の半分をちょうど表す値。
* `Contour.Small.area_beq_zero` — 面積が 0 なのは、三点より少ないか靴ひも公式の和が 0 のときに限る。
* `Contour.Small.moments_m00`、`Contour.Small.centroid_eq` — 面積が 0 でなければ、モーメントの `m00` は
  面積と同じ値で、重心は求まる。

面積は 64 ビットの整数の和から、モーメントは倍精度の和から求めるが、小さい輪郭では二つは一致する。
-/

namespace DropletVision

open Binary64 Float.Model

/-- 座標の大きさが `2^20` 未満の点。 -/
def Point.Small (p : Point) : Prop := p.x.natAbs < 2 ^ 20 ∧ p.y.natAbs < 2 ^ 20

instance (p : Point) : Decidable p.Small := inferInstanceAs (Decidable (_ ∧ _))

theorem natAbs_mul_lt_two_pow_forty {a b : Int} (ha : a.natAbs < 2 ^ 20) (hb : b.natAbs < 2 ^ 20) :
    (a * b).natAbs < 2 ^ 40 := by
  rw [Int.natAbs_mul]
  calc a.natAbs * b.natAbs < 2 ^ 20 * 2 ^ 20 := Nat.mul_lt_mul'' ha hb
    _ = 2 ^ 40 := by norm_num

/-- 小さい点どうしの外積は `2^41` 未満。 -/
theorem Point.natAbs_cross_lt {p q : Point} (hp : p.Small) (hq : q.Small) :
    (p.cross q).natAbs < 2 ^ 41 := by
  have h1 := natAbs_mul_lt_two_pow_forty hp.1 hq.2
  have h2 := natAbs_mul_lt_two_pow_forty hq.1 hp.2
  unfold Point.cross
  omega

/-- 一辺の外積は、小さい点どうしなら倍精度でちょうど計算される。 -/
theorem Point.isInt_cross {p q : Point} (hp : p.Small) (hq : q.Small) :
    IsInt (Float.ofInt p.x * Float.ofInt q.y - Float.ofInt q.x * Float.ofInt p.y) (p.cross q) := by
  have h1 := natAbs_mul_lt_two_pow_forty hp.1 hq.2
  have h2 := natAbs_mul_lt_two_pow_forty hq.1 hp.2
  have hx := IsInt.ofInt (z := p.x) (by have := hp.1; omega)
  have hy := IsInt.ofInt (z := q.y) (by have := hq.2; omega)
  have hx' := IsInt.ofInt (z := q.x) (by have := hq.1; omega)
  have hy' := IsInt.ofInt (z := p.y) (by have := hp.2; omega)
  exact (hx.mul hy (by omega)).sub (hx'.mul hy' (by omega)) (Point.natAbs_cross_lt hp hq |>.trans (by norm_num))

namespace Contour

/-- 座標の大きさが `2^20` 未満で、点が `2^12` 個より少ない輪郭。 -/
structure Small (c : Contour) : Prop where
  point_small : ∀ p ∈ c.points, p.Small
  size_lt : c.points.size < 2 ^ 12

instance (c : Contour) : Decidable c.Small :=
  decidable_of_iff ((∀ p ∈ c.points.toList, p.Small) ∧ c.points.size < 2 ^ 12)
    ⟨fun h => ⟨fun p hp => h.1 p (Array.mem_toList_iff.2 hp), h.2⟩,
      fun h => ⟨fun p hp => h.point_small p (Array.mem_toList_iff.1 hp), h.size_lt⟩⟩

theorem Small.getD {c : Contour} (hc : c.Small) (i : Nat) : (c.points.getD i default).Small := by
  unfold Array.getD
  split
  · exact hc.point_small _ (Array.getElem_mem _)
  · exact ⟨by decide, by decide⟩

theorem Small.mem_edges {c : Contour} (hc : c.Small) {e : Point × Point} (he : e ∈ c.edges) :
    e.1.Small ∧ e.2.Small := by
  simp only [edges, List.mem_map, List.mem_range] at he
  obtain ⟨i, -, rfl⟩ := he
  exact ⟨hc.getD i, hc.getD _⟩

theorem length_edges (c : Contour) : c.edges.length = c.points.size := by
  simp [edges]

/-- グリーンの定理の和の `m00` の成分は、辺ごとの外積の項だけを足していく。 -/
theorem m00_foldl_addEdge {α : Type} [Add α] [Sub α] [Mul α] [OfNat α 2] (f : Int → α)
    (es : List (Point × Point)) (m : MomentSums α) :
    (es.foldl (addEdge f) m).m00 =
      es.foldl (fun a e => a + (f e.1.x * f e.2.y - f e.2.x * f e.1.y)) m.m00 := by
  induction es generalizing m with
  | nil => rfl
  | cons e es ih => exact ih _

/-- 外積の項を倍精度で足していっても、途中の和が `2^53` に届かなければ丸めは起きない。 -/
theorem isInt_foldl_cross (es : List (Point × Point)) (hes : ∀ e ∈ es, e.1.Small ∧ e.2.Small)
    {acc : Float} {z : Int} (hacc : IsInt acc z) (hb : z.natAbs + es.length * 2 ^ 41 ≤ 2 ^ 53) :
    IsInt (es.foldl (fun a e => a + (Float.ofInt e.1.x * Float.ofInt e.2.y -
        Float.ofInt e.2.x * Float.ofInt e.1.y)) acc)
      (es.foldl (fun a e => a + e.1.cross e.2) z) := by
  induction es generalizing acc z with
  | nil => exact hacc
  | cons e es ih =>
    have he := hes e List.mem_cons_self
    have hterm := Point.isInt_cross he.1 he.2
    have ht := Point.natAbs_cross_lt he.1 he.2
    simp only [List.length_cons] at hb
    have hsum : (z + e.1.cross e.2).natAbs + es.length * 2 ^ 41 ≤ 2 ^ 53 := by omega
    exact ih (fun e' he' => hes e' (List.mem_cons_of_mem _ he')) (hacc.add hterm (by omega)) hsum

/-- 靴ひも公式の和は、外積の項を順に足したもの。 -/
theorem shoelace_eq_foldl (c : Contour) :
    c.shoelace = c.edges.foldl (fun a e => a + e.1.cross e.2) 0 := by
  rw [shoelace, List.foldl_map]
  rfl

/-- 小さい輪郭では、倍精度のグリーンの定理の和の `m00` は靴ひも公式の和をちょうど表す。 -/
theorem Small.isInt_m00_edgeSums {c : Contour} (hc : c.Small) :
    IsInt (c.edgeSums Float.ofInt).m00 c.shoelace := by
  rw [edgeSums, m00_foldl_addEdge, shoelace_eq_foldl]
  refine isInt_foldl_cross c.edges (fun e he => hc.mem_edges he) (IsInt.ofInt (z := 0) (by decide)) ?_
  have := hc.size_lt
  rw [length_edges]
  omega

theorem Small.natAbs_shoelace_lt {c : Contour} (hc : c.Small) : c.shoelace.natAbs < 2 ^ 53 :=
  hc.isInt_m00_edgeSums.1

theorem Small.natAbs_cast_natAbs_shoelace_lt {c : Contour} (hc : c.Small) :
    (c.shoelace.natAbs : Int).natAbs < 2 ^ 53 := by
  rw [Int.natAbs_natCast]
  exact hc.natAbs_shoelace_lt

end Contour

/-- `2^63` より小さい整数は折り返しても変わらない。 -/
theorem wrapI64_of_natAbs_lt {i : Int} (h : i.natAbs < 2 ^ 63) : wrapI64 i = i := by
  have h64 : Int.pow 2 64 = 18446744073709551616 := rfl
  have h63 : Int.pow 2 63 = 9223372036854775808 := rfl
  simp only [wrapI64, h64, h63]
  split <;> omega

theorem unpack_f64Epsilon :
    f64Epsilon.toModel.unpack = .finite .positive (2 ^ 52) (-104) (by positivity) := by
  rfl

/-- `n / 2`（`0 < n < 2^53`）は計算機イプシロンより小さくない。 -/
theorem not_toFloat_scaled_lt_f64Epsilon {n : Nat} (h0 : n ≠ 0) (hn : n < 2 ^ 53) :
    ¬toFloat (scaled n 1) < f64Epsilon := by
  show ¬Float.lt _ _ = true
  simp only [Float.lt, decide_eq_true_eq]
  show ¬(repack (scaled n 1)).lt f64Epsilon.toModel.unpack = true
  rw [repack, unpack_pack_scaled (by simpa using hn) (by decide), unpack_f64Epsilon,
    scaled_of_ne_zero (by omega), signOf, if_neg (by omega)]
  -- 指数は `-53` 以上で、イプシロンの指数 `-104` より大きい
  have hexp : compare (-(lead n : Int) - 1) (-104) = .gt := compare_gt_iff_gt.2 (by unfold lead; omega)
  simp [UnpackedFloat.lt, UnpackedFloat.compare, hexp]

namespace Contour

variable {c : Contour}

/-- 小さい輪郭の面積は、靴ひも公式の和の絶対値の半分をちょうど表す。 -/
theorem Small.area_eq (hc : c.Small) (h3 : ¬c.points.size < 3) :
    c.area = toFloat (scaled c.shoelace.natAbs 1) := by
  have hS := hc.natAbs_shoelace_lt
  rw [area, if_neg h3, wrapI64_of_natAbs_lt (by omega)]
  exact (IsInt.ofInt hS).abs_div_two

/-- 小さい輪郭の面積が 0 なのは、三点より少ないか、靴ひも公式の和が 0 のときに限る。 -/
theorem Small.area_beq_zero (hc : c.Small) :
    (c.area == 0) = true ↔ c.points.size < 3 ∨ c.shoelace = 0 := by
  by_cases h3 : c.points.size < 3
  · rw [area, if_pos h3]
    simp only [h3, true_or, iff_true]
    rfl
  · rw [hc.area_eq h3, toFloat_scaled_beq_zero hc.natAbs_cast_natAbs_shoelace_lt (by decide)]
    simp [h3]

/-- 小さい輪郭で靴ひも公式の和が 0 でなければ、倍精度のモーメントの `m00` は面積と同じ値。 -/
theorem Small.moments_m00 (hc : c.Small) (h3 : ¬c.points.size < 3) (hS : c.shoelace ≠ 0) :
    c.moments.m00 = toFloat (scaled c.shoelace.natAbs 1) := by
  have hm := hc.isInt_m00_edgeSums
  have hS53 := hc.natAbs_shoelace_lt
  have hone : IsInt 1 1 := IsInt.ofInt (z := 1) (by decide)
  rw [moments, momentsIn, if_neg h3]
  dsimp only
  -- 正規化の符号は和の符号どおりで、掛けると和の絶対値になる
  have hsign : IsInt (if (c.edgeSums Float.ofInt).m00 < 0 then -1 else 1)
      (if c.shoelace < 0 then -1 else 1) := by
    by_cases hneg : c.shoelace < 0
    · rw [if_pos (hm.lt_zero_iff.2 hneg), if_pos hneg]
      exact hone.neg
    · rw [if_neg (mt hm.lt_zero_iff.1 hneg), if_neg hneg]
      exact hone
  have habs : (if c.shoelace < 0 then -1 else 1) * c.shoelace = (c.shoelace.natAbs : Int) := by
    split <;> omega
  have h := hsign.mul hm (by rw [habs]; omega)
  rw [habs] at h
  exact h.div_two (by omega)

/-- 面積が 0 でない小さい輪郭では、重心は求まる。 -/
theorem Small.centroid_eq (hc : c.Small) (h3 : ¬c.points.size < 3) (hS : c.shoelace ≠ 0) :
    c.centroid = .ok (c.moments.m10 / c.moments.m00, c.moments.m01 / c.moments.m00) := by
  have hS53 := hc.natAbs_shoelace_lt
  unfold centroid Moments.centroid
  rw [if_neg]
  show ¬c.moments.m00.abs < f64Epsilon
  rw [hc.moments_m00 h3 hS, abs_toFloat_scaled hc.natAbs_cast_natAbs_shoelace_lt (by decide), Int.natAbs_natCast]
  exact not_toFloat_scaled_lt_f64Epsilon (by omega) hS53

/-- 面積が 0 でない小さい輪郭は、三点以上あり、靴ひも公式の和が 0 でない。 -/
theorem Small.of_area_ne_zero (hc : c.Small) (h : (c.area == 0) = false) :
    ¬c.points.size < 3 ∧ c.shoelace ≠ 0 := by
  rw [← not_or, ← hc.area_beq_zero, h]
  decide

/-- 面積が 0 でない小さい輪郭では、倍精度のモーメントの `m00` は面積と同じ値。 -/
theorem Small.moments_m00_eq_area (hc : c.Small) (h : (c.area == 0) = false) :
    c.moments.m00 = c.area := by
  obtain ⟨h3, hS⟩ := hc.of_area_ne_zero h
  rw [hc.moments_m00 h3 hS, hc.area_eq h3]

end Contour

end DropletVision
