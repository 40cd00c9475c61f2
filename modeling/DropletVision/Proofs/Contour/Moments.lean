import Mathlib
import DropletVision.Proofs.Contour.Polygon

/-!
# モーメントは平行移動・向き・始点に対して正しく変わる

有理数で正確に計算したグリーンの定理のモーメント（`Contour.momentsIn`）について。

* `momentsIn_translate` — 点を `(dx, dy)` ずらすと、モーメントはずらした図形のもの
  （`Moments.translate`）になる。面積は変わらず、重心は `(dx, dy)` だけずれ、正規化した中心
  モーメントと楕円の軸と向きは変わらない（`Moments.centroid_translate` ほか）。
* `momentsIn_reverse`、`momentsIn_rotate` — 点の列を逆にしても（面積が 0 でなければ）、始点を
  回しても、六つのモーメントは変わらない。
* `momentsIn_m00` — `m00` は靴ひも公式の和の絶対値の半分。

どれも辺ごとの項の和（`toTuple_edgeSums`）の計算で、一周の和の並べ替えに帰着する。

* 平行移動：ずらした辺の項は、もとの項の一次変換 `shiftSums` に、端点だけで決まる項の差を足した
  もの（`edgeMoments_translate`）。差の部分は一周すると消える。
* 逆向き：辺が向きを変えて逆順に並び、項の符号が変わる。正規化の符号がそれを打ち消す。
* 始点を回す：辺が巡回的に並べ替わるだけ。
-/

namespace DropletVision

open Finset

/-- 点を `(dx, dy)` ずらす。 -/
def Point.translate (p : Point) (dx dy : Int) : Point := ⟨p.x + dx, p.y + dy⟩

namespace Contour

/-- 輪郭を `(dx, dy)` ずらす。 -/
def translate (c : Contour) (dx dy : Int) : Contour := ⟨c.points.map (·.translate dx dy)⟩

/-- 点の列を逆向きにした輪郭。 -/
def reverse (c : Contour) : Contour := ⟨c.points.reverse⟩

/-- 始点を `k` 番目の点にした輪郭。 -/
def rotate (c : Contour) (k : Nat) : Contour := ⟨(c.points.toList.rotate k).toArray⟩

end Contour

namespace Chain

/-! ## 一周の和の並べ替え -/

theorem cyclicAt_mod_add (pts : Array Point) (i k : Nat) :
    cyclicAt pts (i % pts.size + k) = cyclicAt pts (i + k) := by
  simp only [cyclicAt, Nat.mod_add_mod]

theorem cyclicAt_mod (pts : Array Point) (i : Nat) : cyclicAt pts (i % pts.size) = cyclicAt pts i :=
  cyclicAt_mod_add pts i 0

theorem cyclicAt_add_size (pts : Array Point) (i : Nat) :
    cyclicAt pts (i + pts.size) = cyclicAt pts i := by
  simp only [cyclicAt, Nat.add_mod_right]

section Sums

variable {M : Type} [AddCommGroup M]

/-- 周期 `n` の値の長さ `n` の和は、番号を `k` ずらしても同じ。 -/
theorem sum_range_add_period {n : Nat} {g : Nat → M} (hg : ∀ t, g (t + n) = g t) (k : Nat) :
    ∑ i ∈ range n, g (i + k) = ∑ i ∈ range n, g i := by
  rw [← sum_Ico_period hg k, sum_Ico_eq_sum_range, Nat.add_sub_cancel_left]
  exact sum_congr rfl fun i _ => by rw [Nat.add_comm]

/-- 辺の和は、点の列を周期的に読んだ `i` 番から `i + 1` 番への辺の値の和。 -/
theorem sum_edges_cyclicAt (c : Contour) (F : Point → Point → M) :
    (c.edges.map fun e => F e.1 e.2).sum =
      ∑ i ∈ range c.points.size, F (cyclicAt c.points i) (cyclicAt c.points (i + 1)) := by
  rw [sum_edges_eq (toList_eq_map_cyclicAt c.points)]
  simp only [cyclicAt_mod]

theorem toList_rotate_eq_map_cyclicAt (pts : Array Point) (k : Nat) :
    pts.toList.rotate k = (List.range pts.size).map fun i => cyclicAt pts (i + k) := by
  apply List.ext_getElem (by simp)
  intro i h1 _
  simp only [List.length_rotate, Array.length_toList] at h1
  have hpos : 0 < pts.size := by omega
  simp [List.getElem_rotate, cyclicAt, Nat.mod_lt _ hpos]

theorem toList_reverse_eq_map_cyclicAt (pts : Array Point) :
    pts.reverse.toList = (List.range pts.size).map fun i => cyclicAt pts (pts.size - 1 - i) := by
  apply List.ext_getElem (by simp)
  intro i h1 _
  simp only [Array.toList_reverse, List.length_reverse, Array.length_toList] at h1
  have hlt : pts.size - 1 - i < pts.size := by omega
  simp [List.getElem_reverse, cyclicAt, Nat.mod_eq_of_lt hlt, hlt]

/-- 始点を回しても、辺は巡回的に並べ替わるだけで、辺の和は同じ。 -/
theorem sum_edges_rotate (c : Contour) (k : Nat) (F : Point → Point → M) :
    ((c.rotate k).edges.map fun e => F e.1 e.2).sum = (c.edges.map fun e => F e.1 e.2).sum := by
  have hc : (c.rotate k).points.toList = (List.range c.points.size).map
      fun i => cyclicAt c.points (i + k) := by
    simpa [Contour.rotate] using toList_rotate_eq_map_cyclicAt c.points k
  rw [sum_edges_eq hc, sum_edges_cyclicAt]
  simp only [cyclicAt_mod_add, Nat.add_right_comm _ 1 k]
  have hg : ∀ t, F (cyclicAt c.points (t + c.points.size)) (cyclicAt c.points (t + c.points.size + 1)) =
      F (cyclicAt c.points t) (cyclicAt c.points (t + 1)) := fun t => by
    rw [cyclicAt_add_size, Nat.add_right_comm, cyclicAt_add_size]
  exact sum_range_add_period (g := fun t => F (cyclicAt c.points t) (cyclicAt c.points (t + 1))) hg k

/-- 点の列を逆にすると、辺は向きを変えて逆順に並ぶ。行って戻る辺の値の和が 0 なら、辺の和は
符号を変える。 -/
theorem sum_edges_reverse (c : Contour) {F : Point → Point → M} (hF : ∀ p q, F p q + F q p = 0) :
    (c.reverse.edges.map fun e => F e.1 e.2).sum = -(c.edges.map fun e => F e.1 e.2).sum := by
  have hc := toList_reverse_eq_map_cyclicAt c.points
  rw [sum_edges_eq (c := c.reverse) hc, sum_edges_cyclicAt]
  have hper := cyclicAt_add_size c.points 0
  set f := cyclicAt c.points
  cases hn : c.points.size with
  | zero => simp
  | succ n =>
    rw [hn, Nat.zero_add] at hper
    refine eq_neg_of_add_eq_zero_left ?_
    rw [sum_range_succ, sum_range_succ, Nat.mod_self, hper]
    -- 最後の辺を除くと、逆の列の `i` 番の辺は、もとの列の `n - 1 - i` 番の辺を逆にたどる
    have hrev : ∑ i ∈ range n, F (f (n + 1 - 1 - i)) (f (n + 1 - 1 - (i + 1) % (n + 1))) =
        ∑ i ∈ range n, F (f (i + 1)) (f i) := by
      rw [← sum_range_reflect]
      refine sum_congr rfl fun i hi => ?_
      have hi := mem_range.1 hi
      rw [Nat.mod_eq_of_lt (by omega)]
      congr 2 <;> omega
    rw [hrev]
    simp only [Nat.add_sub_cancel, Nat.sub_self, Nat.sub_zero]
    rw [add_add_add_comm, ← sum_add_distrib]
    simp [hF]

end Sums

end Chain

/-! ## 辺ごとの項 -/

namespace Contour

open Chain

/-- 有理数のグリーンの定理の和が、図形を `(u, v)` ずらすとどう変わるか。 -/
def shiftSums (u v : ℚ) : (ℚ × ℚ × ℚ × ℚ × ℚ × ℚ) →+ (ℚ × ℚ × ℚ × ℚ × ℚ × ℚ) :=
  AddMonoidHom.mk'
    (fun s => (s.1, s.2.1 + 3 * u * s.1, s.2.2.1 + 3 * v * s.1,
      s.2.2.2.1 + 4 * u * s.2.1 + 6 * u ^ 2 * s.1,
      s.2.2.2.2.1 + 4 * u * s.2.2.1 + 4 * v * s.2.1 + 12 * u * v * s.1,
      s.2.2.2.2.2 + 4 * v * s.2.2.1 + 6 * v ^ 2 * s.1))
    (fun a b => by
      simp only [Prod.fst_add, Prod.snd_add, Prod.mk_add_mk, Prod.mk.injEq]
      refine ⟨trivial, by ring, by ring, by ring, by ring, by ring⟩)

/-- ずらした辺の項は、もとの項を `shiftSums` で写したものに、端点だけで決まる項の差を足したもの。
端点の項はずらした原点からの辺の項で、三角形（原点と辺の両端）のモーメントの式が平行移動で正しく
変わることの言い換え。 -/
theorem edgeMoments_translate (p q : Point) (dx dy : Int) :
    edgeMoments (p.translate dx dy) (q.translate dx dy) =
      shiftSums dx dy (edgeMoments p q) +
        (edgeMoments ⟨dx, dy⟩ (q.translate dx dy) - edgeMoments ⟨dx, dy⟩ (p.translate dx dy)) := by
  simp only [edgeMoments, addEdge, MomentSums.toTuple, Point.translate, shiftSums,
    AddMonoidHom.mk'_apply, Prod.mk_add_mk, Prod.mk_sub_mk, Prod.mk.injEq, zero_add]
  push_cast
  refine ⟨by ring, by ring, by ring, by ring, by ring, by ring⟩

theorem toTuple_edgeSums_translate (c : Contour) (dx dy : Int) :
    ((c.translate dx dy).edgeSums (Int.cast : Int → ℚ)).toTuple =
      shiftSums dx dy (c.edgeSums (Int.cast : Int → ℚ)).toTuple := by
  have hc : (c.translate dx dy).points.toList =
      (List.range c.points.size).map fun i => (cyclicAt c.points i).translate dx dy := by
    rw [translate, Array.toList_map, toList_eq_map_cyclicAt c.points, List.map_map]
    rfl
  rw [toTuple_edgeSums, toTuple_edgeSums, sum_edges_eq hc, sum_edges_cyclicAt, map_sum]
  simp only [edgeMoments_translate, sum_add_distrib, sum_sub_distrib, cyclicAt_mod]
  -- 端点の項の差は、一周すると消える
  have hg : ∀ t, edgeMoments ⟨dx, dy⟩ ((cyclicAt c.points (t + c.points.size)).translate dx dy) =
      edgeMoments ⟨dx, dy⟩ ((cyclicAt c.points t).translate dx dy) := fun t => by
    rw [cyclicAt_add_size]
  have hsum := sum_range_add_period
    (g := fun t => edgeMoments ⟨dx, dy⟩ ((cyclicAt c.points t).translate dx dy)) hg 1
  rw [hsum, sub_self, add_zero]

theorem toTuple_edgeSums_reverse (c : Contour) :
    (c.reverse.edgeSums (Int.cast : Int → ℚ)).toTuple = -(c.edgeSums (Int.cast : Int → ℚ)).toTuple := by
  rw [toTuple_edgeSums, toTuple_edgeSums, sum_edges_reverse c lineAdditive_edgeMoments.add_swap]

theorem edgeSums_rotate (c : Contour) (k : Nat) :
    (c.rotate k).edgeSums (Int.cast : Int → ℚ) = c.edgeSums (Int.cast : Int → ℚ) := by
  apply MomentSums.toTuple_injective
  rw [toTuple_edgeSums, toTuple_edgeSums, sum_edges_rotate]

/-- 有理数のグリーンの定理の和の `m00` は、靴ひも公式の和。 -/
theorem m00_edgeSums (c : Contour) : (c.edgeSums (Int.cast : Int → ℚ)).m00 = c.shoelace := by
  have h := congrArg Prod.fst (toTuple_edgeSums c)
  simp only [MomentSums.toTuple] at h
  rw [h, sum_edges_cyclicAt, Prod.fst_sum, shoelace_eq_sum, sum_edges_cyclicAt, Int.cast_sum]
  refine sum_congr rfl fun i _ => ?_
  simp [edgeMoments, addEdge, MomentSums.toTuple, Point.cross]

/-- 三点より少なければ、行って戻るだけなので靴ひも公式の和は 0。 -/
theorem shoelace_eq_zero_of_size_lt_three {c : Contour} (hn : c.points.size < 3) : c.shoelace = 0 := by
  rw [shoelace_eq_sum, sum_edges_eq (toList_eq_map_cyclicAt c.points)]
  generalize c.points.size = N at hn ⊢
  interval_cases N <;> simp [sum_range_succ, Point.cross]; ring

end Contour

/-! ## モーメント -/

namespace Moments

/-- 図形を `(u, v)` ずらしたときのモーメント。 -/
def translate (m : Moments ℚ) (u v : ℚ) : Moments ℚ where
  m00 := m.m00
  m10 := m.m10 + u * m.m00
  m01 := m.m01 + v * m.m00
  m20 := m.m20 + 2 * u * m.m10 + u ^ 2 * m.m00
  m11 := m.m11 + u * m.m01 + v * m.m10 + u * v * m.m00
  m02 := m.m02 + 2 * v * m.m01 + v ^ 2 * m.m00

variable [EllipseOps ℚ] (m : Moments ℚ)

theorem centroid_of_lt (h : EllipseOps.abs m.m00 < EllipseOps.epsilon) :
    m.centroid = .error .moments :=
  if_pos h

theorem centroid_of_not_lt (h : ¬EllipseOps.abs m.m00 < EllipseOps.epsilon) :
    m.centroid = .ok (m.m10 / m.m00, m.m01 / m.m00) :=
  if_neg h

theorem central_of_lt (h : EllipseOps.abs m.m00 < EllipseOps.epsilon) :
    m.central = .error .moments := by
  rw [central, centroid_of_lt m h]
  rfl

theorem central_of_not_lt (h : ¬EllipseOps.abs m.m00 < EllipseOps.epsilon) :
    m.central = .ok (m.m20 / m.m00 - m.m10 / m.m00 * (m.m10 / m.m00),
      m.m11 / m.m00 - m.m10 / m.m00 * (m.m01 / m.m00), m.m02 / m.m00 - m.m01 / m.m00 * (m.m01 / m.m00)) := by
  rw [central, centroid_of_not_lt m h]
  rfl

section Translate

variable {m} (h0 : m.m00 ≠ 0) (u v : ℚ)
include h0

theorem centroid_translate :
    (m.translate u v).centroid = m.centroid.map fun p => (p.1 + u, p.2 + v) := by
  by_cases h : EllipseOps.abs m.m00 < EllipseOps.epsilon
  · rw [centroid_of_lt m h, centroid_of_lt (m.translate u v) h]
    rfl
  · rw [centroid_of_not_lt m h, centroid_of_not_lt (m.translate u v) h]
    simp only [translate, Except.map, Except.ok.injEq, Prod.mk.injEq]
    constructor <;> field_simp

theorem central_translate : (m.translate u v).central = m.central := by
  by_cases h : EllipseOps.abs m.m00 < EllipseOps.epsilon
  · rw [central_of_lt m h, central_of_lt (m.translate u v) h]
  · rw [central_of_not_lt m h, central_of_not_lt (m.translate u v) h]
    simp only [translate, Except.ok.injEq, Prod.mk.injEq]
    refine ⟨by field_simp; ring, by field_simp; ring, by field_simp; ring⟩

theorem fitEllipse_translate :
    (m.translate u v).fitEllipse =
      m.fitEllipse.map fun e => { e with center := (e.center.1 + u, e.center.2 + v) } := by
  unfold fitEllipse
  rw [centroid_translate h0, central_translate h0]
  rcases m.centroid with e | p
  · rfl
  · rcases m.central with e | ⟨mu20, mu11, mu02⟩
    · rfl
    · dsimp only [Except.map, bind, Except.bind, pure, Except.pure]
      split <;> rfl

end Translate

end Moments

/-! ## 輪郭のモーメント -/

namespace Contour

/-- 正規化の符号は、和の符号を変えると（和が 0 でなければ）変わる。 -/
theorem sign_neg_of_ne_zero {a : ℚ} (h : a ≠ 0) :
    (if -a < 0 then (-1 : ℚ) else 1) = -(if a < 0 then -1 else 1) := by
  rcases h.lt_or_gt with ha | ha
  · rw [if_neg (by linarith), if_pos ha, neg_neg]
  · rw [if_pos (by linarith), if_neg (by linarith)]

/-- 有理数で計算したモーメントの `m00` は、靴ひも公式の和の絶対値の半分（向きによらない面積）。 -/
theorem momentsIn_m00 (c : Contour) :
    (c.momentsIn (Int.cast : Int → ℚ)).m00 = |(c.shoelace : ℚ)| / 2 := by
  unfold momentsIn
  split_ifs with hn
  · simp [shoelace_eq_zero_of_size_lt_three hn]
  · dsimp only
    rw [m00_edgeSums]
    split_ifs with hneg
    · rw [abs_of_neg hneg]
      ring
    · rw [abs_of_nonneg (not_lt.1 hneg)]
      ring

/-- 点を `(dx, dy)` ずらすと、モーメントはずらした図形のモーメントになる。 -/
theorem momentsIn_translate (c : Contour) (dx dy : Int) :
    (c.translate dx dy).momentsIn (Int.cast : Int → ℚ) = (c.momentsIn Int.cast).translate dx dy := by
  have hT := toTuple_edgeSums_translate c dx dy
  have hsize : (c.translate dx dy).points.size = c.points.size := Array.size_map ..
  unfold momentsIn
  rw [hsize]
  split_ifs with hn
  · simp [Moments.translate]
  · dsimp only
    generalize c.edgeSums (Int.cast : Int → ℚ) = m at hT ⊢
    generalize (c.translate dx dy).edgeSums (Int.cast : Int → ℚ) = m' at hT ⊢
    obtain ⟨s00, s10, s01, s20, s11, s02⟩ := m
    obtain ⟨t00, t10, t01, t20, t11, t02⟩ := m'
    simp only [MomentSums.toTuple, shiftSums, AddMonoidHom.mk'_apply, Prod.mk.injEq] at hT
    obtain ⟨rfl, rfl, rfl, rfl, rfl, rfl⟩ := hT
    simp only [Moments.translate, Moments.mk.injEq, true_and]
    refine ⟨by ring, by ring, by ring, by ring, by ring⟩

/-- 点の列を逆にしても、面積が 0 でなければモーメントは変わらない。 -/
theorem momentsIn_reverse {c : Contour} (h : c.shoelace ≠ 0) :
    c.reverse.momentsIn (Int.cast : Int → ℚ) = c.momentsIn Int.cast := by
  have hT := toTuple_edgeSums_reverse c
  have h0 : (c.edgeSums (Int.cast : Int → ℚ)).m00 ≠ 0 := by
    rw [m00_edgeSums]
    exact_mod_cast h
  have hsize : c.reverse.points.size = c.points.size := Array.size_reverse
  unfold momentsIn
  rw [hsize]
  split_ifs with hn
  · rfl
  · dsimp only
    generalize c.edgeSums (Int.cast : Int → ℚ) = m at hT h0 ⊢
    generalize c.reverse.edgeSums (Int.cast : Int → ℚ) = m' at hT ⊢
    obtain ⟨s00, s10, s01, s20, s11, s02⟩ := m
    obtain ⟨t00, t10, t01, t20, t11, t02⟩ := m'
    simp only [MomentSums.toTuple, Prod.neg_mk, Prod.mk.injEq] at hT
    obtain ⟨rfl, rfl, rfl, rfl, rfl, rfl⟩ := hT
    -- 和の符号が変わり、正規化の符号も変わる
    rw [sign_neg_of_ne_zero h0]
    simp only [Moments.mk.injEq]
    refine ⟨by ring, by ring, by ring, by ring, by ring, by ring⟩

/-- 始点を回しても、モーメントは変わらない。 -/
theorem momentsIn_rotate (c : Contour) (k : Nat) :
    (c.rotate k).momentsIn (Int.cast : Int → ℚ) = c.momentsIn Int.cast := by
  have hsize : (c.rotate k).points.size = c.points.size := by simp [rotate]
  unfold momentsIn
  rw [hsize, edgeSums_rotate]

/-- **モーメントは平行移動・向き・始点に対して正しく変わる。** 面積のある輪郭を `(dx, dy)` ずらすと、
有理数で正確に計算したモーメントの `m00` は同じで、楕円のあてはめに使う演算が何であっても、正規化した
中心モーメントは同じ、重心はちょうど `(dx, dy)` ずれ、あてはめた楕円は中心だけがずれる。点の列を
逆にしても、始点を回しても、六つのモーメントは変わらない。 -/
theorem momentsIn_translation_orientation_laws (c : Contour) (h : c.shoelace ≠ 0) (dx dy : Int) :
    let m := c.momentsIn (Int.cast : Int → ℚ)
    let m' := (c.translate dx dy).momentsIn (Int.cast : Int → ℚ)
    m'.m00 = m.m00 ∧
      (∀ [EllipseOps ℚ], m'.central = m.central ∧
        m'.centroid = m.centroid.map (fun p : ℚ × ℚ => (p.1 + dx, p.2 + dy)) ∧
        m'.fitEllipse = m.fitEllipse.map
          (fun e : EllipseFit ℚ => { e with center := (e.center.1 + dx, e.center.2 + dy) })) ∧
      c.reverse.momentsIn (Int.cast : Int → ℚ) = m ∧
      ∀ k, (c.rotate k).momentsIn (Int.cast : Int → ℚ) = m := by
  intro m m'
  have hm' : m' = m.translate dx dy := momentsIn_translate c dx dy
  have h0 : m.m00 ≠ 0 := by
    rw [momentsIn_m00]
    exact div_ne_zero (abs_ne_zero.2 (Int.cast_ne_zero.2 h)) two_ne_zero
  refine ⟨by rw [hm']; rfl, fun {_} => ?_, momentsIn_reverse h, momentsIn_rotate c⟩
  rw [hm']
  exact ⟨Moments.central_translate h0 _ _, Moments.centroid_translate h0 _ _,
    Moments.fitEllipse_translate h0 _ _⟩

/-- 2 × 2 の正方形。 -/
theorem momentsIn_translation_orientation_laws_square :
    (⟨#[⟨0, 0⟩, ⟨2, 0⟩, ⟨2, 2⟩, ⟨0, 2⟩]⟩ : Contour).shoelace ≠ 0 ∧
    let c : Contour := ⟨#[⟨0, 0⟩, ⟨2, 0⟩, ⟨2, 2⟩, ⟨0, 2⟩]⟩
    let m := c.momentsIn (Int.cast : Int → ℚ)
    let m' := (c.translate 3 (-1)).momentsIn (Int.cast : Int → ℚ)
    m'.m00 = m.m00 ∧
      (∀ [EllipseOps ℚ], m'.central = m.central ∧
        m'.centroid = m.centroid.map (fun p : ℚ × ℚ => (p.1 + (3 : Int), p.2 + (-1 : Int))) ∧
        m'.fitEllipse = m.fitEllipse.map
          (fun e : EllipseFit ℚ => { e with center := (e.center.1 + (3 : Int), e.center.2 + (-1 : Int)) })) ∧
      c.reverse.momentsIn (Int.cast : Int → ℚ) = m ∧
      ∀ k, (c.rotate k).momentsIn (Int.cast : Int → ℚ) = m :=
  ⟨by decide, momentsIn_translation_orientation_laws _ (by decide) 3 (-1)⟩

end Contour

end DropletVision
