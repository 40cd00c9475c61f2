import Mathlib.Algebra.BigOperators.Intervals
import Mathlib.Algebra.Order.Field.Rat
import Mathlib.Data.List.Sort
import Mathlib.Tactic.Ring
import DropletVision.Proofs.Contour.Outline

/-!
# 直線の途中の点を落としても、多角形は変わらない

`compressChain` が落とすのは、前の点からの一歩と次の点への一歩が同じ向きの点、つまり一つの直線の
上を進む途中の点だけである。多角形の辺ごとの値 `F` で、一つの直線の上では足し算になるもの
（`LineAdditive`：一直線上の三点 `A`, `B`, `C` について `F A B + F B C = F A C`）は、その和が途中の点を
落としても変わらない。靴ひも公式の外積と、グリーンの定理の六つのモーメントの項はどれもそうである。

仕組みは三段。

* `Cyclic.sum_run` — 落ちる点だけを通る道は一つの直線の上にあり、その辺の和は両端を結ぶ一辺の値。
* `sum_Ico_chain` — 一周の辺の和を、残る点（`vertexIndex`）で区切った区間ごとの和に分ける。
* `Cyclic.sum_edges_compressChain` — 区間ごとの和が縮めた多角形の一辺の値になり、和が等しい。

外接矩形は、x と y の最小・最大をとる点が残ること（`attains_compressChain`）から同じになる。
-/

namespace DropletVision

/-- `p` と `q` は相異なる 8 近傍：違う点で、x と y の差がともに 1 以下。 -/
def Point.Adjacent (p q : Point) : Prop :=
  p ≠ q ∧ (p.x - q.x).natAbs ≤ 1 ∧ (p.y - q.y).natAbs ≤ 1

instance (p q : Point) : Decidable (Point.Adjacent p q) :=
  inferInstanceAs (Decidable (_ ∧ _))

/-- 点 `p` から変位 `v` の `s` 倍だけ進んだ点。 -/
def Point.along (p : Point) (v : Int × Int) (s : Int) : Point := ⟨p.x + s * v.1, p.y + s * v.2⟩

@[simp] theorem Point.along_zero (p : Point) (v : Int × Int) : p.along v 0 = p := by
  simp [Point.along]

/-- 二点の外積 `p.x * q.y - q.x * p.y`。 -/
def Point.cross (p q : Point) : Int := p.x * q.y - q.x * p.y

namespace Chain

variable {a : Nat → Point} {n : Nat}

/-! ## 配列で与えた閉じた列 -/

/-- 配列 `pts` の点を、番号を `pts.size` を法として読んだ列。 -/
def cyclicAt (pts : Array Point) (i : Nat) : Point := pts.getD (i % pts.size) default

theorem toList_eq_map_cyclicAt (pts : Array Point) :
    pts.toList = (List.range pts.size).map (cyclicAt pts) := by
  apply List.ext_getElem (by simp)
  intro i h1 h2
  simp only [Array.length_toList] at h1
  simp [cyclicAt, Nat.mod_eq_of_lt h1, h1]

/-- 隣り合う点（最後の点から最初の点へも）が相異なる 8 近傍の配列は、閉じた列。 -/
theorem cyclic_cyclicAt {pts : Array Point} (hpos : 0 < pts.size)
    (hadj : ∀ i < pts.size,
      Point.Adjacent (pts.getD i default) (pts.getD ((i + 1) % pts.size) default)) :
    Cyclic (cyclicAt pts) pts.size where
  pos := hpos
  periodic i := by simp only [cyclicAt, Nat.add_mod_right]
  near i := by
    obtain ⟨hne, hx, hy⟩ := hadj (i % pts.size) (Nat.mod_lt _ hpos)
    rw [Nat.mod_add_mod] at hne hx hy
    exact ⟨_, (stepPoint_direction hne (by omega) (by omega)).symm⟩

/-! ## 直線に沿って足せる辺の値 -/

section Additive

variable {M : Type} [AddCommGroup M] {F : Point → Point → M}

/-- 辺の値 `F` は直線に沿って足せる：一つの直線の上の三点 `A`, `B`, `C` について
`F A B + F B C = F A C`。 -/
def LineAdditive (F : Point → Point → M) : Prop :=
  ∀ (p : Point) (v : Int × Int) (r s t : Int),
    F (p.along v r) (p.along v s) + F (p.along v s) (p.along v t) = F (p.along v r) (p.along v t)

theorem LineAdditive.self_eq_zero (hF : LineAdditive F) (p : Point) : F p p = 0 := by
  have h := hF p (0, 0) 0 0 0
  rw [Point.along_zero] at h
  exact add_eq_left.1 h

/-- 二点を行って戻る辺の和は 0。 -/
theorem LineAdditive.add_swap (hF : LineAdditive F) (p q : Point) : F p q + F q p = 0 := by
  have h := hF p (q.x - p.x, q.y - p.y) 0 1 0
  have hq : p.along (q.x - p.x, q.y - p.y) 1 = q := by
    simp only [Point.along, one_mul, add_sub_cancel]
  rw [Point.along_zero, hq, hF.self_eq_zero] at h
  exact h

/-- **落ちる点だけを通る道の辺の和は、両端を結ぶ一辺の値。** 道は一つの向きに進むので、一つの
直線の上にある。 -/
theorem Cyclic.sum_run (h : Cyclic a n) (hF : LineAdditive F) {i g : Nat}
    (hdrop : ∀ t, 0 < t → t < g → ¬ Kept a n (i + t)) :
    ∑ t ∈ Finset.range g, F (a (i + t)) (a (i + t + 1)) = F (a i) (a (i + g)) := by
  set v := offset (direction (a i) (a (i + 1)))
  -- 道の点は、最初の点から同じ変位ずつ進む
  have hat : ∀ t ≤ g, a (i + t) = (a i).along v t := fun t ht =>
    Point.ext (h.position_of_run (h.direction_run hdrop) ht).1
      (h.position_of_run (h.direction_run hdrop) ht).2
  suffices ∀ t ≤ g, ∑ u ∈ Finset.range t, F (a (i + u)) (a (i + u + 1)) = F (a i) (a (i + t)) from
    this g le_rfl
  intro t ht
  induction t with
  | zero => simp [hF.self_eq_zero]
  | succ t ih =>
    have hnext := hat (t + 1) ht
    rw [← Nat.add_assoc] at hnext
    rw [Finset.sum_range_succ, ih (by omega), ← Nat.add_assoc, hat t (by omega), hnext]
    have hline := hF (a i) v 0 t (t + 1)
    rw [Point.along_zero] at hline
    push_cast
    exact hline

end Additive

/-! ## 区間の和 -/

section Sums

variable {M : Type} [AddCommGroup M]

/-- 区間 `[B 0, B m)` の和を、増える点 `B 0 ≤ B 1 ≤ ⋯ ≤ B m` で区切った区間ごとの和に分ける。 -/
theorem sum_Ico_chain (g : Nat → M) {B : Nat → Nat} (hB : Monotone B) (m : Nat) :
    ∑ k ∈ Finset.range m, ∑ t ∈ Finset.Ico (B k) (B (k + 1)), g t =
      ∑ t ∈ Finset.Ico (B 0) (B m), g t := by
  induction m with
  | zero => simp
  | succ m ih =>
    rw [Finset.sum_range_succ, ih,
      Finset.sum_Ico_consecutive _ (hB (Nat.zero_le m)) (hB (Nat.le_succ m))]

/-- 周期 `n` の値の、長さ `n` の区間の和は、どこから始めても同じ。 -/
theorem sum_Ico_period {g : Nat → M} (hg : ∀ t, g (t + n) = g t) (i : Nat) :
    ∑ t ∈ Finset.Ico i (i + n), g t = ∑ t ∈ Finset.range n, g t := by
  rw [Finset.sum_Ico_eq_sum_range, Nat.add_sub_cancel_left]
  induction i with
  | zero => simp
  | succ i ih =>
    -- 一つずらした和は、先頭の `g i` を除き末尾の `g (i + n) = g i` を足したもの
    have h1 := Finset.sum_range_succ (fun t => g (i + t)) n
    have h2 := Finset.sum_range_succ' (fun t => g (i + t)) n
    rw [h1, Nat.add_zero, hg] at h2
    rw [← ih, add_right_cancel h2]
    exact Finset.sum_congr rfl fun t _ => by rw [Nat.add_right_comm, Nat.add_assoc]

/-- 辺の和：点の列が `f 0, …, f (N - 1)` なら、辺の和は `f i` から `f ((i + 1) % N)` への辺の値の和。 -/
theorem sum_edges_eq {c : Contour} {f : Nat → Point} {N : Nat}
    (hc : c.points.toList = (List.range N).map f) (F : Point → Point → M) :
    (c.edges.map fun e => F e.1 e.2).sum = ∑ i ∈ Finset.range N, F (f i) (f ((i + 1) % N)) := by
  rw [Finset.sum_eq_multiset_sum, Finset.range_val, Multiset.range, Multiset.map_coe,
    Multiset.sum_coe, Contour.edges, size_of_toList_eq hc, List.map_map]
  refine congrArg List.sum (List.map_congr_left fun i hi => ?_)
  have hi := List.mem_range.1 hi
  simp only [Function.comp_apply, getD_of_toList_eq hc hi,
    getD_of_toList_eq hc (Nat.mod_lt _ (Nat.zero_lt_of_lt hi))]

end Sums

/-! ## 残る点の番号 -/

/-- 残る点の番号 `i < n` を小さい順に並べたもの。 -/
def keptIndices (a : Nat → Point) (n : Nat) : List Nat :=
  (List.range n).filter fun i => decide (Kept a n i)

theorem mem_keptIndices {i : Nat} : i ∈ keptIndices a n ↔ i < n ∧ Kept a n i := by
  simp [keptIndices]

theorem sortedLT_keptIndices : (keptIndices a n).SortedLT :=
  (List.pairwise_lt_range.filter _).sortedLT

theorem getElem_keptIndices_lt {k : Nat} (hk : k < (keptIndices a n).length) :
    (keptIndices a n)[k] < n :=
  (mem_keptIndices.1 (List.getElem_mem hk)).1

theorem lt_of_getElem_keptIndices_lt {i j : Nat} {hi : i < (keptIndices a n).length}
    {hj : j < (keptIndices a n).length} (h : (keptIndices a n)[i] < (keptIndices a n)[j]) : i < j :=
  sortedLT_keptIndices.getElem_lt_getElem_iff.1 h

/-- **閉じた列では、少なくとも二つの点が残る。** 残る点から一周するより前に、もう一つ残る点がある。 -/
theorem Cyclic.two_le_length_keptIndices (h : Cyclic a n) : 2 ≤ (keptIndices a n).length := by
  obtain ⟨t1, h1, h1n, hk1⟩ := h.exists_kept_after 0
  obtain ⟨t2, h2, h2n, hk2⟩ := h.exists_kept_after t1
  rw [Nat.zero_add] at hk1
  have hm1 : t1 ∈ keptIndices a n := mem_keptIndices.2 ⟨h1n, hk1⟩
  have hm2 : (t1 + t2) % n ∈ keptIndices a n :=
    mem_keptIndices.2 ⟨Nat.mod_lt _ h.pos, (h.kept_mod _).2 hk2⟩
  have hne : (t1 + t2) % n ≠ t1 := by
    rcases Nat.lt_or_ge (t1 + t2) n with hlt | hge
    · rw [Nat.mod_eq_of_lt hlt]
      omega
    · rw [Nat.mod_eq_sub_mod hge, Nat.mod_eq_of_lt (by omega)]
      omega
  match hL : keptIndices a n with
  | [] => simp [hL] at hm1
  | [x] =>
    simp only [hL, List.mem_singleton] at hm1 hm2
    omega
  | _ :: _ :: _ => simp

/-- 縮めた多角形の `k` 番目の頂点の、元の列での番号。`k` が頂点の数なら、一周して最初の頂点に
戻った番号。 -/
def vertexIndex (a : Nat → Point) (n k : Nat) : Nat :=
  if k < (keptIndices a n).length then (keptIndices a n).getD k 0
  else (keptIndices a n).getD 0 0 + n

theorem vertexIndex_of_lt {k : Nat} (hk : k < (keptIndices a n).length) :
    vertexIndex a n k = (keptIndices a n)[k] := by
  simp [vertexIndex, hk]

theorem vertexIndex_length (hpos : 0 < (keptIndices a n).length) :
    vertexIndex a n (keptIndices a n).length = (keptIndices a n)[0] + n := by
  simp [vertexIndex, List.getD_eq_getElem?_getD, List.getElem?_eq_getElem hpos]

theorem vertexIndex_le_succ (k : Nat) : vertexIndex a n k ≤ vertexIndex a n (k + 1) := by
  by_cases hk1 : k + 1 < (keptIndices a n).length
  · rw [vertexIndex_of_lt (by omega), vertexIndex_of_lt hk1]
    exact sortedLT_keptIndices.getElem_le_getElem_iff.2 (Nat.le_succ k)
  · by_cases hk : k < (keptIndices a n).length
    · -- 最後の頂点から、一周して最初の頂点へ
      have := getElem_keptIndices_lt hk
      rw [vertexIndex_of_lt hk, vertexIndex, if_neg hk1]
      omega
    · simp only [vertexIndex, if_neg hk, if_neg hk1, le_refl]

theorem vertexIndex_mono : Monotone (vertexIndex a n) :=
  monotone_nat_of_le_succ vertexIndex_le_succ

/-- **縮めた多角形の隣り合う頂点のあいだの点は、どれも落ちる。** 残る番号はすべて `keptIndices` に
小さい順に並ぶので、隣り合う二つのあいだには来ない。 -/
theorem Cyclic.not_kept_between (h : Cyclic a n) {k : Nat} (hk : k < (keptIndices a n).length)
    {t : Nat} (ht0 : 0 < t) (ht : t < vertexIndex a n (k + 1) - vertexIndex a n k) :
    ¬ Kept a n (vertexIndex a n k + t) := by
  intro hkept
  rw [vertexIndex_of_lt hk] at hkept ht
  by_cases hk1 : k + 1 < (keptIndices a n).length
  · rw [vertexIndex_of_lt hk1] at ht
    have hlt := getElem_keptIndices_lt hk1
    obtain ⟨r, hr, hre⟩ := List.getElem_of_mem (mem_keptIndices.2 ⟨by omega, hkept⟩)
    have h1 : k < r := lt_of_getElem_keptIndices_lt (a := a) (n := n) (by omega)
    have h2 : r < k + 1 := lt_of_getElem_keptIndices_lt (a := a) (n := n) (by omega)
    omega
  · -- 最後の頂点のあと、一周して最初の頂点の前
    have hpos : 0 < (keptIndices a n).length := by omega
    rw [show k + 1 = (keptIndices a n).length by omega, vertexIndex_length hpos] at ht
    by_cases hj : (keptIndices a n)[k] + t < n
    · obtain ⟨r, hr, hre⟩ := List.getElem_of_mem (mem_keptIndices.2 ⟨hj, hkept⟩)
      have : k < r := lt_of_getElem_keptIndices_lt (a := a) (n := n) (by omega)
      omega
    · -- 一周した番号は、最初の頂点より前の番号
      have h0 := getElem_keptIndices_lt hpos
      have hmod : ((keptIndices a n)[k] + t) % n = (keptIndices a n)[k] + t - n := by
        rw [Nat.mod_eq_sub_mod (by omega), Nat.mod_eq_of_lt (by omega)]
      obtain ⟨r, hr, hre⟩ := List.getElem_of_mem
        (mem_keptIndices.2 ⟨Nat.mod_lt _ h.pos, (h.kept_mod _).2 hkept⟩)
      rw [hmod] at hre
      have : r < 0 := lt_of_getElem_keptIndices_lt (a := a) (n := n) (j := 0) (by omega)
      omega

/-! ## 縮めた多角形の辺の和 -/

section Edges

variable {M : Type} [AddCommGroup M] {F : Point → Point → M}

/-- 縮めた多角形の辺は、`vertexIndex` の隣り合う番号の点を結ぶ。 -/
theorem Cyclic.sum_edges_compressChain_eq (h : Cyclic a n) (hn : 2 < n) {pts : Array Point}
    (hpts : pts.toList = (List.range n).map a) (F : Point → Point → M) :
    ((⟨compressChain pts⟩ : Contour).edges.map fun e => F e.1 e.2).sum =
      ∑ k ∈ Finset.range (keptIndices a n).length,
        F (a (vertexIndex a n k)) (a (vertexIndex a n (k + 1))) := by
  have hm := h.two_le_length_keptIndices
  have hc : (compressChain pts).toList =
      (List.range (keptIndices a n).length).map fun k => a (vertexIndex a n k) := by
    rw [compressChain_toList h hn hpts]
    apply List.ext_getElem (by simp [keptIndices])
    intro k h1 h2
    simp only [List.length_map, List.length_range] at h2
    simp [vertexIndex_of_lt h2, keptIndices]
  rw [sum_edges_eq (c := ⟨compressChain pts⟩) hc]
  refine Finset.sum_congr rfl fun k hk => ?_
  have hk := Finset.mem_range.1 hk
  by_cases hk1 : k + 1 < (keptIndices a n).length
  · rw [Nat.mod_eq_of_lt hk1]
  · -- 最後の辺は、最初の頂点へ戻る
    have hlast : k + 1 = (keptIndices a n).length := by omega
    rw [hlast, Nat.mod_self, vertexIndex_length (by omega), h.periodic, vertexIndex_of_lt (k := 0) (by omega)]

/-- **縮めた多角形の辺の和は、元の多角形の辺の和に等しい**（直線に沿って足せる辺の値について）。
縮めた多角形の一辺を、元の多角形の落ちる点を通る道に開き、道を一周につなぐ。 -/
theorem Cyclic.sum_edges_compressChain (h : Cyclic a n) (hn : 2 < n) (hF : LineAdditive F)
    {pts : Array Point} (hpts : pts.toList = (List.range n).map a) :
    ((⟨compressChain pts⟩ : Contour).edges.map fun e => F e.1 e.2).sum =
      ((⟨pts⟩ : Contour).edges.map fun e => F e.1 e.2).sum := by
  have hm := h.two_le_length_keptIndices
  have horig : ((⟨pts⟩ : Contour).edges.map fun e => F e.1 e.2).sum =
      ∑ t ∈ Finset.range n, F (a t) (a (t + 1)) := by
    rw [sum_edges_eq (c := ⟨pts⟩) hpts]
    exact Finset.sum_congr rfl fun t _ => by rw [h.mod]
  rw [h.sum_edges_compressChain_eq hn hpts, horig]
  calc ∑ k ∈ Finset.range (keptIndices a n).length,
        F (a (vertexIndex a n k)) (a (vertexIndex a n (k + 1)))
      = ∑ k ∈ Finset.range (keptIndices a n).length,
          ∑ t ∈ Finset.Ico (vertexIndex a n k) (vertexIndex a n (k + 1)), F (a t) (a (t + 1)) := by
        refine Finset.sum_congr rfl fun k hk => ?_
        rw [Finset.sum_Ico_eq_sum_range,
          h.sum_run hF fun t ht0 ht => h.not_kept_between (Finset.mem_range.1 hk) ht0 ht,
          Nat.add_sub_cancel' (vertexIndex_le_succ k)]
    _ = ∑ t ∈ Finset.Ico (vertexIndex a n 0) (vertexIndex a n (keptIndices a n).length),
          F (a t) (a (t + 1)) := sum_Ico_chain _ vertexIndex_mono _
    _ = ∑ t ∈ Finset.range n, F (a t) (a (t + 1)) := by
        rw [vertexIndex_length (by omega), vertexIndex_of_lt (by omega)]
        exact sum_Ico_period (fun t => by rw [Nat.add_right_comm, h.periodic, h.periodic]) _

end Edges

end Chain

/-! ## 靴ひも公式とグリーンの定理の和 -/

theorem Point.lineAdditive_cross : Chain.LineAdditive Point.cross := by
  intro p v r s t
  simp only [Point.cross, Point.along]
  ring

/-- モーメントの六つの和の組。組は成分ごとに足せる。 -/
def MomentSums.toTuple {α : Type} (m : MomentSums α) : α × α × α × α × α × α :=
  (m.m00, m.m10, m.m01, m.m20, m.m11, m.m02)

theorem MomentSums.toTuple_injective {α : Type} :
    Function.Injective (MomentSums.toTuple (α := α)) := by
  rintro ⟨⟩ ⟨⟩ h
  simp only [MomentSums.toTuple, Prod.mk.injEq] at h
  obtain ⟨rfl, rfl, rfl, rfl, rfl, rfl⟩ := h
  rfl

namespace Contour

theorem shoelace_eq_sum (c : Contour) :
    c.shoelace = (c.edges.map fun e => Point.cross e.1 e.2).sum := by
  rw [shoelace, List.sum_eq_foldl]
  rfl

/-- 一辺のグリーンの定理の項を、有理数で計算した組。 -/
def edgeMoments (p q : Point) : ℚ × ℚ × ℚ × ℚ × ℚ × ℚ :=
  (addEdge (Int.cast : Int → ℚ) ⟨0, 0, 0, 0, 0, 0⟩ (p, q)).toTuple

theorem toTuple_addEdge (m : MomentSums ℚ) (e : Point × Point) :
    (addEdge (Int.cast : Int → ℚ) m e).toTuple = m.toTuple + edgeMoments e.1 e.2 := by
  simp only [addEdge, MomentSums.toTuple, edgeMoments, Prod.mk_add_mk, zero_add]

/-- 有理数でのグリーンの定理の和は、辺ごとの項の和。 -/
theorem toTuple_edgeSums (c : Contour) :
    (c.edgeSums (Int.cast : Int → ℚ)).toTuple = (c.edges.map fun e => edgeMoments e.1 e.2).sum := by
  suffices ∀ (l : List (Point × Point)) (m : MomentSums ℚ),
      (l.foldl (addEdge Int.cast) m).toTuple = m.toTuple + (l.map fun e => edgeMoments e.1 e.2).sum by
    rw [edgeSums, this]
    simp [MomentSums.toTuple]
  intro l
  induction l with
  | nil => simp
  | cons e l ih =>
    intro m
    rw [List.foldl_cons, ih, toTuple_addEdge, List.map_cons, List.sum_cons, add_assoc]

/-- グリーンの定理の項は、直線に沿って足せる：一直線上の辺の項は、辺の両端の位置の多項式の差。 -/
theorem lineAdditive_edgeMoments : Chain.LineAdditive edgeMoments := by
  intro p v r s t
  simp only [edgeMoments, addEdge, MomentSums.toTuple, Point.along, Prod.mk_add_mk, Prod.mk.injEq,
    zero_add]
  push_cast
  refine ⟨by ring, by ring, by ring, by ring, by ring, by ring⟩

/-- 二点を行って戻る多角形のグリーンの定理の和は 0。 -/
theorem edgeSums_eq_zero_of_size_two {c : Contour} (hc : c.points.size = 2) :
    c.edgeSums (Int.cast : Int → ℚ) = ⟨0, 0, 0, 0, 0, 0⟩ := by
  apply MomentSums.toTuple_injective
  rw [toTuple_edgeSums, Chain.sum_edges_eq (Chain.toList_eq_map_cyclicAt c.points), hc]
  simp [Finset.sum_range_succ, lineAdditive_edgeMoments.add_swap, MomentSums.toTuple]
  rfl

/-- 有理数で正確に計算したモーメント：`moments` と同じ `momentsIn` を、辺の和を有理数でとって
読んだもの。 -/
def exactMoments (c : Contour) : Moments ℚ := c.momentsIn Int.cast

section Extremes

variable {g : Point → Int} {S S' : Set Point} {v : Int}

/-- 部分集合が、最小値をとる点の値をどれもとるなら、最小値は同じ。 -/
theorem isLeast_image_of_attains (h : IsLeast (g '' S) v) (hsub : S' ⊆ S)
    (hatt : ∀ q ∈ S, (∀ r ∈ S, g q ≤ g r) → ∃ q' ∈ S', g q' = g q) : IsLeast (g '' S') v := by
  obtain ⟨⟨q, hq, rfl⟩, hlow⟩ := h
  obtain ⟨q', hq', hv⟩ := hatt q hq fun r hr => hlow ⟨r, hr, rfl⟩
  exact ⟨⟨q', hq', hv⟩, fun _ ⟨r, hr, hrv⟩ => hrv ▸ hlow ⟨r, hsub hr, rfl⟩⟩

/-- 部分集合が、最大値をとる点の値をどれもとるなら、最大値は同じ。 -/
theorem isGreatest_image_of_attains (h : IsGreatest (g '' S) v) (hsub : S' ⊆ S)
    (hatt : ∀ q ∈ S, (∀ r ∈ S, g r ≤ g q) → ∃ q' ∈ S', g q' = g q) : IsGreatest (g '' S') v := by
  obtain ⟨⟨q, hq, rfl⟩, hup⟩ := h
  obtain ⟨q', hq', hv⟩ := hatt q hq fun r hr => hup ⟨r, hr, rfl⟩
  exact ⟨⟨q', hq', hv⟩, fun _ ⟨r, hr, hrv⟩ => hrv ▸ hup ⟨r, hsub hr, rfl⟩⟩

end Extremes

/-- **外接矩形は、x と y の最小・最大をとる点で決まる。** `c'` が `c` の点だけからなり、`c` の点が
とる一次の関数の最小値をどれもとるなら、外接矩形は同じ。 -/
theorem boundingBox_eq_of_attains {c c' : Contour} (hne : c'.points.toList ≠ [])
    (hsub : ∀ q ∈ c'.points.toList, q ∈ c.points.toList)
    (hatt : ∀ α β : Int, ∀ q ∈ c.points.toList,
      (∀ r ∈ c.points.toList, Chain.value α β q ≤ Chain.value α β r) →
      ∃ q' ∈ c'.points.toList, Chain.value α β q' = Chain.value α β q) :
    c'.boundingBox = c.boundingBox := by
  obtain ⟨p', rest', hps'⟩ := List.exists_cons_of_ne_nil hne
  obtain ⟨p, rest, hps⟩ :=
    List.exists_cons_of_ne_nil (List.ne_nil_of_mem (hsub p' (hps' ▸ List.mem_cons_self)))
  rw [hps, hps'] at hsub
  rw [hps, hps'] at hatt
  have hS : {q | q ∈ p' :: rest'} ⊆ {q | q ∈ p :: rest} := fun q hq => hsub q hq
  -- x と y の最小・最大は、一次の関数 x, -x, y, -y の最小
  have hx0 := isLeast_image_of_attains (isLeast_foldl_min Point.x p rest) hS fun q hq hmin => by
    simpa [Chain.value] using hatt 1 0 q hq fun r hr => by simpa [Chain.value] using hmin r hr
  have hx1 := isGreatest_image_of_attains (isGreatest_foldl_max Point.x p rest) hS
    fun q hq hmax => by
      simpa [Chain.value] using hatt (-1) 0 q hq fun r hr => by simpa [Chain.value] using hmax r hr
  have hy0 := isLeast_image_of_attains (isLeast_foldl_min Point.y p rest) hS fun q hq hmin => by
    simpa [Chain.value] using hatt 0 1 q hq fun r hr => by simpa [Chain.value] using hmin r hr
  have hy1 := isGreatest_image_of_attains (isGreatest_foldl_max Point.y p rest) hS
    fun q hq hmax => by
      simpa [Chain.value] using hatt 0 (-1) q hq fun r hr => by simpa [Chain.value] using hmax r hr
  rw [boundingBox_eq hps' _ _ _ _ hx0 hx1 hy0 hy1, boundingBox_eq hps _ _ _ _
    (isLeast_foldl_min Point.x p rest) (isGreatest_foldl_max Point.x p rest)
    (isLeast_foldl_min Point.y p rest) (isGreatest_foldl_max Point.y p rest)]

end Contour

/-! ## 縮めた多角形 -/

namespace Chain

variable {a : Nat → Point} {n : Nat} (h : Cyclic a n) (hn : 2 < n) {pts : Array Point}
  (hpts : pts.toList = (List.range n).map a)
include h hn hpts

/-- 縮めた列の点の数は、残る点の数。 -/
theorem Cyclic.size_compressChain : (compressChain pts).size = (keptIndices a n).length := by
  rw [← Array.length_toList, compressChain_toList h hn hpts, List.length_map]
  rfl

/-- 縮めた列は、元の列の順序を保った部分列。 -/
theorem Cyclic.sublist_compressChain : (compressChain pts).toList.Sublist pts.toList := by
  rw [compressChain_toList h hn hpts, hpts]
  exact List.filter_sublist.map a

/-- **縮めても、靴ひも公式の和（向き付きの面積の二倍）は変わらない。** -/
theorem Cyclic.shoelace_compressChain :
    (⟨compressChain pts⟩ : Contour).shoelace = (⟨pts⟩ : Contour).shoelace := by
  rw [Contour.shoelace_eq_sum, Contour.shoelace_eq_sum]
  exact h.sum_edges_compressChain hn Point.lineAdditive_cross hpts

/-- **縮めても、グリーンの定理の和は有理数で正確に変わらない。** -/
theorem Cyclic.edgeSums_compressChain :
    (⟨compressChain pts⟩ : Contour).edgeSums (Int.cast : Int → ℚ) =
      (⟨pts⟩ : Contour).edgeSums Int.cast := by
  apply MomentSums.toTuple_injective
  rw [Contour.toTuple_edgeSums, Contour.toTuple_edgeSums]
  exact h.sum_edges_compressChain hn Contour.lineAdditive_edgeMoments hpts

/-- **縮めても、有理数で正確に計算したモーメントは変わらない。** 二点だけ残るときは行って戻る
多角形で、どちらの和も 0。 -/
theorem Cyclic.exactMoments_compressChain :
    (⟨compressChain pts⟩ : Contour).exactMoments = (⟨pts⟩ : Contour).exactMoments := by
  have hsize : pts.size = n := size_of_toList_eq hpts
  have hm := h.two_le_length_keptIndices
  have hc := h.size_compressChain hn hpts
  have he := h.edgeSums_compressChain hn hpts
  unfold Contour.exactMoments Contour.momentsIn
  rw [if_neg (show ¬ pts.size < 3 by omega)]
  by_cases h3 : (compressChain pts).size < 3
  · rw [if_pos h3, ← he,
      Contour.edgeSums_eq_zero_of_size_two (c := ⟨compressChain pts⟩) (by simp only; omega)]
    simp
  · rw [if_neg h3, he]

/-- 一画素幅の線を行って戻る列は、両端の二点に縮む。 -/
example : compressChain #[⟨0, 0⟩, ⟨1, 0⟩, ⟨2, 0⟩, ⟨1, 0⟩] = #[⟨0, 0⟩, ⟨2, 0⟩] := by
  decide +kernel

/-- **縮めても、外接矩形は変わらない。** x と y の最小・最大をとる点は残る。 -/
theorem Cyclic.boundingBox_compressChain :
    (⟨compressChain pts⟩ : Contour).boundingBox = (⟨pts⟩ : Contour).boundingBox := by
  have hm := h.two_le_length_keptIndices
  refine Contour.boundingBox_eq_of_attains ?_ ?_ ?_
  · intro hnil
    have hlen := congrArg List.length hnil
    rw [Array.length_toList, h.size_compressChain hn hpts] at hlen
    simp only [List.length_nil] at hlen
    omega
  · exact fun q hq => (h.sublist_compressChain hn hpts).subset hq
  · -- 元の列の最小をとる点 `a i0` は、`a` のどの点よりも小さい
    intro α β q hq hmin
    rw [hpts] at hq hmin
    obtain ⟨i0, -, rfl⟩ := List.mem_map.1 hq
    exact attains_compressChain h hn hpts α β fun i => by
      rw [← h.mod i]
      exact hmin _ (List.mem_map.2 ⟨i % n, List.mem_range.2 (Nat.mod_lt _ h.pos), rfl⟩)

end Chain

end DropletVision
