import Mathlib.Algebra.BigOperators.Group.Finset.Basic
import Mathlib.Tactic.IntervalCases
import DropletVision.Proofs.Contour.Orbit

/-!
# 境界の辺の閉じた道

画素 `(x, y)` を正方形 `[x, x + 1] × [y, y + 1]` と見て、追跡の一周から、成分とその外の間の辺の
閉じた道を作る。

状態 `s` の一歩では、現在の点のまわりを来た向きから反時計回りに見て、次の点より前に見送った
（成分の外の）隣のうち辺で接するもの（向き 0 右、2 下、4 左、6 上）について、その辺を現在の点の
まわりを反時計回りに向き付けてたどる。この辺の列は、来た向きの側の角 `entry s` から次の向きの
側の角 `exit s` への道で（`Valid.chainSum_eq`）、`exit s` は次の状態の `entry` に等しい
（`Valid.exit_eq_entry_step`）。したがって一周の辺は閉じた道をなし、角の関数の差を一周で足すと
0 になる（`sum_chainSum`）。

この閉じた道について数える。

* `winding x y` — 列 `x` の横の辺で画素 `(x, y)` の上の辺以上の高さにあるものの、向き付きの数。
  画素 `(x, y)` から上へ延ばした半直線を道が横切る回数で、道の巻き数。
* `winding_succ_row`、`winding_succ_col` — 上下・左右に隣り合う画素の巻き数の差は、
  間の辺を道が通る向き付きの回数。
* `winding_eq_zero_of_below` — 一周のどの点よりも下の画素の巻き数は 0：道は閉じているので、
  列 `x` の横の辺の向き付きの数は全体で 0 になる。
-/

namespace DropletVision

namespace Trace

/-- 画素 `p` の正方形の角。`d` は斜めの向き：1 右下、3 左下、5 左上、7 右上。 -/
def corner (p : Point) (d : Nat) : Int × Int :=
  match d % 8 with
  | 1 => (p.x + 1, p.y + 1)
  | 3 => (p.x, p.y + 1)
  | 5 => (p.x, p.y)
  | _ => (p.x + 1, p.y)

theorem corner_mod (p : Point) (d : Nat) : corner p (d % 8) = corner p d := by
  rw [corner, corner, Nat.mod_mod]

variable (l : Labeling) (L : Nat)

/-- 状態 `s` で、向き `d` の隣を次の点より前に見送る。 -/
def Scans (s : State) (d : Nat) : Prop := ∃ k < skip l L s, (back s + 7 - k) % 8 = d

instance (s : State) (d : Nat) : Decidable (Scans l L s d) :=
  inferInstanceAs (Decidable (∃ k < skip l L s, (back s + 7 - k) % 8 = d))

/-- 状態 `s` でたどる辺を、辺の向き `d`（0 右、2 下、4 左、6 上）と現在の点の関数 `g` で測った和。 -/
def sideSum (g : Nat → Point → Int) (s : State) : Int :=
  (if Scans l L s 0 then g 0 s.cur else 0) + (if Scans l L s 2 then g 2 s.cur else 0) +
    (if Scans l L s 4 then g 4 s.cur else 0) + (if Scans l L s 6 then g 6 s.cur else 0)

/-- 角の関数 `φ` の、辺の終わりと始まりの差。向き `d` の辺は角 `d + 1` から角 `d + 7` へ向かう。 -/
def chainWeight (φ : Int × Int → Int) (d : Nat) (c : Point) : Int :=
  φ (corner c (d + 7)) - φ (corner c (d + 1))

/-- 辺の列の始まりの角の向き：来た向き `b` か、その一つ反時計回りのうち斜めのもの。 -/
def entryDir (b : Nat) : Nat := if b % 2 = 1 then b else b + 7

/-- 辺の列の終わりの角の向き：次の向き `b + 7 - k` か、その一つ時計回りのうち斜めのもの。 -/
def exitDir (b k : Nat) : Nat := if (b + 7 - k) % 2 = 1 then b + 7 - k else b + 8 - k

/-- 状態 `s` でたどる辺の列の始まりの角。 -/
def entry (s : State) : Int × Int := corner s.cur (entryDir (back s))

/-- 状態 `s` でたどる辺の列の終わりの角。 -/
def exit (s : State) : Int × Int := corner s.cur (exitDir (back s) (skip l L s))

variable {l L} {s s0 : State} {n : Nat}

/-! ## 一歩の辺の列 -/

theorem sideSum_sub (g g' : Nat → Point → Int) (s : State) :
    sideSum l L g s - sideSum l L g' s = sideSum l L (fun d c => g d c - g' d c) s := by
  simp only [sideSum]
  split_ifs <;> omega

theorem sideSum_congr {g g' : Nat → Point → Int}
    (h : ∀ d ∈ [0, 2, 4, 6], g d s.cur = g' d s.cur) : sideSum l L g s = sideSum l L g' s := by
  simp only [List.mem_cons, List.not_mem_nil, or_false, forall_eq_or_imp, forall_eq] at h
  obtain ⟨h0, h2, h4, h6⟩ := h
  simp only [sideSum, h0, h2, h4, h6]

/-- 来た向き `b` と見送る数 `k` のどの組でも、見送った辺の差の和は、終わりの角と始まりの角の差。
`b` と `k` の 64 通りを確かめる。 -/
theorem chain_telescope (b k : Nat) (hb : b < 8) (hk : k < 8) (v : Nat → Int) :
    ((if ∃ j < k, (b + 7 - j) % 8 = 0 then v 7 - v 1 else 0) +
      (if ∃ j < k, (b + 7 - j) % 8 = 2 then v 1 - v 3 else 0) +
      (if ∃ j < k, (b + 7 - j) % 8 = 4 then v 3 - v 5 else 0) +
      (if ∃ j < k, (b + 7 - j) % 8 = 6 then v 5 - v 7 else 0)) =
      v (exitDir b k % 8) - v (entryDir b % 8) := by
  interval_cases b <;> interval_cases k <;> simp +decide [exitDir, entryDir] <;> omega

/-- **一歩でたどる辺の列は、始まりの角から終わりの角への道。** -/
theorem Valid.chainSum_eq (h : Valid l L s) (φ : Int × Int → Int) :
    sideSum l L (chainWeight φ) s = φ (exit l L s) - φ (entry s) := by
  have := chain_telescope (back s) (skip l L s) (back_lt s) h.skip_lt (fun d => φ (corner s.cur d))
  rw [exit, entry, ← corner_mod s.cur (exitDir _ _), ← corner_mod s.cur (entryDir _), ← this]
  rfl

/-- 向き `n` の隣へ進むと、終わりの角は進んだ先の点の始まりの角になる。 -/
theorem corner_stepPoint_entryDir (p : Point) (n : Nat) :
    corner (stepPoint p n) (entryDir ((n + 4) % 8)) =
      corner p (if n % 2 = 1 then n else n + 1) := by
  have hn : n % 8 < 8 := Nat.mod_lt n (by decide)
  rw [← stepPoint_mod, ← corner_mod p, ← corner_mod, show (n + 4) % 8 = (n % 8 + 4) % 8 by omega,
    show (if n % 2 = 1 then n else n + 1) % 8 = (if n % 8 % 2 = 1 then n % 8 else n % 8 + 1) % 8 by
      split_ifs <;> omega]
  generalize n % 8 = r at hn
  interval_cases r <;> simp [corner, entryDir, offset, directions]

/-- **一歩の終わりの角は、次の状態の始まりの角。** -/
theorem Valid.exit_eq_entry_step (h : Valid l L s) : exit l L s = entry (step l L s) := by
  have hk := h.skip_lt
  have hb := back_lt s
  show corner s.cur (exitDir (back s) (skip l L s)) =
    corner (next l L s) (entryDir (direction (next l L s) s.cur))
  rw [h.next_eq, direction_stepPoint_back, corner_stepPoint_entryDir]
  congr 1
  simp only [exitDir]
  split_ifs <;> omega

/-! ## 一周の辺の道 -/

/-- 一周で足すとき、一歩ずらした和は同じ。 -/
theorem sum_shift (hP : IsPeriod l L s0 n) (g : State → Int) :
    ∑ i ∈ Finset.range n, g ((step l L)^[i + 1] s0) = ∑ i ∈ Finset.range n, g ((step l L)^[i] s0) := by
  have h1 := Finset.sum_range_succ (fun i => g ((step l L)^[i] s0)) n
  have h2 := Finset.sum_range_succ' (fun i => g ((step l L)^[i] s0)) n
  rw [hP.iterate_eq] at h1
  simp only [Function.iterate_zero, id_eq] at h2
  omega

section Cycle

variable (h0 : Valid l L s0) (hP : IsPeriod l L s0 n)
include h0 hP

/-- **一周の辺は閉じた道をなす：角の関数の差を一周で足すと 0。** -/
theorem sum_chainSum (φ : Int × Int → Int) :
    ∑ i ∈ Finset.range n, sideSum l L (chainWeight φ) ((step l L)^[i] s0) = 0 := by
  have hstep : ∀ i, sideSum l L (chainWeight φ) ((step l L)^[i] s0) =
      φ (entry ((step l L)^[i + 1] s0)) - φ (entry ((step l L)^[i] s0)) := by
    intro i
    rw [(h0.iterate i).chainSum_eq, (h0.iterate i).exit_eq_entry_step,
      Function.iterate_succ_apply']
  simp only [hstep, Finset.sum_sub_distrib]
  rw [sum_shift hP (fun s => φ (entry s)), sub_self]

end Cycle

/-! ## 巻き数 -/

/-- 列 `x` の横の辺のうち、画素 `(x, y)` の上の辺以上の高さにあるものの向き付きの数。
下の辺は右向きに +1、上の辺は左向きに -1 と数える。 -/
def rayWeight (x y : Int) (d : Nat) (c : Point) : Int :=
  if c.x = x ∧ d = 2 ∧ c.y + 1 ≤ y then 1 else if c.x = x ∧ d = 6 ∧ c.y ≤ y then -1 else 0

/-- 列 `x` の横の辺すべての向き付きの数。 -/
def columnWeight (x : Int) (d : Nat) (c : Point) : Int :=
  if c.x = x ∧ d = 2 then 1 else if c.x = x ∧ d = 6 then -1 else 0

/-- 画素 `(x, y)` と `(x, y + 1)` の間の横の辺の向き付きの数。 -/
def rowCrossWeight (x y : Int) (d : Nat) (c : Point) : Int :=
  if d = 2 ∧ c = ⟨x, y⟩ then 1 else if d = 6 ∧ c = ⟨x, y + 1⟩ then -1 else 0

/-- 画素 `(x, y)` と `(x + 1, y)` の間の縦の辺の向き付きの数。左の辺は下向きに +1、右の辺は
上向きに -1。 -/
def colCrossWeight (x y : Int) (d : Nat) (c : Point) : Int :=
  if d = 4 ∧ c = ⟨x + 1, y⟩ then 1 else if d = 0 ∧ c = ⟨x, y⟩ then -1 else 0

variable (l L)

/-- 画素 `(x, y)` のまわりの、一周の辺の道の巻き数。 -/
def winding (s0 : State) (n : Nat) (x y : Int) : Int :=
  ∑ i ∈ Finset.range n, sideSum l L (rayWeight x y) ((step l L)^[i] s0)

variable {l L}

theorem Point.eq_mk_iff {p : Point} {x y : Int} : p = ⟨x, y⟩ ↔ p.x = x ∧ p.y = y := by
  cases p
  simp only [Point.mk.injEq]

theorem sideSum_rayWeight (x y : Int) (s : State) :
    sideSum l L (rayWeight x y) s =
      (if Scans l L s 2 ∧ s.cur.x = x ∧ s.cur.y + 1 ≤ y then 1 else 0) -
        (if Scans l L s 6 ∧ s.cur.x = x ∧ s.cur.y ≤ y then 1 else 0) := by
  by_cases h2 : Scans l L s 2 <;> by_cases h6 : Scans l L s 6 <;>
    simp [sideSum, rayWeight, h2, h6] <;> split_ifs <;> omega

theorem sideSum_rowCrossWeight (x y : Int) (s : State) :
    sideSum l L (rowCrossWeight x y) s =
      (if Scans l L s 2 ∧ s.cur = ⟨x, y⟩ then 1 else 0) -
        (if Scans l L s 6 ∧ s.cur = ⟨x, y + 1⟩ then 1 else 0) := by
  by_cases h2 : Scans l L s 2 <;> by_cases h6 : Scans l L s 6 <;>
    simp [sideSum, rowCrossWeight, Point.eq_mk_iff, h2, h6] <;> split_ifs <;> omega

theorem sideSum_colCrossWeight (x y : Int) (s : State) :
    sideSum l L (colCrossWeight x y) s =
      (if Scans l L s 4 ∧ s.cur = ⟨x + 1, y⟩ then 1 else 0) -
        (if Scans l L s 0 ∧ s.cur = ⟨x, y⟩ then 1 else 0) := by
  by_cases h0 : Scans l L s 0 <;> by_cases h4 : Scans l L s 4 <;>
    simp [sideSum, colCrossWeight, Point.eq_mk_iff, h0, h4] <;> split_ifs <;> omega

/-- 上下に隣り合う画素の巻き数の差は、間の横の辺を道が通る向き付きの回数。 -/
theorem winding_succ_row (x y : Int) :
    winding l L s0 n x (y + 1) - winding l L s0 n x y =
      ∑ i ∈ Finset.range n, sideSum l L (rowCrossWeight x y) ((step l L)^[i] s0) := by
  rw [winding, winding, ← Finset.sum_sub_distrib]
  refine Finset.sum_congr rfl fun i _ => ?_
  rw [sideSum_sub]
  refine sideSum_congr fun d _ => ?_
  simp only [rayWeight, rowCrossWeight, Point.eq_mk_iff]
  split_ifs <;> omega

section Cycle

variable (h0 : Valid l L s0) (hP : IsPeriod l L s0 n)
include h0 hP

/-- **左右に隣り合う画素の巻き数の差は、間の縦の辺を道が通る向き付きの回数。**
道が閉じているので、列 `x + 1` の角のうち高さ `y` 以下のものへ出入りする回数がつり合う。 -/
theorem winding_succ_col (x y : Int) :
    winding l L s0 n x y - winding l L s0 n (x + 1) y =
      ∑ i ∈ Finset.range n, sideSum l L (colCrossWeight x y) ((step l L)^[i] s0) := by
  have hzero := sum_chainSum h0 hP (fun v => if v.1 = x + 1 ∧ v.2 ≤ y then 1 else 0)
  rw [winding, winding, ← Finset.sum_sub_distrib, ← sub_eq_zero, ← Finset.sum_sub_distrib, ← hzero]
  refine Finset.sum_congr rfl fun i _ => ?_
  rw [sideSum_sub, sideSum_sub]
  refine sideSum_congr fun d hd => ?_
  simp only [List.mem_cons, List.not_mem_nil, or_false] at hd
  rcases hd with rfl | rfl | rfl | rfl <;>
    simp [rayWeight, colCrossWeight, chainWeight, corner, Point.eq_mk_iff] <;>
    split_ifs <;> omega

/-- 道は閉じているので、列 `x` の横の辺の向き付きの数は全体で 0。 -/
theorem sum_columnWeight (x : Int) :
    ∑ i ∈ Finset.range n, sideSum l L (columnWeight x) ((step l L)^[i] s0) = 0 := by
  rw [← sum_chainSum h0 hP (fun v => if x + 1 ≤ v.1 then 1 else 0)]
  refine Finset.sum_congr rfl fun i _ => sideSum_congr fun d hd => ?_
  simp only [List.mem_cons, List.not_mem_nil, or_false] at hd
  rcases hd with rfl | rfl | rfl | rfl <;>
    simp [columnWeight, chainWeight, corner] <;> split_ifs <;> omega

/-- **一周のどの点よりも下にある画素の巻き数は 0。** -/
theorem winding_eq_zero_of_below {x y : Int}
    (hbelow : ∀ i < n, ((step l L)^[i] s0).cur.y + 1 ≤ y) : winding l L s0 n x y = 0 := by
  rw [← sum_columnWeight h0 hP x, winding]
  refine Finset.sum_congr rfl fun i hi => sideSum_congr fun d _ => ?_
  have := hbelow i (Finset.mem_range.1 hi)
  simp only [rayWeight, columnWeight]
  split_ifs <;> omega

end Cycle

/-- 一周のどの点とも列が違う画素の巻き数は 0。 -/
theorem winding_eq_zero_of_column {x y : Int}
    (hcol : ∀ i < n, ((step l L)^[i] s0).cur.x ≠ x) : winding l L s0 n x y = 0 := by
  refine Finset.sum_eq_zero fun i hi => ?_
  have := hcol i (Finset.mem_range.1 hi)
  simp only [sideSum, rayWeight, if_neg (fun h : _ ∧ _ => this h.1), ite_self, Int.add_zero]

end Trace

end DropletVision
