import Mathlib.Tactic.Linarith
import Mathlib.Tactic.Ring
import DropletVision.Proofs.Contour.Neighbours

/-!
# 直線の途中の点を落とす

`compressChain` は、閉じた点の列から、前の点からの向きと次の点への向きが同じ点を落とす。
点の列を周期 `n` の列 `a : ℕ → Point`（隣り合う点は 8 近傍）として読むと、

* `compressChain_toList` — 残るのは `Kept a n i` の点 `a i`（`i < n`）を順に並べたもの。
* `Cyclic.not_straight_run` — 閉じた列は、一周のあいだ同じ向きに進み続けられない。
* `Cyclic.exists_kept_after` — どの点からも、一周するより前に残る点がある。
* `exists_kept_of_le` — 一次の関数 `α x + β y` の最小値をとる点のうち、どれかは残る。
  どれも落ちるなら、最小の点から先はずっと同じ向きに進み続け、`n` 歩で元に戻れない。

したがって落とした後も、最初の点（残るなら）と、x・y の最小・最大をとる点は残る。
-/

namespace DropletVision

namespace Chain

/-- 周期 `n` の点の列で、隣り合う点は 8 近傍。 -/
structure Cyclic (a : Nat → Point) (n : Nat) : Prop where
  pos : 0 < n
  periodic : ∀ i, a (i + n) = a i
  near : ∀ i, ∃ d, a (i + 1) = stepPoint (a i) d

/-- 点 `i` は直線の途中でない：前の点からの向きと次の点への向きが違う。 -/
def Kept (a : Nat → Point) (n i : Nat) : Prop :=
  direction (a (i + n - 1)) (a i) ≠ direction (a i) (a (i + 1))

instance (a : Nat → Point) (n i : Nat) : Decidable (Kept a n i) :=
  inferInstanceAs (Decidable (_ ≠ _))

variable {a : Nat → Point} {n : Nat}

theorem Cyclic.add_mul (h : Cyclic a n) (i k : Nat) : a (i + n * k) = a i := by
  induction k with
  | zero => rw [Nat.mul_zero, Nat.add_zero]
  | succ k ih => rw [Nat.mul_succ, ← Nat.add_assoc, h.periodic, ih]

theorem Cyclic.mod (h : Cyclic a n) (i : Nat) : a (i % n) = a i := by
  have := h.add_mul (i % n) (i / n)
  rw [Nat.mod_add_div] at this
  exact this.symm

theorem Cyclic.eq_of_mod_eq (h : Cyclic a n) {i j : Nat} (hij : i % n = j % n) : a i = a j := by
  rw [← h.mod i, hij, h.mod]

/-- 落とすかどうかは、番号を `n` を法として読んでも同じ。 -/
theorem Cyclic.kept_mod (h : Cyclic a n) (i : Nat) : Kept a n (i % n) ↔ Kept a n i := by
  have hpos := h.pos
  have hprev : a (i % n + n - 1) = a (i + n - 1) := h.eq_of_mod_eq (by
    rw [Nat.add_sub_assoc hpos, Nat.add_sub_assoc hpos, Nat.add_mod, Nat.mod_mod, ← Nat.add_mod])
  have hnext : a (i % n + 1) = a (i + 1) := h.eq_of_mod_eq (by
    rw [Nat.add_mod, Nat.mod_mod, ← Nat.add_mod])
  rw [Kept, Kept, hprev, hnext, h.mod]

theorem Cyclic.stepPoint_direction (h : Cyclic a n) (i : Nat) :
    stepPoint (a i) (direction (a i) (a (i + 1))) = a (i + 1) := by
  obtain ⟨d, hd⟩ := h.near i
  rw [hd, stepPoint_direction_stepPoint]

/-! ## `compressChain` -/

section Listed

variable {α : Type} {pts : Array α} {f : Nat → α}

/-- 列が `f 0, …, f (n - 1)` の配列の大きさは `n`。 -/
theorem size_of_toList_eq (hpts : pts.toList = (List.range n).map f) : pts.size = n := by
  rw [← Array.length_toList, hpts, List.length_map, List.length_range]

theorem getElem?_of_toList_eq (hpts : pts.toList = (List.range n).map f) {j : Nat} (hj : j < n) :
    pts[j]? = some (f j) := by
  rw [← Array.getElem?_toList, hpts, List.getElem?_map, List.getElem?_range hj, Option.map_some]

theorem getD_of_toList_eq [Inhabited α] (hpts : pts.toList = (List.range n).map f) {j : Nat}
    (hj : j < n) : pts.getD j default = f j := by
  rw [Array.getD_eq_getD_getElem?, getElem?_of_toList_eq hpts hj, Option.getD_some]

end Listed

/-- **`compressChain` が残すのは、直線の途中でない点。** -/
theorem compressChain_toList (h : Cyclic a n) (hn : 2 < n) {pts : Array Point}
    (hpts : pts.toList = (List.range n).map a) :
    (compressChain pts).toList = ((List.range n).filter (fun i => decide (Kept a n i))).map a := by
  have hsize : pts.size = n := size_of_toList_eq hpts
  have hat : ∀ j < n, pts.getD j default = a j := fun j hj => getD_of_toList_eq hpts hj
  unfold compressChain
  rw [hsize, if_neg (by omega)]
  simp only [Array.toList_map]
  have hfilter : (List.range n).filter (fun i =>
      direction (pts.getD ((i + n - 1) % n) default) (pts.getD i default) !=
        direction (pts.getD i default) (pts.getD ((i + 1) % n) default)) =
      (List.range n).filter (fun i => decide (Kept a n i)) := by
    refine List.filter_congr fun i hi => ?_
    have hi := List.mem_range.1 hi
    rw [hat i hi, hat _ (Nat.mod_lt _ h.pos), hat _ (Nat.mod_lt _ h.pos), h.mod, h.mod]
    exact Bool.eq_iff_iff.2 (by rw [bne_iff_ne, decide_eq_true_iff]; rfl)
  rw [hfilter]
  exact List.map_congr_left fun i hi => hat i (List.mem_range.1 (List.mem_filter.1 hi).1)

/-! ## 端の点は残る -/

/-- 一次の関数 `α x + β y` の値。 -/
def value (α β : Int) (p : Point) : Int := α * p.x + β * p.y

theorem value_stepPoint (α β : Int) (p : Point) (d : Nat) :
    value α β (stepPoint p d) = value α β p + (α * (offset d).1 + β * (offset d).2) := by
  simp only [value, stepPoint_x, stepPoint_y]
  ring

/-- 点 `j` が落ちるなら、点 `j` の前後の一歩は同じ向き。 -/
theorem direction_prev_of_not_kept {j : Nat} (hj : ¬ Kept a n j) :
    direction (a (j + n - 1)) (a j) = direction (a j) (a (j + 1)) :=
  Classical.not_not.1 hj

/-- 点 `j` の前の点から `j` への一歩。 -/
theorem Cyclic.stepPoint_prev (h : Cyclic a n) (j : Nat) :
    stepPoint (a (j + n - 1)) (direction (a (j + n - 1)) (a j)) = a j := by
  have := h.stepPoint_direction (j + n - 1)
  rwa [Nat.sub_add_cancel (by have := h.pos; omega), h.periodic] at this

/-- 同じ向き `d` に `g` 歩進む列は、`t ≤ g` 歩で `d` の変位の `t` 倍だけ進む。 -/
theorem Cyclic.position_of_run (h : Cyclic a n) {i0 d g : Nat}
    (hd : ∀ t < g, direction (a (i0 + t)) (a (i0 + t + 1)) = d) {t : Nat} (ht : t ≤ g) :
    (a (i0 + t)).x = (a i0).x + t * (offset d).1 ∧
      (a (i0 + t)).y = (a i0).y + t * (offset d).2 := by
  induction t with
  | zero => simp
  | succ t ih =>
    have hstep := h.stepPoint_direction (i0 + t)
    rw [hd t (by omega)] at hstep
    obtain ⟨hx, hy⟩ := ih (by omega)
    rw [← Nat.add_assoc, ← hstep, stepPoint_x, stepPoint_y, hx, hy]
    push_cast
    constructor <;> ring

/-- **閉じた列は、一周のあいだ同じ向きに進み続けられない。** `n` 歩で元の点に戻るには、向きの
変位が 0 でなければならない。 -/
theorem Cyclic.not_straight_run (h : Cyclic a n) (i0 d : Nat) :
    ¬ ∀ t < n, direction (a (i0 + t)) (a (i0 + t + 1)) = d := by
  intro hd
  obtain ⟨hx, hy⟩ := h.position_of_run hd le_rfl
  rw [h.periodic] at hx hy
  have hn : (n : Int) ≠ 0 := Int.natCast_ne_zero.2 (Nat.pos_iff_ne_zero.1 h.pos)
  refine offset_ne_zero d (Prod.ext ?_ ?_)
  · exact (mul_eq_zero.1 (by linarith : (n : Int) * _ = 0)).resolve_left hn
  · exact (mul_eq_zero.1 (by linarith : (n : Int) * _ = 0)).resolve_left hn

/-- 途中の点がどれも落ちる道では、向きは変わらない。 -/
theorem Cyclic.direction_run (h : Cyclic a n) {i g : Nat}
    (hdrop : ∀ t, 0 < t → t < g → ¬ Kept a n (i + t)) :
    ∀ t < g, direction (a (i + t)) (a (i + t + 1)) = direction (a i) (a (i + 1)) := by
  intro t ht
  induction t with
  | zero => rfl
  | succ t ih =>
    -- 点 `i + t + 1` は落ちるので、その前後の一歩は同じ向き
    have hkeep := direction_prev_of_not_kept (hdrop (t + 1) (by omega) ht)
    rw [show i + (t + 1) + n - 1 = i + t + n by omega, h.periodic] at hkeep
    rw [← hkeep]
    exact ih (by omega)

/-- **どの点からも、一周するより前に残る点がある。** なければ、その点から一周のあいだ同じ向きに
進み続ける。 -/
theorem Cyclic.exists_kept_after (h : Cyclic a n) (i : Nat) :
    ∃ t, 0 < t ∧ t < n ∧ Kept a n (i + t) := by
  by_contra hnone
  push Not at hnone
  exact h.not_straight_run i _ (h.direction_run hnone)

/-- **一次の関数の最小値をとる点のうち、どれかは落ちずに残る。** どれも落ちるなら、最小の点から先は
ずっと同じ向きに進み、`n` 歩で元の点に戻れない。 -/
theorem exists_kept_of_le (h : Cyclic a n) (α β : Int) (i0 : Nat)
    (hmin : ∀ i, value α β (a i0) ≤ value α β (a i)) :
    ∃ i < n, Kept a n i ∧ value α β (a i) = value α β (a i0) := by
  by_contra hnone
  have hdrop : ∀ j, value α β (a j) = value α β (a i0) → ¬ Kept a n j := fun j hj hk =>
    hnone ⟨j % n, Nat.mod_lt _ h.pos, (h.kept_mod j).2 hk, by rw [h.mod]; exact hj⟩
  -- 最小の点から先は、最小の値のまま、最初の向きに進み続ける
  have hrun : ∀ t, value α β (a (i0 + t)) = value α β (a i0) ∧
      direction (a (i0 + t)) (a (i0 + t + 1)) = direction (a i0) (a (i0 + 1)) := by
    intro t
    induction t with
    | zero => exact ⟨rfl, rfl⟩
    | succ t ih =>
      obtain ⟨hv, hdir⟩ := ih
      have hkeep := direction_prev_of_not_kept (hdrop _ hv)
      -- 前後の点の値は最小以上なので、この向きの一歩は値を変えない
      have hnext := value_stepPoint α β (a (i0 + t)) (direction (a (i0 + t)) (a (i0 + t + 1)))
      have hprev := value_stepPoint α β (a (i0 + t + n - 1))
        (direction (a (i0 + t + n - 1)) (a (i0 + t)))
      rw [h.stepPoint_direction] at hnext
      rw [h.stepPoint_prev, hkeep] at hprev
      have h1 := hmin (i0 + t + 1)
      have h2 := hmin (i0 + t + n - 1)
      have hv' : value α β (a (i0 + (t + 1))) = value α β (a i0) := by
        rw [← Nat.add_assoc]
        omega
      refine ⟨hv', ?_⟩
      -- 次の点も落ちるので、その先の一歩も同じ向き
      have hkeep' := direction_prev_of_not_kept (hdrop _ hv')
      rw [show i0 + (t + 1) + n - 1 = i0 + t + n by omega, h.periodic] at hkeep'
      rw [← hkeep', ← Nat.add_assoc, hdir]
  exact h.not_straight_run i0 _ fun t _ => (hrun t).2

/-- 縮めた列は、一次の関数の最小値をとる。 -/
theorem attains_compressChain (h : Cyclic a n) (hn : 2 < n) {pts : Array Point}
    (hpts : pts.toList = (List.range n).map a) (α β : Int) {i0 : Nat}
    (hmin : ∀ i, value α β (a i0) ≤ value α β (a i)) :
    ∃ p ∈ (compressChain pts).toList, value α β p = value α β (a i0) := by
  obtain ⟨i, hi, hk, hv⟩ := exists_kept_of_le h α β i0 hmin
  rw [compressChain_toList h hn hpts]
  exact ⟨a i, List.mem_map.2 ⟨i, List.mem_filter.2 ⟨List.mem_range.2 hi, by simpa using hk⟩, rfl⟩, hv⟩

/-! ## 落とした後の点の列 -/

/-- 点の列 `ps` は、周期 `n` の列 `a` の点だけからなり、`a 0` から始まり、`a` がとる一次の関数の
最小値をどれもとる。 -/
structure Keeps (ps : List Point) (a : Nat → Point) (n : Nat) : Prop where
  head : ps.head? = some (a 0)
  mem : ∀ p ∈ ps, ∃ i < n, p = a i
  attains : ∀ α β i0, (∀ i, value α β (a i0) ≤ value α β (a i)) →
    ∃ p ∈ ps, value α β p = value α β (a i0)

/-- 残した列は `a 0` から始まる。 -/
theorem Keeps.eq_cons {ps : List Point} (h : Keeps ps a n) : ∃ rest, ps = a 0 :: rest := by
  cases ps with
  | nil => cases h.head
  | cons p rest =>
    obtain rfl : p = a 0 := Option.some_inj.1 h.head
    exact ⟨rest, rfl⟩

/-- 何も落とさない列。 -/
theorem keeps_range (h : Cyclic a n) : Keeps ((List.range n).map a) a n where
  head := by
    obtain ⟨m, rfl⟩ : ∃ m, n = m + 1 := ⟨n - 1, by have := h.pos; omega⟩
    rw [List.range_succ_eq_map]
    rfl
  mem p hp := by
    obtain ⟨i, hi, rfl⟩ := List.mem_map.1 hp
    exact ⟨i, List.mem_range.1 hi, rfl⟩
  attains α β i0 _ :=
    ⟨a (i0 % n), List.mem_map.2 ⟨i0 % n, List.mem_range.2 (Nat.mod_lt _ h.pos), rfl⟩,
      by rw [h.mod]⟩

/-- **`compressChain` は、最初の点が直線の途中でなければ、最初の点と端の点を残す。** -/
theorem keeps_compressChain (h : Cyclic a n) (hfirst : 2 < n → Kept a n 0) {pts : Array Point}
    (hpts : pts.toList = (List.range n).map a) : Keeps (compressChain pts).toList a n := by
  by_cases hn : 2 < n
  · refine ⟨?_, ?_, fun α β _ hmin => attains_compressChain h hn hpts α β hmin⟩
    · -- 最初の点は残るので、先頭のまま
      rw [compressChain_toList h hn hpts]
      obtain ⟨m, rfl⟩ : ∃ m, n = m + 1 := ⟨n - 1, by omega⟩
      rw [List.range_succ_eq_map, List.filter_cons_of_pos (by simpa using hfirst hn)]
      rfl
    · intro p hp
      rw [compressChain_toList h hn hpts] at hp
      obtain ⟨i, hi, rfl⟩ := List.mem_map.1 hp
      exact ⟨i, List.mem_range.1 (List.mem_filter.1 hi).1, rfl⟩
  · have hsize : pts.size ≤ 2 := by
      rw [size_of_toList_eq hpts]
      omega
    have hid : compressChain pts = pts := by
      unfold compressChain
      rw [if_pos hsize]
    rw [hid, hpts]
    exact keeps_range h

end Chain

end DropletVision
