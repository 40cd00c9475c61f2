import Mathlib.Data.Finset.Card
import Mathlib.Data.Finset.Prod
import Mathlib.Logic.Function.Iterate
import Mathlib.Data.Nat.Find
import DropletVision.Proofs.Contour.Neighbours

/-!
# 境界の追跡の軌道

境界の追跡 `traceLoop` を、状態 `(来た点, 現在の点)` の上の一歩 `step` の繰り返しとして読む。

* `Valid` — 来た点も現在の点も成分の画素で、来た点は現在の点の隣。一歩で保たれる。
* `Valid.eq_of_scan` — 同じ点にいる二つの正しい状態が、見る向きの列のうち次の点までの向きを
  一つでも共有するなら、同じ状態。来た点は、その向きから時計回りに見て最初の成分の画素だから。
  ここから一歩は正しい状態の上で単射になる（`Valid.eq_of_step_eq`）。
* `IsPeriod` — 状態がちょうど `n` 歩で初めて戻る。正しい状態は `8 × 画素数` 歩以内に戻る
  （`Valid.exists_period`）：状態は現在の点と来た向きで決まり、その組は `8 × 画素数` 通りしかない。
* `traceBorder_eq_orbit` — 二点以上の成分の追跡は、出発の状態の軌道をちょうど一周した点の列。
  燃料 `8 × 画素数 + 8` は周期より多いので、途中で尽きない。
-/

namespace DropletVision

namespace Trace

/-- 追跡の状態：来た点と現在の点。 -/
structure State where
  prev : Point
  cur : Point
  deriving DecidableEq

variable (l : Labeling) (L : Nat)

/-- 来た点の向き。 -/
def back (s : State) : Nat := direction s.cur s.prev

/-- 現在の点のまわりを、来た向きの一つ反時計回りから反時計回りに見る点の列。 -/
def scan (s : State) : List Point :=
  (List.range 8).map (fun k => stepPoint s.cur (back s + 8 - (k + 1)))

/-- 次の点：見る点の列で最初の成分の画素。 -/
def next (s : State) : Point := ((scan s).find? (inComponent l L)).getD s.cur

/-- 次の点より前に見送る、成分の外の点の数。 -/
def skip (s : State) : Nat := (scan s).findIdx (inComponent l L)

/-- 追跡の一歩。 -/
def step (s : State) : State := ⟨s.cur, next l L s⟩

/-- 正しい状態：来た点も現在の点も成分の画素で、来た点は現在の点の隣。 -/
structure Valid (s : State) : Prop where
  prev_mem : inComponent l L s.prev = true
  cur_mem : inComponent l L s.cur = true
  near : stepPoint s.cur (back s) = s.prev

/-- 追跡の繰り返しの一回は、現在の点を書き足して状態を一歩進める。 -/
theorem traceLoop_succ (start second : Point) (fuel : Nat) (s : State) (acc : Array Point) :
    traceLoop l L start second (fuel + 1) s.prev s.cur acc =
      if (next l L s == start && s.cur == second) = true then acc.push s.cur
      else traceLoop l L start second fuel (step l L s).prev (step l L s).cur (acc.push s.cur) := by
  rw [traceLoop]
  rfl

variable {l L} {s s' : State} {k k' : Nat}

/-! ## 一歩 -/

theorem back_lt (s : State) : back s < 8 := direction_lt _ _

@[simp] theorem length_scan : (scan s).length = 8 := by
  simp [scan]

theorem getElem_scan (hk : k < (scan s).length) :
    (scan s)[k] = stepPoint s.cur (back s + 7 - k) := by
  simp only [scan, List.getElem_map, List.getElem_range]
  congr 1
  simp only [length_scan] at hk
  omega

/-- 来た点は、見る点の列の最後にある。 -/
theorem Valid.skip_lt (h : Valid l L s) : skip l L s < 8 := by
  have hmem : s.prev ∈ scan s := by
    refine List.mem_iff_getElem.2 ⟨7, by simp, ?_⟩
    rw [getElem_scan, Nat.add_sub_cancel, h.near]
  have := List.findIdx_lt_length_of_exists ⟨s.prev, hmem, h.prev_mem⟩
  rw [length_scan] at this
  exact this

theorem not_mem_of_lt_skip (hk : k < skip l L s) :
    inComponent l L (stepPoint s.cur (back s + 7 - k)) = false := by
  have hlen : k < (scan s).length := Nat.lt_of_lt_of_le hk List.findIdx_le_length
  have := List.not_of_lt_findIdx hk
  rwa [getElem_scan hlen] at this

theorem Valid.mem_skip (h : Valid l L s) :
    inComponent l L (stepPoint s.cur (back s + 7 - skip l L s)) = true := by
  have hlen : (scan s).findIdx (inComponent l L) < (scan s).length := by
    rw [length_scan]
    exact h.skip_lt
  have := List.findIdx_getElem (w := hlen)
  rw [getElem_scan hlen] at this
  exact this

theorem Valid.next_eq (h : Valid l L s) :
    next l L s = stepPoint s.cur (back s + 7 - skip l L s) := by
  have hlen : skip l L s < (scan s).length := by rw [length_scan]; exact h.skip_lt
  rw [next, List.find?_eq_getElem?_findIdx, ← skip, List.getElem?_eq_getElem hlen,
    Option.getD_some, getElem_scan]

/-- **同じ点にいる二つの正しい状態が、次の点までに見る向きを一つ共有するなら、同じ状態。**
来た点は、共有する向きから時計回りに見て最初の成分の画素なので。 -/
theorem Valid.eq_of_scan (h : Valid l L s) (h' : Valid l L s') (hcur : s.cur = s'.cur)
    (hk : k ≤ skip l L s) (hk' : k' ≤ skip l L s')
    (hd : (back s + 7 - k) % 8 = (back s' + 7 - k') % 8) : s = s' := by
  have hb := back_lt s
  have hb' := back_lt s'
  have hs := h.skip_lt
  have hs' := h'.skip_lt
  rcases Nat.lt_trichotomy k k' with hlt | rfl | hgt
  · -- `s` の来た点は、`s'` が見送る点の一つになってしまう
    have hnot := not_mem_of_lt_skip (l := l) (L := L) (s := s') (k := k' - k - 1) (by omega)
    rw [← hcur, stepPoint_congr (e := back s) (by omega), h.near, h.prev_mem] at hnot
    cases hnot
  · have hback : back s = back s' := by omega
    have hprev : s.prev = s'.prev := by rw [← h.near, ← h'.near, hcur, hback]
    cases s
    cases s'
    simp only at hcur hprev
    rw [hcur, hprev]
  · have hnot := not_mem_of_lt_skip (l := l) (L := L) (s := s) (k := k - k' - 1) (by omega)
    rw [hcur, stepPoint_congr (e := back s') (by omega), h'.near, h'.prev_mem] at hnot
    cases hnot

theorem Valid.step_valid (h : Valid l L s) : Valid l L (step l L s) where
  prev_mem := h.cur_mem
  cur_mem := by
    show inComponent l L (next l L s) = true
    rw [h.next_eq]
    exact h.mem_skip
  near := by
    show stepPoint (next l L s) (direction (next l L s) s.cur) = s.cur
    rw [h.next_eq, direction_stepPoint_back, stepPoint_mod, stepPoint_add_four]

/-- 一歩は正しい状態の上で単射。 -/
theorem Valid.eq_of_step_eq (h : Valid l L s) (h' : Valid l L s')
    (heq : step l L s = step l L s') : s = s' := by
  have hcur : s.cur = s'.cur := congrArg State.prev heq
  have hnext : next l L s = next l L s' := congrArg State.cur heq
  rw [h.next_eq, h'.next_eq, hcur, stepPoint_eq_iff] at hnext
  exact h.eq_of_scan h' hcur (Nat.le_refl _) (Nat.le_refl _) hnext

/-! ## 軌道 -/

theorem Valid.iterate (h : Valid l L s) (n : Nat) : Valid l L ((step l L)^[n] s) := by
  induction n with
  | zero => exact h
  | succ n ih =>
    rw [Function.iterate_succ_apply']
    exact ih.step_valid

theorem Valid.eq_of_iterate_eq (h : Valid l L s) (h' : Valid l L s') {n : Nat}
    (heq : (step l L)^[n] s = (step l L)^[n] s') : s = s' := by
  induction n generalizing s s' with
  | zero => exact heq
  | succ n ih =>
    rw [Function.iterate_succ_apply, Function.iterate_succ_apply] at heq
    exact h.eq_of_step_eq h' (ih h.step_valid h'.step_valid heq)

theorem inComponent_bounds {p : Point} (h : inComponent l L p = true) :
    0 ≤ p.x ∧ 0 ≤ p.y ∧ p.x < l.width ∧ p.y < l.height := by
  simp only [inComponent, Bool.and_eq_true, decide_eq_true_eq] at h
  omega

/-- 状態の符号：現在の点と来た向き。 -/
def code (s : State) : Nat × Nat × Nat := (s.cur.x.toNat, s.cur.y.toNat, back s)

theorem Valid.code_mem (h : Valid l L s) :
    code s ∈ Finset.range l.width ×ˢ Finset.range l.height ×ˢ Finset.range 8 := by
  have hb := inComponent_bounds h.cur_mem
  simp only [code, Finset.mem_product, Finset.mem_range]
  exact ⟨by omega, by omega, back_lt s⟩

/-- 正しい状態は、現在の点と来た向きで決まる。 -/
theorem Valid.eq_of_code (h : Valid l L s) (h' : Valid l L s') (hc : code s = code s') :
    s = s' := by
  have hb := inComponent_bounds h.cur_mem
  have hb' := inComponent_bounds h'.cur_mem
  simp only [code, Prod.mk.injEq] at hc
  obtain ⟨hx, hy, hback⟩ := hc
  have hcur : s.cur = s'.cur := Point.ext (by omega) (by omega)
  exact h.eq_of_scan h' hcur (Nat.zero_le _) (Nat.zero_le _) (by rw [hback])

/-- 正しい状態は `8 × 画素数` 歩以内に戻る。 -/
theorem Valid.exists_return (h : Valid l L s) :
    ∃ n, 0 < n ∧ n ≤ 8 * l.height * l.width ∧ (step l L)^[n] s = s := by
  have hcard : (Finset.range l.width ×ˢ Finset.range l.height ×ˢ Finset.range 8).card <
      (Finset.range (8 * l.height * l.width + 1)).card := by
    simp only [Finset.card_product, Finset.card_range]
    rw [Nat.mul_comm l.width, Nat.mul_comm l.height 8]
    exact Nat.lt_succ_self _
  obtain ⟨i, hi, j, hj, hne, hij⟩ := Finset.exists_ne_map_eq_of_card_lt_of_maps_to hcard
    (f := fun n => code ((step l L)^[n] s)) (fun n _ => (h.iterate n).code_mem)
  have heq := (h.iterate i).eq_of_code (h.iterate j) hij
  rw [Finset.mem_range] at hi hj
  -- 早い方の回数だけ一歩を取り消す
  rcases Nat.lt_or_gt_of_ne hne with hlt | hlt
  · refine ⟨j - i, by omega, by omega, ?_⟩
    refine ((h.iterate (j - i)).eq_of_iterate_eq h (n := i) ?_)
    rw [← Function.iterate_add_apply, Nat.add_sub_cancel' hlt.le, heq]
  · refine ⟨i - j, by omega, by omega, ?_⟩
    refine ((h.iterate (i - j)).eq_of_iterate_eq h (n := j) ?_)
    rw [← Function.iterate_add_apply, Nat.add_sub_cancel' hlt.le, heq]

/-- 状態 `s` はちょうど `n` 歩で初めて戻る。 -/
structure IsPeriod (l : Labeling) (L : Nat) (s : State) (n : Nat) : Prop where
  pos : 0 < n
  iterate_eq : (step l L)^[n] s = s
  iterate_ne : ∀ i, 0 < i → i < n → (step l L)^[i] s ≠ s

theorem Valid.exists_period (h : Valid l L s) :
    ∃ n, n ≤ 8 * l.height * l.width ∧ IsPeriod l L s n := by
  classical
  have hex := h.exists_return
  refine ⟨Nat.find hex, (Nat.find_spec hex).2.1, (Nat.find_spec hex).1,
    (Nat.find_spec hex).2.2, fun i hi hlt heq => ?_⟩
  exact Nat.find_min hex hlt ⟨hi, by have := (Nat.find_spec hex).2.1; omega, heq⟩

variable {n : Nat}

theorem IsPeriod.iterate_add (hP : IsPeriod l L s n) (i : Nat) :
    (step l L)^[i + n] s = (step l L)^[i] s := by
  rw [Function.iterate_add_apply, hP.iterate_eq]

/-- 一周のうちの状態はどれも異なる。 -/
theorem IsPeriod.iterate_inj (h : Valid l L s) (hP : IsPeriod l L s n) {i j : Nat}
    (hi : i < n) (hj : j < n) (heq : (step l L)^[i] s = (step l L)^[j] s) : i = j := by
  by_contra hne
  rcases Nat.lt_or_gt_of_ne hne with hlt | hlt
  · refine hP.iterate_ne (j - i) (by omega) (by omega) ((h.iterate (j - i)).eq_of_iterate_eq h
      (n := i) ?_)
    rw [← Function.iterate_add_apply, Nat.add_sub_cancel' hlt.le, heq]
  · refine hP.iterate_ne (i - j) (by omega) (by omega) ((h.iterate (i - j)).eq_of_iterate_eq h
      (n := j) ?_)
    rw [← Function.iterate_add_apply, Nat.add_sub_cancel' hlt.le, heq]

/-- 周期はただ一つ。 -/
theorem IsPeriod.unique {n' : Nat} (hP : IsPeriod l L s n) (hP' : IsPeriod l L s n') : n = n' := by
  by_contra hne
  rcases Nat.lt_or_gt_of_ne hne with hlt | hlt
  · exact hP'.iterate_ne n hP.pos hlt hP.iterate_eq
  · exact hP.iterate_ne n' hP'.pos hlt hP'.iterate_eq

/-- 一周の最後の現在の点は、出発の状態の来た点。 -/
theorem IsPeriod.cur_last (hP : IsPeriod l L s n) : ((step l L)^[n - 1] s).cur = s.prev := by
  have h := hP.iterate_eq
  rw [show n = (n - 1) + 1 by have := hP.pos; omega, Function.iterate_succ_apply'] at h
  exact congrArg State.prev h

/-! ## 追跡の繰り返し -/

section Loop

variable {start second : Point}

/-- **追跡が止まるのは周期の終わり。** 止まる条件は、一歩先の状態が出発の状態 `(second, start)`
であること。 -/
theorem IsPeriod.stop_iff (hP : IsPeriod l L ⟨second, start⟩ n) {i : Nat} (hi : i < n) :
    (next l L ((step l L)^[i] ⟨second, start⟩) == start &&
      ((step l L)^[i] ⟨second, start⟩).cur == second) = true ↔ i + 1 = n := by
  rw [Bool.and_eq_true, Point.beq_iff, Point.beq_iff]
  constructor
  · rintro ⟨hn, hc⟩
    by_contra hne
    refine hP.iterate_ne (i + 1) (Nat.succ_pos i) (by omega) ?_
    rw [Function.iterate_succ_apply']
    exact congrArg₂ State.mk hc hn
  · intro hn
    have := hP.iterate_eq
    rw [← hn, Function.iterate_succ_apply'] at this
    exact ⟨congrArg State.cur this, congrArg State.prev this⟩

/-- 軌道の `i` 番目から、燃料が周期までもてば、追跡は周期の終わりまでの現在の点を書き足して止まる。
止まるのは、次の状態が出発の状態 `(second, start)` に戻るときだけ。 -/
theorem traceLoop_iterate (hP : IsPeriod l L ⟨second, start⟩ n) :
    ∀ fuel i (acc : Array Point), i < n → n ≤ i + fuel →
      (traceLoop l L start second fuel ((step l L)^[i] ⟨second, start⟩).prev
        ((step l L)^[i] ⟨second, start⟩).cur acc).toList =
        acc.toList ++ (List.range (n - i)).map (fun t => ((step l L)^[i + t] ⟨second, start⟩).cur) := by
  intro fuel
  induction fuel with
  | zero => intro i acc hi hfuel; omega
  | succ fuel ih =>
    intro i acc hi hfuel
    have hstop := hP.stop_iff hi
    rw [traceLoop_succ]
    by_cases hlast : i + 1 = n
    · rw [if_pos (hstop.2 hlast), Array.toList_push]
      rw [show n - i = 1 by omega]
      simp
    · rw [if_neg (fun h => hlast (hstop.1 h)), ← Function.iterate_succ_apply' (step l L),
        ih (i + 1) _ (by omega) (by omega), Array.toList_push, List.append_assoc]
      congr 1
      rw [show n - i = (n - (i + 1)) + 1 by omega, List.range_succ_eq_map]
      simp only [List.map_cons, List.map_map, Nat.add_zero, List.singleton_append]
      congr 1
      refine List.map_congr_left fun t _ => ?_
      simp only [Function.comp_apply, Nat.add_assoc, Nat.add_comm 1 t]

end Loop

/-- 出発点の隣を、西から時計回りに見て最初の成分の画素。 -/
def firstNeighbour (l : Labeling) (L : Nat) (start : Point) : Option Point :=
  ((List.range 8).map (fun k => stepPoint start (west + k))).find? (inComponent l L)

theorem traceBorder_eq (start : Point) :
    traceBorder l L start = match firstNeighbour l L start with
      | none => #[start]
      | some second =>
        traceLoop l L start second (8 * l.height * l.width + 8) second start #[] := rfl

/-- 出発点の隣の成分の画素 `second` は、西から時計回りに `j` 番目で、それより前の隣は成分の外。 -/
theorem firstNeighbour_eq_some {start second : Point}
    (h : firstNeighbour l L start = some second) :
    ∃ j < 8, second = stepPoint start (west + j) ∧ inComponent l L second = true ∧
      ∀ j' < j, inComponent l L (stepPoint start (west + j')) = false := by
  obtain ⟨hmem, i, hi, hget, hbefore⟩ := List.find?_eq_some_iff_getElem.1 h
  simp only [List.length_map, List.length_range] at hi
  simp only [List.getElem_map, List.getElem_range] at hget hbefore
  refine ⟨i, hi, hget.symm, hmem, fun j' hj' => ?_⟩
  have := hbefore j' hj'
  simpa only [Bool.not_eq_eq_eq_not, Bool.not_true] using this

/-- 出発点の隣に成分の画素がなければ、どの向きの隣も成分の外。 -/
theorem firstNeighbour_eq_none {start : Point} (h : firstNeighbour l L start = none) (d : Nat) :
    inComponent l L (stepPoint start d) = false := by
  have hall := List.find?_eq_none.1 h (stepPoint start (west + (d + 4) % 8))
    (List.mem_map.2 ⟨(d + 4) % 8, List.mem_range.2 (Nat.mod_lt _ (by decide)), rfl⟩)
  rw [stepPoint_congr (e := d) (by simp only [west]; omega)] at hall
  simpa only [Bool.not_eq_true] using hall

/-- 出発の状態 `(second, start)` は正しい。 -/
theorem valid_of_firstNeighbour {start second : Point} (hs : inComponent l L start = true)
    (h : firstNeighbour l L start = some second) : Valid l L ⟨second, start⟩ := by
  obtain ⟨j, -, rfl, hmem, -⟩ := firstNeighbour_eq_some h
  exact ⟨hmem, hs, stepPoint_direction_stepPoint start _⟩

/-- **二点以上の成分の追跡は、出発の状態の軌道をちょうど一周した現在の点の列。** -/
theorem traceBorder_eq_orbit {start second : Point} (hs : inComponent l L start = true)
    (h : firstNeighbour l L start = some second) :
    ∃ n, IsPeriod l L ⟨second, start⟩ n ∧
      (traceBorder l L start).toList =
        (List.range n).map (fun t => ((step l L)^[t] ⟨second, start⟩).cur) := by
  obtain ⟨n, hle, hP⟩ := (valid_of_firstNeighbour hs h).exists_period
  refine ⟨n, hP, ?_⟩
  rw [traceBorder_eq, h]
  have := traceLoop_iterate hP (8 * l.height * l.width + 8) 0 #[] hP.pos (by omega)
  simpa only [Function.iterate_zero, id_eq, Array.toList_empty, List.nil_append, Nat.sub_zero,
    Nat.zero_add] using this

end Trace

end DropletVision
