import DropletVision.Proofs.Contour.Cracks

/-!
# 境界の追跡は成分の端まで届く

成分が 8 近傍でつながっていれば、一周の辺の道の巻き数は成分のどの画素でも -1 になる。
そこから、一周の現在の点は成分のどの列にも現れ、成分の一番下の行にも届く
（`exists_orbit_column`、`exists_orbit_row_ge`）。

* 出発点（行優先で最初の画素）の巻き数は -1（`winding_start`）：出発点より上に成分の画素はなく、
  出発点の上の辺は一周でちょうど一度、最初の一歩でたどる。
* 辺で接する二つの成分の画素の間の辺はたどらないので、巻き数は等しい（`winding_south`、
  `winding_east`）。
* 斜めに接する二つの成分の画素は、間の二つの画素の一方が成分にあればそれを経由する。どちらも
  外なら、道はその角で曲がる二つの辺を同じ回数ずつたどり（一方の辺の次に他方の辺をたどる）、
  差は打ち消し合う（`winding_southeast`、`winding_southwest`）。
* 一周のどの点とも列が違う画素、一周のどの点よりも下の画素の巻き数は 0（`Cracks` の結果）。
-/

namespace DropletVision

namespace Trace

variable {l : Labeling} {L : Nat} {s s0 : State} {n d : Nat}

/-! ## 見送る向き -/

/-- 見送る隣は成分の外。 -/
theorem Scans.not_mem (h : Scans l L s d) : inComponent l L (stepPoint s.cur d) = false := by
  obtain ⟨k, hk, rfl⟩ := h
  rw [stepPoint_mod]
  exact not_mem_of_lt_skip hk

/-- 見る向きの列の `k` 番目までがどれも成分の外なら、`k` 番目は次の点より前。 -/
theorem Valid.lt_skip (h : Valid l L s) {k : Nat}
    (hk : ∀ k' ≤ k, inComponent l L (stepPoint s.cur (back s + 7 - k')) = false) :
    k < skip l L s := by
  by_contra hle
  have := hk (skip l L s) (by omega)
  rw [h.mem_skip] at this
  cases this

theorem back_eq_of_prev (h : s.prev = stepPoint s.cur d) : back s = d % 8 := by
  rw [back, h, direction_stepPoint]

/-- 向き `d` の隣が外で、その一つ反時計回りの隣が成分の画素なら、`d` を見送るのは、
次の点がその画素のとき。 -/
theorem Valid.scans_iff_next (h : Valid l L s) (hd : d < 8)
    (hout : inComponent l L (stepPoint s.cur d) = false)
    (hin : inComponent l L (stepPoint s.cur (d + 7)) = true) :
    Scans l L s d ↔ next l L s = stepPoint s.cur (d + 7) := by
  have hb := back_lt s
  have hs := h.skip_lt
  rw [h.next_eq, stepPoint_eq_iff]
  constructor
  · rintro ⟨k, hk, hkd⟩
    -- 見送った向きの次に見る向きは成分の画素なので、それが次の点
    by_contra hne
    have hnot := not_mem_of_lt_skip (l := l) (L := L) (s := s) (k := k + 1) (by omega)
    rw [stepPoint_congr (e := d + 7) (by omega), hin] at hnot
    cases hnot
  · intro hn
    -- 次の点のすぐ前に見るのが向き `d`。来た向きが `d` なら来た点は外になってしまう
    have hpos : 0 < skip l L s := by
      by_contra h0
      have hback : stepPoint s.cur d = s.prev := by
        rw [← h.near]
        exact stepPoint_congr (by omega)
      rw [hback, h.prev_mem] at hout
      cases hout
    exact ⟨skip l L s - 1, by omega, by omega⟩

/-- 向き `d` の隣が外で、その一つ時計回りの隣が成分の画素なら、`d` を見送るのは、
来た点がその画素のとき。 -/
theorem Valid.scans_iff_prev (h : Valid l L s) (hd : d < 8)
    (hout : inComponent l L (stepPoint s.cur d) = false)
    (hin : inComponent l L (stepPoint s.cur (d + 1)) = true) :
    Scans l L s d ↔ s.prev = stepPoint s.cur (d + 1) := by
  have hb := back_lt s
  have hs := h.skip_lt
  constructor
  · rintro ⟨k, hk, hkd⟩
    -- 見送った向きの一つ時計回りも見送っていれば外なので、見送ったのは最初に見る向き
    have hk0 : k = 0 := by
      by_contra hne
      have hnot := not_mem_of_lt_skip (l := l) (L := L) (s := s) (k := k - 1) (by omega)
      rw [stepPoint_congr (e := d + 1) (by omega), hin] at hnot
      cases hnot
    subst hk0
    rw [← h.near]
    exact stepPoint_congr (by omega)
  · intro hprev
    have hback := back_eq_of_prev hprev
    refine ⟨0, h.lt_skip fun k' hk' => ?_, by omega⟩
    rw [show k' = 0 by omega, stepPoint_congr (e := d) (by omega)]
    exact hout

/-- `scans_iff_next` を状態の言葉で：点 `c` にいて向き `d` を見送るのは、一歩先の状態が
`c` から一つ反時計回りの隣へ進んだもののとき。 -/
theorem Valid.scans_cur_iff_step (h : Valid l L s) (hd : d < 8) {c : Point}
    (hout : inComponent l L (stepPoint c d) = false)
    (hin : inComponent l L (stepPoint c (d + 7)) = true) :
    (Scans l L s d ∧ s.cur = c) ↔ step l L s = ⟨c, stepPoint c (d + 7)⟩ := by
  constructor
  · rintro ⟨hs, rfl⟩
    rw [step, (h.scans_iff_next hd hout hin).1 hs]
  · intro heq
    have hc : s.cur = c := congrArg State.prev heq
    subst hc
    exact ⟨(h.scans_iff_next hd hout hin).2 (congrArg State.cur heq), rfl⟩

/-- `scans_iff_prev` を状態の言葉で：点 `c` にいて向き `d` を見送るのは、`c` の一つ時計回りの
隣から来た状態のとき。 -/
theorem Valid.scans_cur_iff (h : Valid l L s) (hd : d < 8) {c : Point}
    (hout : inComponent l L (stepPoint c d) = false)
    (hin : inComponent l L (stepPoint c (d + 1)) = true) :
    (Scans l L s d ∧ s.cur = c) ↔ s = ⟨stepPoint c (d + 1), c⟩ := by
  constructor
  · rintro ⟨hs, rfl⟩
    rw [← (h.scans_iff_prev hd hout hin).1 hs]
  · intro heq
    subst heq
    exact ⟨(h.scans_iff_prev hd hout hin).2 rfl, rfl⟩

/-! ## 出発点 -/

/-- 成分の行優先で最初の画素。 -/
structure IsFirst (l : Labeling) (L : Nat) (start : Point) : Prop where
  mem : inComponent l L start = true
  le : ∀ p, inComponent l L p = true → start.y < p.y ∨ (start.y = p.y ∧ start.x ≤ p.x)

/-- 行優先で最初の画素の左・左上・上・右上（向き 4 から 7）は成分の外。 -/
theorem IsFirst.not_mem_before {start : Point} (h : IsFirst l L start) (hd : 4 ≤ d % 8) :
    inComponent l L (stepPoint start d) = false := by
  have htable : ∀ a ∈ [4, 5, 6, 7], (directions.getD a (0, 0)).2 < 0 ∨
      ((directions.getD a (0, 0)).2 = 0 ∧ (directions.getD a (0, 0)).1 < 0) := by decide
  have hmem : d % 8 ∈ [4, 5, 6, 7] := by
    have := Nat.mod_lt d (by decide : 8 > 0)
    simp only [List.mem_cons, List.not_mem_nil, or_false]
    omega
  have hoff := htable _ hmem
  cases hin : inComponent l L (stepPoint start d)
  · rfl
  · have := h.le _ hin
    simp only [stepPoint_x, stepPoint_y, offset] at this
    omega

/-- 行優先で最初の画素の隣の成分の画素は、右・右下・下・左下（向き 0 から 3）にある。 -/
theorem IsFirst.lt_four {start : Point} (h : IsFirst l L start)
    (hin : inComponent l L (stepPoint start d) = true) : d % 8 < 4 := by
  by_contra hge
  rw [h.not_mem_before (by omega)] at hin
  cases hin

section Start

variable {start second : Point} (hfirst : IsFirst l L start)
  (hsecond : firstNeighbour l L start = some second)
include hfirst hsecond

/-- 出発の状態は、出発点の上の隣を見送る。 -/
theorem scans_start : Scans l L ⟨second, start⟩ 6 := by
  obtain ⟨j, hj, rfl, hmem, hbefore⟩ := firstNeighbour_eq_some hsecond
  -- 西から時計回りに見て最初の成分の画素は、左・左上・上・右上より後
  have hj4 : 4 ≤ j := by
    have := hfirst.lt_four hmem
    simp only [west] at this
    omega
  have hv := valid_of_firstNeighbour hfirst.mem hsecond
  have hback : back ⟨stepPoint start (west + j), start⟩ = (4 + j) % 8 :=
    back_eq_of_prev (d := west + j) rfl
  refine ⟨j - 3, hv.lt_skip fun k' hk' => ?_, by simp only [hback]; omega⟩
  -- 出発の状態が `k'` 番目に見る向きは、西から時計回りに `j - 1 - k'` 番目
  simp only [hback]
  rw [stepPoint_congr (e := west + (j - 1 - k')) (by simp only [west]; omega)]
  exact hbefore _ (by omega)

variable (hP : IsPeriod l L ⟨second, start⟩ n)
include hP

/-- **出発点の巻き数は -1。** 出発点より上に成分の画素はないので、出発点の列で数える横の辺は
出発点の上の辺だけで、それをたどるのは最初の一歩だけ。 -/
theorem winding_start : winding l L ⟨second, start⟩ n start.x start.y = -1 := by
  have h0 := valid_of_firstNeighbour hfirst.mem hsecond
  -- 上の辺をたどる状態は、出発点にいて上を見送るもの
  have hterm : ∀ i, sideSum l L (rayWeight start.x start.y) ((step l L)^[i] ⟨second, start⟩) =
      if Scans l L ((step l L)^[i] ⟨second, start⟩) 6 ∧
        ((step l L)^[i] ⟨second, start⟩).cur = start then -1 else 0 := by
    intro i
    have hle := hfirst.le _ (h0.iterate i).cur_mem
    have hiff : (((step l L)^[i] ⟨second, start⟩).cur.x = start.x ∧
        ((step l L)^[i] ⟨second, start⟩).cur.y ≤ start.y) ↔
          ((step l L)^[i] ⟨second, start⟩).cur = start :=
      ⟨fun h => Point.ext h.1 (by have := h.2; omega), fun hc => by rw [hc]; exact ⟨rfl, Int.le_refl _⟩⟩
    rw [sideSum_rayWeight, if_neg (fun h => by have := h.2.2; omega)]
    simp only [hiff]
    split_ifs <;> omega
  -- それは出発の状態だけ
  have hunique : ∀ i < n, Scans l L ((step l L)^[i] ⟨second, start⟩) 6 →
      ((step l L)^[i] ⟨second, start⟩).cur = start → i = 0 := by
    intro i hi h6 hc
    obtain ⟨k, hk, hkd⟩ := h6
    obtain ⟨k', hk', hkd'⟩ := scans_start hfirst hsecond
    have heq := (h0.iterate i).eq_of_scan h0 hc (Nat.le_of_lt hk) (Nat.le_of_lt hk')
      (hkd.trans hkd'.symm)
    exact hP.iterate_inj h0 hi hP.pos heq
  rw [winding, Finset.sum_congr rfl fun i _ => hterm i,
    Finset.sum_eq_single_of_mem 0 (Finset.mem_range.2 hP.pos) fun i hi hi0 =>
      if_neg fun h => hi0 (hunique i (Finset.mem_range.1 hi) h.1 h.2)]
  simp only [Function.iterate_zero, id_eq, scans_start hfirst hsecond, and_self, if_true]

end Start

/-! ## 隣り合う画素の巻き数 -/

/-- 座標で与えた点への一歩。 -/
theorem stepPoint_eq_of {p q : Point} {d : Nat} (hx : p.x + (offset d).1 = q.x)
    (hy : p.y + (offset d).2 = q.y) : stepPoint p d = q :=
  Point.ext hx hy

section Neighbours

variable {p q : Point}

/-- 一周で、状態がある状態の一歩前にある回数と、その状態にある回数は同じ。 -/
theorem count_succ_eq (hP : IsPeriod l L s0 n) (t : State) :
    ∑ i ∈ Finset.range n, (if (step l L)^[i + 1] s0 = t then (1 : Int) else 0) =
      ∑ i ∈ Finset.range n, (if (step l L)^[i] s0 = t then 1 else 0) :=
  sum_shift hP (fun s => if s = t then 1 else 0)

/-- **上下に接する二つの成分の画素の巻き数は等しい：間の辺はたどらない。** -/
theorem winding_south (hp : inComponent l L p = true) (hq : inComponent l L q = true)
    (hx : q.x = p.x) (hy : q.y = p.y + 1) :
    winding l L s0 n q.x q.y = winding l L s0 n p.x p.y := by
  rw [hx, hy, ← sub_eq_zero, winding_succ_row]
  refine Finset.sum_eq_zero fun i _ => ?_
  rw [sideSum_rowCrossWeight, if_neg, if_neg, sub_zero]
  · -- 下の画素にいて上を見送ることはない
    rintro ⟨h6, hc⟩
    have hout := h6.not_mem
    rw [hc, stepPoint_eq_of (q := p) (by simp [offset, directions])
      (by simp [offset, directions]), hp] at hout
    cases hout
  · -- 上の画素にいて下を見送ることはない
    rintro ⟨h2, hc⟩
    have hout := h2.not_mem
    rw [hc, stepPoint_eq_of (q := q) (by simp [offset, directions]; omega)
      (by simp [offset, directions]; omega), hq] at hout
    cases hout

/-- **左右に接する二つの成分の画素の巻き数は等しい：間の辺はたどらない。** -/
theorem winding_east (h0 : Valid l L s0) (hP : IsPeriod l L s0 n)
    (hp : inComponent l L p = true) (hq : inComponent l L q = true)
    (hx : q.x = p.x + 1) (hy : q.y = p.y) :
    winding l L s0 n q.x q.y = winding l L s0 n p.x p.y := by
  rw [hx, hy, eq_comm, ← sub_eq_zero, winding_succ_col h0 hP]
  refine Finset.sum_eq_zero fun i _ => ?_
  rw [sideSum_colCrossWeight, if_neg, if_neg, sub_zero]
  · -- 左の画素にいて右を見送ることはない
    rintro ⟨h0', hc⟩
    have hout := h0'.not_mem
    rw [hc, stepPoint_eq_of (q := q) (by simp [offset, directions]; omega)
      (by simp [offset, directions]; omega), hq] at hout
    cases hout
  · -- 右の画素にいて左を見送ることはない
    rintro ⟨h4, hc⟩
    have hout := h4.not_mem
    rw [hc, stepPoint_eq_of (q := p) (by simp [offset, directions])
      (by simp [offset, directions]), hp] at hout
    cases hout

/-- **右下に接する二つの成分の画素の巻き数は等しい。** 間の二つの画素の一方が成分にあれば、
それを経由する。どちらも外なら、道は二つの画素の接する角で曲がる：右下の画素の上の辺をたどる
のは右下の画素から左上の画素へ進む一歩、左上の画素の右の辺をたどるのはその次の一歩で、
回数は同じ。 -/
theorem winding_southeast (h0 : Valid l L s0) (hP : IsPeriod l L s0 n)
    (hp : inComponent l L p = true) (hq : inComponent l L q = true)
    (hx : q.x = p.x + 1) (hy : q.y = p.y + 1) :
    winding l L s0 n q.x q.y = winding l L s0 n p.x p.y := by
  by_cases he : inComponent l L ⟨p.x + 1, p.y⟩ = true
  · -- 右の画素を経由する
    have h1 : winding l L s0 n q.x q.y = winding l L s0 n (p.x + 1) p.y :=
      winding_south (p := ⟨p.x + 1, p.y⟩) he hq hx hy
    have h2 := winding_east h0 hP (q := ⟨p.x + 1, p.y⟩) hp he rfl rfl
    exact h1.trans h2
  by_cases hs : inComponent l L ⟨p.x, p.y + 1⟩ = true
  · -- 下の画素を経由する
    have h1 := winding_east h0 hP (p := ⟨p.x, p.y + 1⟩) hs hq hx hy
    have h2 : winding l L s0 n p.x (p.y + 1) = winding l L s0 n p.x p.y :=
      winding_south (q := ⟨p.x, p.y + 1⟩) hp hs rfl rfl
    exact h1.trans h2
  -- 間の二つの画素がどちらも外：曲がり角
  have hq1 : stepPoint p 1 = q := stepPoint_eq_of (by simp [offset, directions, hx])
    (by simp [offset, directions, hy])
  have hout0 : inComponent l L (stepPoint p 0) = false := by
    rw [stepPoint_eq_of (q := ⟨p.x + 1, p.y⟩) (by simp [offset, directions])
      (by simp [offset, directions])]
    simpa only [Bool.not_eq_true] using he
  have hout6 : inComponent l L (stepPoint q 6) = false := by
    rw [stepPoint_eq_of (q := ⟨p.x + 1, p.y⟩) (by simp [offset, directions]; omega)
      (by simp [offset, directions]; omega)]
    simpa only [Bool.not_eq_true] using he
  have hp13 : stepPoint q (6 + 7) = p := stepPoint_eq_of (by simp [offset, directions]; omega)
    (by simp [offset, directions]; omega)
  -- 右下の画素の上の辺：右下の画素から左上の画素へ進む一歩
  have hrow : ∀ i, sideSum l L (rowCrossWeight (p.x + 1) p.y) ((step l L)^[i] s0) =
      -(if (step l L)^[i + 1] s0 = ⟨q, p⟩ then 1 else 0) := by
    intro i
    have hv := h0.iterate i
    have hcur : ((step l L)^[i] s0).cur ≠ ⟨p.x + 1, p.y⟩ := fun hc => he (hc ▸ hv.cur_mem)
    have hiff := hv.scans_cur_iff_step (by decide) hout6 (hp13 ▸ hp)
    rw [hp13] at hiff
    rw [sideSum_rowCrossWeight, if_neg (fun h => hcur h.2), Function.iterate_succ_apply',
      show (⟨p.x + 1, p.y + 1⟩ : Point) = q from Point.ext hx.symm hy.symm]
    simp only [hiff]
    split_ifs <;> omega
  -- 左上の画素の右の辺：右下の画素から来た一歩
  have hcol : ∀ i, sideSum l L (colCrossWeight p.x p.y) ((step l L)^[i] s0) =
      -(if (step l L)^[i] s0 = ⟨q, p⟩ then 1 else 0) := by
    intro i
    have hv := h0.iterate i
    have hcur : ((step l L)^[i] s0).cur ≠ ⟨p.x + 1, p.y⟩ := fun hc => he (hc ▸ hv.cur_mem)
    have hiff := hv.scans_cur_iff (by decide) hout0 (hq1 ▸ hq)
    rw [hq1] at hiff
    rw [sideSum_colCrossWeight, if_neg (fun h => hcur h.2), show (⟨p.x, p.y⟩ : Point) = p from rfl]
    simp only [hiff]
    split_ifs <;> omega
  have hsouth : winding l L s0 n (p.x + 1) (p.y + 1) - winding l L s0 n (p.x + 1) p.y = _ :=
    winding_succ_row (p.x + 1) p.y
  have heast := winding_succ_col h0 hP p.x p.y
  rw [Finset.sum_congr rfl fun i _ => hrow i, Finset.sum_neg_distrib, count_succ_eq hP] at hsouth
  rw [Finset.sum_congr rfl fun i _ => hcol i, Finset.sum_neg_distrib] at heast
  rw [hx, hy]
  omega

/-- **左下に接する二つの成分の画素の巻き数は等しい。** 間の二つの画素がどちらも外なら、
左下の画素の上の辺をたどるのは右上の画素から来た一歩、右上の画素の左の辺をたどるのは右上の
画素から左下の画素へ進む一歩で、回数は同じ。 -/
theorem winding_southwest (h0 : Valid l L s0) (hP : IsPeriod l L s0 n)
    (hp : inComponent l L p = true) (hq : inComponent l L q = true)
    (hx : q.x + 1 = p.x) (hy : q.y = p.y + 1) :
    winding l L s0 n q.x q.y = winding l L s0 n p.x p.y := by
  by_cases hw : inComponent l L ⟨q.x, p.y⟩ = true
  · -- 右上の画素の左を経由する
    have h1 : winding l L s0 n q.x q.y = winding l L s0 n q.x p.y :=
      winding_south (p := ⟨q.x, p.y⟩) hw hq rfl hy
    have h2 := winding_east h0 hP (p := ⟨q.x, p.y⟩) hw hp hx.symm rfl
    exact h1.trans h2.symm
  by_cases hs : inComponent l L ⟨p.x, q.y⟩ = true
  · -- 右上の画素の下を経由する
    have h1 := winding_east h0 hP (q := ⟨p.x, q.y⟩) hq hs hx.symm rfl
    have h2 : winding l L s0 n p.x q.y = winding l L s0 n p.x p.y :=
      winding_south (q := ⟨p.x, q.y⟩) hp hs rfl hy
    exact h1.symm.trans h2
  -- 間の二つの画素がどちらも外：曲がり角
  have hq3 : stepPoint p (4 + 7) = q := stepPoint_eq_of (by simp [offset, directions]; omega)
    (by simp [offset, directions]; omega)
  have hp7 : stepPoint q (6 + 1) = p := stepPoint_eq_of (by simp [offset, directions]; omega)
    (by simp [offset, directions]; omega)
  have hout4 : inComponent l L (stepPoint p 4) = false := by
    rw [stepPoint_eq_of (q := ⟨q.x, p.y⟩) (by simp [offset, directions]; omega)
      (by simp [offset, directions])]
    simpa only [Bool.not_eq_true] using hw
  have hout6 : inComponent l L (stepPoint q 6) = false := by
    rw [stepPoint_eq_of (q := ⟨q.x, p.y⟩) (by simp [offset, directions])
      (by simp [offset, directions]; omega)]
    simpa only [Bool.not_eq_true] using hw
  -- 左下の画素の上の辺：右上の画素から来た一歩
  have hrow : ∀ i, sideSum l L (rowCrossWeight q.x p.y) ((step l L)^[i] s0) =
      -(if (step l L)^[i] s0 = ⟨p, q⟩ then 1 else 0) := by
    intro i
    have hv := h0.iterate i
    have hcur : ((step l L)^[i] s0).cur ≠ ⟨q.x, p.y⟩ := fun hc => hw (hc ▸ hv.cur_mem)
    have hiff := hv.scans_cur_iff (by decide) hout6 (hp7 ▸ hp)
    rw [hp7] at hiff
    rw [sideSum_rowCrossWeight, if_neg (fun h => hcur h.2),
      show (⟨q.x, p.y + 1⟩ : Point) = q from Point.ext rfl hy.symm]
    simp only [hiff]
    split_ifs <;> omega
  -- 右上の画素の左の辺：右上の画素から左下の画素へ進む一歩
  have hcol : ∀ i, sideSum l L (colCrossWeight q.x p.y) ((step l L)^[i] s0) =
      if (step l L)^[i + 1] s0 = ⟨p, q⟩ then 1 else 0 := by
    intro i
    have hv := h0.iterate i
    have hcur : ((step l L)^[i] s0).cur ≠ ⟨q.x, p.y⟩ := fun hc => hw (hc ▸ hv.cur_mem)
    have hiff := hv.scans_cur_iff_step (by decide) hout4 (hq3 ▸ hq)
    rw [hq3] at hiff
    have hno : ¬ (Scans l L ((step l L)^[i] s0) 0 ∧ ((step l L)^[i] s0).cur = ⟨q.x, p.y⟩) :=
      fun h => hcur h.2
    rw [sideSum_colCrossWeight, Function.iterate_succ_apply',
      show (⟨q.x + 1, p.y⟩ : Point) = p from Point.ext hx rfl]
    simp only [hiff, hno, if_false]
    split_ifs <;> omega
  have hsouth : winding l L s0 n q.x (p.y + 1) - winding l L s0 n q.x p.y = _ :=
    winding_succ_row q.x p.y
  have heast := winding_succ_col h0 hP q.x p.y
  rw [Finset.sum_congr rfl fun i _ => hrow i, Finset.sum_neg_distrib] at hsouth
  rw [Finset.sum_congr rfl fun i _ => hcol i, count_succ_eq hP] at heast
  rw [hy, ← hx]
  omega

/-- **8 近傍で接する二つの成分の画素の巻き数は等しい。** -/
theorem winding_near (h0 : Valid l L s0) (hP : IsPeriod l L s0 n)
    (hp : inComponent l L p = true) (hq : inComponent l L q = true) (hpq : q = stepPoint p d) :
    winding l L s0 n q.x q.y = winding l L s0 n p.x p.y := by
  have hx : q.x = p.x + (offset (d % 8)).1 := by rw [hpq, offset_mod]; rfl
  have hy : q.y = p.y + (offset (d % 8)).2 := by rw [hpq, offset_mod]; rfl
  have hd : d % 8 < 8 := Nat.mod_lt d (by decide)
  generalize d % 8 = r at hx hy hd
  -- 向きが 0 から 3 なら `p` から `q` へ、4 から 7 なら `q` から `p` へ
  interval_cases r <;> simp only [offset, directions] at hx hy <;>
    simp at hx hy
  · exact winding_east h0 hP hp hq hx hy
  · exact winding_southeast h0 hP hp hq hx hy
  · exact winding_south hp hq hx hy
  · exact winding_southwest h0 hP hp hq (by omega) hy
  · exact (winding_east h0 hP hq hp (by omega) hy.symm).symm
  · exact (winding_southeast h0 hP hq hp (by omega) (by omega)).symm
  · exact (winding_south hq hp hx.symm (by omega)).symm
  · exact (winding_southwest h0 hP hq hp (by omega) (by omega)).symm

end Neighbours

/-! ## 成分の端 -/

/-- 成分の画素だけを 8 近傍でたどってつながる。 -/
def Connected (l : Labeling) (L : Nat) : Point → Point → Prop :=
  Relation.ReflTransGen fun a b =>
    inComponent l L a = true ∧ inComponent l L b = true ∧ ∃ d, b = stepPoint a d

/-- 成分の画素をたどる道の両端の巻き数は等しい。 -/
theorem Connected.winding_eq (h0 : Valid l L s0) (hP : IsPeriod l L s0 n) {a b : Point}
    (h : Connected l L a b) : winding l L s0 n b.x b.y = winding l L s0 n a.x a.y := by
  induction h with
  | refl => rfl
  | tail _ hstep ih =>
    obtain ⟨hb, hc, d, hd⟩ := hstep
    exact (winding_near h0 hP hb hc hd).trans ih

section Ends

variable {start second q : Point} (hfirst : IsFirst l L start)
  (hsecond : firstNeighbour l L start = some second) (hP : IsPeriod l L ⟨second, start⟩ n)
  (hq : Connected l L start q)
include hfirst hsecond hP hq

theorem winding_of_connected : winding l L ⟨second, start⟩ n q.x q.y = -1 := by
  rw [hq.winding_eq (valid_of_firstNeighbour hfirst.mem hsecond) hP, winding_start hfirst hsecond hP]

/-- **成分の画素の列には、一周の現在の点がある。** -/
theorem exists_orbit_column : ∃ i < n, ((step l L)^[i] ⟨second, start⟩).cur.x = q.x := by
  by_contra hnone
  have hzero := winding_eq_zero_of_column (l := l) (L := L) (y := q.y)
    fun i hi heq => hnone ⟨i, hi, heq⟩
  rw [winding_of_connected hfirst hsecond hP hq] at hzero
  cases hzero

/-- **一周の現在の点は、成分のどの画素の行まで下がる。** -/
theorem exists_orbit_row_ge : ∃ i < n, q.y ≤ ((step l L)^[i] ⟨second, start⟩).cur.y := by
  by_contra hnone
  have hzero := winding_eq_zero_of_below (valid_of_firstNeighbour hfirst.mem hsecond) hP
    (x := q.x) (y := q.y) fun i hi => by
      have : ¬ q.y ≤ ((step l L)^[i] ⟨second, start⟩).cur.y := fun hle => hnone ⟨i, hi, hle⟩
      omega
  rw [winding_of_connected hfirst hsecond hP hq] at hzero
  cases hzero

end Ends

end Trace

end DropletVision
