import DropletVision.Proofs.Contour.Polygon

/-!
# 追跡した境界は、出発点の成分の外側の境界

`traceBorder l L start` は、ラベル `L` の画素のうち `start` と 8 近傍でつながる成分
（`Connected l L start`）の、行優先で最初の画素 `start`（`StartsComponent`）から、その成分の外側の
境界をたどる。

仕組みは二つ。

* `restrictTo` — 成分の画素にだけラベル `L` を残したラベル付け。追跡が見るのは成分の画素の隣だけ
  なので、追跡の結果は変わらない（`traceBorder_restrictTo`）。残したラベル付けでは `start` はラベル
  `L` の画素のうち行優先で最初の画素（`IsFirst`）になり、軌道と巻き数の定理がそのまま使える。
* `Exterior` — 成分の外の点だけを 4 近傍でたどって画像の外へ出られる点。そうした道の上で巻き数は
  変わらず（`winding_eq_of_adjacent4`）、画像の外では 0 なので、外側の点の巻き数は 0。成分の画素の
  巻き数は -1 だから、外側の点と辺で接する成分の画素では、道が間の辺を通る。その画素は一周の
  現在の点になる（`mem_orbit_of_exterior`）。
-/

namespace DropletVision

/-- `p` と `q` は 4 近傍：x と y の差の絶対値の和が 1。 -/
def Point.Adjacent4 (p q : Point) : Prop := (p.x - q.x).natAbs + (p.y - q.y).natAbs = 1

theorem Point.Adjacent4.cases {p q : Point} (h : p.Adjacent4 q) :
    q = ⟨p.x, p.y + 1⟩ ∨ p = ⟨q.x, q.y + 1⟩ ∨ q = ⟨p.x + 1, p.y⟩ ∨ p = ⟨q.x + 1, q.y⟩ := by
  unfold Point.Adjacent4 at h
  have : (q.x = p.x ∧ q.y = p.y + 1) ∨ (p.x = q.x ∧ p.y = q.y + 1) ∨
      (q.x = p.x + 1 ∧ q.y = p.y) ∨ (p.x = q.x + 1 ∧ p.y = q.y) := by omega
  rcases this with ⟨hx, hy⟩ | ⟨hx, hy⟩ | ⟨hx, hy⟩ | ⟨hx, hy⟩
  · exact Or.inl (Point.ext hx hy)
  · exact Or.inr (Or.inl (Point.ext hx hy))
  · exact Or.inr (Or.inr (Or.inl (Point.ext hx hy)))
  · exact Or.inr (Or.inr (Or.inr (Point.ext hx hy)))

/-- 一歩進んだ点は、相異なる 8 近傍。 -/
theorem Point.adjacent_stepPoint (p : Point) (d : Nat) : p.Adjacent (stepPoint p d) := by
  have htable : ∀ a ∈ List.range 8,
      (directions.getD a (0, 0)).1.natAbs ≤ 1 ∧ (directions.getD a (0, 0)).2.natAbs ≤ 1 := by
    decide
  obtain ⟨h1, h2⟩ := htable (d % 8) (List.mem_range.2 (Nat.mod_lt _ (by decide)))
  refine ⟨fun h => offset_ne_zero d ?_, ?_, ?_⟩
  · have hx := congrArg Point.x h
    have hy := congrArg Point.y h
    simp only [stepPoint_x, stepPoint_y] at hx hy
    exact Prod.ext (by omega) (by omega)
  · simp only [stepPoint_x, offset]
    omega
  · simp only [stepPoint_y, offset]
    omega

namespace Trace

variable {l : Labeling} {L : Nat} {start : Point}

/-! ## 出発点の成分 -/

/-- `start` が成分の画素なら、`start` と成分の中でつながる点も成分の画素。 -/
theorem Connected.mem (hs : inComponent l L start = true) {p : Point}
    (h : Connected l L start p) : inComponent l L p = true := by
  rcases Relation.ReflTransGen.cases_tail h with rfl | ⟨_, -, -, hp, -⟩
  · exact hs
  · exact hp

/-- 成分の画素の隣の、ラベル `L` の画素はつながる。 -/
theorem Connected.tail_stepPoint (hs : inComponent l L start = true) {c : Point} {d : Nat}
    (hc : Connected l L start c) (hq : inComponent l L (stepPoint c d) = true) :
    Connected l L start (stepPoint c d) :=
  hc.tail ⟨hc.mem hs, hq, d, rfl⟩

/-- ラベル `L` の画素のうち、`start` と成分の中でつながるものの、行優先で最初の画素。 -/
structure StartsComponent (l : Labeling) (L : Nat) (start : Point) : Prop where
  mem : inComponent l L start = true
  le : ∀ p, Connected l L start p → start.y < p.y ∨ (start.y = p.y ∧ start.x ≤ p.x)

/-- ラベル `L` の画素のうち行優先で最初の画素は、その成分の最初の画素。 -/
theorem IsFirst.startsComponent (h : IsFirst l L start) : StartsComponent l L start :=
  ⟨h.mem, fun p hp => h.le p (hp.mem h.mem)⟩

/-! ## 成分だけを残したラベル付け -/

section Restrict

open Classical

/-- ラベル `L` の画素のうち、`start` と成分の中でつながるものだけにラベル `L` を残したラベル付け。
ほかの画素のラベルは `L + 1`。 -/
noncomputable def restrictTo (l : Labeling) (L : Nat) (start : Point) : Labeling :=
  { l with
    labels := Array.ofFn fun i : Fin (l.height * l.width) =>
      if Connected l L start ⟨((i : Nat) % l.width : Nat), ((i : Nat) / l.width : Nat)⟩ then L
      else L + 1 }

@[simp] theorem height_restrictTo : (restrictTo l L start).height = l.height := rfl

@[simp] theorem width_restrictTo : (restrictTo l L start).width = l.width := rfl

theorem labelAt_restrictTo {r c : Nat} (hr : r < l.height) (hc : c < l.width) :
    (restrictTo l L start).labelAt r c = if Connected l L start ⟨c, r⟩ then L else L + 1 := by
  have hi := raster_lt_mul hr hc
  have hmod : (r * l.width + c) % l.width = c := by
    rw [Nat.mul_comm, Nat.mul_add_mod, Nat.mod_eq_of_lt hc]
  have hdiv : (r * l.width + c) / l.width = r := by
    rw [Nat.mul_comm, Nat.mul_add_div (by omega), Nat.div_eq_of_lt hc, Nat.add_zero]
  simp only [Labeling.labelAt, height_restrictTo, width_restrictTo, hr, hc, decide_true,
    Bool.and_self, if_true, Array.getD_eq_getD_getElem?]
  simp only [restrictTo, Array.getElem?_ofFn, hi, dif_pos, Option.getD_some, hmod, hdiv]

/-- 残したラベル付けの成分の画素は、`start` とつながる点。 -/
theorem inComponent_restrictTo (hs : inComponent l L start = true) (p : Point) :
    inComponent (restrictTo l L start) L p = decide (Connected l L start p) := by
  by_cases hb : 0 ≤ p.x ∧ 0 ≤ p.y ∧ p.x < l.width ∧ p.y < l.height
  · have hp : (⟨(p.x.toNat : Int), (p.y.toNat : Int)⟩ : Point) = p :=
      Point.ext (show (p.x.toNat : Int) = p.x by omega) (show (p.y.toNat : Int) = p.y by omega)
    simp only [inComponent, width_restrictTo, height_restrictTo]
    rw [labelAt_restrictTo (by omega) (by omega), hp]
    by_cases hc : Connected l L start p <;> simp [hc, hb]
  · -- 画像の外の点は、どちらのラベル付けでも成分の外
    have hc : ¬ Connected l L start p := fun hc => hb (inComponent_bounds (hc.mem hs))
    rw [Bool.eq_false_iff.2 fun h => hb (inComponent_bounds (l := restrictTo l L start) h)]
    simp [hc]

theorem inComponent_restrictTo_iff (hs : inComponent l L start = true) (p : Point) :
    inComponent (restrictTo l L start) L p = true ↔ Connected l L start p := by
  rw [inComponent_restrictTo hs, decide_eq_true_eq]

end Restrict

/-- 成分の画素の隣が成分の画素かどうかは、残したラベル付けでも変わらない。 -/
theorem inComponent_restrictTo_stepPoint (hs : inComponent l L start = true) {c : Point}
    (hc : Connected l L start c) (d : Nat) :
    inComponent (restrictTo l L start) L (stepPoint c d) = inComponent l L (stepPoint c d) := by
  rw [Bool.eq_iff_iff, inComponent_restrictTo_iff hs]
  exact ⟨fun h => h.mem hs, hc.tail_stepPoint hs⟩

/-- 残したラベル付けでも、`start` とつながる点は同じ。 -/
theorem connected_restrictTo_iff (hs : inComponent l L start = true) {p : Point} :
    Connected (restrictTo l L start) L start p ↔ Connected l L start p := by
  constructor
  · intro h
    rcases Relation.ReflTransGen.cases_tail h with rfl | ⟨_, -, -, hp, -⟩
    · exact .refl
    · exact (inComponent_restrictTo_iff hs p).1 hp
  · intro h
    induction h with
    | refl => exact .refl
    | @tail b c hab hbc ih =>
      obtain ⟨-, hc, d, rfl⟩ := hbc
      exact ih.tail ⟨(inComponent_restrictTo_iff hs b).2 hab,
        (inComponent_restrictTo_iff hs _).2 (Connected.tail_stepPoint hs hab hc), d, rfl⟩

theorem StartsComponent.isFirst_restrictTo (h : StartsComponent l L start) :
    IsFirst (restrictTo l L start) L start :=
  ⟨(inComponent_restrictTo_iff h.mem start).2 .refl,
    fun p hp => h.le p ((inComponent_restrictTo_iff h.mem p).1 hp)⟩

/-! ## 追跡は成分の中だけを見る -/

section Transport

variable (hs : inComponent l L start = true)
include hs

theorem next_restrictTo {s : State} (hc : Connected l L start s.cur) :
    next (restrictTo l L start) L s = next l L s := by
  simp only [next, scan, List.find?_map, Function.comp_def, inComponent_restrictTo_stepPoint hs hc]

/-- 成分の画素にいれば、次の点も成分の画素。 -/
theorem connected_next {s : State} (hc : Connected l L start s.cur) :
    Connected l L start (next l L s) := by
  unfold next
  cases hf : (scan s).find? (inComponent l L) with
  | none => exact hc
  | some q =>
    obtain ⟨k, -, rfl⟩ := List.mem_map.1 (List.mem_of_find?_eq_some hf)
    exact hc.tail_stepPoint hs (List.find?_some hf)

theorem traceLoop_restrictTo (second : Point) : ∀ (fuel : Nat) (s : State) (acc : Array Point),
    Connected l L start s.cur →
    traceLoop (restrictTo l L start) L start second fuel s.prev s.cur acc =
      traceLoop l L start second fuel s.prev s.cur acc := by
  intro fuel
  induction fuel with
  | zero => intro s acc _; rfl
  | succ fuel ih =>
    intro s acc hc
    have hstep : step (restrictTo l L start) L s = step l L s := by
      simp only [step, next_restrictTo hs hc]
    rw [traceLoop_succ, traceLoop_succ, next_restrictTo hs hc, hstep,
      ih (step l L s) _ (connected_next hs hc)]

theorem firstNeighbour_restrictTo :
    firstNeighbour (restrictTo l L start) L start = firstNeighbour l L start := by
  simp only [firstNeighbour, List.find?_map, Function.comp_def,
    inComponent_restrictTo_stepPoint hs .refl]

/-- **追跡は成分の画素の隣しか見ないので、成分だけを残しても結果は同じ。** -/
theorem traceBorder_restrictTo : traceBorder (restrictTo l L start) L start = traceBorder l L start := by
  rw [traceBorder_eq, traceBorder_eq, firstNeighbour_restrictTo hs]
  cases firstNeighbour l L start with
  | none => rfl
  | some second => exact traceLoop_restrictTo hs second _ ⟨second, start⟩ #[] .refl

end Transport

/-! ## 外側の点の巻き数 -/

/-- 画像の外の点。 -/
def outsideImage (l : Labeling) (p : Point) : Prop :=
  p.x < 0 ∨ p.y < 0 ∨ (l.width : Int) ≤ p.x ∨ (l.height : Int) ≤ p.y

/-- 点 `q` は成分の外側：`start` の成分の外の点だけを 4 近傍でたどって、画像の外の点へ行ける。 -/
def Exterior (l : Labeling) (L : Nat) (start q : Point) : Prop :=
  ∃ r, outsideImage l r ∧ Relation.ReflTransGen
    (fun a b => ¬ Connected l L start a ∧ ¬ Connected l L start b ∧ a.Adjacent4 b) q r

section Winding

variable {s0 : State} {n : Nat}

/-- 一周のどの点よりも上にある画素の巻き数は 0。 -/
theorem winding_eq_zero_of_above {x y : Int}
    (habove : ∀ i < n, y < ((step l L)^[i] s0).cur.y) : winding l L s0 n x y = 0 := by
  refine Finset.sum_eq_zero fun i hi => ?_
  have := habove i (Finset.mem_range.1 hi)
  rw [sideSum_rayWeight, if_neg fun h => absurd h.2.2 (by omega),
    if_neg fun h => absurd h.2.2 (by omega), Int.sub_zero]

/-- 上下に隣り合う二つの画素のどちらにも一周の現在の点がなければ、巻き数は同じ。 -/
theorem winding_row_eq {p : Point} (h1 : ∀ i < n, ((step l L)^[i] s0).cur ≠ p)
    (h2 : ∀ i < n, ((step l L)^[i] s0).cur ≠ ⟨p.x, p.y + 1⟩) :
    winding l L s0 n p.x (p.y + 1) = winding l L s0 n p.x p.y := by
  have hdiff : winding l L s0 n p.x (p.y + 1) - winding l L s0 n p.x p.y = _ :=
    winding_succ_row p.x p.y
  have hzero : ∑ i ∈ Finset.range n,
      sideSum l L (rowCrossWeight p.x p.y) ((step l L)^[i] s0) = 0 :=
    Finset.sum_eq_zero fun i hi => by
      rw [sideSum_rowCrossWeight, if_neg fun h => h1 i (Finset.mem_range.1 hi) h.2,
        if_neg fun h => h2 i (Finset.mem_range.1 hi) h.2, Int.sub_zero]
  rw [hzero] at hdiff
  omega

/-- 成分の外の点は、一周の現在の点にならない。 -/
theorem cur_ne_of_not_mem (h0 : Valid l L s0) {b : Point} (hb : inComponent l L b = false)
    (i : Nat) : ((step l L)^[i] s0).cur ≠ b := by
  intro heq
  have hmem := (h0.iterate i).cur_mem
  rw [heq, hb] at hmem
  cases hmem

variable (h0 : Valid l L s0) (hP : IsPeriod l L s0 n)
include h0 hP

/-- 左右に隣り合う二つの画素のどちらにも一周の現在の点がなければ、巻き数は同じ。 -/
theorem winding_col_eq {p : Point} (h1 : ∀ i < n, ((step l L)^[i] s0).cur ≠ p)
    (h2 : ∀ i < n, ((step l L)^[i] s0).cur ≠ ⟨p.x + 1, p.y⟩) :
    winding l L s0 n p.x p.y = winding l L s0 n (p.x + 1) p.y := by
  have hdiff : winding l L s0 n p.x p.y - winding l L s0 n (p.x + 1) p.y = _ :=
    winding_succ_col h0 hP p.x p.y
  have hzero : ∑ i ∈ Finset.range n,
      sideSum l L (colCrossWeight p.x p.y) ((step l L)^[i] s0) = 0 :=
    Finset.sum_eq_zero fun i hi => by
      rw [sideSum_colCrossWeight, if_neg fun h => h2 i (Finset.mem_range.1 hi) h.2,
        if_neg fun h => h1 i (Finset.mem_range.1 hi) h.2, Int.sub_zero]
  rw [hzero] at hdiff
  omega

/-- **4 近傍の二つの点のどちらにも一周の現在の点がなければ、巻き数は同じ。** 道は間の辺を通らない。 -/
theorem winding_eq_of_adjacent4 {p q : Point} (hpq : p.Adjacent4 q)
    (hp : ∀ i < n, ((step l L)^[i] s0).cur ≠ p) (hq : ∀ i < n, ((step l L)^[i] s0).cur ≠ q) :
    winding l L s0 n p.x p.y = winding l L s0 n q.x q.y := by
  rcases hpq.cases with rfl | rfl | rfl | rfl
  · exact (winding_row_eq hp hq :).symm
  · exact (winding_row_eq hq hp :)
  · exact (winding_col_eq h0 hP hp hq :)
  · exact (winding_col_eq h0 hP hq hp :).symm

/-- **画像の外の点の巻き数は 0。** 一周の点はどれも画像の中にある。 -/
theorem winding_eq_zero_of_outside {r : Point} (hr : outsideImage l r) :
    winding l L s0 n r.x r.y = 0 := by
  have hb := fun i => inComponent_bounds (h0.iterate i).cur_mem
  rcases hr with hx | hy | hx | hy
  · exact winding_eq_zero_of_column fun i _ heq => by have := (hb i).1; omega
  · exact winding_eq_zero_of_above fun i _ => by have := (hb i).2.1; omega
  · exact winding_eq_zero_of_column fun i _ heq => by have := (hb i).2.2.1; omega
  · exact winding_eq_zero_of_below h0 hP fun i _ => by have := (hb i).2.2.2; omega

/-- 成分の外の点だけを 4 近傍でたどる道の両端の巻き数は等しい。 -/
theorem winding_eq_of_path {q r : Point} (h : Relation.ReflTransGen
    (fun a b => inComponent l L a = false ∧ inComponent l L b = false ∧ a.Adjacent4 b) q r) :
    winding l L s0 n r.x r.y = winding l L s0 n q.x q.y := by
  induction h with
  | refl => rfl
  | tail _ hbc ih =>
    obtain ⟨hb, hc, hadj⟩ := hbc
    rw [← ih]
    exact (winding_eq_of_adjacent4 h0 hP hadj (fun i _ => cur_ne_of_not_mem h0 hb i)
      (fun i _ => cur_ne_of_not_mem h0 hc i)).symm

end Winding

section Exterior

variable {second : Point} {n : Nat} (hfirst : IsFirst l L start)
  (hsecond : firstNeighbour l L start = some second) (hP : IsPeriod l L ⟨second, start⟩ n)
include hfirst hsecond hP

/-- **外側の点と辺で接する成分の画素は、一周の現在の点。** 外側の点の巻き数は 0、成分の画素の
巻き数は -1 なので、道は間の辺を通る。 -/
theorem mem_orbit_of_exterior {p q r : Point} (hp : Connected l L start p) (hpq : p.Adjacent4 q)
    (hr : outsideImage l r) (hqr : Relation.ReflTransGen
      (fun a b => inComponent l L a = false ∧ inComponent l L b = false ∧ a.Adjacent4 b) q r) :
    ∃ i < n, ((step l L)^[i] ⟨second, start⟩).cur = p := by
  have h0 := valid_of_firstNeighbour hfirst.mem hsecond
  -- 道の始まりの点も成分の外
  have hq : inComponent l L q = false := by
    rcases Relation.ReflTransGen.cases_head hqr with rfl | ⟨_, ⟨hq, -, -⟩, -⟩
    · refine Bool.eq_false_iff.2 fun h => ?_
      obtain ⟨h1, h2, h3, h4⟩ := inComponent_bounds h
      rcases hr with h | h | h | h <;> omega
    · exact hq
  by_contra hnone
  push Not at hnone
  have hw := winding_eq_of_adjacent4 h0 hP hpq hnone fun i _ => cur_ne_of_not_mem h0 hq i
  rw [winding_of_connected hfirst hsecond hP hp, ← winding_eq_of_path h0 hP hqr,
    winding_eq_zero_of_outside h0 hP hr] at hw
  omega

end Exterior

/-! ## 成分の外側の境界 -/

/-- 点の列 `pts` は、`start` の成分の外側の境界を `start` から `second` まで一周する閉じた列：
二点以上で、隣り合う点（最後の点から最初の点へも）は成分の中の相異なる 8 近傍、成分の外側の点と
辺で接する成分の画素をすべて通る。 -/
structure BorderChain (l : Labeling) (L : Nat) (start second : Point) (pts : Array Point) :
    Prop where
  two_le : 2 ≤ pts.size
  size_le : pts.size ≤ 8 * l.height * l.width
  first : pts[0]? = some start
  last : pts[pts.size - 1]? = some second
  mem : ∀ p ∈ pts, Connected l L start p
  adjacent : ∀ i < pts.size,
    Point.Adjacent (pts.getD i default) (pts.getD ((i + 1) % pts.size) default)
  outer : ∀ p q, Connected l L start p → p.Adjacent4 q → Exterior l L start q → p ∈ pts

/-- 出発点の隣の点は、ラベル `L` なら出発点とつながる。 -/
theorem inComponent_stepPoint_iff (hs : inComponent l L start = true) (d : Nat) :
    inComponent l L (stepPoint start d) = true ↔ Connected l L start (stepPoint start d) :=
  ⟨Connected.tail_stepPoint hs .refl, fun h => h.mem hs⟩

/-- 隣に成分の画素がない出発点の追跡は、その一点。 -/
theorem traceBorder_of_isolated (hs : inComponent l L start = true)
    (hiso : ∀ d, ¬ Connected l L start (stepPoint start d)) : traceBorder l L start = #[start] := by
  have hnone : firstNeighbour l L start = none := by
    rw [firstNeighbour, List.find?_eq_none]
    intro q hq hin
    obtain ⟨k, -, rfl⟩ := List.mem_map.1 hq
    exact hiso _ ((inComponent_stepPoint_iff hs _).1 hin)
  rw [traceBorder_eq, hnone]

/-- 西から時計回りに `j` 番目の隣が最初の成分の画素なら、追跡はそこから始まる。 -/
theorem firstNeighbour_eq_of_connected (hs : inComponent l L start = true) {j : Nat} (hj : j < 8)
    (hcon : Connected l L start (stepPoint start (west + j)))
    (hbefore : ∀ j' < j, ¬ Connected l L start (stepPoint start (west + j'))) :
    firstNeighbour l L start = some (stepPoint start (west + j)) := by
  rw [firstNeighbour, List.find?_eq_some_iff_getElem]
  refine ⟨(inComponent_stepPoint_iff hs _).2 hcon, j, by simpa using hj, by simp, fun j' hj' => ?_⟩
  simp only [List.getElem_map, List.getElem_range, Bool.not_eq_eq_eq_not, Bool.not_true]
  exact Bool.eq_false_iff.2 fun h => hbefore j' hj' ((inComponent_stepPoint_iff hs _).1 h)

section Border

variable {second : Point} (hstart : StartsComponent l L start)
  (hsecond : firstNeighbour l L start = some second)
include hstart hsecond

/-- 追跡の結果は、成分だけを残したラベル付けでの軌道の一周。 -/
theorem exists_orbit_restrictTo : ∃ n, n ≤ 8 * l.height * l.width ∧
    IsPeriod (restrictTo l L start) L ⟨second, start⟩ n ∧
    (traceBorder l L start).toList =
      (List.range n).map fun t => ((step (restrictTo l L start) L)^[t] ⟨second, start⟩).cur := by
  have hfirst := hstart.isFirst_restrictTo
  have hsecond' := (firstNeighbour_restrictTo hstart.mem).trans hsecond
  obtain ⟨n, hP, htrace⟩ := traceBorder_eq_orbit hfirst.mem hsecond'
  obtain ⟨n', hle, hP'⟩ := (valid_of_firstNeighbour hfirst.mem hsecond').exists_period
  refine ⟨n, by rw [hP.unique hP']; exact hle, hP, ?_⟩
  rw [← traceBorder_restrictTo hstart.mem, htrace]

/-- **追跡は燃料によらない：** 結果の点の数だけの燃料があれば、止まる条件で止まる。 -/
theorem traceLoop_eq_traceBorder {fuel : Nat} (hfuel : (traceBorder l L start).size ≤ fuel) :
    traceLoop l L start second fuel second start #[] = traceBorder l L start := by
  obtain ⟨n, -, hP, htrace⟩ := exists_orbit_restrictTo hstart hsecond
  have hsize : (traceBorder l L start).size = n := Chain.size_of_toList_eq htrace
  rw [← traceLoop_restrictTo hstart.mem second fuel ⟨second, start⟩ #[] .refl]
  apply Array.toList_inj.1
  rw [htrace]
  have := traceLoop_iterate hP fuel 0 #[] hP.pos (by omega)
  simpa only [Function.iterate_zero, id_eq, Array.toList_empty, List.nil_append, Nat.sub_zero,
    Nat.zero_add] using this

/-- **追跡した列は、`start` の成分の外側の境界を一周する。** -/
theorem borderChain_traceBorder : BorderChain l L start second (traceBorder l L start) := by
  have hs := hstart.mem
  have hfirst := hstart.isFirst_restrictTo
  have hsecond' := (firstNeighbour_restrictTo hs).trans hsecond
  have h0 := valid_of_firstNeighbour hfirst.mem hsecond'
  obtain ⟨n, hle, hP, htrace⟩ := exists_orbit_restrictTo hstart hsecond
  have hsize : (traceBorder l L start).size = n := Chain.size_of_toList_eq htrace
  -- 最後の点 `second` は出発点の隣で、出発点と違うので、二点以上
  have hne : second ≠ start := by
    obtain ⟨j, -, rfl, -, -⟩ := firstNeighbour_eq_some hsecond
    exact (Point.adjacent_stepPoint start _).1.symm
  have hn2 : 2 ≤ n := by
    by_contra hlt
    have hlast := hP.cur_last
    rw [show n - 1 = 0 by omega] at hlast
    exact hne hlast.symm
  refine ⟨by omega, by omega, ?_, ?_, ?_, ?_, ?_⟩
  · rw [Chain.getElem?_of_toList_eq htrace hP.pos]
    rfl
  · rw [hsize, Chain.getElem?_of_toList_eq htrace (by omega), hP.cur_last]
  · intro p hp
    rw [← Array.mem_toList_iff, htrace] at hp
    obtain ⟨i, -, rfl⟩ := List.mem_map.1 hp
    exact (inComponent_restrictTo_iff hs _).1 (h0.iterate i).cur_mem
  · intro i hi
    rw [hsize] at hi ⊢
    have hcyc := cyclic_orbit h0 hP
    rw [Chain.getD_of_toList_eq htrace hi, Chain.getD_of_toList_eq htrace (Nat.mod_lt _ hP.pos),
      hcyc.mod]
    obtain ⟨d, hd⟩ := hcyc.near i
    rw [hd]
    exact Point.adjacent_stepPoint _ _
  · -- 成分の外の点は、残したラベル付けでも成分の外
    intro p q hp hpq ⟨r, hr, hqr⟩
    have hout : ∀ a, ¬ Connected l L start a → inComponent (restrictTo l L start) L a = false :=
      fun a ha => Bool.eq_false_iff.2 fun h => ha ((inComponent_restrictTo_iff hs a).1 h)
    obtain ⟨i, hi, rfl⟩ := mem_orbit_of_exterior hfirst hsecond' hP
      ((connected_restrictTo_iff hs).2 hp) hpq hr
      (Relation.ReflTransGen.mono (fun a b h => ⟨hout a h.1, hout b h.2.1, h.2.2⟩) _ _ hqr)
    rw [← Array.mem_toList_iff, htrace]
    exact List.mem_map.2 ⟨i, List.mem_range.2 hi, rfl⟩

end Border

/-- **追跡した境界を縮めても、最初の点は出発点のまま。** 出発点は直線の途中でない。 -/
theorem compressChain_traceBorder_head (hstart : StartsComponent l L start) :
    (compressChain (traceBorder l L start))[0]? = some start := by
  rw [← traceBorder_restrictTo hstart.mem]
  have hfirst := hstart.isFirst_restrictTo
  cases hsecond : firstNeighbour (restrictTo l L start) L start with
  | none =>
    rw [traceBorder_eq, hsecond]
    rfl
  | some second =>
    have h0 := valid_of_firstNeighbour hfirst.mem hsecond
    obtain ⟨n, hP, htrace⟩ := traceBorder_eq_orbit hfirst.mem hsecond
    obtain ⟨rest, hps⟩ := (Chain.keeps_compressChain (cyclic_orbit h0 hP)
      (fun _ => kept_start hfirst hsecond hP) htrace).eq_cons
    rw [← Array.getElem?_toList, hps]
    rfl

end Trace

/-! ## 追跡して縮めた輪郭 -/

/-- **`traceBorder` は、成分の最初の画素から、成分の外側の境界を一周する。** `start` がラベル `L`
の画素のうち `start` とつながる成分の、行優先で最初の画素なら：隣に成分の画素がなければ結果は
`[start]`。そうでなければ結果は、西から時計回りに見て最初の成分の隣で終わる閉じた列
（`BorderChain`）で、その点の数以上の燃料があれば、追跡は止まる条件で止まり同じ結果を返す。 -/
theorem traceBorder_outer_boundary (l : Labeling) (L : Nat) (start : Point)
    (hstart : Trace.StartsComponent l L start) :
    ((∀ d, ¬ Trace.Connected l L start (stepPoint start d)) →
      traceBorder l L start = #[start]) ∧
    ∀ j < 8, Trace.Connected l L start (stepPoint start (west + j)) →
      (∀ j' < j, ¬ Trace.Connected l L start (stepPoint start (west + j'))) →
      Trace.BorderChain l L start (stepPoint start (west + j)) (traceBorder l L start) ∧
      ∀ fuel, (traceBorder l L start).size ≤ fuel →
        traceLoop l L start (stepPoint start (west + j)) fuel (stepPoint start (west + j)) start
          #[] = traceBorder l L start := by
  refine ⟨Trace.traceBorder_of_isolated hstart.mem, fun j hj hcon hbefore => ?_⟩
  have hsecond := Trace.firstNeighbour_eq_of_connected hstart.mem hj hcon hbefore
  exact ⟨Trace.borderChain_traceBorder hstart hsecond,
    fun _ hfuel => Trace.traceLoop_eq_traceBorder hstart hsecond hfuel⟩

/-- 2 × 2 の一つの成分の左上の画素から。 -/
theorem traceBorder_outer_boundary_square :
    Trace.StartsComponent ⟨2, 2, #[1, 1, 1, 1], #[]⟩ 1 ⟨0, 0⟩ ∧
    ((∀ d, ¬ Trace.Connected ⟨2, 2, #[1, 1, 1, 1], #[]⟩ 1 ⟨0, 0⟩ (stepPoint ⟨0, 0⟩ d)) →
      traceBorder ⟨2, 2, #[1, 1, 1, 1], #[]⟩ 1 ⟨0, 0⟩ = #[⟨0, 0⟩]) ∧
    ∀ j < 8, Trace.Connected ⟨2, 2, #[1, 1, 1, 1], #[]⟩ 1 ⟨0, 0⟩ (stepPoint ⟨0, 0⟩ (west + j)) →
      (∀ j' < j,
        ¬ Trace.Connected ⟨2, 2, #[1, 1, 1, 1], #[]⟩ 1 ⟨0, 0⟩ (stepPoint ⟨0, 0⟩ (west + j'))) →
      Trace.BorderChain ⟨2, 2, #[1, 1, 1, 1], #[]⟩ 1 ⟨0, 0⟩ (stepPoint ⟨0, 0⟩ (west + j))
        (traceBorder ⟨2, 2, #[1, 1, 1, 1], #[]⟩ 1 ⟨0, 0⟩) ∧
      ∀ fuel, (traceBorder ⟨2, 2, #[1, 1, 1, 1], #[]⟩ 1 ⟨0, 0⟩).size ≤ fuel →
        traceLoop ⟨2, 2, #[1, 1, 1, 1], #[]⟩ 1 ⟨0, 0⟩ (stepPoint ⟨0, 0⟩ (west + j)) fuel
          (stepPoint ⟨0, 0⟩ (west + j)) ⟨0, 0⟩ #[] =
          traceBorder ⟨2, 2, #[1, 1, 1, 1], #[]⟩ 1 ⟨0, 0⟩ := by
  have hstart : Trace.StartsComponent ⟨2, 2, #[1, 1, 1, 1], #[]⟩ 1 ⟨0, 0⟩ := by
    refine ⟨by decide, fun p hp => ?_⟩
    obtain ⟨hx, hy, -, -⟩ := Trace.inComponent_bounds (Trace.Connected.mem (by decide) hp)
    show (0 : Int) < p.y ∨ ((0 : Int) = p.y ∧ (0 : Int) ≤ p.x)
    omega
  exact ⟨hstart, traceBorder_outer_boundary _ 1 ⟨0, 0⟩ hstart⟩

/-- **`compressChain` は、閉じた 8 近傍の列の多角形を変えない。** 三点以上で、隣り合う点（最後の
点から最初の点へも）が相異なる 8 近傍の列を縮めると、順序を保った二点以上の部分列になり、靴ひも
公式の和、外接矩形、有理数で正確に計算したモーメントは元の列と同じ。追跡した境界を縮めても、
最初の点は出発点のまま。 -/
theorem compressChain_preserves_polygon (pts : Array Point) (hn : 3 ≤ pts.size)
    (hadj : ∀ i < pts.size,
      Point.Adjacent (pts.getD i default) (pts.getD ((i + 1) % pts.size) default)) :
    2 ≤ (compressChain pts).size ∧ (compressChain pts).toList.Sublist pts.toList ∧
      (⟨compressChain pts⟩ : Contour).shoelace = (⟨pts⟩ : Contour).shoelace ∧
      (⟨compressChain pts⟩ : Contour).boundingBox = (⟨pts⟩ : Contour).boundingBox ∧
      (⟨compressChain pts⟩ : Contour).exactMoments = (⟨pts⟩ : Contour).exactMoments ∧
      ∀ (l : Labeling) (L : Nat) (start : Point), Trace.StartsComponent l L start →
        (compressChain (traceBorder l L start))[0]? = some start := by
  have h := Chain.cyclic_cyclicAt (by omega) hadj
  have hpts := Chain.toList_eq_map_cyclicAt pts
  have hn2 : 2 < pts.size := by omega
  refine ⟨?_, h.sublist_compressChain hn2 hpts, h.shoelace_compressChain hn2 hpts,
    h.boundingBox_compressChain hn2 hpts, h.exactMoments_compressChain hn2 hpts,
    fun _ _ _ hstart => Trace.compressChain_traceBorder_head hstart⟩
  rw [h.size_compressChain hn2 hpts]
  exact h.two_le_length_keptIndices

/-- 一画素幅の線を行って戻る四点の列。縮めると両端の二点になる。 -/
theorem compressChain_preserves_polygon_segment :
    3 ≤ (#[⟨0, 0⟩, ⟨1, 0⟩, ⟨2, 0⟩, ⟨1, 0⟩] : Array Point).size ∧
    (∀ i < (#[⟨0, 0⟩, ⟨1, 0⟩, ⟨2, 0⟩, ⟨1, 0⟩] : Array Point).size,
      Point.Adjacent ((#[⟨0, 0⟩, ⟨1, 0⟩, ⟨2, 0⟩, ⟨1, 0⟩] : Array Point).getD i default)
        ((#[⟨0, 0⟩, ⟨1, 0⟩, ⟨2, 0⟩, ⟨1, 0⟩] : Array Point).getD ((i + 1) % 4) default)) ∧
    2 ≤ (compressChain #[⟨0, 0⟩, ⟨1, 0⟩, ⟨2, 0⟩, ⟨1, 0⟩]).size ∧
    (compressChain #[⟨0, 0⟩, ⟨1, 0⟩, ⟨2, 0⟩, ⟨1, 0⟩]).toList.Sublist
      (#[⟨0, 0⟩, ⟨1, 0⟩, ⟨2, 0⟩, ⟨1, 0⟩] : Array Point).toList ∧
    (⟨compressChain #[⟨0, 0⟩, ⟨1, 0⟩, ⟨2, 0⟩, ⟨1, 0⟩]⟩ : Contour).shoelace =
      (⟨#[⟨0, 0⟩, ⟨1, 0⟩, ⟨2, 0⟩, ⟨1, 0⟩]⟩ : Contour).shoelace ∧
    (⟨compressChain #[⟨0, 0⟩, ⟨1, 0⟩, ⟨2, 0⟩, ⟨1, 0⟩]⟩ : Contour).boundingBox =
      (⟨#[⟨0, 0⟩, ⟨1, 0⟩, ⟨2, 0⟩, ⟨1, 0⟩]⟩ : Contour).boundingBox ∧
    (⟨compressChain #[⟨0, 0⟩, ⟨1, 0⟩, ⟨2, 0⟩, ⟨1, 0⟩]⟩ : Contour).exactMoments =
      (⟨#[⟨0, 0⟩, ⟨1, 0⟩, ⟨2, 0⟩, ⟨1, 0⟩]⟩ : Contour).exactMoments ∧
    ∀ (l : Labeling) (L : Nat) (start : Point), Trace.StartsComponent l L start →
      (compressChain (traceBorder l L start))[0]? = some start :=
  ⟨by decide, by decide, compressChain_preserves_polygon _ (by decide) (by decide)⟩

end DropletVision
