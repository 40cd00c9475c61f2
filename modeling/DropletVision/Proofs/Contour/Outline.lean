import DropletVision.Proofs.Components.Labeling
import DropletVision.Proofs.Contour.Winding
import DropletVision.Proofs.Contour.Compress

/-!
# 外側の輪郭

`findExternalContours` の `k` 番目の輪郭は、ラベル付けの `k` 番目の成分の外側の境界をなす
（`Contour.Outlines`）：最初の点は成分の行優先で最初の画素 `(列, 行)`、どの点も成分の画素、
外接矩形は成分の外接矩形。

証明は三つを組み合わせる。

* 追跡は出発の状態の軌道をちょうど一周する（`Trace.traceBorder_eq_orbit`）。
* 一周の点は成分のどの列にも現れ、一番下の行まで下がる（`Trace.exists_orbit_column`、
  `Trace.exists_orbit_row_ge`）。一番上の行は出発点の行。
* `compressChain` は最初の点と、x・y の最小・最大をとる点を残す（`Chain.keeps_compressChain`）。
-/

namespace DropletVision

namespace Contour

/-! ## 外接矩形 -/

section Fold

variable (g : Point → Int)

/-- 畳み込みの最小は、初めの値と列の値のどれよりも大きくなく、そのどれかに等しい。 -/
theorem foldl_min_spec (l : List Point) (m : Int) :
    (l.foldl (fun acc q => min acc (g q)) m ≤ m ∧
      ∀ q ∈ l, l.foldl (fun acc q => min acc (g q)) m ≤ g q) ∧
    (l.foldl (fun acc q => min acc (g q)) m = m ∨
      ∃ q ∈ l, l.foldl (fun acc q => min acc (g q)) m = g q) := by
  induction l generalizing m with
  | nil => simp
  | cons p l ih =>
    obtain ⟨⟨hle, hall⟩, hmem⟩ := ih (min m (g p))
    simp only [List.foldl_cons, List.mem_cons, forall_eq_or_imp, exists_eq_or_imp]
    refine ⟨⟨by omega, by omega, hall⟩, ?_⟩
    rcases hmem with h | ⟨q, hq, h⟩
    · omega
    · exact Or.inr (Or.inr ⟨q, hq, h⟩)

/-- 最大の畳み込みは、符号を変えた最小の畳み込み。 -/
theorem foldl_max_eq_neg (l : List Point) (m : Int) :
    l.foldl (fun acc q => max acc (g q)) m = -(l.foldl (fun acc q => min acc (-g q)) (-m)) := by
  induction l generalizing m with
  | nil => simp
  | cons p l ih =>
    simp only [List.foldl_cons, ih]
    congr 2
    omega

theorem isLeast_foldl_min (p : Point) (rest : List Point) :
    IsLeast (g '' {q | q ∈ p :: rest}) (rest.foldl (fun acc q => min acc (g q)) (g p)) := by
  obtain ⟨⟨hle, hall⟩, hmem⟩ := foldl_min_spec g rest (g p)
  refine ⟨?_, ?_⟩
  · rcases hmem with h | ⟨q, hq, h⟩
    · exact ⟨p, List.mem_cons_self, h.symm⟩
    · exact ⟨q, List.mem_cons_of_mem p hq, h.symm⟩
  · rintro _ ⟨q, hq, rfl⟩
    rcases List.mem_cons.1 hq with rfl | hq
    · exact hle
    · exact hall q hq

theorem isGreatest_foldl_max (p : Point) (rest : List Point) :
    IsGreatest (g '' {q | q ∈ p :: rest}) (rest.foldl (fun acc q => max acc (g q)) (g p)) := by
  obtain ⟨⟨q, hq, hqv⟩, hlow⟩ := isLeast_foldl_min (fun q => -g q) p rest
  rw [foldl_max_eq_neg]
  refine ⟨⟨q, hq, by simp only at hqv; omega⟩, ?_⟩
  rintro _ ⟨r, hr, rfl⟩
  have := hlow ⟨r, hr, rfl⟩
  simp only at this
  omega

end Fold

/-- 外接矩形の畳み込みは、x と y の最小と最大の四つの畳み込み。 -/
theorem foldl_bounds (l : List Point) (x0 x1 y0 y1 : Int) :
    l.foldl (fun (b : Int × Int × Int × Int) q =>
        (min b.1 q.x, max b.2.1 q.x, min b.2.2.1 q.y, max b.2.2.2 q.y)) (x0, x1, y0, y1) =
      (l.foldl (fun acc q => min acc q.x) x0, l.foldl (fun acc q => max acc q.x) x1,
        l.foldl (fun acc q => min acc q.y) y0, l.foldl (fun acc q => max acc q.y) y1) := by
  induction l generalizing x0 x1 y0 y1 with
  | nil => rfl
  | cons p l ih => exact ih _ _ _ _

/-- **外接矩形は、点の x と y の最小と最大で決まる。** -/
theorem boundingBox_eq {c : Contour} {p : Point} {rest : List Point}
    (h : c.points.toList = p :: rest) (x0 x1 y0 y1 : Int)
    (hx0 : IsLeast (Point.x '' {q | q ∈ p :: rest}) x0)
    (hx1 : IsGreatest (Point.x '' {q | q ∈ p :: rest}) x1)
    (hy0 : IsLeast (Point.y '' {q | q ∈ p :: rest}) y0)
    (hy1 : IsGreatest (Point.y '' {q | q ∈ p :: rest}) y1) :
    c.boundingBox = ⟨x0, y0, (x1 - x0 + 1).toNat, (y1 - y0 + 1).toNat⟩ := by
  have ex0 := (isLeast_foldl_min Point.x p rest).unique hx0
  have ex1 := (isGreatest_foldl_max Point.x p rest).unique hx1
  have ey0 := (isLeast_foldl_min Point.y p rest).unique hy0
  have ey1 := (isGreatest_foldl_max Point.y p rest).unique hy1
  unfold boundingBox
  rw [h]
  dsimp only
  rw [foldl_bounds]
  dsimp only
  rw [ex0, ex1, ey0, ey1]

/-- 輪郭 `c` は、ラベル付け `l` の成分 `s` の外側の境界をなす。 -/
structure Outlines (c : Contour) (l : Labeling) (s : ComponentStats) : Prop where
  /-- 最初の点は、成分の行優先で最初の画素 `(列, 行)`。 -/
  first_point : c.points[0]? = some ⟨s.first.2, s.first.1⟩
  /-- どの点も成分の画素。 -/
  mem : ∀ p ∈ c.points, inComponent l s.label p = true
  /-- 外接矩形は成分の外接矩形 `(最小列, 最小行, 幅, 高さ)`。 -/
  boundingBox_eq : c.boundingBox =
    ⟨s.bbox.2.2.1, s.bbox.1, s.bbox.2.2.2 + 1 - s.bbox.2.2.1, s.bbox.2.1 + 1 - s.bbox.1⟩

end Contour

/-! ## 成分の画素 -/

section Component

variable {m : Mask} {l : Labeling} {L : Nat}

theorem inComponent_natCast_iff {r c : Nat} :
    inComponent l L ⟨c, r⟩ = true ↔ (r, c) ∈ l.pixelsOf L := by
  simp only [inComponent, Labeling.pixelsOf, Finset.mem_filter, Finset.mem_product,
    Finset.mem_range, Int.toNat_natCast, Bool.and_eq_true, decide_eq_true_eq, beq_iff_eq]
  omega

/-- 成分の画素の座標は負でなく、平面の画素 `(行, 列)` を表す。 -/
theorem eq_natCast_of_inComponent {p : Point} (h : inComponent l L p = true) :
    p = ⟨(p.x.toNat : Int), (p.y.toNat : Int)⟩ ∧ (p.y.toNat, p.x.toNat) ∈ l.pixelsOf L := by
  obtain ⟨hx, hy, -, -⟩ := Trace.inComponent_bounds h
  have hp : p = ⟨(p.x.toNat : Int), (p.y.toNat : Int)⟩ :=
    Point.ext (show p.x = (p.x.toNat : Int) by omega) (show p.y = (p.y.toNat : Int) by omega)
  refine ⟨hp, ?_⟩
  rw [← inComponent_natCast_iff, ← hp]
  exact h

variable (hl : Labeling.LabelsComponents m l)
include hl

/-- 前景の画素から 8 近傍の道でつながる画素は、そのラベルの成分の中でつながる。 -/
theorem connected_of_joined {P Q : Nat × Nat} (hP : m.get P.1 P.2 = true) (h : m.Joined P Q) :
    Trace.Connected l (l.labelAt P.1 P.2) ⟨P.2, P.1⟩ ⟨Q.2, Q.1⟩ := by
  -- 道の上の画素は、前景で `P` とつながるので `P` と同じラベル
  have hmem : ∀ b : Nat × Nat, m.get b.1 b.2 = true → m.Joined P b →
      inComponent l (l.labelAt P.1 P.2) ⟨b.2, b.1⟩ = true := by
    intro b hb hPb
    obtain ⟨hr, hc⟩ := Mask.lt_of_get hb
    rw [inComponent_natCast_iff]
    simp only [Labeling.pixelsOf, Finset.mem_filter, Finset.mem_product, Finset.mem_range,
      hl.height_eq, hl.width_eq]
    exact ⟨⟨hr, hc⟩, ((hl.same_iff P b hP hb).2 hPb).symm⟩
  induction h with
  | refl => exact Relation.ReflTransGen.refl
  | @tail b c hPb hbc ih =>
    obtain ⟨hb, hc, hne, h1, h2, h3, h4⟩ := hbc
    refine Relation.ReflTransGen.tail ih ⟨hmem b hb hPb, hmem c hc (hPb.tail ⟨hb, hc, hne, h1, h2, h3, h4⟩),
      direction ⟨b.2, b.1⟩ ⟨c.2, c.1⟩, (stepPoint_direction ?_ ?_ ?_).symm⟩
    · intro heq
      simp only [Point.mk.injEq, Nat.cast_inj] at heq
      exact hne (Prod.ext heq.2 heq.1)
    · constructor <;> simp only <;> omega
    · constructor <;> simp only <;> omega

end Component

section Stats

variable {m : Mask} {l : Labeling} (hl : Labeling.LabelsComponents m l) {k : Nat}
  (hk : k < l.components.size)
include hl hk

/-- 成分の最初の画素は、成分の行優先で最初の画素。 -/
theorem isFirst_first :
    Trace.IsFirst l l.components[k].label ⟨l.components[k].first.2, l.components[k].first.1⟩ := by
  have hdesc := hl.describes k hk
  rw [hdesc.label_eq]
  obtain ⟨⟨q, hq, hqf⟩, hlow⟩ := hdesc.first
  have hqe : q = l.components[k].first := toLex.injective hqf
  subst hqe
  refine ⟨inComponent_natCast_iff.2 hq, fun p hp => ?_⟩
  obtain ⟨hpeq, hpS⟩ := eq_natCast_of_inComponent hp
  have hle : toLex l.components[k].first ≤ toLex (p.y.toNat, p.x.toNat) := hlow ⟨_, hpS, rfl⟩
  rw [Prod.Lex.toLex_le_toLex] at hle
  obtain ⟨hx, hy, -, -⟩ := Trace.inComponent_bounds hp
  simp only
  omega

/-- 成分の画素は、成分の外接矩形の中にある。 -/
theorem bounds_of_inComponent {p : Point}
    (hp : inComponent l l.components[k].label p = true) :
    (l.components[k].bbox.2.2.1 : Int) ≤ p.x ∧ p.x ≤ l.components[k].bbox.2.2.2 ∧
      (l.components[k].bbox.1 : Int) ≤ p.y ∧ p.y ≤ l.components[k].bbox.2.1 := by
  have hdesc := hl.describes k hk
  rw [hdesc.label_eq] at hp
  obtain ⟨hpeq, hpS⟩ := eq_natCast_of_inComponent hp
  have h1 := hdesc.minCol.2 ⟨_, hpS, rfl⟩
  have h2 := hdesc.maxCol.2 ⟨_, hpS, rfl⟩
  have h3 := hdesc.minRow.2 ⟨_, hpS, rfl⟩
  have h4 := hdesc.maxRow.2 ⟨_, hpS, rfl⟩
  obtain ⟨hx, hy, -, -⟩ := Trace.inComponent_bounds hp
  simp only at h1 h2 h3 h4
  omega

/-- 外接矩形の四つの辺には、それぞれ成分の画素がある。 -/
theorem exists_extremes :
    (∃ p, inComponent l l.components[k].label p = true ∧ p.x = l.components[k].bbox.2.2.1) ∧
    (∃ p, inComponent l l.components[k].label p = true ∧ p.x = l.components[k].bbox.2.2.2) ∧
    (∃ p, inComponent l l.components[k].label p = true ∧ p.y = l.components[k].bbox.2.1) := by
  have hdesc := hl.describes k hk
  rw [hdesc.label_eq]
  obtain ⟨⟨q1, hq1, h1⟩, -⟩ := hdesc.minCol
  obtain ⟨⟨q2, hq2, h2⟩, -⟩ := hdesc.maxCol
  obtain ⟨⟨q3, hq3, h3⟩, -⟩ := hdesc.maxRow
  exact ⟨⟨⟨q1.2, q1.1⟩, inComponent_natCast_iff.2 hq1, by simp only [h1]⟩,
    ⟨⟨q2.2, q2.1⟩, inComponent_natCast_iff.2 hq2, by simp only [h2]⟩,
    ⟨⟨q3.2, q3.1⟩, inComponent_natCast_iff.2 hq3, by simp only [h3]⟩⟩

/-- 最初の画素の行は、成分の一番上の行。 -/
theorem first_row_eq : l.components[k].first.1 = l.components[k].bbox.1 := by
  have hdesc := hl.describes k hk
  obtain ⟨⟨q, hq, hqf⟩, hlow⟩ := hdesc.first
  have hqe : q = l.components[k].first := toLex.injective hqf
  obtain ⟨⟨r, hr, hr1⟩, hrlow⟩ := hdesc.minRow
  have h1 := hrlow ⟨q, hq, rfl⟩
  have h2 := hlow ⟨r, hr, rfl⟩
  rw [← hqe, Prod.Lex.toLex_le_toLex] at h2
  rw [← hqe]
  omega

/-- 成分の画素は、最初の画素から成分の中でつながる。 -/
theorem connected_first {p : Point} (hp : inComponent l l.components[k].label p = true) :
    Trace.Connected l l.components[k].label ⟨l.components[k].first.2, l.components[k].first.1⟩ p := by
  have hdesc := hl.describes k hk
  have hfirst := isFirst_first hl hk
  obtain ⟨hpeq, hpS⟩ := eq_natCast_of_inComponent hp
  obtain ⟨hfeq, hfS⟩ := eq_natCast_of_inComponent hfirst.mem
  rw [hdesc.label_eq] at hpS hfS
  simp only [Int.toNat_natCast] at hfS
  -- どちらもラベル `k + 1` の前景の画素なので、8 近傍の道でつながる
  have hlabel : ∀ q : Nat × Nat, q ∈ l.pixelsOf (k + 1) →
      l.labelAt q.1 q.2 = k + 1 ∧ m.get q.1 q.2 = true := by
    intro q hq
    simp only [Labeling.pixelsOf, Finset.mem_filter] at hq
    refine ⟨hq.2, ?_⟩
    cases hg : m.get q.1 q.2
    · have := (hl.zero_iff q.1 q.2).2 hg
      omega
    · rfl
  obtain ⟨hfl, hfg⟩ := hlabel _ hfS
  obtain ⟨hpl, hpg⟩ := hlabel _ hpS
  have hjoin := (hl.same_iff _ _ hfg hpg).1 (hfl.trans hpl.symm)
  have := connected_of_joined hl hfg hjoin
  rw [hfl, ← hdesc.label_eq] at this
  rw [hpeq]
  exact this

end Stats

/-! ## 一つの成分の輪郭 -/

section Trace

variable {l : Labeling} {L : Nat} {start second : Point} {n : Nat}

/-- 一周の現在の点の列。 -/
theorem cyclic_orbit (h0 : Trace.Valid l L ⟨second, start⟩)
    (hP : Trace.IsPeriod l L ⟨second, start⟩ n) :
    Chain.Cyclic (fun i => ((Trace.step l L)^[i] ⟨second, start⟩).cur) n where
  pos := hP.pos
  periodic i := by simp only [hP.iterate_add]
  near i := ⟨_, by rw [Function.iterate_succ_apply']; exact (h0.iterate i).next_eq⟩

/-- **出発点は直線の途中でない。** 一周の最後の点 `second` から出発点へは左か上の側から入り、
出発点からは右か下の側へ出る。 -/
theorem kept_start (hfirst : Trace.IsFirst l L start)
    (hsecond : Trace.firstNeighbour l L start = some second)
    (hP : Trace.IsPeriod l L ⟨second, start⟩ n) :
    Chain.Kept (fun i => ((Trace.step l L)^[i] ⟨second, start⟩).cur) n 0 := by
  have h0 := Trace.valid_of_firstNeighbour hfirst.mem hsecond
  obtain ⟨j, hj, hsj, hmem, -⟩ := Trace.firstNeighbour_eq_some hsecond
  have hj4 : 4 ≤ j := by
    have := hfirst.lt_four (hsj ▸ hmem)
    simp only [west] at this
    omega
  -- 一周の最後の点は `second`
  have hlast : ((Trace.step l L)^[0 + n - 1] ⟨second, start⟩).cur = second := by
    rw [Nat.zero_add]
    exact hP.cur_last
  -- 最後の点から出発点へは、右・右下・下・左下から入る
  have hdir : direction second start = j := by
    rw [hsj, direction_stepPoint_back]
    simp only [west]
    omega
  -- 出発点の次の点は、右・右下・下・左下のどれか
  have hin : inComponent l L (Trace.next l L ⟨second, start⟩) = true := h0.step_valid.cur_mem
  rw [h0.next_eq] at hin
  have hout := hfirst.lt_four hin
  show direction (((Trace.step l L)^[0 + n - 1] ⟨second, start⟩).cur) start ≠
    direction start (Trace.next l L ⟨second, start⟩)
  rw [hlast, hdir, h0.next_eq, direction_stepPoint]
  omega

variable {m : Mask} (hl : Labeling.LabelsComponents m l) {k : Nat} (hk : k < l.components.size)
include hl hk

/-- 点の列が、最初の画素から始まり、成分の画素だけからなり、成分の一番左・一番右の列と一番下の
行に点を持てば、成分の外側の境界をなす。 -/
theorem outlines_of_points {c : Contour} {rest : List Point}
    (hps : c.points.toList =
      ⟨l.components[k].first.2, l.components[k].first.1⟩ :: rest)
    (hmem : ∀ p ∈ c.points.toList, inComponent l l.components[k].label p = true)
    (hminCol : ∃ p ∈ c.points.toList, p.x = l.components[k].bbox.2.2.1)
    (hmaxCol : ∃ p ∈ c.points.toList, p.x = l.components[k].bbox.2.2.2)
    (hmaxRow : ∃ p ∈ c.points.toList, p.y = l.components[k].bbox.2.1) :
    c.Outlines l l.components[k] := by
  have hbound : ∀ p ∈ c.points.toList, _ := fun p hp => bounds_of_inComponent hl hk (hmem p hp)
  rw [hps] at hbound hminCol hmaxCol hmaxRow
  have hrow := first_row_eq hl hk
  have hlow := (hbound _ List.mem_cons_self)
  refine ⟨?_, fun p hp => hmem p (Array.mem_toList_iff.2 hp), ?_⟩
  · rw [← Array.getElem?_toList, hps]
    rfl
  · rw [Contour.boundingBox_eq hps l.components[k].bbox.2.2.1 l.components[k].bbox.2.2.2
      l.components[k].bbox.1 l.components[k].bbox.2.1]
    · congr 1 <;> omega
    · obtain ⟨p, hp, hx⟩ := hminCol
      exact ⟨⟨p, hp, hx⟩, by rintro _ ⟨q, hq, rfl⟩; exact (hbound q hq).1⟩
    · obtain ⟨p, hp, hx⟩ := hmaxCol
      exact ⟨⟨p, hp, hx⟩, by rintro _ ⟨q, hq, rfl⟩; exact (hbound q hq).2.1⟩
    · exact ⟨⟨_, List.mem_cons_self, by simp only [hrow]⟩,
        by rintro _ ⟨q, hq, rfl⟩; exact (hbound q hq).2.2.1⟩
    · obtain ⟨p, hp, hy⟩ := hmaxRow
      exact ⟨⟨p, hp, hy⟩, by rintro _ ⟨q, hq, rfl⟩; exact (hbound q hq).2.2.2⟩

/-- 隣に成分の画素がない出発点は、成分のただ一つの画素。 -/
theorem eq_first_of_isolated
    (hsecond : Trace.firstNeighbour l l.components[k].label
      ⟨l.components[k].first.2, l.components[k].first.1⟩ = none)
    {q : Point} (hq : inComponent l l.components[k].label q = true) :
    q = ⟨l.components[k].first.2, l.components[k].first.1⟩ := by
  rcases Relation.ReflTransGen.cases_head (connected_first hl hk hq) with heq | ⟨b, ⟨-, hb, d, rfl⟩, -⟩
  · exact heq.symm
  · rw [Trace.firstNeighbour_eq_none hsecond d] at hb
    cases hb

/-- 孤立した画素の成分の輪郭は、その一点。 -/
theorem outlines_isolated
    (hsecond : Trace.firstNeighbour l l.components[k].label
      ⟨l.components[k].first.2, l.components[k].first.1⟩ = none) :
    (⟨compressChain (traceBorder l l.components[k].label
      ⟨l.components[k].first.2, l.components[k].first.1⟩)⟩ : Contour).Outlines
      l l.components[k] := by
  obtain ⟨⟨q1, hq1, hx1⟩, ⟨q2, hq2, hx2⟩, ⟨q3, hq3, hy3⟩⟩ := exists_extremes hl hk
  have hps : (compressChain (traceBorder l l.components[k].label
      ⟨l.components[k].first.2, l.components[k].first.1⟩)).toList =
      [⟨l.components[k].first.2, l.components[k].first.1⟩] := by
    rw [Trace.traceBorder_eq, hsecond]
    rfl
  have hsolo := fun {q} (hq : inComponent l l.components[k].label q = true) =>
    eq_first_of_isolated hl hk hsecond hq
  refine outlines_of_points hl hk hps ?_ ?_ ?_ ?_
  · intro p hp
    rw [hps, List.mem_singleton] at hp
    rw [hp]
    exact (isFirst_first hl hk).mem
  · exact ⟨q1, by simp only [hps, hsolo hq1, List.mem_singleton], hx1⟩
  · exact ⟨q2, by simp only [hps, hsolo hq2, List.mem_singleton], hx2⟩
  · exact ⟨q3, by simp only [hps, hsolo hq3, List.mem_singleton], hy3⟩

/-- 隣に成分の画素がある出発点からは、一周の点の列を縮めたものが輪郭。一周は巻き数の議論から
一番左・一番右の列と一番下の行に届き、縮めてもそこの点は残る。 -/
theorem outlines_orbit {second : Point}
    (hsecond : Trace.firstNeighbour l l.components[k].label
      ⟨l.components[k].first.2, l.components[k].first.1⟩ = some second) :
    (⟨compressChain (traceBorder l l.components[k].label
      ⟨l.components[k].first.2, l.components[k].first.1⟩)⟩ : Contour).Outlines
      l l.components[k] := by
  have hfirst := isFirst_first hl hk
  obtain ⟨⟨q1, hq1, hx1⟩, ⟨q2, hq2, hx2⟩, ⟨q3, hq3, hy3⟩⟩ := exists_extremes hl hk
  have h0 := Trace.valid_of_firstNeighbour hfirst.mem hsecond
  obtain ⟨n, hP, htrace⟩ := Trace.traceBorder_eq_orbit hfirst.mem hsecond
  have hkeeps := Chain.keeps_compressChain (cyclic_orbit h0 hP)
    (fun _ => kept_start hfirst hsecond hP) htrace
  -- 一周の点は成分の画素なので、外接矩形の中にある
  have hbound := fun i => bounds_of_inComponent hl hk (h0.iterate i).cur_mem
  obtain ⟨rest, hps⟩ := hkeeps.eq_cons
  refine outlines_of_points hl hk hps ?_ ?_ ?_ ?_
  · intro p hp
    obtain ⟨i, -, rfl⟩ := hkeeps.mem p hp
    exact (h0.iterate i).cur_mem
  · -- 一番左の列の画素の列を一周は通り、そこで `x` は最小
    obtain ⟨i0, -, hi0⟩ := Trace.exists_orbit_column hfirst hsecond hP (connected_first hl hk hq1)
    obtain ⟨p, hp, hv⟩ := hkeeps.attains 1 0 i0 fun i => by
      have := hbound i
      simp only [Chain.value]
      omega
    exact ⟨p, hp, by simp only [Chain.value] at hv; omega⟩
  · -- 一番右の列も同じ
    obtain ⟨i0, -, hi0⟩ := Trace.exists_orbit_column hfirst hsecond hP (connected_first hl hk hq2)
    obtain ⟨p, hp, hv⟩ := hkeeps.attains (-1) 0 i0 fun i => by
      have := hbound i
      simp only [Chain.value]
      omega
    exact ⟨p, hp, by simp only [Chain.value] at hv; omega⟩
  · -- 一周は一番下の行まで下がり、そこで `y` は最大
    obtain ⟨i0, -, hi0⟩ := Trace.exists_orbit_row_ge hfirst hsecond hP (connected_first hl hk hq3)
    have hi0' := hbound i0
    obtain ⟨p, hp, hv⟩ := hkeeps.attains 0 (-1) i0 fun i => by
      have := hbound i
      simp only [Chain.value]
      omega
    exact ⟨p, hp, by simp only [Chain.value] at hv; omega⟩

/-- **ラベル付けが連結成分を表せば、成分の最初の画素からたどり、直線の途中の点を落とした列は、
その成分の外側の境界をなす。** -/
theorem outlines_component :
    (⟨compressChain (traceBorder l l.components[k].label
      ⟨l.components[k].first.2, l.components[k].first.1⟩)⟩ : Contour).Outlines
      l l.components[k] := by
  cases hsecond : Trace.firstNeighbour l l.components[k].label
      ⟨l.components[k].first.2, l.components[k].first.1⟩ with
  | none => exact outlines_isolated hl hk hsecond
  | some second => exact outlines_orbit hl hk hsecond

end Trace

/-! ## すべての成分の輪郭 -/

/-- **外側の輪郭**：どの平面についても、ラベル付けはその 8 近傍の連結成分を成分の最初の画素の
行優先の順に表し、輪郭は成分ごとに一つずつ同じ順に並び、`k` 番目の輪郭は `k` 番目の成分の外側の
境界をなす。 -/
theorem findExternalContours_outlines (m : Mask) :
    Labeling.LabelsComponents m (connectedComponents m) ∧
    (findExternalContours m).length = (connectedComponents m).components.size ∧
    ∀ k (hk : k < (connectedComponents m).components.size),
      ∃ c, (findExternalContours m)[k]? = some c ∧
        c.Outlines (connectedComponents m) (connectedComponents m).components[k] := by
  have hl : Labeling.LabelsComponents m (connectedComponents m) := by
    by_cases h0 : m.height = 0 ∨ m.width = 0
    · rw [connectedComponents_of_empty h0]
      exact labelsComponents_of_empty h0
    · exact labelsComponents_of_ne_empty h0
  refine ⟨hl, by simp only [findExternalContours, List.length_map, Array.length_toList],
    fun k hk => ⟨_, ?_, outlines_component hl hk⟩⟩
  simp only [findExternalContours, List.getElem?_map, Array.getElem?_toList,
    Array.getElem?_eq_getElem hk, Option.map_some]

end DropletVision
