import DropletVision.Detection.Measure
import DropletVision.Proofs.Contour.ExactArea

/-!
# 面積のある輪郭はどれも計測される

座標の大きさが `2^20` 未満で点が `2^12` 個より少ない輪郭の列について、計測が何を返すか。

* `Measurer.Reports` — 一つの輪郭の計測値として正しいもの：面積・外接矩形・重心は輪郭のもの、
  長軸は点が足りて楕円が当てはまればその長軸、そうでなければ外接矩形の長辺で、長さはどれも半径の
  補正を施した値、マイクロメートルの値はそれに換算を掛けたもの。
* `Measurer.forall₂_measure` — 計測値は、面積が 0 でない輪郭ごとにちょうど一つ、入力の順に並ぶ。
* `measure_reports_each_nonzero_area` — それに加えて、モーメントの `m00` は面積と同じ値で、面積・
  重心・外接矩形は較正によらず、補正は実数では `max 0 (d + 2r)`。

面積は 64 ビットの整数の和から、重心は倍精度のモーメントから求める。面積が 0 でない輪郭が重心の
誤りで落ちないのは、小さい輪郭では二つがちょうど一致するから（`Contour.Small.centroid_eq`）。
-/

namespace DropletVision

/-- 丸めの無い実数での読み方：絶対値・平方根・偏角は実数のもの、`maxNum` は `max`。 -/
noncomputable instance : EllipseOps ℝ :=
  ⟨abs, 2.220446049250313e-16, Real.sqrt, fun x y => Real.sqrt (x ^ 2 + y ^ 2),
    fun y x => Complex.arg ⟨x, y⟩, max⟩

/-- 実数では、補正した直径は `max 0 (d + 2r)`。 -/
theorem correctDiameter_real (d r : ℝ) : correctDiameter d r = max 0 (d + 2 * r) := by
  show max (d / 2 + r) 0 * 2 = max 0 (d + 2 * r)
  rw [max_mul_of_nonneg _ _ (by norm_num), zero_mul, max_comm]
  congr 1
  ring

namespace Measurer

/-- `m` は、計測器 `ms` が較正 `k` のもとで輪郭 `c` について返すべき計測値である。 -/
structure Reports (ms : Measurer) (k : Calibration) (c : Contour) (m : DropletMetrics) : Prop where
  areaPx : m.areaPx = c.area
  boundingBox : m.boundingBox = c.boundingBox
  centroid : m.centroid = (c.moments.m10 / c.moments.m00, c.moments.m01 / c.moments.m00)
  aspectRatio : m.aspectRatio = c.boundingBox.aspectRatio
  majorAxisPx_fit : ∀ e, ms.minContourPoints ≤ c.len → c.fitEllipse = .ok e →
    m.majorAxisPx = correctDiameter e.majorAxis k.radiusOffsetPx
  majorAxisPx_bbox : (c.len < ms.minContourPoints ∨ ∃ err, c.fitEllipse = .error err) →
    m.majorAxisPx =
      correctDiameter (max c.boundingBox.width c.boundingBox.height).toFloat k.radiusOffsetPx
  equivalentDiameterPx :
    m.equivalentDiameterPx = correctDiameter (equivalentDiameter c.area) k.radiusOffsetPx
  areaUm2 : m.areaUm2 = m.areaPx * k.umPerPx * k.umPerPx
  majorAxisUm : m.majorAxisUm = m.majorAxisPx * k.umPerPx
  equivalentDiameterUm : m.equivalentDiameterUm = m.equivalentDiameterPx * k.umPerPx

variable (ms : Measurer) (k : Calibration) {c : Contour}

theorem measureOne_of_area_beq_zero (h : (c.area == 0) = true) : ms.measureOne c k = .ok none := by
  simp only [measureOne, h, if_true]
  rfl

/-- 面積が 0 でない小さい輪郭は、重心の誤りで落ちることなく計測される。 -/
theorem measureOne_reports_of_small (hc : c.Small) (h : (c.area == 0) = false) :
    ∃ m, ms.measureOne c k = .ok (some m) ∧ ms.Reports k c m := by
  obtain ⟨h3, hS⟩ := hc.of_area_ne_zero h
  have hcen := hc.centroid_eq h3 hS
  simp only [measureOne, h, hcen, Bool.false_eq_true, if_false, bind, Except.bind, pure,
    Except.pure, Except.ok.injEq, Option.some.injEq, exists_eq_left']
  refine ⟨rfl, rfl, rfl, rfl, ?_, ?_, rfl, rfl, rfl, rfl⟩
  · intro e hlen hfit
    simp only [ge_iff_le, if_pos hlen, hfit]
  · rintro (hlt | ⟨err, herr⟩)
    · simp only [ge_iff_le, if_neg (Nat.not_le.2 hlt)]
    · simp only [herr]
      split <;> rfl

/-- 小さい輪郭の列の計測値は、面積が 0 でない輪郭ごとに一つずつ、入力の順に並ぶ。 -/
theorem forall₂_measure (cs : List Contour) (hcs : ∀ c ∈ cs, c.Small) :
    List.Forall₂ (ms.Reports k) (cs.filter fun c => c.area != 0) (ms.measure cs k) := by
  induction cs with
  | nil => exact .nil
  | cons c cs ih =>
    have ih := ih (fun c' h => hcs c' (List.mem_cons_of_mem _ h))
    rw [measure, List.filterMap_cons, List.filter_cons]
    cases h : c.area == 0
    · -- 面積が 0 でない輪郭は計測され、残る
      obtain ⟨m, hm, hr⟩ := measureOne_reports_of_small ms k (hcs c List.mem_cons_self) h
      have hne : (c.area != 0) = true := by rw [bne, h]; rfl
      rw [if_pos hne, hm]
      exact .cons hr ih
    · -- 面積が 0 の輪郭は飛ばされる
      have hne : ¬(c.area != 0) = true := by rw [bne, h]; decide
      rw [if_neg hne, measureOne_of_area_beq_zero ms k h]
      exact ih

/-- 面積・重心・外接矩形は輪郭だけから決まり、較正によらない。 -/
theorem Reports.map_summary {cs : List Contour} {ds : List DropletMetrics}
    (h : List.Forall₂ (ms.Reports k) cs ds) :
    ds.map (fun m => (m.areaPx, m.centroid, m.boundingBox)) =
      cs.map fun c =>
        (c.area, (c.moments.m10 / c.moments.m00, c.moments.m01 / c.moments.m00), c.boundingBox) := by
  induction h with
  | nil => rfl
  | cons hr _ ih => rw [List.map_cons, List.map_cons, ih, hr.areaPx, hr.centroid, hr.boundingBox]

end Measurer

/-- 座標の大きさが `2^20` 未満で点が `2^12` 個より少ない輪郭の列を計測すると、面積が 0 でない輪郭
ごとにちょうど一つの計測値が入力の順に並ぶ（重心が求まらずに落ちる輪郭は無い：モーメントの `m00`
は面積と同じ値）。計測値の面積・外接矩形・重心は輪郭だけで決まり、長さは半径の補正を施した画素の値
（実数では `max 0 (d + 2r)`）、マイクロメートルの値はそれに換算を掛けたもの。 -/
theorem measure_reports_each_nonzero_area (ms : Measurer) (k : Calibration) (cs : List Contour)
    (hcs : ∀ c ∈ cs, c.Small) :
    List.Forall₂ (ms.Reports k) (cs.filter fun c => c.area != 0) (ms.measure cs k) ∧
      (∀ c ∈ cs, c.area != 0 → c.moments.m00 = c.area) ∧
      (ms.measure cs k).map (fun m => (m.areaPx, m.centroid, m.boundingBox)) =
        (cs.filter fun c => c.area != 0).map (fun c =>
          (c.area, (c.moments.m10 / c.moments.m00, c.moments.m01 / c.moments.m00), c.boundingBox)) ∧
      ∀ d r : ℝ, correctDiameter d r = max 0 (d + 2 * r) := by
  have hall := ms.forall₂_measure k cs hcs
  refine ⟨hall, fun c hc h => ?_, Measurer.Reports.map_summary ms k hall, correctDiameter_real⟩
  exact (hcs c hc).moments_m00_eq_area (by rw [bne] at h; simpa using h)

/-- 正方形と線分を計測すると、面積が 0 の線分は飛ばされ、正方形だけが計測される。 -/
theorem measure_reports_each_nonzero_area_square :
    let cs : List Contour := [⟨#[⟨0, 0⟩, ⟨2, 0⟩, ⟨2, 2⟩, ⟨0, 2⟩]⟩, ⟨#[⟨0, 0⟩, ⟨3, 0⟩]⟩]
    let ms : Measurer := ⟨3⟩
    let k : Calibration := {}
    (∀ c ∈ cs, c.Small) ∧
      List.Forall₂ (ms.Reports k) (cs.filter fun c => c.area != 0) (ms.measure cs k) ∧
      (∀ c ∈ cs, c.area != 0 → c.moments.m00 = c.area) ∧
      (ms.measure cs k).map (fun m => (m.areaPx, m.centroid, m.boundingBox)) =
        (cs.filter fun c => c.area != 0).map (fun c =>
          (c.area, (c.moments.m10 / c.moments.m00, c.moments.m01 / c.moments.m00), c.boundingBox)) ∧
      ∀ d r : ℝ, correctDiameter d r = max 0 (d + 2 * r) :=
  ⟨by decide, measure_reports_each_nonzero_area _ _ _ (by decide)⟩

end DropletVision
