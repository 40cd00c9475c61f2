import DropletVision.Proofs.Components.SecondPass

/-!
# 連結成分のラベル付けの正しさ

`connectedComponents` の結果が、平面の 8 近傍の連結成分を正しく表すこと（`LabelsComponents`）：

* 背景の画素のラベルは 0、前景の画素は 1 以上。
* 前景の二つの画素のラベルが同じなのは、前景の画素だけを通る 8 近傍の道でつながるとき。
* 使われるラベルはちょうど 1 から成分の数まで。
* `k` 番目の成分の統計は、ラベル `k + 1` の画素を数えたもの（面積・外接矩形・行優先で最初の
  画素）で、成分は最初の画素の行優先の順に並ぶ。

証明は、一回目の走査の不変条件（`FirstPass.Inv`）と二回目の走査の不変条件（`SecondPass.Inv`）
を走査の終わりで組み合わせる（`labelsComponents_of_inv`）。
-/

namespace DropletVision

namespace Labeling

/-- 平面の中でラベルが `n` の画素。 -/
def pixelsOf (l : Labeling) (n : Nat) : Finset (Nat × Nat) :=
  (Finset.range l.height ×ˢ Finset.range l.width).filter (fun p => l.labelAt p.1 p.2 = n)

/-- ラベル付け `l` が平面 `m` の 8 近傍の連結成分を表す。 -/
structure LabelsComponents (m : Mask) (l : Labeling) : Prop where
  height_eq : l.height = m.height
  width_eq : l.width = m.width
  /-- ラベルが 0 なのは背景の画素（平面の外を含む）だけ。 -/
  zero_iff : ∀ r c, l.labelAt r c = 0 ↔ m.get r c = false
  /-- 前景の二つの画素のラベルが同じなのは、前景の画素だけを通る 8 近傍の道でつながるとき。 -/
  same_iff : ∀ p q : Nat × Nat, m.get p.1 p.2 = true → m.get q.1 q.2 = true →
    (l.labelAt p.1 p.2 = l.labelAt q.1 q.2 ↔ m.Joined p q)
  /-- 使われるラベルはちょうど 1 から成分の数まで。 -/
  label_le : ∀ r c, l.labelAt r c ≤ l.components.size
  label_used : ∀ e < l.components.size, ∃ r c, l.labelAt r c = e + 1
  /-- `e` 番目の成分は、ラベル `e + 1` の画素を数えている。 -/
  describes : ∀ e (he : e < l.components.size),
    l.components[e].Describes (e + 1) (l.pixelsOf (e + 1))
  /-- 成分は最初の画素の行優先の順に並ぶ。 -/
  first_lt : ∀ e e' (_ : e < e') (he' : e' < l.components.size),
    toLex l.components[e].first < toLex l.components[e'].first

variable {l : Labeling} {r c : Nat}

theorem labelAt_of_lt (hr : r < l.height) (hc : c < l.width) :
    l.labelAt r c = l.labels.getD (r * l.width + c) 0 := by
  simp [labelAt, hr, hc]

theorem labelAt_of_not_lt (h : ¬ (r < l.height ∧ c < l.width)) : l.labelAt r c = 0 := by
  simp only [labelAt, Bool.and_eq_true, decide_eq_true_eq]
  rw [if_neg h]

end Labeling

open Labeling

/-! ## 空の平面 -/

/-- 高さか幅が 0 の平面には前景がなく、ラベル付けも空。 -/
theorem labelsComponents_of_empty {m : Mask} (h0 : m.height = 0 ∨ m.width = 0) :
    LabelsComponents m ⟨m.height, m.width, Array.replicate (m.height * m.width) 0, #[]⟩ := by
  have hnone : ∀ r c, ¬ (r < m.height ∧ c < m.width) := by
    rintro r c ⟨hr, hc⟩
    omega
  have hget : ∀ r c, m.get r c = false := by
    intro r c
    cases hg : m.get r c
    · rfl
    · exact absurd (Mask.lt_of_get hg) (hnone r c)
  refine ⟨rfl, rfl, fun r c => ?_, fun p q hp => absurd hp (by rw [hget]; decide),
    fun r c => ?_, fun e he => absurd he (Nat.not_lt_zero e),
    fun e he => absurd he (Nat.not_lt_zero e), fun _ _ _ he => absurd he (Nat.not_lt_zero _)⟩
  · rw [labelAt_of_not_lt (hnone r c), hget]
    exact ⟨fun _ => rfl, fun _ => rfl⟩
  · rw [labelAt_of_not_lt (hnone r c)]
    exact Nat.zero_le _

/-! ## 二回の走査を組み合わせる -/

/-- 根の表は、一回目の走査の親の表での根。 -/
theorem getD_roots {fp : FirstPass} (hd : Descends fp.parent) (hsize : fp.parent.size = fp.next)
    {x : Nat} (hx : x < fp.next) :
    (fp.parent.mapIdx (fun i _ => findRoot fp.parent fp.next i)).getD x 0 = root fp.parent x := by
  rw [Array.getD_eq_getD_getElem?, Array.getElem?_mapIdx,
    Array.getElem?_eq_getElem (by rw [hsize]; exact hx)]
  exact findRoot_eq_root hd hx

/-- 平面のすべての画素を見終えたとき、見終えた画素でラベルが `n` のものは、ラベル `n` の画素の
すべて。 -/
theorem pixelsBefore_eq_pixelsOf (h w : Nat) (labels : Array Nat) (cs : Array ComponentStats)
    (n : Nat) :
    SecondPass.pixelsBefore h w labels (h * w) n = pixelsOf ⟨h, w, labels, cs⟩ n := by
  ext p
  simp only [SecondPass.mem_pixelsBefore, pixelsOf, Finset.mem_filter, Finset.mem_product,
    Finset.mem_range]
  constructor
  · rintro ⟨⟨hr, hc⟩, -, hl⟩
    exact ⟨⟨hr, hc⟩, by rw [labelAt_of_lt hr hc]; exact hl⟩
  · rintro ⟨⟨hr, hc⟩, hl⟩
    rw [labelAt_of_lt hr hc] at hl
    exact ⟨⟨hr, hc⟩, raster_lt_mul hr hc, hl⟩

section Combine

variable {m : Mask} {fp : FirstPass} {roots : Array Nat} {sp : SecondPass}

/-- **二回の走査の終わりの不変条件から、ラベル付けの正しさが出る。** -/
theorem labelsComponents_of_inv (hfp : FirstPass.Inv m (m.height * m.width) fp)
    (hroots : ∀ x < fp.next, roots.getD x 0 = root fp.parent x)
    (hsp : SecondPass.Inv m.height m.width fp.labels roots (m.height * m.width) sp) :
    LabelsComponents m ⟨m.height, m.width, sp.labels, sp.components⟩ := by
  -- 平面の中の画素について：一回目のラベルが 0 でないのは前景のとき
  have hfg : ∀ r c, r < m.height → c < m.width →
      (fp.labels.getD (r * m.width + c) 0 ≠ 0 ↔ m.get r c = true) := by
    intro r c hr hc
    rw [show fp.labels.getD (r * m.width + c) 0 = fp.labelOf m.width (r, c) from rfl,
      hfp.labelOf_ne_zero (r, c) hc]
    exact ⟨fun h => h.2, fun h => ⟨raster_lt_mul hr hc, h⟩⟩
  have hbg : ∀ r c, r < m.height → c < m.width → m.get r c = false →
      fp.labels.getD (r * m.width + c) 0 = 0 := by
    intro r c hr hc gp
    by_contra hne
    have := (hfg r c hr hc).1 hne
    rw [gp] at this
    cases this
  -- 前景の画素の根の番号は、一回目のラベルの根
  have hkey : ∀ j, fp.labels.getD j 0 ≠ 0 →
      SecondPass.keyOf fp.labels roots j = root fp.parent (fp.labels.getD j 0) :=
    fun j _ => hroots _ (hfp.label_lt j)
  -- 前景の画素の最後のラベルは 0 でない
  have hfinal : ∀ p : Nat × Nat, p.1 < m.height → p.2 < m.width → m.get p.1 p.2 = true →
      sp.labels.getD (p.1 * m.width + p.2) 0 =
        sp.compact.getD (SecondPass.keyOf fp.labels roots (p.1 * m.width + p.2)) 0 ∧
      sp.labels.getD (p.1 * m.width + p.2) 0 ≠ 0 := by
    intro p hr hc gp
    have hl0 := (hfg p.1 p.2 hr hc).2 gp
    have hj := raster_lt_mul hr hc
    rw [hsp.done_label _ hj hl0]
    exact ⟨rfl, (hsp.seen_iff _).2 ⟨_, hj, hl0, rfl⟩⟩
  refine ⟨rfl, rfl, ?_, ?_, ?_, ?_, ?_, ?_⟩
  · -- zero_iff
    intro r c
    by_cases hrc : r < m.height ∧ c < m.width
    · rw [labelAt_of_lt hrc.1 hrc.2]
      cases gp : m.get r c
      · exact ⟨fun _ => rfl, fun _ => hsp.done_zero _ (raster_lt_mul hrc.1 hrc.2)
          (hbg r c hrc.1 hrc.2 gp)⟩
      · exact ⟨fun h => absurd h ((hfinal (r, c) hrc.1 hrc.2 gp).2), fun h => absurd h (by decide)⟩
    · rw [labelAt_of_not_lt hrc]
      cases gp : m.get r c
      · exact ⟨fun _ => rfl, fun _ => rfl⟩
      · exact absurd (Mask.lt_of_get gp) hrc
  · -- same_iff：番号が同じ ↔ 根が同じ ↔ つながる
    intro p q gp gq
    obtain ⟨hpr, hpc⟩ := Mask.lt_of_get gp
    obtain ⟨hqr, hqc⟩ := Mask.lt_of_get gq
    rw [labelAt_of_lt hpr hpc, labelAt_of_lt hqr hqc]
    obtain ⟨hp, hp0⟩ := hfinal p hpr hpc gp
    obtain ⟨hq, -⟩ := hfinal q hqr hqc gq
    simp only
    rw [hp, hq, Mask.joined_iff_linkedBefore,
      ← hfp.root_eq_iff p q gp gq (raster_lt_mul hpr hpc) (raster_lt_mul hqr hqc),
      FirstPass.labelOf, FirstPass.labelOf, ← hkey _ ((hfg p.1 p.2 hpr hpc).2 gp),
      ← hkey _ ((hfg q.1 q.2 hqr hqc).2 gq)]
    exact ⟨fun h => hsp.compact_inj _ _ (hp ▸ hp0) h, fun h => by rw [h]⟩
  · -- label_le
    intro r c
    by_cases hrc : r < m.height ∧ c < m.width
    · rw [labelAt_of_lt hrc.1 hrc.2]
      cases gp : m.get r c
      · rw [hsp.done_zero _ (raster_lt_mul hrc.1 hrc.2) (hbg r c hrc.1 hrc.2 gp)]
        exact Nat.zero_le _
      · rw [(hfinal (r, c) hrc.1 hrc.2 gp).1]
        exact hsp.compact_le _
    · rw [labelAt_of_not_lt hrc]
      exact Nat.zero_le _
  · -- label_used：番号 `e + 1` の根の画素
    intro e he
    obtain ⟨x, hx⟩ := hsp.compact_onto e he
    obtain ⟨j, hj, hj0, hjx⟩ := (hsp.seen_iff x).1 (by rw [hx]; exact Nat.succ_ne_zero e)
    have hjp : j / m.width * m.width + j % m.width = j := Nat.div_add_mod' j m.width
    refine ⟨j / m.width, j % m.width, ?_⟩
    rw [labelAt_of_lt (grid_of_lt_mul hj).1 (grid_of_lt_mul hj).2]
    simp only
    rw [hjp, hsp.done_label j hj hj0, hjx, hx]
  · -- describes：走査の終わりには、平面の中の画素はどれも見終えている
    intro e he
    rw [← pixelsBefore_eq_pixelsOf]
    exact hsp.describes e he
  · -- first_lt
    exact hsp.first_lt

end Combine

/-- 高さか幅が 0 の平面のラベル付けは空。 -/
theorem connectedComponents_of_empty {m : Mask} (h0 : m.height = 0 ∨ m.width = 0) :
    connectedComponents m = ⟨m.height, m.width, Array.replicate (m.height * m.width) 0, #[]⟩ := by
  have hcond : (m.height == 0 || m.width == 0) = true := by
    simpa only [Bool.or_eq_true, beq_iff_eq] using h0
  simp only [connectedComponents, hcond, if_true]

/-- 空でない平面のラベル付けは二回の走査の結果で、その正しさは走査の終わりの不変条件から出る。 -/
theorem labelsComponents_of_ne_empty {m : Mask} (h0 : ¬ (m.height = 0 ∨ m.width = 0)) :
    LabelsComponents m (connectedComponents m) := by
  have hcond : (m.height == 0 || m.width == 0) = false := by
    simpa only [Bool.or_eq_false_iff, beq_eq_false_iff_ne, not_or] using h0
  unfold connectedComponents
  dsimp only
  rw [hcond, if_neg Bool.false_ne_true]
  have hfp : FirstPass.Inv m (m.height * m.width) ((List.range (m.height * m.width)).foldl
      (firstPassStep m) ⟨Array.replicate (m.height * m.width) 0, #[0], 1⟩) :=
    FirstPass.inv_foldl m _ (Nat.le_refl _)
  generalize (List.range (m.height * m.width)).foldl (firstPassStep m)
    ⟨Array.replicate (m.height * m.width) 0, #[0], 1⟩ = fp at hfp ⊢
  have hroots : ∀ x < fp.next,
      (fp.parent.mapIdx (fun i _ => findRoot fp.parent fp.next i)).getD x 0 =
        root fp.parent x :=
    fun x hx => getD_roots hfp.descends hfp.parent_size hx
  generalize fp.parent.mapIdx (fun i _ => findRoot fp.parent fp.next i) = roots at hroots ⊢
  -- 二回目の走査が使う根の番号は、根の番号の表の中にある
  have hkey : ∀ j < m.height * m.width, fp.labels.getD j 0 ≠ 0 →
      SecondPass.keyOf fp.labels roots j < fp.next := by
    intro j _ _
    rw [SecondPass.keyOf, hroots _ (hfp.label_lt j)]
    exact Nat.lt_of_le_of_lt (root_le hfp.descends) (hfp.label_lt j)
  exact labelsComponents_of_inv hfp hroots
    (SecondPass.inv_foldl hfp.labels_size hkey _ (Nat.le_refl _))

/-- **連結成分のラベル付けは、どの平面についても、その 8 近傍の連結成分を正しく表す。** -/
theorem connectedComponents_labelsComponents (m : Mask) :
    LabelsComponents m (connectedComponents m) := by
  by_cases h0 : m.height = 0 ∨ m.width = 0
  · rw [connectedComponents_of_empty h0]
    exact labelsComponents_of_empty h0
  · exact labelsComponents_of_ne_empty h0

end DropletVision
