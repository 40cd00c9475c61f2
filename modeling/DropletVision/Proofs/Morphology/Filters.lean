import DropletVision.Proofs.Morphology.Pixels

/-!
# 開と閉は形態の濾過

原点を含み、原点について対称な構造要素では、収縮と膨張は互いに随伴する：同じ形の平面 `A`、`B` に
ついて `dilate A ⊆ B ↔ A ⊆ erode B`（`dilate_subset_iff`）。収縮は画像の外を立っているとみなし、
膨張は立っていないとみなすが、ずれ `o` で画像の中に入る画素から `-o` で戻る先は元の画素なので、
画像の外の画素の扱いは随伴に効かない。

随伴から、順序の議論だけで次が出る。

* `opening_subset`、`subset_closing` — 開は平面を削るだけ、閉は足すだけ。
* `opening_opening`、`closing_closing`、`both_both` — 開、閉、開いてから閉じる操作は、
  二度施しても一度と同じ。
* `applyMorphology_mono` — どの操作も、平面について単調。

楕円形の構造要素は、大きさが奇数なら原点を含み対称で、ずれはどれも大きさの半分以内
（`ellipse_centred`、`natAbs_le_of_mem_ellipse`）。行 `dy` の幅は `dy²` だけで決まり、
列の区間は中央の列について対称になる。大きさが偶数のときは、行が中央の行について対称でない。
-/

namespace DropletVision

namespace Mask

/-- 画素の包含：`m` で立っている画素は `m'` でも立っている。 -/
def Subset (m m' : Mask) : Prop := ∀ r c, m.get r c = true → m'.get r c = true

instance : HasSubset Mask := ⟨Subset⟩

/-- 二つの平面は同じ高さと幅を持つ。 -/
def SameShape (m m' : Mask) : Prop := m.height = m'.height ∧ m.width = m'.width

/-- 整数の座標 `(行, 列)` の画素が画像の中にある。 -/
def Inside (m : Mask) (p : Int × Int) : Prop :=
  0 ≤ p.1 ∧ 0 ≤ p.2 ∧ p.1 < m.height ∧ p.2 < m.width

variable {m : Mask}

@[refl] theorem Subset.refl (m : Mask) : m ⊆ m := fun _ _ h => h

theorem lt_of_get_eq_true {r c : Nat} (h : m.get r c = true) : r < m.height ∧ c < m.width := by
  simp only [get, Bool.and_eq_true, decide_eq_true_eq] at h
  exact ⟨h.1.1, h.1.2⟩

/-- 画素ごとに決めた二つの平面は、同じ形で、どの画素も一致すれば等しい。 -/
theorem ofFn_eq_ofFn {h w h' w' : Nat} {f g : Nat → Nat → Bool} (hh : h = h') (hw : w = w')
    (hget : ∀ r c, (ofFn h w f).get r c = (ofFn h' w' g).get r c) : ofFn h w f = ofFn h' w' g := by
  subst hh hw
  refine ofFn_congr fun r hr c hc => ?_
  have := hget r c
  simpa [hr, hc] using this

/-- 画素ごとに決めた二つの平面は、同じ形で、互いに含めば等しい。 -/
theorem ofFn_eq_of_subset {h w h' w' : Nat} {f g : Nat → Nat → Bool} (hh : h = h') (hw : w = w')
    (h1 : ofFn h w f ⊆ ofFn h' w' g) (h2 : ofFn h' w' g ⊆ ofFn h w f) : ofFn h w f = ofFn h' w' g :=
  ofFn_eq_ofFn hh hw fun r c => Bool.eq_iff_iff.2 ⟨h1 r c, h2 r c⟩

/-- 画像の中の画素へずらした読み取りは、その画素。 -/
theorem shiftedGet_of_inside {row col : Nat} {dr dc : Int} (outside : Bool)
    (h : m.Inside (row + dr, col + dc)) :
    m.shiftedGet row col dr dc outside = m.get (row + dr).toNat (col + dc).toNat := by
  obtain ⟨h1, h2, h3, h4⟩ := h
  simp only at h1 h2 h3 h4
  unfold shiftedGet get
  rw [if_neg (by simp only [Bool.or_eq_true, decide_eq_true_eq, not_or]; omega)]
  simp only [show (row + dr).toNat < m.height by omega, show (col + dc).toNat < m.width by omega,
    decide_true, Bool.true_and]

/-- 画像の外へずらした読み取りは、外の値。 -/
theorem shiftedGet_of_not_inside {row col : Nat} {dr dc : Int} (outside : Bool)
    (h : ¬ m.Inside (row + dr, col + dc)) : m.shiftedGet row col dr dc outside = outside := by
  unfold shiftedGet
  rw [if_pos]
  simp only [Inside, not_and_or, not_le, not_lt] at h
  simp only [Bool.or_eq_true, decide_eq_true_eq]
  omega

end Mask

section Pixels

variable {m : Mask} {e : StructuringElement} {r c : Nat}

/-- 膨張した平面の画素は、構造要素の下の画像内の画素のどれかが立っていること。 -/
theorem get_dilate_iff :
    (dilate m e).get r c = true ↔ r < m.height ∧ c < m.width ∧
      ∃ o ∈ e.offsets, m.Inside (r + o.1, c + o.2) ∧ m.get (r + o.1).toNat (c + o.2).toNat = true := by
  rw [get_dilate]
  simp only [Bool.and_eq_true, decide_eq_true_eq, List.any_eq_true, and_assoc]
  refine and_congr_right fun _ => and_congr_right fun _ => exists_congr fun o =>
    and_congr_right fun _ => ?_
  by_cases hin : m.Inside (r + o.1, c + o.2)
  · rw [Mask.shiftedGet_of_inside false hin]
    exact ⟨fun h => ⟨hin, h⟩, fun h => h.2⟩
  · rw [Mask.shiftedGet_of_not_inside false hin]
    simp [hin]

/-- 収縮した平面の画素は、画素自身と、構造要素の下の画像内の画素がすべて立っていること。 -/
theorem get_erode_iff :
    (erode m e).get r c = true ↔ r < m.height ∧ c < m.width ∧ m.get r c = true ∧
      ∀ o ∈ e.offsets, m.Inside (r + o.1, c + o.2) →
        m.get (r + o.1).toNat (c + o.2).toNat = true := by
  rw [get_erode]
  simp only [Bool.and_eq_true, decide_eq_true_eq, List.all_eq_true, and_assoc]
  refine and_congr_right fun _ => and_congr_right fun _ => and_congr_right fun _ =>
    forall₂_congr fun o _ => ?_
  by_cases hin : m.Inside (r + o.1, c + o.2)
  · rw [Mask.shiftedGet_of_inside true hin]
    exact ⟨fun h _ => h, fun h => h hin⟩
  · rw [Mask.shiftedGet_of_not_inside true hin]
    simp [hin]

end Pixels

/-! ## 単調性 -/

section Mono

variable {A B : Mask} (e : StructuringElement)

theorem erode_mono (hs : A.SameShape B) (h : A ⊆ B) : erode A e ⊆ erode B e := by
  intro r c hA
  obtain ⟨hr, hc, hget, hall⟩ := get_erode_iff.1 hA
  refine get_erode_iff.2 ⟨hs.1 ▸ hr, hs.2 ▸ hc, h r c hget, fun o ho hin => ?_⟩
  have hin' : A.Inside (r + o.1, c + o.2) := by
    rw [Mask.Inside, hs.1, hs.2]
    exact hin
  exact h _ _ (hall o ho hin')

theorem dilate_mono (hs : A.SameShape B) (h : A ⊆ B) : dilate A e ⊆ dilate B e := by
  intro r c hA
  obtain ⟨hr, hc, o, ho, hin, hget⟩ := get_dilate_iff.1 hA
  refine get_dilate_iff.2 ⟨hs.1 ▸ hr, hs.2 ▸ hc, o, ho, ?_, h _ _ hget⟩
  rw [Mask.Inside, ← hs.1, ← hs.2]
  exact hin

theorem Mask.SameShape.erode (hs : A.SameShape B) : (erode A e).SameShape (erode B e) := hs

theorem Mask.SameShape.dilate (hs : A.SameShape B) : (dilate A e).SameShape (dilate B e) := hs

theorem Mask.SameShape.symm (hs : A.SameShape B) : B.SameShape A := ⟨hs.1.symm, hs.2.symm⟩

/-- 開は平面について単調。 -/
theorem opening_mono (hs : A.SameShape B) (h : A ⊆ B) : opening A e ⊆ opening B e :=
  dilate_mono e (hs.erode e) (erode_mono e hs h)

/-- 閉は平面について単調。 -/
theorem closing_mono (hs : A.SameShape B) (h : A ⊆ B) : closing A e ⊆ closing B e :=
  erode_mono e (hs.dilate e) (dilate_mono e hs h)

@[simp] theorem height_opening : (opening A e).height = A.height := rfl

@[simp] theorem width_opening : (opening A e).width = A.width := rfl

@[simp] theorem height_closing : (closing A e).height = A.height := rfl

@[simp] theorem width_closing : (closing A e).width = A.width := rfl

/-- 同じ形の平面の膨張は、互いに含めば等しい。 -/
theorem dilate_eq_of_subset (hs : A.SameShape B) (h1 : dilate A e ⊆ dilate B e)
    (h2 : dilate B e ⊆ dilate A e) : dilate A e = dilate B e :=
  Mask.ofFn_eq_of_subset hs.1 hs.2 h1 h2

/-- 同じ形の平面の収縮は、互いに含めば等しい。 -/
theorem erode_eq_of_subset (hs : A.SameShape B) (h1 : erode A e ⊆ erode B e)
    (h2 : erode B e ⊆ erode A e) : erode A e = erode B e :=
  Mask.ofFn_eq_of_subset hs.1 hs.2 h1 h2

end Mono

/-! ## 随伴 -/

/-- 原点を含み、原点について対称な構造要素。 -/
structure StructuringElement.Centred (e : StructuringElement) : Prop where
  origin_mem : ((0 : Int), (0 : Int)) ∈ e.offsets
  neg_mem : ∀ o ∈ e.offsets, (-o.1, -o.2) ∈ e.offsets

section Adjunction

variable {e : StructuringElement} (he : e.Centred) {A B : Mask}
include he

/-- **収縮と膨張の随伴。** 同じ形の平面について、膨張が `B` に含まれるのは、`A` が `B` の収縮に
含まれるとき。 -/
theorem dilate_subset_iff (hs : A.SameShape B) : dilate A e ⊆ B ↔ A ⊆ erode B e := by
  constructor
  · intro hDB r c hA
    obtain ⟨hr, hc⟩ := Mask.lt_of_get_eq_true hA
    -- 原点のずれで、画素自身が膨張に入る
    have hself : B.get r c = true := hDB r c (get_dilate_iff.2 ⟨hr, hc, _, he.origin_mem,
      ⟨by simp, by simp, by simpa using hr, by simpa using hc⟩, by simpa using hA⟩)
    refine get_erode_iff.2 ⟨hs.1 ▸ hr, hs.2 ▸ hc, hself, fun o ho hin => ?_⟩
    obtain ⟨h1, h2, h3, h4⟩ := hin
    simp only [← hs.1, ← hs.2] at h1 h2 h3 h4
    -- ずれた画素から逆のずれで戻ると元の画素
    refine hDB _ _ (get_dilate_iff.2 ⟨by omega, by omega, _, he.neg_mem o ho, ?_, ?_⟩)
    · refine ⟨?_, ?_, ?_, ?_⟩ <;> simp only <;> omega
    · rw [show ((((r : Int) + o.1).toNat : Int) + -o.1).toNat = r by omega,
        show ((((c : Int) + o.2).toNat : Int) + -o.2).toNat = c by omega]
      exact hA
  · intro hAE r c hD
    obtain ⟨hr, hc, o, ho, hin, hget⟩ := get_dilate_iff.1 hD
    obtain ⟨h1, h2, h3, h4⟩ := hin
    simp only at h1 h2 h3 h4
    -- 立っている画素 `(r, c) + o` の収縮から、逆のずれで `(r, c)` へ戻る
    obtain ⟨-, -, -, hall⟩ := get_erode_iff.1 (hAE _ _ hget)
    have hh := hs.1
    have hw := hs.2
    have hback := hall _ (he.neg_mem o ho) (by refine ⟨?_, ?_, ?_, ?_⟩ <;> simp only <;> omega)
    rwa [show ((((r : Int) + o.1).toNat : Int) + -o.1).toNat = r by omega,
      show ((((c : Int) + o.2).toNat : Int) + -o.2).toNat = c by omega] at hback

/-- 開は平面を削るだけ。 -/
theorem opening_subset (A : Mask) : opening A e ⊆ A :=
  (dilate_subset_iff he (B := A) (A := erode A e) ⟨rfl, rfl⟩).2 (Mask.Subset.refl _)

/-- 閉は平面に足すだけ。 -/
theorem subset_closing (A : Mask) : A ⊆ closing A e :=
  (dilate_subset_iff he (A := A) (B := dilate A e) ⟨rfl, rfl⟩).1 (Mask.Subset.refl _)

/-- **開は二度施しても一度と同じ。** 開いた平面を収縮すると元の平面の収縮を含むので、開き直しても
減らない。 -/
theorem opening_opening (A : Mask) : opening (opening A e) e = opening A e :=
  dilate_eq_of_subset e ⟨rfl, rfl⟩ (opening_subset he (opening A e))
    (dilate_mono e ⟨rfl, rfl⟩ (subset_closing he (erode A e)))

/-- **閉は二度施しても一度と同じ。** -/
theorem closing_closing (A : Mask) : closing (closing A e) e = closing A e :=
  erode_eq_of_subset e ⟨rfl, rfl⟩ (erode_mono e ⟨rfl, rfl⟩ (opening_subset he (dilate A e)))
    (subset_closing he (closing A e))

/-- **開いてから閉じる操作は、二度施しても一度と同じ。** 開は削るだけ、閉は足すだけで、どちらも
単調かつ冪等であることから出る。 -/
theorem both_both (A : Mask) :
    closing (opening (closing (opening A e) e) e) e = closing (opening A e) e := by
  refine erode_eq_of_subset e ⟨by simp, by simp⟩ ?_ ?_
  · -- 削ってから閉じ直しても、閉じた平面を越えない
    have h := closing_mono e (A := opening (closing (opening A e) e) e) (B := closing (opening A e) e)
      ⟨by simp, by simp⟩ (opening_subset he _)
    rw [closing_closing he] at h
    exact h
  · -- 開いた平面は、閉じてから開き直した平面に含まれる
    have h := opening_mono e (A := opening A e) (B := closing (opening A e) e) ⟨by simp, by simp⟩
      (subset_closing he (opening A e))
    rw [opening_opening he] at h
    exact closing_mono e ⟨by simp, by simp⟩ h

/-- **どの操作も、二度施しても一度と同じ。** -/
theorem applyMorphology_applyMorphology (A : Mask) (op : MorphOperation) :
    applyMorphology (applyMorphology A e op) e op = applyMorphology A e op := by
  cases op with
  | opening => exact opening_opening he A
  | closing => exact closing_closing he A
  | both => exact both_both he A

end Adjunction

/-- **どの操作も、平面について単調。** -/
theorem applyMorphology_mono (e : StructuringElement) {A B : Mask} (hs : A.SameShape B) (h : A ⊆ B)
    (op : MorphOperation) : applyMorphology A e op ⊆ applyMorphology B e op := by
  cases op with
  | opening => exact opening_mono e hs h
  | closing => exact closing_mono e hs h
  | both =>
    have hs' : (opening A e).SameShape (opening B e) := ⟨by simp [hs.1], by simp [hs.2]⟩
    exact closing_mono e hs' (opening_mono e hs h)

/-! ## 楕円形の構造要素 -/

namespace StructuringElement

/-- 行の半幅は `dy²` だけで決まる。 -/
theorem rowHalfWidth_neg (size : Nat) (dy : Int) :
    rowHalfWidth size (-dy) = rowHalfWidth size dy := by
  simp only [rowHalfWidth, Int.neg_mul_neg]

/-- 楕円形の構造要素のずれ `(dy, dx)`：大きさ `n = max s 1`、半径 `r = ⌊n/2⌋` について、
`dy = i - r`（`i < n`）で、`dx + r` は行の半幅 `d` の区間 `[max (r - d) 0, min (r + d + 1) n)` に入る。 -/
theorem mem_ellipse {s : Nat} {o : Int × Int} :
    o ∈ (ellipse s).offsets ↔ ∃ i < max s 1, o.1 = i - ((max s 1 : Nat) : Int) / 2 ∧
      max (((max s 1 : Nat) : Int) / 2 - rowHalfWidth (max s 1) o.1) 0 ≤
        o.2 + ((max s 1 : Nat) : Int) / 2 ∧
      o.2 + ((max s 1 : Nat) : Int) / 2 <
        min (((max s 1 : Nat) : Int) / 2 + rowHalfWidth (max s 1) o.1 + 1) (max s 1 : Nat) := by
  obtain ⟨a, b⟩ := o
  simp only [ellipse, List.mem_flatMap, List.mem_map, List.mem_range, Prod.mk.injEq]
  constructor
  · rintro ⟨i, hi, k, hk, rfl, rfl⟩
    refine ⟨i, hi, rfl, ?_, ?_⟩ <;> omega
  · rintro ⟨i, hi, rfl, h1, h2⟩
    -- 列は区間の左端から数えた番号 `k`
    refine ⟨i, hi, (b + ((max s 1 : Nat) : Int) / 2 - max (((max s 1 : Nat) : Int) / 2 -
      rowHalfWidth (max s 1) (i - ((max s 1 : Nat) : Int) / 2)) 0).toNat, by omega, rfl, by omega⟩

/-- 楕円形の構造要素は原点を含む。 -/
theorem origin_mem_ellipse (s : Nat) : ((0 : Int), (0 : Int)) ∈ (ellipse s).offsets :=
  mem_ellipse.2 ⟨max s 1 / 2, by omega, by omega, by omega, by omega⟩

/-- **大きさが奇数の楕円形の構造要素は、原点を含み、原点について対称。** 行 `i` のずれを行
`n - 1 - i` へ、列を中央の列について折り返す。 -/
theorem ellipse_centred {s : Nat} (hs : s % 2 = 1) : (ellipse s).Centred where
  origin_mem := origin_mem_ellipse s
  neg_mem o ho := by
    obtain ⟨i, hi, h0, h1, h2⟩ := mem_ellipse.1 ho
    refine mem_ellipse.2 ⟨max s 1 - 1 - i, by omega, by omega, ?_⟩
    rw [rowHalfWidth_neg]
    omega

/-- 楕円形の構造要素のずれは、行も列も大きさの半分以内。 -/
theorem natAbs_le_of_mem_ellipse {s : Nat} {o : Int × Int} (ho : o ∈ (ellipse s).offsets) :
    o.1.natAbs ≤ s / 2 ∧ o.2.natAbs ≤ s / 2 := by
  obtain ⟨i, hi, h0, h1, h2⟩ := mem_ellipse.1 ho
  omega

end StructuringElement

/-- **楕円形の構造要素による開と閉。** 大きさ `s` が奇数なら、構造要素は原点を含み対称で、ずれは
大きさの半分以内。どの平面についても、開は平面を削るだけ、閉は足すだけで、開・閉・開いてから閉じる
操作はどれも二度施しても一度と同じで、同じ形の平面について単調。 -/
theorem ellipse_morphology_laws (s : Nat) (hs : s % 2 = 1) :
    (StructuringElement.ellipse s).Centred ∧
    (∀ o ∈ (StructuringElement.ellipse s).offsets, o.1.natAbs ≤ s / 2 ∧ o.2.natAbs ≤ s / 2) ∧
    ∀ m : Mask,
      opening m (StructuringElement.ellipse s) ⊆ m ∧ m ⊆ closing m (StructuringElement.ellipse s) ∧
      (∀ op, applyMorphology (applyMorphology m (StructuringElement.ellipse s) op)
        (StructuringElement.ellipse s) op = applyMorphology m (StructuringElement.ellipse s) op) ∧
      ∀ m', m.SameShape m' → m ⊆ m' → ∀ op,
        applyMorphology m (StructuringElement.ellipse s) op ⊆
          applyMorphology m' (StructuringElement.ellipse s) op := by
  have he := StructuringElement.ellipse_centred hs
  refine ⟨he, fun o ho => StructuringElement.natAbs_le_of_mem_ellipse ho, fun m => ?_⟩
  exact ⟨opening_subset he m, subset_closing he m, applyMorphology_applyMorphology he m,
    fun m' hs' h op => applyMorphology_mono _ hs' h op⟩

/-- 大きさ 3（十字）の構造要素での例。 -/
theorem ellipse_morphology_laws_cross :
    3 % 2 = 1 ∧ ((StructuringElement.ellipse 3).Centred ∧
    (∀ o ∈ (StructuringElement.ellipse 3).offsets, o.1.natAbs ≤ 3 / 2 ∧ o.2.natAbs ≤ 3 / 2) ∧
    ∀ m : Mask,
      opening m (StructuringElement.ellipse 3) ⊆ m ∧ m ⊆ closing m (StructuringElement.ellipse 3) ∧
      (∀ op, applyMorphology (applyMorphology m (StructuringElement.ellipse 3) op)
        (StructuringElement.ellipse 3) op = applyMorphology m (StructuringElement.ellipse 3) op) ∧
      ∀ m', m.SameShape m' → m ⊆ m' → ∀ op,
        applyMorphology m (StructuringElement.ellipse 3) op ⊆
          applyMorphology m' (StructuringElement.ellipse 3) op) :=
  ⟨by decide, ellipse_morphology_laws 3 (by decide)⟩

end DropletVision
