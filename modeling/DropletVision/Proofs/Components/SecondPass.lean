import Mathlib.Order.Bounds.Basic
import Mathlib.Data.Prod.Lex
import Mathlib.Data.Finset.Card
import Mathlib.Data.Finset.Prod
import DropletVision.Proofs.Components.FirstPass

/-!
# 二回目の走査

二回目の走査は、一回目のラベルの根に、行優先で最初に出会った順に 1, 2, … と番号を付け直し、
成分ごとの面積・外接矩形・最初の画素を数える。一回目のラベルと根の表のほかは何も読まないので、
ここではその二つを引数にして述べる。

* `ComponentStats.Describes` — 統計が、ある画素の集まりを正しく数えていること。
* `secondPassStep_of_zero`, `secondPassStep_of_new`, `secondPassStep_of_seen` — 一画素で
  できることの三通り。
* `SecondPass.Inv` — 行優先で `k` より前の画素を見終えた状態が満たすこと。
* `SecondPass.inv_foldl` — 走査の全体で保たれる。
-/

namespace DropletVision

/-! ## 成分の統計 -/

namespace ComponentStats

/-- 統計に画素 `(row, col)` を一つ加える（二回目の走査が画素ごとにする更新）。 -/
def addPixel (row col : Nat) (e : ComponentStats) : ComponentStats :=
  let (r0, r1, c0, c1) := e.bbox
  { e with area := e.area + 1, bbox := (min r0 row, max r1 row, min c0 col, max c1 col) }

@[simp] theorem addPixel_label (row col : Nat) (e : ComponentStats) :
    (e.addPixel row col).label = e.label := rfl

@[simp] theorem addPixel_area (row col : Nat) (e : ComponentStats) :
    (e.addPixel row col).area = e.area + 1 := rfl

@[simp] theorem addPixel_bbox (row col : Nat) (e : ComponentStats) :
    (e.addPixel row col).bbox =
      (min e.bbox.1 row, max e.bbox.2.1 row, min e.bbox.2.2.1 col, max e.bbox.2.2.2 col) := rfl

@[simp] theorem addPixel_first (row col : Nat) (e : ComponentStats) :
    (e.addPixel row col).first = e.first := rfl

/-- 統計 `s` が、画素の集まり `S` をラベル `n` の成分として正しく数えている：面積は画素の数、
外接矩形は行と列の最小と最大、最初の画素は行優先で最初のもの。 -/
structure Describes (s : ComponentStats) (n : Nat) (S : Finset (Nat × Nat)) : Prop where
  label_eq : s.label = n
  area_eq : s.area = S.card
  minRow : IsLeast (Prod.fst '' (S : Set (Nat × Nat))) s.bbox.1
  maxRow : IsGreatest (Prod.fst '' (S : Set (Nat × Nat))) s.bbox.2.1
  minCol : IsLeast (Prod.snd '' (S : Set (Nat × Nat))) s.bbox.2.2.1
  maxCol : IsGreatest (Prod.snd '' (S : Set (Nat × Nat))) s.bbox.2.2.2
  first : IsLeast (toLex '' (S : Set (Nat × Nat))) (toLex s.first)

/-- 最初の画素だけで作った統計は、その一画素の成分を数えている。 -/
theorem describes_new (n row col : Nat) :
    ((⟨n, 0, (row, row, col, col), (row, col)⟩ : ComponentStats).addPixel row col).Describes n
      {(row, col)} where
  label_eq := rfl
  area_eq := rfl
  minRow := by simp
  maxRow := by simp
  minCol := by simp
  maxCol := by simp
  first := by simp

/-- 行優先でどれよりも後の画素を加えると、加えた集まりを数えることになる。 -/
theorem Describes.addPixel {s : ComponentStats} {n row col : Nat} {S : Finset (Nat × Nat)}
    (h : s.Describes n S) (hp : (row, col) ∉ S) (hlt : ∀ q ∈ S, toLex q < toLex (row, col)) :
    (s.addPixel row col).Describes n (insert (row, col) S) := by
  obtain ⟨q, hq, hfirst⟩ := h.first.1
  have hle : toLex s.first ≤ toLex (row, col) := hfirst ▸ le_of_lt (hlt q hq)
  refine ⟨h.label_eq, ?_, ?_, ?_, ?_, ?_, ?_⟩ <;>
    simp only [Finset.coe_insert, Set.image_insert_eq, addPixel_area, addPixel_bbox,
      addPixel_first]
  · rw [Finset.card_insert_of_notMem hp, h.area_eq]
  · rw [min_comm]
    exact h.minRow.insert row
  · rw [max_comm]
    exact h.maxRow.insert row
  · rw [min_comm]
    exact h.minCol.insert col
  · rw [max_comm]
    exact h.maxCol.insert col
  · have := h.first.insert (toLex (row, col))
    rwa [min_eq_right hle] at this

end ComponentStats

/-! ## 行優先の順と辞書式の順 -/

/-- 列が幅より小さい画素では、行優先の番号の順は `(行, 列)` の辞書式の順と同じ。 -/
theorem toLex_lt_of_raster_lt {w : Nat} {p q : Nat × Nat} (hq : q.2 < w)
    (h : p.1 * w + p.2 < q.1 * w + q.2) : toLex p < toLex q := by
  rw [Prod.Lex.lt_iff]
  rcases Nat.lt_trichotomy p.1 q.1 with hr | hr | hr
  · exact Or.inl hr
  · rw [hr] at h
    exact Or.inr ⟨hr, by simpa using h⟩
  · -- 下の行の画素は番号が大きい
    have : (q.1 + 1) * w ≤ p.1 * w := Nat.mul_le_mul_right w hr
    rw [Nat.succ_mul] at this
    omega

namespace SecondPass

/-! ## 一画素でできること -/

section Step

variable {w : Nat} {roots : Array Nat} {st : SecondPass} {i : Nat}

theorem secondPassStep_of_zero (h0 : st.labels.getD i 0 = 0) :
    secondPassStep w roots st i = st := by
  simp [secondPassStep, h0]

/-- 根に初めて出会った画素：新しい番号を付けて、その一画素の成分を足す。 -/
theorem secondPassStep_of_new {x : Nat} (hl : st.labels.getD i 0 ≠ 0)
    (hxk : roots.getD (st.labels.getD i 0) 0 = x) (hc : st.compact.getD x 0 = 0)
    (hx : x < st.compact.size) :
    secondPassStep w roots st i =
      ⟨st.labels.setIfInBounds i (st.components.size + 1),
        st.compact.setIfInBounds x (st.components.size + 1),
        (st.components.push
          ⟨st.components.size + 1, 0, (i / w, i / w, i % w, i % w), (i / w, i % w)⟩).modify
          st.components.size (ComponentStats.addPixel (i / w) (i % w))⟩ := by
  subst hxk
  have hget : (st.compact.setIfInBounds (roots.getD (st.labels.getD i 0) 0)
      (st.components.size + 1)).getD (roots.getD (st.labels.getD i 0) 0) 0 =
        st.components.size + 1 := by
    rw [Array.getD_eq_getD_getElem?, Array.getElem?_setIfInBounds, if_pos rfl, if_pos hx]
    rfl
  simp only [secondPassStep, hl, hc, beq_iff_eq, ↓reduceIte, Array.size_push]
  rw [hget]
  rfl

/-- 番号の付いた根の画素：その番号を付けて、その成分に加える。 -/
theorem secondPassStep_of_seen {x e : Nat} (hl : st.labels.getD i 0 ≠ 0)
    (hxk : roots.getD (st.labels.getD i 0) 0 = x) (hc : st.compact.getD x 0 = e + 1) :
    secondPassStep w roots st i =
      ⟨st.labels.setIfInBounds i (e + 1), st.compact,
        st.components.modify e (ComponentStats.addPixel (i / w) (i % w))⟩ := by
  subst hxk
  simp only [secondPassStep, hl, hc, beq_iff_eq, ↓reduceIte, Nat.add_one_ne_zero]
  rfl

end Step

/-! ## 不変条件 -/

/-- 番号 `j` の画素の一回目のラベルの、根の表での根。 -/
def keyOf (L0 roots : Array Nat) (j : Nat) : Nat := roots.getD (L0.getD j 0) 0

/-- 平面の中で行優先の番号が `k` より前の画素のうち、ラベルが `n` のもの。 -/
def pixelsBefore (h w : Nat) (labels : Array Nat) (k n : Nat) : Finset (Nat × Nat) :=
  (Finset.range h ×ˢ Finset.range w).filter
    (fun p => p.1 * w + p.2 < k ∧ labels.getD (p.1 * w + p.2) 0 = n)

/-- 二回目の走査で、行優先の番号が `k` より前の画素を見終えた状態が満たすこと。
`L0` は一回目のラベル、`roots` は根の表。 -/
structure Inv (h w : Nat) (L0 roots : Array Nat) (k : Nat) (sp : SecondPass) : Prop where
  labels_size : sp.labels.size = h * w
  key_lt : ∀ j < h * w, L0.getD j 0 ≠ 0 → keyOf L0 roots j < sp.compact.size
  /-- まだ見ていない画素のラベルは一回目のまま。 -/
  later : ∀ j, k ≤ j → sp.labels.getD j 0 = L0.getD j 0
  /-- 見終えた背景の画素のラベルは 0。 -/
  done_zero : ∀ j < k, L0.getD j 0 = 0 → sp.labels.getD j 0 = 0
  /-- 見終えた前景の画素のラベルは、その根に付けた番号。 -/
  done_label : ∀ j < k, L0.getD j 0 ≠ 0 →
    sp.labels.getD j 0 = sp.compact.getD (keyOf L0 roots j) 0
  /-- 番号が付いているのは、見終えた前景の画素の根だけ。 -/
  seen_iff : ∀ x, sp.compact.getD x 0 ≠ 0 ↔ ∃ j < k, L0.getD j 0 ≠ 0 ∧ keyOf L0 roots j = x
  /-- 異なる根には異なる番号。 -/
  compact_inj : ∀ x y, sp.compact.getD x 0 ≠ 0 → sp.compact.getD x 0 = sp.compact.getD y 0 →
    x = y
  /-- 番号は 1 から成分の数まで、どれも使われている。 -/
  compact_le : ∀ x, sp.compact.getD x 0 ≤ sp.components.size
  compact_onto : ∀ e < sp.components.size, ∃ x, sp.compact.getD x 0 = e + 1
  /-- `e` 番目の成分は、番号 `e + 1` を付けた見終えた画素を数えている。 -/
  describes : ∀ e (he : e < sp.components.size),
    sp.components[e].Describes (e + 1) (pixelsBefore h w sp.labels k (e + 1))
  /-- 成分は最初の画素の行優先の順に並ぶ。 -/
  first_lt : ∀ e e' (_ : e < e') (he' : e' < sp.components.size),
    toLex sp.components[e].first < toLex sp.components[e'].first

/-! ## 表と画素の集まりの小さな事実 -/

theorem getD_setIfInBounds_of_ne {a : Array Nat} {i j v : Nat} (hij : i ≠ j) :
    (a.setIfInBounds j v).getD i 0 = a.getD i 0 := by
  rw [Array.getD_eq_getD_getElem?, Array.getElem?_setIfInBounds, if_neg (Ne.symm hij),
    ← Array.getD_eq_getD_getElem?]

theorem getD_setIfInBounds_of_lt {a : Array Nat} {j v : Nat} (hj : j < a.size) (i : Nat) :
    (a.setIfInBounds j v).getD i 0 = if i = j then v else a.getD i 0 := by
  by_cases hij : i = j
  · subst hij
    rw [Array.getD_eq_getD_getElem?, Array.getElem?_setIfInBounds, if_pos rfl, if_pos hj,
      if_pos rfl]
    rfl
  · rw [getD_setIfInBounds_of_ne hij, if_neg hij]

/-- 一つ足した配列の、足した位置を書き換えたものの各要素。 -/
theorem getElem_modify_push {α : Type} {xs : Array α} {a : α} {f : α → α} {e : Nat}
    (he : e < ((xs.push a).modify xs.size f).size) :
    ((xs.push a).modify xs.size f)[e] = if h : e < xs.size then xs[e] else f a := by
  rw [Array.getElem_modify, Array.getElem_push]
  by_cases h : e < xs.size
  · rw [dif_pos h, if_neg (Nat.ne_of_gt h), dif_pos h]
  · have hs : xs.size = e := by simp at he; omega
    rw [dif_neg h, if_pos hs, dif_neg h]

section Pixels

variable {h w : Nat} {labels : Array Nat} {k n : Nat} {p : Nat × Nat}

@[simp] theorem mem_pixelsBefore : p ∈ pixelsBefore h w labels k n ↔
    (p.1 < h ∧ p.2 < w) ∧ p.1 * w + p.2 < k ∧ labels.getD (p.1 * w + p.2) 0 = n := by
  simp [pixelsBefore]

/-- 番号 `k` の画素を見終えると、その画素はそのラベルの集まりにだけ加わる。 -/
theorem pixelsBefore_succ (hk : k < h * w) :
    pixelsBefore h w labels (k + 1) n =
      if labels.getD k 0 = n then insert (k / w, k % w) (pixelsBefore h w labels k n)
      else pixelsBefore h w labels k n := by
  have hkp : k / w * w + k % w = k := Nat.div_add_mod' k w
  have hgrid := grid_of_lt_mul hk
  ext q
  split
  · rename_i hn
    rw [Finset.mem_insert, mem_pixelsBefore, mem_pixelsBefore]
    constructor
    · rintro ⟨⟨h1, h2⟩, h3, h4⟩
      by_cases hqk : q.1 * w + q.2 = k
      · exact Or.inl (eq_of_raster_eq h2 hqk)
      · exact Or.inr ⟨⟨h1, h2⟩, by omega, h4⟩
    · rintro (rfl | ⟨⟨h1, h2⟩, h3, h4⟩)
      · refine ⟨hgrid, ?_, ?_⟩ <;> simp only [hkp]
        · exact Nat.lt_succ_self k
        · exact hn
      · exact ⟨⟨h1, h2⟩, by omega, h4⟩
  · rename_i hn
    rw [mem_pixelsBefore, mem_pixelsBefore]
    constructor
    · rintro ⟨hq, h3, h4⟩
      refine ⟨hq, Nat.lt_of_le_of_ne (Nat.le_of_lt_succ h3) fun hqk => ?_, h4⟩
      rw [hqk] at h4
      exact hn h4
    · rintro ⟨hq, h3, h4⟩
      exact ⟨hq, by omega, h4⟩

/-- 番号 `k` の画素に書いても、`k` より前の画素の集まりは変わらない。 -/
theorem pixelsBefore_set {v : Nat} :
    pixelsBefore h w (labels.setIfInBounds k v) k n = pixelsBefore h w labels k n := by
  unfold pixelsBefore
  refine Finset.filter_congr fun q _ => and_congr_right fun hq => ?_
  rw [getD_setIfInBounds_of_ne (Nat.ne_of_lt hq)]

/-- `k` より前の画素は、番号 `k` の画素より辞書式の順で前。 -/
theorem toLex_lt_of_mem_pixelsBefore (hw : 0 < w) (hq : p ∈ pixelsBefore h w labels k n) :
    toLex p < toLex (k / w, k % w) := by
  rw [mem_pixelsBefore] at hq
  refine toLex_lt_of_raster_lt (Nat.mod_lt k hw) ?_
  rw [Nat.div_add_mod']
  exact hq.2.1

theorem first_lt_of_describes {s : ComponentStats} {m : Nat} (hw : 0 < w)
    (hs : s.Describes m (pixelsBefore h w labels k n)) : toLex s.first < toLex (k / w, k % w) := by
  obtain ⟨q, hq, hfq⟩ := hs.first.1
  rw [← hfq]
  exact toLex_lt_of_mem_pixelsBefore hw hq

end Pixels

/-! ## 一画素で不変条件が保たれる -/

section Run

variable {h w : Nat} {L0 roots : Array Nat} {k : Nat} {sp : SecondPass}

theorem inv_init (hsize : L0.size = h * w) {next : Nat}
    (hkey : ∀ j < h * w, L0.getD j 0 ≠ 0 → keyOf L0 roots j < next) :
    Inv h w L0 roots 0 ⟨L0, Array.replicate next 0, #[]⟩ where
  labels_size := hsize
  key_lt j hj hl := by simpa using hkey j hj hl
  later _ _ := rfl
  done_zero _ hj := absurd hj (Nat.not_lt_zero _)
  done_label _ hj := absurd hj (Nat.not_lt_zero _)
  seen_iff x := by
    rw [FirstPass.getD_replicate_zero]
    simp
  compact_inj x _ hx := absurd (FirstPass.getD_replicate_zero next x) hx
  compact_le x := by
    rw [FirstPass.getD_replicate_zero]
    exact Nat.zero_le _
  compact_onto _ he := absurd he (Nat.not_lt_zero _)
  describes _ he := absurd he (Nat.not_lt_zero _)
  first_lt _ _ _ he := absurd he (Nat.not_lt_zero _)

/-- 背景の画素は何も変えない。 -/
theorem Inv.step_of_zero (hi : Inv h w L0 roots k sp) (hk : k < h * w) (h0 : L0.getD k 0 = 0) :
    Inv h w L0 roots (k + 1) (secondPassStep w roots sp k) := by
  have hl : sp.labels.getD k 0 = 0 := (hi.later k (Nat.le_refl k)).trans h0
  rw [secondPassStep_of_zero hl]
  refine ⟨hi.labels_size, hi.key_lt, fun j hj => hi.later j (by omega), ?_, ?_, ?_,
    hi.compact_inj, hi.compact_le, hi.compact_onto, ?_, hi.first_lt⟩
  · intro j hj hj0
    rcases Nat.lt_succ_iff_lt_or_eq.1 hj with hj | rfl
    · exact hi.done_zero j hj hj0
    · exact hl
  · intro j hj hj0
    rcases Nat.lt_succ_iff_lt_or_eq.1 hj with hj | rfl
    · exact hi.done_label j hj hj0
    · exact absurd h0 hj0
  · intro x
    rw [hi.seen_iff x]
    constructor
    · rintro ⟨j, hj, hj0, hx⟩
      exact ⟨j, by omega, hj0, hx⟩
    · rintro ⟨j, hj, hj0, hx⟩
      rcases Nat.lt_succ_iff_lt_or_eq.1 hj with hj | rfl
      · exact ⟨j, hj, hj0, hx⟩
      · exact absurd h0 hj0
  · intro e he
    rw [pixelsBefore_succ hk, hl, if_neg (Nat.succ_ne_zero e).symm]
    exact hi.describes e he

/-- 前景の画素 `k` に何を書いても、まだ見ていない画素と、見終えた背景の画素のラベルは
変わらない。 -/
theorem Inv.labels_of_set (hi : Inv h w L0 roots k sp) (hl0 : L0.getD k 0 ≠ 0) (v : Nat) :
    (∀ j, k + 1 ≤ j → (sp.labels.setIfInBounds k v).getD j 0 = L0.getD j 0) ∧
    (∀ j < k + 1, L0.getD j 0 = 0 → (sp.labels.setIfInBounds k v).getD j 0 = 0) := by
  constructor
  · intro j hj
    rw [getD_setIfInBounds_of_ne (by omega)]
    exact hi.later j (by omega)
  · intro j hj hj0
    have hjk : j ≠ k := fun hjk => hl0 (hjk ▸ hj0)
    rw [getD_setIfInBounds_of_ne hjk]
    exact hi.done_zero j (by omega) hj0

/-- 根に初めて出会った前景の画素は、新しい番号の一画素の成分になる。 -/
theorem Inv.step_of_new (hi : Inv h w L0 roots k sp) (hk : k < h * w) (hl0 : L0.getD k 0 ≠ 0)
    (hc : sp.compact.getD (keyOf L0 roots k) 0 = 0) :
    Inv h w L0 roots (k + 1) (secondPassStep w roots sp k) := by
  have hw := pos_of_lt_mul hk
  have hl : sp.labels.getD k 0 = L0.getD k 0 := hi.later k (Nat.le_refl k)
  have hx := hi.key_lt k hk hl0
  have hks : k < sp.labels.size := by rw [hi.labels_size]; exact hk
  rw [secondPassStep_of_new (by rwa [hl]) (by rw [hl]; rfl) hc hx]
  have hcompact := getD_setIfInBounds_of_lt (v := sp.components.size + 1) hx
  have hlabels := getD_setIfInBounds_of_lt (v := sp.components.size + 1) hks
  -- 見終えた画素の根に `k` の根はない：`k` の根にはまだ番号がない
  have hfresh : ∀ j < k, L0.getD j 0 ≠ 0 → keyOf L0 roots j ≠ keyOf L0 roots k := by
    intro j hj hj0 heq
    exact (hi.seen_iff _).2 ⟨j, hj, hj0, heq⟩ hc
  -- 見終えた画素のラベルは成分の数以下なので、新しい番号の画素はまだない
  have hnone : pixelsBefore h w sp.labels k (sp.components.size + 1) = ∅ := by
    refine Finset.eq_empty_of_forall_notMem fun q hq => ?_
    obtain ⟨-, hqk, hq⟩ := mem_pixelsBefore.1 hq
    by_cases hq0 : L0.getD (q.1 * w + q.2) 0 = 0
    · rw [hi.done_zero _ hqk hq0] at hq
      omega
    · have := hi.compact_le (keyOf L0 roots (q.1 * w + q.2))
      rw [hi.done_label _ hqk hq0] at hq
      omega
  have hsize : ((sp.components.push ⟨sp.components.size + 1, 0, (k / w, k / w, k % w, k % w),
      (k / w, k % w)⟩).modify sp.components.size
        (ComponentStats.addPixel (k / w) (k % w))).size = sp.components.size + 1 := by simp
  obtain ⟨hlater, hzero⟩ := hi.labels_of_set hl0 (sp.components.size + 1)
  refine ⟨by simp [hi.labels_size], fun j hj hj0 => by simpa using hi.key_lt j hj hj0, hlater,
    hzero, ?_, ?_, ?_, ?_, ?_, ?_, ?_⟩
  · -- done_label
    intro j hj hj0
    rw [hlabels, hcompact]
    by_cases hjk : j = k
    · rw [if_pos hjk, if_pos (hjk ▸ rfl)]
    · rw [if_neg hjk, if_neg (hfresh j (by omega) hj0)]
      exact hi.done_label j (by omega) hj0
  · -- seen_iff
    intro y
    rw [hcompact]
    by_cases hy : y = keyOf L0 roots k
    · rw [if_pos hy]
      exact ⟨fun _ => ⟨k, Nat.lt_succ_self k, hl0, hy.symm⟩, fun _ => Nat.succ_ne_zero _⟩
    · rw [if_neg hy, hi.seen_iff]
      constructor
      · rintro ⟨j, hj, hj0, hjy⟩
        exact ⟨j, by omega, hj0, hjy⟩
      · rintro ⟨j, hj, hj0, hjy⟩
        rcases Nat.lt_succ_iff_lt_or_eq.1 hj with hj | rfl
        · exact ⟨j, hj, hj0, hjy⟩
        · exact absurd hjy.symm hy
  · -- compact_inj
    intro y z hy hyz
    rw [hcompact, hcompact] at hyz
    rw [hcompact] at hy
    have hle := hi.compact_le y
    have hle' := hi.compact_le z
    by_cases hyk : y = keyOf L0 roots k <;> by_cases hzk : z = keyOf L0 roots k
    · rw [hyk, hzk]
    · rw [if_pos hyk, if_neg hzk] at hyz
      omega
    · rw [if_neg hyk, if_pos hzk] at hyz
      omega
    · rw [if_neg hyk, if_neg hzk] at hyz
      rw [if_neg hyk] at hy
      exact hi.compact_inj y z hy hyz
  · -- compact_le
    intro y
    rw [hcompact, hsize]
    split
    · exact Nat.le_refl _
    · exact Nat.le_succ_of_le (hi.compact_le y)
  · -- compact_onto
    intro e he
    rw [hsize] at he
    rcases Nat.lt_succ_iff_lt_or_eq.1 he with he | rfl
    · obtain ⟨y, hy⟩ := hi.compact_onto e he
      have hyk : y ≠ keyOf L0 roots k := fun hyk => by rw [hyk, hc] at hy; omega
      exact ⟨y, by rw [hcompact, if_neg hyk, hy]⟩
    · exact ⟨keyOf L0 roots k, by rw [hcompact, if_pos rfl]⟩
  · -- describes
    intro e he
    rw [getElem_modify_push, pixelsBefore_succ hk, hlabels, if_pos rfl, pixelsBefore_set]
    by_cases hen : e < sp.components.size
    · rw [dif_pos hen, if_neg (by omega)]
      exact hi.describes e hen
    · have he' : e = sp.components.size := by rw [hsize] at he; omega
      subst he'
      rw [dif_neg hen, if_pos rfl, hnone]
      exact ComponentStats.describes_new _ _ _
  · -- first_lt
    intro e e' hee he'
    have he'' : e' < sp.components.size + 1 := by simpa using he'
    rw [getElem_modify_push, getElem_modify_push, dif_pos (by omega)]
    by_cases hen : e' < sp.components.size
    · rw [dif_pos hen]
      exact hi.first_lt e e' hee hen
    · rw [dif_neg hen, ComponentStats.addPixel_first]
      exact first_lt_of_describes hw (hi.describes e (by omega))

/-- 番号の付いた根の前景の画素は、その番号の成分に加わる。 -/
theorem Inv.step_of_seen (hi : Inv h w L0 roots k sp) (hk : k < h * w) (hl0 : L0.getD k 0 ≠ 0)
    {e₀ : Nat} (hc : sp.compact.getD (keyOf L0 roots k) 0 = e₀ + 1) :
    Inv h w L0 roots (k + 1) (secondPassStep w roots sp k) := by
  have hw := pos_of_lt_mul hk
  have hl : sp.labels.getD k 0 = L0.getD k 0 := hi.later k (Nat.le_refl k)
  have hks : k < sp.labels.size := by rw [hi.labels_size]; exact hk
  have he₀ : e₀ < sp.components.size := by
    have := hi.compact_le (keyOf L0 roots k)
    omega
  rw [secondPassStep_of_seen (by rwa [hl]) (by rw [hl]; rfl) hc]
  have hlabels := getD_setIfInBounds_of_lt (v := e₀ + 1) hks
  -- `k` の根には、もう見終えた画素が出会っている
  obtain ⟨j₀, hj₀, hj₀0, hkey₀⟩ := (hi.seen_iff _).1 (by rw [hc]; exact Nat.succ_ne_zero e₀)
  obtain ⟨hlater, hzero⟩ := hi.labels_of_set hl0 (e₀ + 1)
  refine ⟨by simp [hi.labels_size], hi.key_lt, hlater, hzero, ?_, ?_, hi.compact_inj,
    by simpa using hi.compact_le, by simpa using hi.compact_onto, ?_, ?_⟩
  · -- done_label
    intro j hj hj0
    rw [hlabels]
    by_cases hjk : j = k
    · rw [if_pos hjk, hjk, hc]
    · rw [if_neg hjk]
      exact hi.done_label j (by omega) hj0
  · -- seen_iff
    intro y
    rw [hi.seen_iff]
    constructor
    · rintro ⟨j, hj, hj0, hjy⟩
      exact ⟨j, by omega, hj0, hjy⟩
    · rintro ⟨j, hj, hj0, hjy⟩
      rcases Nat.lt_succ_iff_lt_or_eq.1 hj with hj | rfl
      · exact ⟨j, hj, hj0, hjy⟩
      · exact ⟨j₀, hj₀, hj₀0, hkey₀.trans hjy⟩
  · -- describes
    intro e he
    rw [Array.getElem_modify, pixelsBefore_succ hk, hlabels, if_pos rfl, pixelsBefore_set]
    by_cases hee : e₀ = e
    · subst hee
      rw [if_pos rfl, if_pos rfl]
      refine (hi.describes e₀ he₀).addPixel (fun hmem => ?_)
        fun q hq => toLex_lt_of_mem_pixelsBefore hw hq
      have := (mem_pixelsBefore.1 hmem).2.1
      rw [Nat.div_add_mod'] at this
      exact Nat.lt_irrefl k this
    · rw [if_neg hee, if_neg (by omega)]
      exact hi.describes e (by simpa using he)
  · -- first_lt
    intro e e' hee he'
    rw [Array.getElem_modify, Array.getElem_modify]
    have he'' : e' < sp.components.size := by simpa using he'
    -- 成分に画素を加えても最初の画素は変わらない
    have hlt := hi.first_lt e e' hee he''
    split <;> split <;> simpa only [ComponentStats.addPixel_first] using hlt

/-- **一画素ごとに不変条件が保たれる。** -/
theorem Inv.step (hi : Inv h w L0 roots k sp) (hk : k < h * w) :
    Inv h w L0 roots (k + 1) (secondPassStep w roots sp k) := by
  by_cases hl0 : L0.getD k 0 = 0
  · exact hi.step_of_zero hk hl0
  · cases hc : sp.compact.getD (keyOf L0 roots k) 0 with
    | zero => exact hi.step_of_new hk hl0 hc
    | succ e₀ => exact hi.step_of_seen hk hl0 hc

/-- **走査の途中のどの時点でも不変条件が成り立つ。** -/
theorem inv_foldl (hsize : L0.size = h * w) {next : Nat}
    (hkey : ∀ j < h * w, L0.getD j 0 ≠ 0 → keyOf L0 roots j < next) (n : Nat)
    (hn : n ≤ h * w) :
    Inv h w L0 roots n
      ((List.range n).foldl (secondPassStep w roots) ⟨L0, Array.replicate next 0, #[]⟩) := by
  induction n with
  | zero => exact inv_init hsize hkey
  | succ n ih =>
    rw [List.range_succ, List.foldl_append, List.foldl_cons, List.foldl_nil]
    exact (ih (by omega)).step (by omega)

end Run

end SecondPass

end DropletVision
