import DropletVision.Proofs.Components.UnionFind
import DropletVision.Proofs.Components.Connectivity

/-!
# 一回目の走査

行優先で画素を見ていく一回目の走査が、見終えた画素について保つこと（`FirstPass.Inv`）：
0 でないラベルを持つのは見終えた前景の画素だけで、見終えた前景の二つの画素のラベルの根が
同じなのは、見終えた前景の画素だけを通ってつながるとき。

* `firstPassStep_of_not_get`, `firstPassStep_of_isolated`, `firstPassStep_of_neighbours` —
  一画素でできることの三通り。
* `mem_neighbourLabels` — 近傍のラベルは、行優先で前にある隣の前景の画素のラベル。
* `Inv.step` — 一画素ごとに不変条件が保たれる。
* `inv_firstPass` — 走査の全体で保たれる。
-/

namespace DropletVision

namespace FirstPass

/-- 画素 `p = (行, 列)` の仮のラベル。 -/
def labelOf (st : FirstPass) (w : Nat) (p : Nat × Nat) : Nat := st.labels.getD (p.1 * w + p.2) 0

/-- 番号 `i` の画素の左・左上・上・右上のラベルのうち 0 でないもの。 -/
def neighbourLabels (m : Mask) (st : FirstPass) (i : Nat) : List Nat :=
  let w := m.width
  let row := i / w
  let col := i % w
  [if col > 0 then st.labelOf w (row, col - 1) else 0,
   if row > 0 && col > 0 then st.labelOf w (row - 1, col - 1) else 0,
   if row > 0 then st.labelOf w (row - 1, col) else 0,
   if row > 0 && col + 1 < w then st.labelOf w (row - 1, col + 1) else 0].filter (· > 0)

/-- 走査の始めの状態：ラベルはすべて 0、親の表はラベル 0 だけ。 -/
def init (m : Mask) : FirstPass := ⟨Array.replicate (m.height * m.width) 0, #[0], 1⟩

variable {m : Mask} {st : FirstPass} {i k : Nat}

/-! ## 一画素でできること -/

theorem firstPassStep_of_not_get (h : m.get (i / m.width) (i % m.width) = false) :
    firstPassStep m st i = st := by
  simp [firstPassStep, h]

theorem firstPassStep_of_isolated (h : m.get (i / m.width) (i % m.width) = true)
    (hn : neighbourLabels m st i = []) :
    firstPassStep m st i =
      ⟨st.labels.setIfInBounds i st.next, st.parent.push st.next, st.next + 1⟩ := by
  have hn' : (neighbourLabels m st i).min? = none := by rw [hn]; rfl
  simp only [neighbourLabels, labelOf] at hn'
  simp only [firstPassStep, h, Bool.not_true, Bool.false_eq_true, ↓reduceIte]
  rw [hn']

theorem firstPassStep_of_neighbours (h : m.get (i / m.width) (i % m.width) = true) {least : Nat}
    (hn : (neighbourLabels m st i).min? = some least) :
    firstPassStep m st i =
      { st with
        labels := st.labels.setIfInBounds i least
        parent := ((neighbourLabels m st i).filter (· != least)).foldl
          (fun p l => unionLabels p st.next least l) st.parent } := by
  simp only [neighbourLabels, labelOf] at hn ⊢
  simp only [firstPassStep, h, Bool.not_true, Bool.false_eq_true, ↓reduceIte]
  rw [hn]

/-- **近傍のラベルは、行優先で前にある隣の前景の画素のラベル。** 0 でないラベルを持つのが
番号 `i` より前の前景の画素だけであるとき。 -/
theorem mem_neighbourLabels (hw : 0 < m.width)
    (hmark : ∀ p : Nat × Nat, p.2 < m.width →
      (st.labelOf m.width p ≠ 0 ↔ p.1 * m.width + p.2 < i ∧ m.get p.1 p.2 = true)) {l : Nat} :
    l ∈ neighbourLabels m st i ↔ ∃ b : Nat × Nat, m.get b.1 b.2 = true ∧
      b.1 * m.width + b.2 < i ∧ Adjacent b (i / m.width, i % m.width) ∧
      st.labelOf m.width b = l := by
  have hc : i % m.width < m.width := Nat.mod_lt _ hw
  have hi : i / m.width * m.width + i % m.width = i := Nat.div_add_mod' i m.width
  simp only [neighbourLabels, List.mem_filter, List.mem_cons, List.not_mem_nil, or_false,
    decide_eq_true_eq]
  constructor
  · rintro ⟨hl, hpos⟩
    -- 0 でないラベルを持つ隣は、見終えた前景の画素
    have found : ∀ b : Nat × Nat, b.2 < m.width → Adjacent b (i / m.width, i % m.width) →
        l = st.labelOf m.width b → ∃ b' : Nat × Nat, m.get b'.1 b'.2 = true ∧
          b'.1 * m.width + b'.2 < i ∧ Adjacent b' (i / m.width, i % m.width) ∧
          st.labelOf m.width b' = l := by
      intro b hb hadj hl
      obtain ⟨hbi, gb⟩ := (hmark b hb).1 (by omega)
      exact ⟨b, gb, hbi, hadj, hl.symm⟩
    rcases hl with hl | hl | hl | hl <;> split at hl <;> rename_i hcond <;>
      simp only [gt_iff_lt, Bool.and_eq_true, decide_eq_true_eq] at hcond
    · exact found _ (by omega) (by simp only [Adjacent, ne_eq, Prod.mk.injEq]; omega) hl
    · omega
    · exact found _ (by omega) (by simp only [Adjacent, ne_eq, Prod.mk.injEq]; omega) hl
    · omega
    · exact found _ (by omega) (by simp only [Adjacent, ne_eq, Prod.mk.injEq]; omega) hl
    · omega
    · exact found _ (by omega) (by simp only [Adjacent, ne_eq, Prod.mk.injEq]; omega) hl
    · omega
  · rintro ⟨b, gb, hbi, hadj, rfl⟩
    have hpos : 0 < st.labelOf m.width b :=
      Nat.pos_of_ne_zero ((hmark b (Mask.lt_of_get gb).2).2 ⟨hbi, gb⟩)
    refine ⟨?_, hpos⟩
    -- 前にある隣は左・左上・上・右上のどれかで、その向きの項に現れる
    rcases earlier_adjacent_cases (Mask.lt_of_get gb).2 hc (by rw [hi]; exact hbi) hadj with
      ⟨h1, rfl⟩ | ⟨h1, h2, rfl⟩ | ⟨h1, rfl⟩ | ⟨h1, h2, rfl⟩
    · exact Or.inl (if_pos h1).symm
    · exact Or.inr (Or.inl (by simp [h1, h2]))
    · exact Or.inr (Or.inr (Or.inl (if_pos h1).symm))
    · exact Or.inr (Or.inr (Or.inr (by simp [h1, h2])))

/-- 番号 `k` の画素にラベル `v` を付けた後の、各画素のラベル。 -/
theorem labelOf_of_set {v next : Nat} {parent : Array Nat} {p : Nat × Nat}
    (hk : k < st.labels.size) (hp : p.2 < m.width) :
    (⟨st.labels.setIfInBounds k v, parent, next⟩ : FirstPass).labelOf m.width p =
      if p = (k / m.width, k % m.width) then v else st.labelOf m.width p := by
  unfold labelOf
  rw [Array.getD_eq_getD_getElem?, Array.getElem?_setIfInBounds]
  by_cases heq : p = (k / m.width, k % m.width)
  · have hr : p.1 * m.width + p.2 = k := by rw [heq]; exact Nat.div_add_mod' k m.width
    rw [if_pos heq, hr, if_pos rfl, if_pos hk]
    rfl
  · have hr : k ≠ p.1 * m.width + p.2 := fun h => heq (eq_of_raster_eq hp h.symm)
    simp [hr, heq, Array.getD_eq_getD_getElem?]

/-! ## 不変条件 -/

/-- 一回目の走査で、行優先の番号が `k` より前の画素を見終えた状態が満たすこと。 -/
structure Inv (m : Mask) (k : Nat) (st : FirstPass) : Prop where
  labels_size : st.labels.size = m.height * m.width
  parent_size : st.parent.size = st.next
  next_pos : 0 < st.next
  descends : Descends st.parent
  label_lt : ∀ j, st.labels.getD j 0 < st.next
  /-- 0 でないラベルを持つのは、見終えた前景の画素だけ。 -/
  labelOf_ne_zero : ∀ p : Nat × Nat, p.2 < m.width →
    (st.labelOf m.width p ≠ 0 ↔ p.1 * m.width + p.2 < k ∧ m.get p.1 p.2 = true)
  /-- 見終えた前景の二つの画素のラベルの根が同じなのは、見終えた前景の画素だけを通って
  つながるとき。 -/
  root_eq_iff : ∀ p q : Nat × Nat, m.get p.1 p.2 = true → m.get q.1 q.2 = true →
    p.1 * m.width + p.2 < k → q.1 * m.width + q.2 < k →
    (root st.parent (st.labelOf m.width p) = root st.parent (st.labelOf m.width q) ↔
      m.LinkedBefore k p q)

/-- 一か所を書き換えた表の値は、書いた値か、もとの値。 -/
theorem getD_setIfInBounds_cases (a : Array Nat) (k v j : Nat) :
    (a.setIfInBounds k v).getD j 0 = v ∨ (a.setIfInBounds k v).getD j 0 = a.getD j 0 := by
  simp only [Array.getD_eq_getD_getElem?, Array.getElem?_setIfInBounds]
  split
  · rename_i hkj
    subst hkj
    split
    · exact Or.inl rfl
    · rename_i hk
      simp [Array.getElem?_eq_none (Nat.le_of_not_lt hk)]
  · exact Or.inr rfl

theorem getD_replicate_zero (n j : Nat) : (Array.replicate n 0).getD j 0 = 0 := by
  rw [Array.getD_eq_getD_getElem?, Array.getElem?_replicate]
  split <;> rfl

theorem inv_init (m : Mask) : Inv m 0 (init m) where
  labels_size := Array.size_replicate
  parent_size := rfl
  next_pos := Nat.one_pos
  descends := by
    intro x
    cases x <;> simp [init, Array.getD_eq_getD_getElem?]
  label_lt j := by
    rw [init, getD_replicate_zero]
    exact Nat.one_pos
  labelOf_ne_zero p _ := by
    simp only [init, labelOf, getD_replicate_zero, ne_eq, not_true_eq_false, false_iff, not_and]
    intro h
    omega
  root_eq_iff _ _ _ _ hp := absurd hp (Nat.not_lt_zero _)

/-! ## 一画素で不変条件が保たれる -/

theorem Inv.step_of_not_get (hi : Inv m k st) (hg : m.get (k / m.width) (k % m.width) = false) :
    Inv m (k + 1) (firstPassStep m st k) := by
  rw [firstPassStep_of_not_get hg]
  -- 番号 `k` の画素は背景なので、番号 `k + 1` より前の前景の画素は `k` より前にある
  have hlt : ∀ p : Nat × Nat, m.get p.1 p.2 = true → p.1 * m.width + p.2 < k + 1 →
      p.1 * m.width + p.2 < k := by
    intro p gp hp
    refine Mask.raster_lt_of_ne (Mask.lt_of_get gp).2 hp fun hpk => ?_
    rw [hpk, hg] at gp
    cases gp
  refine ⟨hi.labels_size, hi.parent_size, hi.next_pos, hi.descends, hi.label_lt, ?_, ?_⟩
  · intro p hp
    rw [hi.labelOf_ne_zero p hp]
    exact ⟨fun ⟨h1, h2⟩ => ⟨by omega, h2⟩, fun ⟨h1, h2⟩ => ⟨hlt p h2 h1, h2⟩⟩
  · intro p q gp gq hp hq
    rw [hi.root_eq_iff p q gp gq (hlt p gp hp) (hlt q gq hq), Mask.linkedBefore_succ_iff_of_not_get hg]

/-- 前景の画素 `k` に 0 でないラベルを付けると、0 でないラベルを持つのは番号 `k + 1` より前の
前景の画素だけになる。 -/
theorem Inv.labelOf_ne_zero_of_set (hi : Inv m k st) (hk : k < m.height * m.width)
    (hg : m.get (k / m.width) (k % m.width) = true) {v next : Nat} {parent : Array Nat}
    (hv : v ≠ 0) (p : Nat × Nat) (hp : p.2 < m.width) :
    (⟨st.labels.setIfInBounds k v, parent, next⟩ : FirstPass).labelOf m.width p ≠ 0 ↔
      p.1 * m.width + p.2 < k + 1 ∧ m.get p.1 p.2 = true := by
  rw [labelOf_of_set (by rw [hi.labels_size]; exact hk) hp]
  by_cases hpk : p = (k / m.width, k % m.width)
  · have hr : p.1 * m.width + p.2 = k := by rw [hpk]; exact Nat.div_add_mod' k m.width
    rw [if_pos hpk]
    exact ⟨fun _ => ⟨by omega, hpk ▸ hg⟩, fun _ => hv⟩
  · rw [if_neg hpk, hi.labelOf_ne_zero p hp]
    exact ⟨fun ⟨h1, h2⟩ => ⟨by omega, h2⟩,
      fun ⟨h1, h2⟩ => ⟨Mask.raster_lt_of_ne hp h1 hpk, h2⟩⟩

/-- 見終えた前景の隣がない画素には新しいラベルを付ける。新しいラベルはほかのどの集まりにも
属さない。 -/
theorem Inv.step_of_isolated (hi : Inv m k st) (hk : k < m.height * m.width)
    (hg : m.get (k / m.width) (k % m.width) = true) (hn : neighbourLabels m st k = []) :
    Inv m (k + 1) (firstPassStep m st k) := by
  have hw := pos_of_lt_mul hk
  rw [firstPassStep_of_isolated hg hn]
  have hget : ∀ y, (st.parent.push st.next).getD y y = st.parent.getD y y := by
    rw [← hi.parent_size]
    exact getD_push_size st.parent
  have hlabel : ∀ p : Nat × Nat, p.2 < m.width →
      (⟨st.labels.setIfInBounds k st.next, st.parent.push st.next, st.next + 1⟩ :
        FirstPass).labelOf m.width p =
        if p = (k / m.width, k % m.width) then st.next else st.labelOf m.width p :=
    fun p hp => labelOf_of_set (by rw [hi.labels_size]; exact hk) hp
  -- 新しいラベルは根で、見終えた画素の根はどれもそれより小さい
  have hnext : root st.parent st.next = st.next :=
    root_of_isRoot (by simp [IsRoot, Array.getD_eq_getD_getElem?, hi.parent_size])
  have hold : ∀ p, root st.parent (st.labelOf m.width p) < st.next := fun p =>
    Nat.lt_of_le_of_lt (root_le hi.descends) (hi.label_lt _)
  -- 画素 `k` には、見終えた前景の隣がない
  have hnone : ∀ b : Nat × Nat, m.get b.1 b.2 = true → b.1 * m.width + b.2 < k →
      ¬ Adjacent b (k / m.width, k % m.width) := by
    intro b gb hb hadj
    have hmem := (mem_neighbourLabels hw hi.labelOf_ne_zero).2 ⟨b, gb, hb, hadj, rfl⟩
    rw [hn] at hmem
    cases hmem
  refine ⟨by simp [hi.labels_size], by simp [hi.parent_size], Nat.succ_pos _,
    fun y => (hget y).symm ▸ hi.descends y, ?_,
    hi.labelOf_ne_zero_of_set hk hg (Nat.pos_iff_ne_zero.1 hi.next_pos), ?_⟩
  · intro j
    rcases getD_setIfInBounds_cases st.labels k st.next j with h | h <;> rw [h]
    · exact Nat.lt_succ_self _
    · exact Nat.lt_succ_of_lt (hi.label_lt j)
  · intro p q gp gq hp hq
    simp only
    rw [root_congr hget, root_congr hget, hlabel p (Mask.lt_of_get gp).2,
      hlabel q (Mask.lt_of_get gq).2]
    constructor
    · -- 根が同じなら、どちらも画素 `k` か、どちらも `k` より前でつながっている
      intro h
      by_cases hpk : p = (k / m.width, k % m.width) <;>
        by_cases hqk : q = (k / m.width, k % m.width)
      · rw [hpk, hqk]
        exact Relation.ReflTransGen.refl
      · rw [if_pos hpk, if_neg hqk, hnext] at h
        exact absurd h (Nat.ne_of_gt (hold q))
      · rw [if_neg hpk, if_pos hqk, hnext] at h
        exact absurd h (Nat.ne_of_lt (hold p))
      · rw [if_neg hpk, if_neg hqk] at h
        exact ((hi.root_eq_iff p q gp gq (Mask.raster_lt_of_ne (Mask.lt_of_get gp).2 hp hpk)
          (Mask.raster_lt_of_ne (Mask.lt_of_get gq).2 hq hqk)).1 h).mono (Nat.le_succ k)
    · -- 画素 `k` には隣がないので、道の各一歩は `k` より前の一歩で、根を変えない
      intro h
      refine Mask.LinkedBefore.eq_of_step (f := fun a => root st.parent
        (if a = (k / m.width, k % m.width) then st.next else st.labelOf m.width a))
        (fun a b hab => ?_) h
      rcases Mask.StepBefore.succ_cases hab with ⟨hak, hbk, hab⟩ | ⟨-, gb, hb, hadj⟩ | ⟨-, ga, ha, hadj⟩
      · rw [if_neg hak, if_neg hbk]
        exact (hi.root_eq_iff a b hab.2.2.1 hab.2.2.2.1 hab.1 hab.2.1).2
          (Relation.ReflTransGen.single hab)
      · exact absurd hadj (hnone b gb hb)
      · exact absurd hadj (hnone a ga ha)

/-- 見終えた前景の隣がある画素には、隣のラベルの最小のものを付け、隣のラベルの集まりを
一つに併合する。 -/
theorem Inv.step_of_neighbours (hi : Inv m k st) (hk : k < m.height * m.width)
    (hg : m.get (k / m.width) (k % m.width) = true) {least : Nat}
    (hn : (neighbourLabels m st k).min? = some least) :
    Inv m (k + 1) (firstPassStep m st k) := by
  have hw := pos_of_lt_mul hk
  rw [firstPassStep_of_neighbours hg hn]
  have hmem : ∀ l, l ∈ neighbourLabels m st k ↔ ∃ b : Nat × Nat, m.get b.1 b.2 = true ∧
      b.1 * m.width + b.2 < k ∧ Adjacent b (k / m.width, k % m.width) ∧
      st.labelOf m.width b = l :=
    fun _ => mem_neighbourLabels hw hi.labelOf_ne_zero
  have hleast : least ∈ neighbourLabels m st k := List.min?_mem hn
  have hlt : ∀ l ∈ neighbourLabels m st k, l < st.next := by
    intro l hl
    obtain ⟨b, -, -, -, rfl⟩ := (hmem l).1 hl
    exact hi.label_lt _
  have hpos : ∀ l ∈ neighbourLabels m st k, l ≠ 0 := by
    intro l hl
    obtain ⟨b, gb, hb, -, rfl⟩ := (hmem l).1 hl
    exact (hi.labelOf_ne_zero b (Mask.lt_of_get gb).2).2 ⟨hb, gb⟩
  have hls : ∀ l ∈ (neighbourLabels m st k).filter (· != least), l < st.next :=
    fun l hl => hlt l ((List.mem_filter.1 hl).1)
  have hfs : st.next ≤ st.parent.size := Nat.le_of_eq hi.parent_size.symm
  have hla := hlt least hleast
  -- 併合は集まりを分けず、隣のラベルをすべて `least` の集まりに入れ、ほかはつながない
  have hjoin : ∀ l ∈ neighbourLabels m st k,
      root (((neighbourLabels m st k).filter (· != least)).foldl
        (fun p l => unionLabels p st.next least l) st.parent) l =
      root (((neighbourLabels m st k).filter (· != least)).foldl
        (fun p l => unionLabels p st.next least l) st.parent) least := by
    intro l hl
    by_cases hle : l = least
    · rw [hle]
    · exact root_foldl_unionLabels_mem hi.descends hla hls hfs
        (List.mem_filter.2 ⟨hl, by simpa using hle⟩)
  have hsub : ∀ l ∈ least :: (neighbourLabels m st k).filter (· != least),
      l ∈ neighbourLabels m st k := by
    intro l hl
    rcases List.mem_cons.1 hl with rfl | hl
    · exact hleast
    · exact (List.mem_filter.1 hl).1
  have hks : k < st.labels.size := by rw [hi.labels_size]; exact hk
  -- 見終えた前景の画素のラベルが、隣のラベルのどれかと前から同じ集まりなら、その画素は
  -- 画素 `k` とつながる
  have hreach : ∀ u : Nat × Nat, m.get u.1 u.2 = true → u.1 * m.width + u.2 < k + 1 →
      ∀ l ∈ neighbourLabels m st k,
      root st.parent (if u = (k / m.width, k % m.width) then least else st.labelOf m.width u) =
        root st.parent l → m.LinkedBefore (k + 1) u (k / m.width, k % m.width) := by
    intro u gu hu l hl h
    obtain ⟨b, gb, hb, hadj, rfl⟩ := (hmem l).1 hl
    by_cases huk : u = (k / m.width, k % m.width)
    · rw [huk]
      exact Relation.ReflTransGen.refl
    · rw [if_neg huk] at h
      have hub := (hi.root_eq_iff u b gu gb
        (Mask.raster_lt_of_ne (Mask.lt_of_get gu).2 hu huk) hb).1 h
      refine Relation.ReflTransGen.tail (hub.mono (Nat.le_succ k)) ⟨by omega, ?_, gb, hg, hadj⟩
      rw [Nat.div_add_mod']
      exact Nat.lt_succ_self k
  refine ⟨by simp [hi.labels_size], by simp [hi.parent_size], hi.next_pos,
    descends_foldl_unionLabels hi.descends, ?_,
    hi.labelOf_ne_zero_of_set hk hg (hpos least hleast), ?_⟩
  · intro j
    rcases getD_setIfInBounds_cases st.labels k least j with h | h <;> rw [h]
    · exact hla
    · exact hi.label_lt j
  · intro p q gp gq hp hq
    simp only
    rw [labelOf_of_set hks (Mask.lt_of_get gp).2, labelOf_of_set hks (Mask.lt_of_get gq).2]
    constructor
    · intro h
      rcases root_foldl_unionLabels_eq hi.descends hla hls hfs h with
        h | ⟨⟨l₁, hl₁, h₁⟩, ⟨l₂, hl₂, h₂⟩⟩
      · -- 前から同じ集まり
        by_cases hpk : p = (k / m.width, k % m.width)
        · rw [if_pos hpk] at h
          rw [hpk]
          exact (hreach q gq hq least hleast h.symm).symm
        · by_cases hqk : q = (k / m.width, k % m.width)
          · rw [if_pos hqk] at h
            rw [hqk]
            exact hreach p gp hp least hleast h
          · rw [if_neg hpk, if_neg hqk] at h
            exact ((hi.root_eq_iff p q gp gq (Mask.raster_lt_of_ne (Mask.lt_of_get gp).2 hp hpk)
              (Mask.raster_lt_of_ne (Mask.lt_of_get gq).2 hq hqk)).1 h).mono (Nat.le_succ k)
      · -- どちらも隣のラベルの集まりにいたので、画素 `k` を通ってつながる
        exact (hreach p gp hp l₁ (hsub l₁ hl₁) h₁).trans
          (hreach q gq hq l₂ (hsub l₂ hl₂) h₂).symm
    · -- 道の各一歩で根は変わらない：`k` より前の一歩は前から、`k` との一歩は併合でつながる
      intro h
      refine Mask.LinkedBefore.eq_of_step (f := fun a => root _
        (if a = (k / m.width, k % m.width) then least else st.labelOf m.width a))
        (fun a b hab => ?_) h
      rcases Mask.StepBefore.succ_cases hab with ⟨hak, hbk, hab⟩ | ⟨hak, gb, hb, hadj⟩ |
          ⟨hbk, ga, ha, hadj⟩
      · simp only [if_neg hak, if_neg hbk]
        exact root_foldl_unionLabels_of_eq hi.descends hla hls hfs
          ((hi.root_eq_iff a b hab.2.2.1 hab.2.2.2.1 hab.1 hab.2.1).2
            (Relation.ReflTransGen.single hab))
      · have hbk : b ≠ (k / m.width, k % m.width) := fun hbk => hadj.1 hbk
        simp only [if_pos hak, if_neg hbk]
        exact (hjoin _ ((hmem _).2 ⟨b, gb, hb, hadj, rfl⟩)).symm
      · have hak : a ≠ (k / m.width, k % m.width) := fun hak => hadj.1 hak
        simp only [if_pos hbk, if_neg hak]
        exact hjoin _ ((hmem _).2 ⟨a, ga, ha, hadj, rfl⟩)

/-- **一画素ごとに不変条件が保たれる。** -/
theorem Inv.step (hi : Inv m k st) (hk : k < m.height * m.width) :
    Inv m (k + 1) (firstPassStep m st k) := by
  cases hg : m.get (k / m.width) (k % m.width)
  · exact hi.step_of_not_get hg
  · cases hn : (neighbourLabels m st k).min? with
    | none => exact hi.step_of_isolated hk hg (List.min?_eq_none_iff.1 hn)
    | some least => exact hi.step_of_neighbours hk hg hn

/-- **走査の途中のどの時点でも不変条件が成り立つ。** -/
theorem inv_foldl (m : Mask) (n : Nat) (hn : n ≤ m.height * m.width) :
    Inv m n ((List.range n).foldl (firstPassStep m) (init m)) := by
  induction n with
  | zero => exact inv_init m
  | succ n ih =>
    rw [List.range_succ, List.foldl_append, List.foldl_cons, List.foldl_nil]
    exact (ih (by omega)).step (by omega)

end FirstPass

end DropletVision
