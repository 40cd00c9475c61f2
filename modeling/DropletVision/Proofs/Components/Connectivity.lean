import Mathlib.Logic.Relation
import DropletVision.Mask

/-!
# 8 近傍の連結

二値の平面の前景の画素が 8 近傍の道でつながることを述べる。ラベル付けの正しさはこの言葉で言う。
画素は `(行, 列)` の組で、行優先の番号は `行 * 幅 + 列`。

* `Adjacent` — 異なる二つの画素で、行と列の差がともに 1 以下。
* `Mask.Joined` — 前景の画素だけを通る 8 近傍の道でつながる。
* `Mask.LinkedBefore` — 行優先の番号が `k` より前の前景の画素だけを通ってつながる。
  一回目の走査は、これを `k` ごとにラベルの根で言い表す。
* `earlier_adjacent_cases` — 行優先で前にある 8 近傍は、左・左上・上・右上のどれか。
-/

namespace DropletVision

/-- 8 近傍：異なる二つの画素 `(行, 列)` で、行と列の差がともに 1 以下。 -/
def Adjacent (p q : Nat × Nat) : Prop :=
  p ≠ q ∧ p.1 ≤ q.1 + 1 ∧ q.1 ≤ p.1 + 1 ∧ p.2 ≤ q.2 + 1 ∧ q.2 ≤ p.2 + 1

theorem Adjacent.symm {p q : Nat × Nat} (h : Adjacent p q) : Adjacent q p := by
  obtain ⟨hne, h1, h2, h3, h4⟩ := h
  exact ⟨Ne.symm hne, h2, h1, h4, h3⟩

/-! ## 行優先の番号 -/

section Raster

variable {w r c : Nat}

@[simp] theorem raster_div (hc : c < w) : (r * w + c) / w = r := by
  rw [Nat.add_comm, Nat.add_mul_div_right _ _ (Nat.lt_of_le_of_lt (Nat.zero_le c) hc),
    Nat.div_eq_of_lt hc, Nat.zero_add]

@[simp] theorem raster_mod (hc : c < w) : (r * w + c) % w = c := by
  rw [Nat.add_comm, Nat.add_mul_mod_self_right, Nat.mod_eq_of_lt hc]

/-- 列が幅より小さい画素は、行優先の番号で決まる。 -/
theorem eq_of_raster_eq {p : Nat × Nat} {i : Nat} (hp : p.2 < w) (h : p.1 * w + p.2 = i) :
    p = (i / w, i % w) := by
  subst h
  rw [raster_div hp, raster_mod hp]

theorem pos_of_lt_mul {h k : Nat} (hk : k < h * w) : 0 < w :=
  Nat.pos_of_ne_zero fun h0 => by rw [h0, Nat.mul_zero] at hk; exact Nat.not_lt_zero k hk

/-- 番号が `高さ * 幅` より小さければ、その画素は平面の中にある。 -/
theorem grid_of_lt_mul {h k : Nat} (hk : k < h * w) : k / w < h ∧ k % w < w :=
  ⟨Nat.div_lt_of_lt_mul (by rwa [Nat.mul_comm]), Nat.mod_lt k (pos_of_lt_mul hk)⟩

theorem raster_lt_mul {h : Nat} (hr : r < h) (hc : c < w) : r * w + c < h * w :=
  calc r * w + c < r * w + w := Nat.add_lt_add_left hc _
    _ = (r + 1) * w := (Nat.succ_mul r w).symm
    _ ≤ h * w := Nat.mul_le_mul_right w hr

/-- **行優先で前にある 8 近傍は、左・左上・上・右上のどれか。** -/
theorem earlier_adjacent_cases {b : Nat × Nat} (hbw : b.2 < w) (hcw : c < w)
    (hb : b.1 * w + b.2 < r * w + c) (hadj : Adjacent b (r, c)) :
    (0 < c ∧ b = (r, c - 1)) ∨ (0 < r ∧ 0 < c ∧ b = (r - 1, c - 1)) ∨
      (0 < r ∧ b = (r - 1, c)) ∨ (0 < r ∧ c + 1 < w ∧ b = (r - 1, c + 1)) := by
  obtain ⟨b1, b2⟩ := b
  obtain ⟨hne, h1, h2, h3, h4⟩ := hadj
  simp only [ne_eq, Prod.mk.injEq] at hne h1 h2 h3 h4 hbw hb ⊢
  rcases Nat.lt_trichotomy b1 r with hlt | rfl | hgt
  · -- 一つ上の行：左上・上・右上
    obtain rfl : r = b1 + 1 := by omega
    rw [Nat.succ_mul] at hb
    rcases Nat.lt_trichotomy b2 c with h | rfl | h <;> omega
  · -- 同じ行：左
    omega
  · -- 下の行は行優先で後
    obtain rfl : b1 = r + 1 := by omega
    rw [Nat.succ_mul] at hb
    omega

end Raster

namespace Mask

variable {m : Mask} {k k' r c : Nat} {p q : Nat × Nat}

theorem lt_of_get (h : m.get r c = true) : r < m.height ∧ c < m.width := by
  simp only [Mask.get, Bool.and_eq_true, decide_eq_true_eq] at h
  exact h.1

/-! ## 道 -/

/-- 行優先の番号が `k` より前の、前景の画素どうしの 8 近傍の一歩。 -/
def StepBefore (m : Mask) (k : Nat) (p q : Nat × Nat) : Prop :=
  p.1 * m.width + p.2 < k ∧ q.1 * m.width + q.2 < k ∧ m.get p.1 p.2 = true ∧
    m.get q.1 q.2 = true ∧ Adjacent p q

/-- 行優先の番号が `k` より前の前景の画素だけを通る 8 近傍の道でつながる。 -/
def LinkedBefore (m : Mask) (k : Nat) : Nat × Nat → Nat × Nat → Prop :=
  Relation.ReflTransGen (m.StepBefore k)

/-- 前景の画素だけを通る 8 近傍の道でつながる。 -/
def Joined (m : Mask) : Nat × Nat → Nat × Nat → Prop :=
  Relation.ReflTransGen (fun p q => m.get p.1 p.2 = true ∧ m.get q.1 q.2 = true ∧ Adjacent p q)

theorem StepBefore.symm (h : m.StepBefore k p q) : m.StepBefore k q p := by
  obtain ⟨hp, hq, gp, gq, hadj⟩ := h
  exact ⟨hq, hp, gq, gp, hadj.symm⟩

theorem LinkedBefore.symm (h : m.LinkedBefore k p q) : m.LinkedBefore k q p := by
  induction h with
  | refl => exact Relation.ReflTransGen.refl
  | tail _ hs ih => exact Relation.ReflTransGen.head hs.symm ih

theorem LinkedBefore.trans {s : Nat × Nat} (h₁ : m.LinkedBefore k p q)
    (h₂ : m.LinkedBefore k q s) : m.LinkedBefore k p s :=
  Relation.ReflTransGen.trans h₁ h₂

theorem LinkedBefore.mono (hk : k ≤ k') (h : m.LinkedBefore k p q) : m.LinkedBefore k' p q := by
  refine Relation.ReflTransGen.mono (fun a b hab => ?_) p q h
  obtain ⟨ha, hb, rest⟩ := hab
  exact ⟨by omega, by omega, rest⟩

/-- 前景の画素はどれも平面の中にあるので、全体を通る道は番号 `高さ * 幅` より前を通る。 -/
theorem joined_iff_linkedBefore : m.Joined p q ↔ m.LinkedBefore (m.height * m.width) p q := by
  constructor
  · refine Relation.ReflTransGen.mono (fun a b hab => ?_) p q
    obtain ⟨ga, gb, hadj⟩ := hab
    exact ⟨raster_lt_mul (lt_of_get ga).1 (lt_of_get ga).2,
      raster_lt_mul (lt_of_get gb).1 (lt_of_get gb).2, ga, gb, hadj⟩
  · exact Relation.ReflTransGen.mono (fun _ _ hab => hab.2.2) p q

/-- 一歩ごとに変わらない値は、道の両端で等しい。 -/
theorem LinkedBefore.eq_of_step {α : Type} {f : Nat × Nat → α}
    (hf : ∀ a b, m.StepBefore k a b → f a = f b) (h : m.LinkedBefore k p q) : f p = f q := by
  induction h with
  | refl => rfl
  | tail _ hs ih => exact ih.trans (hf _ _ hs)

/-- 番号 `k + 1` より前で、番号 `k` の画素でなければ、`k` より前。 -/
theorem raster_lt_of_ne (hp : p.2 < m.width) (hlt : p.1 * m.width + p.2 < k + 1)
    (hne : p ≠ (k / m.width, k % m.width)) : p.1 * m.width + p.2 < k :=
  Nat.lt_of_le_of_ne (Nat.le_of_lt_succ hlt) fun heq => hne (eq_of_raster_eq hp heq)

/-- 番号 `k + 1` より前の一歩は、`k` より前の一歩か、番号 `k` の画素と、その前にある隣との一歩。 -/
theorem StepBefore.succ_cases {a b : Nat × Nat} (h : m.StepBefore (k + 1) a b) :
    (a ≠ (k / m.width, k % m.width) ∧ b ≠ (k / m.width, k % m.width) ∧ m.StepBefore k a b) ∨
    (a = (k / m.width, k % m.width) ∧ m.get b.1 b.2 = true ∧ b.1 * m.width + b.2 < k ∧
      Adjacent b (k / m.width, k % m.width)) ∨
    (b = (k / m.width, k % m.width) ∧ m.get a.1 a.2 = true ∧ a.1 * m.width + a.2 < k ∧
      Adjacent a (k / m.width, k % m.width)) := by
  obtain ⟨ha, hb, ga, gb, hadj⟩ := h
  by_cases hak : a = (k / m.width, k % m.width)
  · have hbk : b ≠ (k / m.width, k % m.width) := fun hbk => hadj.1 (hak.trans hbk.symm)
    refine Or.inr (Or.inl ⟨hak, gb, raster_lt_of_ne (lt_of_get gb).2 hb hbk, ?_⟩)
    rw [← hak]
    exact hadj.symm
  · by_cases hbk : b = (k / m.width, k % m.width)
    · refine Or.inr (Or.inr ⟨hbk, ga, raster_lt_of_ne (lt_of_get ga).2 ha hak, ?_⟩)
      rw [← hbk]
      exact hadj
    · exact Or.inl ⟨hak, hbk, raster_lt_of_ne (lt_of_get ga).2 ha hak,
        raster_lt_of_ne (lt_of_get gb).2 hb hbk, ga, gb, hadj⟩

/-- 番号 `k` の画素が背景なら、`k` までの道と `k` より前の道は同じ。 -/
theorem linkedBefore_succ_iff_of_not_get (hk : m.get (k / m.width) (k % m.width) = false) :
    m.LinkedBefore (k + 1) p q ↔ m.LinkedBefore k p q := by
  -- 番号 `k` の画素は背景なので、番号 `k + 1` より前の前景の画素は `k` より前にある
  have hlt : ∀ a : Nat × Nat, m.get a.1 a.2 = true → a.1 * m.width + a.2 < k + 1 →
      a.1 * m.width + a.2 < k := by
    intro a ga ha
    refine raster_lt_of_ne (lt_of_get ga).2 ha fun hak => ?_
    rw [hak, hk] at ga
    cases ga
  constructor
  · refine Relation.ReflTransGen.mono (fun a b hab => ?_) p q
    obtain ⟨ha, hb, ga, gb, hadj⟩ := hab
    exact ⟨hlt a ga ha, hlt b gb hb, ga, gb, hadj⟩
  · exact LinkedBefore.mono (Nat.le_succ k)

end Mask

end DropletVision
