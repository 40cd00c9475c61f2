import DropletVision.Contour.Trace

/-!
# 8 近傍の向き

境界の追跡が使う向きの番号 `0, …, 7`（画面上で時計回り）についての事実。

* `offset d` — 向き `d` の変位。番号は 8 を法として読む。
* `direction_stepPoint` — 向き `d` へ進んだ点への向きは `d % 8`。
* `stepPoint_eq_iff` — 同じ点から進んだ二点が同じなのは、向きが 8 を法として等しいとき。
* `stepPoint_add_four` — 向き `d` へ進んでから `d + 4` へ進むと元の点に戻る。
* `stepPoint_direction` — 異なる隣の点へは、その向きへ一歩で行ける。

変位の表は八つしかないので、表についての事実は `decide` で確かめる。
-/

namespace DropletVision

@[simp] theorem Point.beq_iff {p q : Point} : (p == q) = true ↔ p = q := by
  cases p
  cases q
  change (_ == _ && _ == _) = true ↔ _
  simp

theorem Point.ext {p q : Point} (hx : p.x = q.x) (hy : p.y = q.y) : p = q := by
  cases p
  cases q
  simp only at hx hy
  rw [hx, hy]

/-- 向き `d` の変位 `(dx, dy)`。 -/
def offset (d : Nat) : Int × Int := directions.getD (d % 8) (0, 0)

section Offset

variable {p q : Point} {d d' : Nat}

@[simp] theorem stepPoint_x : (stepPoint p d).x = p.x + (offset d).1 := rfl

@[simp] theorem stepPoint_y : (stepPoint p d).y = p.y + (offset d).2 := rfl

theorem offset_mod (d : Nat) : offset (d % 8) = offset d := by
  rw [offset, offset, Nat.mod_mod]

theorem stepPoint_mod (p : Point) (d : Nat) : stepPoint p (d % 8) = stepPoint p d := by
  rw [stepPoint, stepPoint, Nat.mod_mod]

theorem stepPoint_congr {e : Nat} (h : d % 8 = e % 8) : stepPoint p d = stepPoint p e := by
  rw [← stepPoint_mod p d, h, stepPoint_mod]

theorem offset_eq_iff : offset d = offset d' ↔ d % 8 = d' % 8 := by
  have htable : ∀ a ∈ List.range 8, ∀ b ∈ List.range 8,
      directions.getD a (0, 0) = directions.getD b (0, 0) → a = b := by decide
  refine ⟨fun h => htable _ ?_ _ ?_ h, fun h => by rw [← offset_mod d, h, offset_mod]⟩ <;>
    exact List.mem_range.2 (Nat.mod_lt _ (by decide))

theorem stepPoint_eq_iff : stepPoint p d = stepPoint p d' ↔ d % 8 = d' % 8 := by
  refine ⟨fun h => offset_eq_iff.1 ?_, stepPoint_congr⟩
  have hx := congrArg Point.x h
  have hy := congrArg Point.y h
  simp only [stepPoint_x, stepPoint_y, Int.add_right_inj] at hx hy
  exact Prod.ext hx hy

/-- 向きの変位はどれも 0 でない。 -/
theorem offset_ne_zero (d : Nat) : offset d ≠ (0, 0) := by
  have htable : ∀ a ∈ List.range 8, directions.getD a (0, 0) ≠ (0, 0) := by decide
  exact htable _ (List.mem_range.2 (Nat.mod_lt _ (by decide)))

/-- 向き `d + 4` の変位は、向き `d` の変位の逆。 -/
theorem offset_add_four (d : Nat) :
    (offset (d + 4)).1 = -(offset d).1 ∧ (offset (d + 4)).2 = -(offset d).2 := by
  have htable : ∀ a ∈ List.range 8,
      (directions.getD ((a + 4) % 8) (0, 0)).1 = -(directions.getD a (0, 0)).1 ∧
      (directions.getD ((a + 4) % 8) (0, 0)).2 = -(directions.getD a (0, 0)).2 := by decide
  have h := htable (d % 8) (List.mem_range.2 (Nat.mod_lt _ (by decide)))
  rw [show (d % 8 + 4) % 8 = (d + 4) % 8 by omega] at h
  exact h

theorem stepPoint_add_four (p : Point) (d : Nat) : stepPoint (stepPoint p d) (d + 4) = p := by
  obtain ⟨hx, hy⟩ := offset_add_four d
  apply Point.ext <;> simp only [stepPoint_x, stepPoint_y] <;> omega

/-- `p` から `q` への向きは、変位を表で引いた番号。 -/
theorem direction_eq (p q : Point) :
    direction p q = (directions.toList.findIdx? (· == (q.x - p.x, q.y - p.y))).getD west := rfl

@[simp] theorem direction_stepPoint (p : Point) (d : Nat) : direction p (stepPoint p d) = d % 8 := by
  have htable : ∀ a ∈ List.range 8,
      (directions.toList.findIdx? (· == directions.getD a (0, 0))).getD west = a := by decide
  have hd : ((stepPoint p d).x - p.x, (stepPoint p d).y - p.y) = directions.getD (d % 8) (0, 0) := by
    simp only [stepPoint_x, stepPoint_y]
    show (_, _) = ((offset d).1, (offset d).2)
    congr 1 <;> omega
  rw [direction_eq, hd]
  exact htable _ (List.mem_range.2 (Nat.mod_lt _ (by decide)))

theorem direction_lt (p q : Point) : direction p q < 8 := by
  rw [direction_eq]
  cases h : directions.toList.findIdx? (· == (q.x - p.x, q.y - p.y)) with
  | none => decide
  | some i =>
    obtain ⟨hi, -⟩ := List.findIdx?_eq_some_iff_getElem.1 h
    exact hi

theorem stepPoint_direction_stepPoint (p : Point) (d : Nat) :
    stepPoint p (direction p (stepPoint p d)) = stepPoint p d := by
  rw [direction_stepPoint, stepPoint_mod]

/-- 向き `d` へ進んだ点から元の点への向きは `d + 4`。 -/
theorem direction_stepPoint_back (p : Point) (d : Nat) :
    direction (stepPoint p d) p = (d + 4) % 8 := by
  have h := direction_stepPoint (stepPoint p d) (d + 4)
  rwa [stepPoint_add_four] at h

/-- 異なる二点の座標の差がともに 1 以下なら、一方から他方への向きへ一歩で行ける。 -/
theorem stepPoint_direction (hne : p ≠ q) (hx : p.x ≤ q.x + 1 ∧ q.x ≤ p.x + 1)
    (hy : p.y ≤ q.y + 1 ∧ q.y ≤ p.y + 1) :
    stepPoint p (direction p q) = q := by
  have htable : ∀ a ∈ [-1, 0, 1], ∀ b ∈ [-1, 0, 1], (a, b) ≠ ((0, 0) : Int × Int) →
      directions.getD ((directions.toList.findIdx? (· == (a, b))).getD west % 8) (0, 0) =
        (a, b) := by decide
  obtain ⟨px, py⟩ := p
  obtain ⟨qx, qy⟩ := q
  simp only [ne_eq, Point.mk.injEq] at hne hx hy
  have hmem : ∀ t : Int, -1 ≤ t → t ≤ 1 → t ∈ ([-1, 0, 1] : List Int) := by
    intro t h1 h2
    simp only [List.mem_cons, List.not_mem_nil, or_false]
    omega
  have h := htable _ (hmem (qx - px) (by omega) (by omega)) _ (hmem (qy - py) (by omega) (by omega)) (by
    simp only [ne_eq, Prod.mk.injEq]
    omega)
  have hx' := congrArg Prod.fst h
  have hy' := congrArg Prod.snd h
  rw [direction_eq]
  apply Point.ext <;> simp only [stepPoint_x, stepPoint_y] <;> rw [offset] <;> omega

end Offset

end DropletVision
