import Mathlib.Data.List.DropRight
import DropletVision.Proofs.Statistics.Windows
import DropletVision.Proofs.Controller.ConfigUpdate

/-!
# 容量つきの列は、最後に空にしてから入れた値の後ろを持つ

列への操作（一つ入れる・まとめて入れる・空にする）をどう並べても、容量 `c` で作った列の中身は
最後に空にしてから入れた値のうち後ろの `max c 1` 個（古い順）で、個数は容量を超えない。値を
入れたときに押し出した値が返るのは、列が満杯だったときに限り、返るのはその時の先頭。記録の
容量を変えると、新しい方から新しい容量の数だけが順に残る。

* `RingBuffer.Op` — 列への操作。`Op.sinceClear` は最後に空にしてから入れた値の列。
* `RingBuffer.Keeps` — 列が値の列の後ろの容量分を持つという不変条件。操作一つで保たれ
  （`Keeps.perform`）、空の列で成り立つ。
* `RingBuffer.push_snd` — 入れたときに返る値は、満杯なら先頭、そうでなければ無い。
* `RawMeasurementLog.capacity_setCapacity` — 容量を変えると新しい容量（1 以上）になる。中身は
  `RawMeasurementLog.toList_setCapacity` の通り、新しい方から残る。
* `RingBuffer.keeps_last_pushed` — 主定理。

記録（`RawMeasurementLog`）の一つ記録する・まとめて記録する・空にする操作は、列への操作
そのものなので、記録の中身もこの法則に従う。
-/

namespace DropletVision

namespace RingBuffer

variable {α : Type}

/-- 列への操作。 -/
inductive Op (α : Type) where
  | push (v : α)
  | extend (vs : List α)
  | clear

namespace Op

/-- 最後に空にしてから入れた値：空にすると空に戻り、入れれば後ろに続く。 -/
def since (ds : List α) : Op α → List α
  | .push v => ds ++ [v]
  | .extend vs => ds ++ vs
  | .clear => []

/-- 操作の列の後で、最後に空にしてから入れた値。 -/
def sinceClear (ops : List (Op α)) : List α := ops.foldl since []

end Op

/-- 一つの操作を施す。押し出した値は捨てる。 -/
def perform (r : RingBuffer α) : Op α → RingBuffer α
  | .push v => (r.push v).1
  | .extend vs => r.extend vs
  | .clear => r.clear

/-- 操作の列を順に施す。 -/
def performAll (r : RingBuffer α) (ops : List (Op α)) : RingBuffer α := ops.foldl perform r

/-- 入れたときに返る値は、満杯（個数が容量に達している）なら先頭、そうでなければ無い。 -/
theorem push_snd (r : RingBuffer α) (v : α) :
    (r.push v).2 = if r.capacity ≤ r.len then r.front else none := by
  simp only [push, len, front, ge_iff_le]
  by_cases hfull : r.capacity ≤ r.items.size <;> simp [hfull]

/-- 一つ入れることは、一つの値の列を入れること。 -/
theorem push_fst_eq_extend (r : RingBuffer α) (v : α) : (r.push v).1 = r.extend [v] := rfl

/-- 容量は `max c 1` で、中身は値の列 `ds` の後ろの `max c 1` 個。 -/
structure Keeps (c : Nat) (ds : List α) (r : RingBuffer α) : Prop where
  capacity_eq : r.capacity = max c 1
  toList_eq : r.toList = ds.rtake (max c 1)

theorem keeps_new (c : Nat) : (new c : RingBuffer α).Keeps c [] := ⟨rfl, by rw [List.rtake_nil]; rfl⟩

variable {c : Nat} {ds : List α} {r : RingBuffer α}

/-- 値の列の後ろを持つ列の個数は、容量と値の数の小さい方。 -/
theorem Keeps.len_eq (h : r.Keeps c ds) : r.len = min (max c 1) ds.length := by
  rw [len_eq_length, h.toList_eq, List.rtake, List.length_drop]
  omega

theorem Keeps.bounded (h : r.Keeps c ds) : r.Bounded :=
  ⟨by rw [h.capacity_eq]; exact Nat.le_max_right c 1,
   by rw [h.len_eq, h.capacity_eq]; exact Nat.min_le_left _ _⟩

/-- まとめて入れた値は、値の列の後ろに続く。 -/
theorem Keeps.extend (h : r.Keeps c ds) (vs : List α) : (r.extend vs).Keeps c (ds ++ vs) := by
  have hc : 1 ≤ r.capacity := h.bounded.pos
  have hw : r.toList = ds.drop (ds.length - r.capacity) := by
    rw [h.toList_eq, h.capacity_eq]
    rfl
  refine ⟨by rw [capacity_extend, h.capacity_eq], ?_⟩
  rw [toList_extend_window hc hw, h.capacity_eq]
  rfl

/-- **一歩。** どの操作も、列が「最後に空にしてから入れた値」の後ろを持つことを保つ。 -/
theorem Keeps.perform (h : r.Keeps c ds) (op : Op α) : (r.perform op).Keeps c (op.since ds) := by
  cases op with
  | push v => rw [RingBuffer.perform, push_fst_eq_extend]; exact h.extend [v]
  | extend vs => exact h.extend vs
  | clear =>
    exact ⟨by rw [RingBuffer.perform, capacity_clear, h.capacity_eq],
      by rw [RingBuffer.perform, toList_clear, Op.since, List.rtake_nil]⟩

/-- **実行。** 操作の列を通しても保たれる。 -/
theorem Keeps.performAll (h : r.Keeps c ds) (ops : List (Op α)) :
    (r.performAll ops).Keeps c (ops.foldl Op.since ds) := by
  induction ops generalizing r ds with
  | nil => exact h
  | cons op ops ih => exact ih (h.perform op)

/-- 満杯の列に入れたときに限り、先頭の値が押し出されて返る。 -/
theorem Bounded.push_snd_eq_some (h : r.Bounded) (v x : α) :
    (r.push v).2 = some x ↔ r.len = r.capacity ∧ r.front = some x := by
  have hl := h.len_le
  rw [push_snd]
  constructor
  · intro hx
    -- 満杯でなければ何も返らないので、返ったなら満杯
    by_cases hfull : r.capacity ≤ r.len
    · rw [if_pos hfull] at hx
      exact ⟨by omega, hx⟩
    · rw [if_neg hfull] at hx
      cases hx
  · rintro ⟨hfull, hx⟩
    rw [if_pos (by omega), hx]

end RingBuffer

namespace RawMeasurementLog

variable {l : RawMeasurementLog}

/-- 容量を変えた記録の容量は、新しい容量を 1 以上に切り上げたもの。 -/
theorem capacity_setCapacity (h : l.records.Bounded) (n : Nat) :
    (l.setCapacity n).capacity = max n 1 := by
  unfold setCapacity
  split
  · rename_i hn
    have hn : n = l.capacity := by simpa using hn
    have hp := h.pos
    unfold capacity at hn ⊢
    omega
  · simp [capacity]

end RawMeasurementLog

namespace RingBuffer

/-- **容量つきの列の法則。** 容量 `c` の空の列にどんな操作の列を施しても、

* 中身は、最後に空にしてから入れた値の後ろの `max c 1` 個（古い順）で、個数はそれと容量の
  小さい方、したがって容量 `max c 1` を超えない。
* 次に値を入れたとき、押し出された値 `x` が返るのは、列が満杯で `x` が先頭だったときに限る。
* この列を持つ記録の容量を `n` に変えると、新しい方から `max n 1` 個が古い順に残り、
  容量は `max n 1` になる。 -/
theorem keeps_last_pushed (c : Nat) (ops : List (Op α)) :
    ((new c).performAll ops).toList = (Op.sinceClear ops).rtake (max c 1) ∧
    ((new c : RingBuffer α).performAll ops).len = min (max c 1) (Op.sinceClear ops).length ∧
    ((new c : RingBuffer α).performAll ops).len ≤ max c 1 ∧
    (∀ v x : α, (((new c).performAll ops).push v).2 = some x ↔
      ((new c : RingBuffer α).performAll ops).len = max c 1 ∧
        ((new c).performAll ops).front = some x) ∧
    ∀ (c' n : Nat) (logOps : List (Op RawRecord)),
      (RawMeasurementLog.setCapacity ⟨(new c').performAll logOps⟩ n).toList =
        ((new c').performAll logOps).toList.rtake (max n 1) ∧
      (RawMeasurementLog.setCapacity ⟨(new c').performAll logOps⟩ n).capacity = max n 1 := by
  have hk := (keeps_new (α := α) c).performAll ops
  refine ⟨hk.toList_eq, hk.len_eq, ?_, ?_, ?_⟩
  · rw [hk.len_eq]
    exact Nat.min_le_left _ _
  · intro v x
    rw [hk.bounded.push_snd_eq_some, hk.capacity_eq]
  · intro c' n logOps
    have hb := ((keeps_new (α := RawRecord) c').performAll logOps).bounded
    exact ⟨RawMeasurementLog.toList_setCapacity hb n, RawMeasurementLog.capacity_setCapacity hb n⟩

end RingBuffer

end DropletVision
