import DropletVision.Buffer.Ring
import Mathlib.Data.List.Basic

/-!
# 容量つきの列の中身

古い順の中身 `toList` を通して、列への操作が何をするかを述べる。

* `toList_push` — 満杯なら先頭を落としてから末尾に足す。`toList_pop` — 先頭を取り出す。
* `Bounded` — 容量は 1 以上で、個数は容量を超えない。空の列から始めればいつも成り立つ。
* `toList_extend` — `Bounded` な列に値を順に足すと、中身は「もとの中身に足した値を続けた列」の
  後ろの容量の数だけになる。
-/

namespace DropletVision

namespace RingBuffer

variable {α : Type} (r : RingBuffer α) (v : α) (vs : List α)

@[simp] theorem toList_new (c : Nat) : (new c : RingBuffer α).toList = [] := rfl

@[simp] theorem capacity_new (c : Nat) : (new c : RingBuffer α).capacity = max c 1 := rfl

@[simp] theorem toList_clear : r.clear.toList = [] := rfl

@[simp] theorem capacity_clear : r.clear.capacity = r.capacity := rfl

theorem len_eq_length : r.len = r.toList.length := by
  simp [len, toList]

@[simp] theorem capacity_push : (r.push v).1.capacity = r.capacity := by
  unfold push
  split <;> rfl

/-- 満杯なら先頭を落としてから末尾に足す。 -/
theorem toList_push :
    (r.push v).1.toList = (if r.capacity ≤ r.len then r.toList.tail else r.toList) ++ [v] := by
  unfold push toList len
  split
  · rename_i hfull
    simp only [Array.toList_push, Array.toList_extract, List.extract_eq_take_drop]
    rw [List.take_of_length_le (by simp)]
    simp
  · simp

/-- 一つ足しても、個数は高々一つしか増えない。 -/
theorem len_push_le : (r.push v).1.len ≤ r.len + 1 := by
  rw [len_eq_length, toList_push, len_eq_length]
  split <;> simp

@[simp] theorem capacity_extend : (r.extend vs).capacity = r.capacity := by
  induction vs generalizing r with
  | nil => rfl
  | cons w ws ih => simp [extend, List.foldl_cons] at ih ⊢; rw [ih, capacity_push]

@[simp] theorem capacity_pop : r.pop.1.capacity = r.capacity := rfl

/-- 取り出すと先頭が抜ける。 -/
@[simp] theorem toList_pop : r.pop.1.toList = r.toList.tail := by
  simp only [pop, toList, Array.toList_extract, List.extract_eq_take_drop, List.drop_one]
  exact List.take_of_length_le (by simp)

/-- 取り出す値は先頭。 -/
@[simp] theorem pop_snd : r.pop.2 = r.toList.head? := by
  simp only [pop, toList]
  rw [← Array.getElem?_toList, List.head?_eq_getElem?]

theorem extend_cons (w : α) (ws : List α) : r.extend (w :: ws) = (r.push w).1.extend ws := rfl

/-- 容量は 1 以上で、個数は容量を超えない。 -/
structure Bounded (r : RingBuffer α) : Prop where
  pos : 1 ≤ r.capacity
  len_le : r.len ≤ r.capacity

theorem bounded_new (c : Nat) : (new c : RingBuffer α).Bounded :=
  ⟨Nat.le_max_right c 1, by simp [len_eq_length]⟩

variable {r}

theorem Bounded.clear (h : r.Bounded) : r.clear.Bounded :=
  ⟨h.pos, by simp [len_eq_length]⟩

/-- 一つ足すと、個数は一つ増えて容量で止まる。 -/
theorem Bounded.len_push (h : r.Bounded) : (r.push v).1.len = min (r.len + 1) r.capacity := by
  have hl := h.len_le
  have hp := h.pos
  rw [len_eq_length, toList_push]
  rw [len_eq_length] at hl ⊢
  split
  · simp only [List.length_append, List.length_tail, List.length_singleton]
    omega
  · simp only [List.length_append, List.length_singleton]
    omega

theorem Bounded.push (h : r.Bounded) : (r.push v).1.Bounded :=
  ⟨by rw [capacity_push]; exact h.pos, by rw [h.len_push, capacity_push]; omega⟩

theorem Bounded.pop (h : r.Bounded) : r.pop.1.Bounded := by
  refine ⟨h.pos, ?_⟩
  have hl := h.len_le
  rw [len_eq_length] at hl ⊢
  simp only [toList_pop, List.length_tail, capacity_pop]
  omega

theorem Bounded.extend (h : r.Bounded) : (r.extend vs).Bounded := by
  induction vs generalizing r with
  | nil => exact h
  | cons w ws ih => exact ih (h.push w)

/-- 値を順に足すと、中身はもとの中身に足した値を続けた列の後ろの、容量の数だけになる。 -/
theorem toList_extend (h : r.Bounded) :
    (r.extend vs).toList = (r.toList ++ vs).drop (r.len + vs.length - r.capacity) := by
  induction vs generalizing r with
  | nil =>
    have hz : r.len - r.capacity = 0 := by have := h.len_le; omega
    simp [extend, hz]
  | cons w ws ih =>
    rw [extend_cons, ih (h.push w), toList_push, h.len_push, capacity_push]
    have hl := h.len_le
    have hp := h.pos
    split
    · -- 満杯：先頭を一つ落としてから続ける
      rename_i hfull
      have hne : r.toList ≠ [] := by
        intro he
        rw [len_eq_length, he] at hfull
        simp at hfull
        omega
      have hdrop : r.toList.tail = r.toList.drop 1 := by simp
      rw [hdrop, List.append_assoc, ← List.drop_append_of_le_length
        (List.length_pos_iff.mpr hne), List.drop_drop]
      simp only [List.length_cons, List.singleton_append]
      congr 1
      omega
    · simp only [List.append_assoc, List.singleton_append, List.length_cons]
      congr 1
      omega

/-- 足した分だけしか増えない。 -/
theorem len_extend_le (h : r.Bounded) : (r.extend vs).len ≤ r.len + vs.length := by
  rw [len_eq_length, toList_extend vs h, len_eq_length]
  simp

end RingBuffer

end DropletVision
