/-!
# 容量つきの先入れ先出しの列

容量（1 以上に切り上げ）を超えて入れると最も古い値を押し出す列。

* `push` — 満杯なら先頭を取り除いてから末尾に足し、取り除いた値を返す。
* `pop` — 先頭を取り出す。
* 中身はいつも、最後に空にしてから入れた値のうち新しい方から容量の数だけ（古い順）。
-/

namespace DropletVision

/-- 容量つきの列。 -/
structure RingBuffer (α : Type) where
  items : Array α
  capacity : Nat
  deriving Repr

namespace RingBuffer

variable {α : Type}

/-- 空の列。容量は 1 以上に切り上げる。 -/
def new (capacity : Nat) : RingBuffer α := ⟨#[], max capacity 1⟩

/-- 値を足す。満杯なら押し出した値を返す。 -/
def push (r : RingBuffer α) (v : α) : RingBuffer α × Option α :=
  if r.items.size ≥ r.capacity then
    (⟨(r.items.extract 1 r.items.size).push v, r.capacity⟩, r.items[0]?)
  else (⟨r.items.push v, r.capacity⟩, none)

/-- 値を順に足す。 -/
def extend (r : RingBuffer α) (vs : List α) : RingBuffer α :=
  vs.foldl (fun r v => (r.push v).1) r

/-- 個数。 -/
def len (r : RingBuffer α) : Nat := r.items.size

/-- 空か。 -/
def isEmpty (r : RingBuffer α) : Bool := r.items.isEmpty

/-- 最も古い値を取り出す。空なら `none` で、列はそのまま。 -/
def pop (r : RingBuffer α) : RingBuffer α × Option α :=
  (⟨r.items.extract 1 r.items.size, r.capacity⟩, r.items[0]?)

/-- 空にする。 -/
def clear (r : RingBuffer α) : RingBuffer α := ⟨#[], r.capacity⟩

/-- 最も古い値。 -/
def front (r : RingBuffer α) : Option α := r.items[0]?

/-- 最も新しい値。 -/
def back (r : RingBuffer α) : Option α := r.items.back?

/-- 古い順の中身。 -/
def toList (r : RingBuffer α) : List α := r.items.toList

end RingBuffer

end DropletVision
