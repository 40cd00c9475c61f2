import DropletVision.Proofs.Buffer.Ring
import DropletVision.Statistics.Histogram

/-!
# 度数分布の四つの窓は同じ液滴の列を持つ

度数分布への操作（液滴を足す・空にする・作り直す・換算を変える）をどう並べても、四つの量の
窓はいつも、最後に空にしてから（`clear` か `reconfigure` の後、無ければ作った時から）足した
液滴の列の後ろの `max windowSize 1` 個を、古い順に、それぞれの量で持つ。だから四つの窓は
同じ長さで、同じ位置の値は同じ液滴のもの。

* `RingBuffer.toList_extend_window` — 列 `ds` の後ろの容量分を持つ窓に `ms` を足すと、
  `ds ++ ms` の後ろの容量分を持つ。
* `DropletHistogram.window_update` — 液滴を足すことは、どの窓にもその量の値を順に足すこと。
* `DropletHistogram.Holds` — どの窓も液滴の列の後ろを持つという不変条件。操作一つで保たれ
  （`Holds.perform`）、作った直後に成り立つ。
* `DropletHistogram.windows_hold_last_droplets` — 主定理。

四つの窓は別々の容量つきの列なので、揃っているのは、どの操作も四つに同じことをするからである。
`window_update` が `update` の一歩を量ごとの `push` に分け、残りの操作は窓を量によらず扱う。
-/

namespace DropletVision

namespace RingBuffer

variable {α : Type} {r : RingBuffer α} {ds : List α}

/-- 列 `ds` の後ろの容量分を持つ窓に値を順に足すと、`ds` に足した値を続けた列の後ろの
容量分を持つ。 -/
theorem toList_extend_window (hc : 1 ≤ r.capacity)
    (h : r.toList = ds.drop (ds.length - r.capacity)) (ms : List α) :
    (r.extend ms).toList = (ds ++ ms).drop ((ds ++ ms).length - r.capacity) := by
  have hlen : r.len = min r.capacity ds.length := by
    rw [len_eq_length, h, List.length_drop]
    omega
  have hb : r.Bounded := ⟨hc, by rw [hlen]; exact Nat.min_le_left _ _⟩
  rw [toList_extend ms hb, h, hlen, ← List.drop_append_of_le_length (Nat.sub_le _ _),
    List.drop_drop, List.length_append]
  congr 1
  omega

end RingBuffer

/-- 度数分布への操作。 -/
inductive HistogramOp where
  /-- 一枚で見つけた液滴を足す。 -/
  | update (ms : List DropletMetrics)
  | clear
  | reconfigure (windowSize bins : Nat)
  | setPixelRatio (r : Float)

namespace HistogramOp

/-- 最後に空にしてから足した液滴：空にする操作と作り直す操作で空に戻り、足せば後ろに続く。 -/
def since (ds : List DropletMetrics) : HistogramOp → List DropletMetrics
  | .update ms => ds ++ ms
  | .clear | .reconfigure _ _ => []
  | .setPixelRatio _ => ds

/-- 操作の列の後で、最後に空にしてから足した液滴。 -/
def sinceReset (ops : List HistogramOp) : List DropletMetrics := ops.foldl since []

end HistogramOp

namespace DropletHistogram

/-- 一つの操作を施す。 -/
def perform (h : DropletHistogram) : HistogramOp → DropletHistogram
  | .update ms => h.update ms
  | .clear => h.clear
  | .reconfigure w b => h.reconfigure w b
  | .setPixelRatio r => h.setPixelRatio r

/-- 操作の列を順に施す。 -/
def performAll (h : DropletHistogram) (ops : List HistogramOp) : DropletHistogram :=
  ops.foldl perform h

variable (h : DropletHistogram) (k : Metric)

@[simp] theorem perform_update (ms : List DropletMetrics) : h.perform (.update ms) = h.update ms :=
  rfl

@[simp] theorem perform_clear : h.perform .clear = h.clear := rfl

@[simp] theorem perform_setPixelRatio (r : Float) : h.perform (.setPixelRatio r) = h.setPixelRatio r :=
  rfl

@[simp] theorem window_new (w b : Nat) (r : Float) : (new w b r).window k = .new w := by
  cases k <;> rfl

@[simp] theorem window_clear : h.clear.window k = (h.window k).clear := by
  cases k <;> rfl

@[simp] theorem window_setPixelRatio (r : Float) : (h.setPixelRatio r).window k = h.window k := by
  cases k <;> rfl

@[simp] theorem windowSize_new (w b : Nat) (r : Float) : (new w b r).windowSize = w := rfl

@[simp] theorem windowSize_clear : h.clear.windowSize = h.windowSize := rfl

@[simp] theorem windowSize_setPixelRatio (r : Float) : (h.setPixelRatio r).windowSize = h.windowSize :=
  rfl

@[simp] theorem windowSize_update (ms : List DropletMetrics) : (h.update ms).windowSize = h.windowSize := by
  induction ms generalizing h with
  | nil => rfl
  | cons m ms ih => exact ih _

/-- 液滴を足すことは、どの窓にもその量の値を液滴の順に足すこと。 -/
theorem window_update (ms : List DropletMetrics) :
    (h.update ms).window k = (h.window k).extend (ms.map k.value) := by
  induction ms generalizing h with
  | nil => rfl
  | cons m ms ih =>
    -- 一つ目の液滴を四つの窓に入れた度数分布から、残りを足す
    rw [List.map_cons, RingBuffer.extend_cons]
    refine (ih _).trans ?_
    cases k <;> rfl

/-- 液滴の列 `ds` の後ろの `max windowSize 1` 個を、どの窓もそれぞれの量で持つ。 -/
structure Holds (ds : List DropletMetrics) : Prop where
  capacity_eq : ∀ k, (h.window k).capacity = max h.windowSize 1
  toList_eq : ∀ k, (h.window k).toList = (ds.map k.value).drop (ds.length - max h.windowSize 1)

theorem holds_new (w b : Nat) (r : Float) : (new w b r).Holds [] :=
  ⟨fun k => by simp, fun k => by simp⟩

variable {h} {ds : List DropletMetrics}

/-- 足した液滴は、どの窓でも列の後ろに続く。 -/
theorem Holds.update (hh : h.Holds ds) (ms : List DropletMetrics) : (h.update ms).Holds (ds ++ ms) := by
  refine ⟨fun k => by simp [window_update, hh.capacity_eq k], fun k => ?_⟩
  have hc : 1 ≤ (h.window k).capacity := by rw [hh.capacity_eq k]; exact Nat.le_max_right _ _
  have hw : (h.window k).toList = (ds.map k.value).drop ((ds.map k.value).length -
      (h.window k).capacity) := by
    rw [hh.toList_eq k, hh.capacity_eq k, List.length_map]
  rw [window_update, RingBuffer.toList_extend_window hc hw, hh.capacity_eq k, windowSize_update,
    ← List.map_append, List.length_map]

/-- **一歩。** どの操作も、窓が「最後に空にしてから足した液滴」の後ろを持つことを保つ。 -/
theorem Holds.perform (hh : h.Holds ds) (op : HistogramOp) : (h.perform op).Holds (op.since ds) := by
  cases op with
  | update ms => exact hh.update ms
  | clear => exact ⟨fun k => by simp [hh.capacity_eq k], fun k => by simp [HistogramOp.since]⟩
  | reconfigure w b => exact holds_new w b h.pixelRatio
  | setPixelRatio r =>
    exact ⟨fun k => by simp [hh.capacity_eq k], fun k => by simp [HistogramOp.since, hh.toList_eq k]⟩

/-- **実行。** 操作の列を通しても保たれる。 -/
theorem Holds.performAll (hh : h.Holds ds) (ops : List HistogramOp) :
    (h.performAll ops).Holds (ops.foldl HistogramOp.since ds) := by
  induction ops generalizing h ds with
  | nil => exact hh
  | cons op ops ih => exact ih (hh.perform op)

/-- **四つの窓は同じ液滴の列を持つ。** 空の度数分布にどんな操作の列を施しても、最後に空にして
から足した液滴のうち後ろの `min (max windowSize 1) 個数` 個が古い順に残り、幅・高さ・直径・面積の
窓の `i` 番目は、その `i` 番目の液滴の長軸・外接矩形の短辺・等価直径・面積である。 -/
theorem windows_hold_last_droplets (w b : Nat) (r : Float) (ops : List HistogramOp) :
    ∃ kept : List DropletMetrics,
      kept = (HistogramOp.sinceReset ops).drop ((HistogramOp.sinceReset ops).length -
        max ((new w b r).performAll ops).windowSize 1) ∧
      kept.length = min (max ((new w b r).performAll ops).windowSize 1)
        (HistogramOp.sinceReset ops).length ∧
      ((new w b r).performAll ops).values .width = kept.map (·.majorAxisPx) ∧
      ((new w b r).performAll ops).values .height =
        kept.map (fun d => (min d.boundingBox.width d.boundingBox.height).toFloat) ∧
      ((new w b r).performAll ops).values .diameter = kept.map (·.equivalentDiameterPx) ∧
      ((new w b r).performAll ops).values .area = kept.map (·.areaPx) := by
  have hh := (holds_new w b r).performAll ops
  refine ⟨_, rfl, ?_, ?_, ?_, ?_, ?_⟩
  · rw [List.length_drop]
    omega
  all_goals
    rw [values, hh.toList_eq, List.map_drop]
    rfl

end DropletHistogram

end DropletVision
