import Mathlib
import DropletVision.Morphology
import DropletVision.Proofs.Components.Connectivity

/-!
# 収縮と膨張を画素ごとに読む

`erode` と `dilate` は、構造要素が画像からはみ出さない内側の画素を行優先の番号のずれで調べ、
縁の画素だけを座標で一つずつ調べる。この二つの道は同じ値を与えるので、どちらも座標で読める。

* `Mask.get_ofFn` — 画素ごとに決めた平面の画素は、平面の中では決めた値、外では立っていない。
* `Mask.ofFn_congr` — 平面の中の画素で一致する二つの決め方は、同じ平面を作る。
* `StructuringElement.natAbs_le_reach` — 構造要素のずれは、どれも届く距離以内。
* `shift_index` — 内側の画素では、番号のずれは座標のずれ。
* `get_erode`、`get_dilate` — 収縮した平面の画素は、画素自身と構造要素の下の画像内の画素が
  すべて立っていること。膨張した平面の画素は、構造要素の下の画像内の画素のどれかが立っていること。

## 仕組み

`Mask.ofFn` の二重の繰り返しが押し込むバイトの列を、行ごとの列をつないだものとして書き下し
（`Mask.ofFn_toList`）、行優先の番号 `r * w + c` の位置を行についての帰納法で読む。
-/

namespace DropletVision

/-! ## 画素ごとに決めた平面 -/

theorem foldl_push_data_toList {α : Type} (g : α → UInt8) (l : List α) (b : ByteArray) :
    (l.foldl (fun b a => b.push (g a)) b).data.toList = b.data.toList ++ l.map g := by
  induction l generalizing b with
  | nil => simp
  | cons a l ih => simp [ih]

theorem foldl_rows_data_toList {α β : Type} (g : α → β → UInt8) (cols : List β) (l : List α)
    (b : ByteArray) :
    (l.foldl (fun b r => cols.foldl (fun b c => b.push (g r c)) b) b).data.toList =
      b.data.toList ++ l.flatMap (fun r => cols.map (g r)) := by
  induction l generalizing b with
  | nil => simp
  | cons a l ih => simp [ih, foldl_push_data_toList]

theorem length_flatMap_rows {α : Type} (g : Nat → Nat → α) (h w : Nat) :
    ((List.range h).flatMap (fun r => (List.range w).map (g r))).length = h * w := by
  induction h with
  | zero => simp
  | succ h ih => simp [List.range_succ, List.flatMap_append, ih, Nat.succ_mul]

/-- 行ごとの列をつないだ列の `r * w + c` 番目は、行 `r` の `c` 番目。 -/
theorem getElem?_flatMap_rows {α : Type} (g : Nat → Nat → α) {h w r c : Nat} (hr : r < h)
    (hc : c < w) :
    ((List.range h).flatMap (fun r => (List.range w).map (g r)))[r * w + c]? = some (g r c) := by
  induction h with
  | zero => omega
  | succ h ih =>
    rw [List.range_succ, List.flatMap_append]
    rcases Nat.lt_or_ge r h with hlt | hge
    · rw [List.getElem?_append_left (by rw [length_flatMap_rows]; exact raster_lt_mul hlt hc),
        ih hlt]
    · -- 最後の行
      obtain rfl : r = h := by omega
      rw [List.getElem?_append_right (by rw [length_flatMap_rows]; omega),
        length_flatMap_rows]
      simp [hc]

namespace Mask

variable {h w : Nat} {f g : Nat → Nat → Bool}

/-- 画素ごとに決めた平面のバイトは、行ごとの 0 と 1 の列をつないだもの。 -/
theorem ofFn_toList (h w : Nat) (f : Nat → Nat → Bool) :
    (ofFn h w f).bits.data.toList =
      (List.range h).flatMap (fun r => (List.range w).map (fun c => if f r c then (1 : UInt8) else 0)) := by
  simp [ofFn, Std.Legacy.Range.forIn_eq_forIn_range', List.forIn_pure_yield_eq_foldl,
    Std.Legacy.Range.size, foldl_rows_data_toList (fun r c => if f r c then (1 : UInt8) else 0),
    ← List.range_eq_range']

theorem size_ofFn (h w : Nat) (f : Nat → Nat → Bool) : (ofFn h w f).bits.size = h * w := by
  rw [← ByteArray.size_data, ← Array.length_toList, ofFn_toList, length_flatMap_rows]

@[simp] theorem height_ofFn : (ofFn h w f).height = h := rfl

@[simp] theorem width_ofFn : (ofFn h w f).width = w := rfl

@[simp] theorem get_ofFn (r c : Nat) :
    (ofFn h w f).get r c = (decide (r < h) && decide (c < w) && f r c) := by
  unfold get
  by_cases hr : r < h
  · by_cases hc : c < w
    · have hi : r * w + c < (ofFn h w f).bits.size := by
        rw [size_ofFn]
        exact raster_lt_mul hr hc
      have hget := getElem?_flatMap_rows (fun r c => if f r c then (1 : UInt8) else 0) hr hc
      rw [← ofFn_toList, Array.getElem?_toList,
        Array.getElem?_eq_getElem (by simpa using hi)] at hget
      have hb : (ofFn h w f).bits[r * w + c] = if f r c then 1 else 0 := Option.some_inj.1 hget
      cases hf : f r c <;> simp [hr, hc, hi, hb, hf]
    · simp [hc]
  · simp [hr]

/-- 平面の中の画素で一致する二つの決め方は、同じ平面を作る。 -/
theorem ofFn_congr (hfg : ∀ r < h, ∀ c < w, f r c = g r c) : ofFn h w f = ofFn h w g := by
  have hbits : (ofFn h w f).bits = (ofFn h w g).bits := by
    apply ByteArray.ext
    apply Array.toList_inj.mp
    rw [ofFn_toList, ofFn_toList]
    refine List.flatMap_congr fun r hr => List.map_congr_left fun c hc => ?_
    rw [hfg r (List.mem_range.1 hr) c (List.mem_range.1 hc)]
  show (⟨h, w, (ofFn h w f).bits⟩ : Mask) = ⟨h, w, (ofFn h w g).bits⟩
  rw [hbits]

end Mask

/-! ## 構造要素の届く距離 -/

namespace StructuringElement

theorem le_foldl_reach (l : List (Int × Int)) (init : Nat) :
    init ≤ l.foldl (fun m o => max m (max o.1.natAbs o.2.natAbs)) init ∧
      ∀ o ∈ l, o.1.natAbs ≤ l.foldl (fun m o => max m (max o.1.natAbs o.2.natAbs)) init ∧
        o.2.natAbs ≤ l.foldl (fun m o => max m (max o.1.natAbs o.2.natAbs)) init := by
  induction l generalizing init with
  | nil => simp
  | cons o l ih =>
    obtain ⟨ih1, ih2⟩ := ih (max init (max o.1.natAbs o.2.natAbs))
    simp only [List.foldl_cons, List.mem_cons, forall_eq_or_imp]
    exact ⟨by omega, ⟨by omega, by omega⟩, ih2⟩

/-- 構造要素のずれは、どれも届く距離以内。 -/
theorem natAbs_le_reach {e : StructuringElement} {o : Int × Int} (h : o ∈ e.offsets) :
    o.1.natAbs ≤ e.reach ∧ o.2.natAbs ≤ e.reach :=
  (le_foldl_reach e.offsets 0).2 o h

end StructuringElement

/-! ## 内側の画素の番号のずれ -/

/-- 届く距離 `R` 以内のずれ `(dr, dc)` は、`R` だけ内側の画素 `(row, col)` では、行優先の番号の
ずれ `R * w + R + dr * w + dc`（非負）から `R * w + R` を引いたものになる。 -/
theorem shift_index {R w row col : Nat} {dr dc : Int} (hr : R ≤ row) (hc : R ≤ col)
    (hdr : dr.natAbs ≤ R) (hdc : dc.natAbs ≤ R) :
    row * w + col + (((R * w + R : Nat) : Int) + dr * w + dc).toNat - (R * w + R) =
      (row + dr).toNat * w + (col + dc).toNat := by
  have hsplit : (((R * w + R : Nat) : Int) + dr * w + dc) = (R + dr) * w + (R + dc) := by
    push_cast
    ring
  have hdr0 : 0 ≤ (R + dr : Int) := by omega
  have hdc0 : 0 ≤ (R + dc : Int) := by omega
  have hrow : 0 ≤ (row + dr : Int) := by omega
  have hcol : 0 ≤ (col + dc : Int) := by omega
  have hnn : 0 ≤ (R + dr) * (w : Int) + (R + dc) := by positivity
  rw [hsplit]
  have hge : R * w + R ≤ row * w + col + ((R + dr) * (w : Int) + (R + dc)).toNat := by
    zify
    rw [Int.toNat_of_nonneg hnn]
    nlinarith
  zify [hge]
  rw [Int.toNat_of_nonneg hnn, Int.toNat_of_nonneg hrow, Int.toNat_of_nonneg hcol]
  ring

section Shifted

variable {m : Mask} {e : StructuringElement} {row col : Nat}

/-- 番号 `j` の画素が立っているか（バイト列の外なら立っていない）。 -/
theorem allShifted_eq (bits : ByteArray) (i base : Nat) (l : List Nat) :
    allShifted bits i base l =
      l.all (fun s => if h : i + s - base < bits.size then bits[i + s - base] != 0 else false) := by
  induction l with
  | nil => rfl
  | cons s l ih => simp only [allShifted, ih, List.all_cons]

theorem anyShifted_eq (bits : ByteArray) (i base : Nat) (l : List Nat) :
    anyShifted bits i base l =
      l.any (fun s => if h : i + s - base < bits.size then bits[i + s - base] != 0 else false) := by
  induction l with
  | nil => rfl
  | cons s l ih => simp only [anyShifted, ih, List.any_cons]

/-- 内側の画素では、番号のずれで読んだ画素は座標のずれで読んだ画素。画像の外には出ないので、
外の値 `outside` は効かない。 -/
theorem flat_eq_shiftedGet (hin : m.isInner e.reach row col = true) {o : Int × Int}
    (ho : o ∈ e.offsets) (outside : Bool) :
    (let j := row * m.width + col +
        (((e.reach * m.width + e.reach : Nat) : Int) + o.1 * m.width + o.2).toNat -
          (e.reach * m.width + e.reach)
     if h : j < m.bits.size then m.bits[j] != 0 else false) =
      m.shiftedGet row col o.1 o.2 outside := by
  simp only [Mask.isInner, Bool.and_eq_true, decide_eq_true_eq] at hin
  obtain ⟨⟨⟨h1, h2⟩, h3⟩, h4⟩ := hin
  obtain ⟨hdr, hdc⟩ := StructuringElement.natAbs_le_reach ho
  rw [shift_index h1 h3 hdr hdc]
  simp only [Mask.shiftedGet]
  rw [if_neg (by simp only [Bool.or_eq_true, decide_eq_true_eq, not_or]; omega)]

end Shifted

/-! ## 収縮と膨張 -/

section Operations

variable (m : Mask) (e : StructuringElement) (r c : Nat)

/-- **収縮した平面の画素**：平面の中で、画素自身と、構造要素の下の画像内の画素がすべて立っている
（画像の外は立っているとみなす）。 -/
theorem get_erode :
    (erode m e).get r c = (decide (r < m.height) && decide (c < m.width) && m.get r c &&
      e.offsets.all (fun o => m.shiftedGet r c o.1 o.2 true)) := by
  unfold erode
  rw [Mask.get_ofFn]
  cases hr : decide (r < m.height) <;> cases hc : decide (c < m.width) <;>
    simp only [Bool.false_and, Bool.true_and]
  congr 1
  split
  · -- 内側の画素：番号のずれで読んでも同じ
    rename_i hin
    rw [allShifted_eq, StructuringElement.flatShifts, List.all_map]
    refine Bool.eq_iff_iff.2 ?_
    simp only [List.all_eq_true, Function.comp_apply]
    exact forall₂_congr fun o ho => by rw [flat_eq_shiftedGet hin ho true]
  · rfl

/-- **膨張した平面の画素**：平面の中で、構造要素の下の画像内の画素のどれかが立っている
（画像の外は立っていないとみなす）。 -/
theorem get_dilate :
    (dilate m e).get r c = (decide (r < m.height) && decide (c < m.width) &&
      e.offsets.any (fun o => m.shiftedGet r c o.1 o.2 false)) := by
  unfold dilate
  rw [Mask.get_ofFn]
  cases hr : decide (r < m.height) <;> cases hc : decide (c < m.width) <;>
    simp only [Bool.false_and, Bool.true_and]
  split
  · rename_i hin
    rw [anyShifted_eq, StructuringElement.flatShifts, List.any_map]
    refine Bool.eq_iff_iff.2 ?_
    simp only [List.any_eq_true, Function.comp_apply]
    exact exists_congr fun o => and_congr_right fun ho => by rw [flat_eq_shiftedGet hin ho false]
  · rfl

@[simp] theorem height_erode : (erode m e).height = m.height := rfl

@[simp] theorem width_erode : (erode m e).width = m.width := rfl

@[simp] theorem height_dilate : (dilate m e).height = m.height := rfl

@[simp] theorem width_dilate : (dilate m e).width = m.width := rfl

end Operations

end DropletVision
