import Mathlib.Data.List.Basic
import Mathlib.Data.Nat.Bitwise
import DropletVision.Background.Median

/-!
# 画素ごとの中央値は、全順序で並べた値の真ん中

`medianOf` は、画素ごとにその画素の値の列の中央値 `medianValue` を置く。`medianValue` は値を
並べず、全順序で `k` 番目の値を選ぶ選択を一度（奇数個）か二度（偶数個）使う。その結果が、値を
全順序 `totalLe` で並べた列の真ん中（`totalMedian`）に等しいことを示す。並べた列は一通りなので、
結果は平面の順にもよらない。

* `totalOrderKey_injective` — 鍵は値を決める。単精度の値はビット列で決まり、鍵はビット列の
  一対一の写しである。
* `getD_eq_of_splitsAt` — `k` 番目の前がその値以下、後ろがその値以上の並べ替え（`SplitsAt`）の
  `k` 番目は、並べた列の `k` 番目。
* `selectNth_isSelection` — クイックセレクトは選択の約束（`IsSelection`）を満たす。
* `splitsAt_reselect`, `IsSelection.reselect` — `mid` 番目で分かれた列の前の `mid` 個を
  `mid - 1` 番目で選び直すと、列は `mid - 1` 番目でも `mid` 番目でも分かれている。
* `computeMedian_eq_totalMedian` — 約束を満たすどの選び方でも、中央値は並べた列の真ん中。
* `medianOf_eq_pixelwise_median` — 平面の中央値は画素ごとの真ん中を置いた平面で、平面の順に
  よらない。

## 仕組み

全順序の比較は鍵 `totalOrderKey` の大小である。鍵の値を符号のビットで場合分けして自然数で
書き下し（`toNat_totalOrderKey`）、二つの場合の値の範囲が重ならないことから鍵の一対一を得る。
すると全順序は反対称になり、並んだ並べ替えの一意性（`List.Perm.eq_of_pairwise`）が使える。
中央値の証明は選択の約束だけを使うので、選んだ後の他の値の並びがどうであっても成り立つ。
-/

namespace DropletVision

/-! ## 全順序の鍵 -/

/-- 単精度の値は、そのビット列で決まる。 -/
theorem Float32.toBits_injective : Function.Injective Float32.toBits := by
  rintro ⟨⟨a, ha⟩⟩ ⟨⟨b, hb⟩⟩ h
  change a = b at h
  subst h
  rfl

/-- 符号のビット（`2^31` の位）が立っていることは、数が `2^31` 以上であること。 -/
theorem and_signBit_ne_zero (b : UInt32) :
    (b &&& 0x80000000 != 0) = decide (2147483648 ≤ b.toNat) := by
  have hb : b.toNat < 4294967296 := b.toNat_lt
  have hbit : b.toNat &&& 2 ^ 31 = (decide (2147483648 ≤ b.toNat)).toNat * 2 ^ 31 := by
    rw [Nat.and_two_pow, Nat.testBit_eq_decide_div_mod_eq]
    congr 2
    apply decide_eq_decide.2
    omega
  have hand : (b &&& 0x80000000).toNat = (decide (2147483648 ≤ b.toNat)).toNat * 2 ^ 31 := by
    rw [UInt32.toNat_and, show (0x80000000 : UInt32).toNat = 2 ^ 31 from rfl, hbit]
  cases h : decide (2147483648 ≤ b.toNat)
  · -- 立っていない：積は 0
    have h0 : b &&& 0x80000000 = 0 := UInt32.toNat_inj.1 (by rw [hand, h]; rfl)
    simp [h0]
  · have h0 : b &&& 0x80000000 ≠ 0 := fun h0 => by
      have := congrArg UInt32.toNat h0
      rw [hand, h] at this
      simp at this
    simpa using h0

/-- 鍵は、符号のビットが立っていればビット列を反転した数、立っていなければ `2^31` を足した数。 -/
theorem toNat_totalOrderKey (x : Float32) :
    (totalOrderKey x).toNat =
      if 2147483648 ≤ x.toBits.toNat then 4294967295 - x.toBits.toNat
      else x.toBits.toNat + 2147483648 := by
  have hb : x.toBits.toNat < 4294967296 := x.toBits.toNat_lt
  unfold totalOrderKey
  simp only [and_signBit_ne_zero]
  split
  · rename_i h
    rw [if_pos (of_decide_eq_true h), UInt32.toNat_not]
    rfl
  · rename_i h
    -- 上の位に `2^31` を足すことは、その位を立てること。
    rw [if_neg (by simpa using h), UInt32.toNat_or,
      show (0x80000000 : UInt32).toNat = 2 ^ 31 * 1 from rfl, Nat.lor_comm,
      ← Nat.two_pow_add_eq_or_of_lt (by simp at h; omega)]
    omega

/-- 鍵の等しい値は等しい。 -/
theorem totalOrderKey_injective : Function.Injective totalOrderKey := by
  intro x y h
  apply Float32.toBits_injective
  apply UInt32.toNat_inj.1
  have hx : x.toBits.toNat < 4294967296 := x.toBits.toNat_lt
  have hy : y.toBits.toNat < 4294967296 := y.toBits.toNat_lt
  have hk := congrArg UInt32.toNat h
  rw [toNat_totalOrderKey, toNat_totalOrderKey] at hk
  split at hk <;> split at hk <;> omega

/-! ## 全順序で並べる -/

theorem totalLe_total (x y : Float32) : (totalLe x y || totalLe y x) = true := by
  simp only [totalLe, Bool.or_eq_true, decide_eq_true_eq]
  exact UInt32.le_total _ _

theorem totalLe_trans (x y z : Float32) (hxy : totalLe x y = true) (hyz : totalLe y z = true) :
    totalLe x z = true := by
  simp only [totalLe, decide_eq_true_eq] at *
  exact UInt32.le_trans hxy hyz

theorem eq_of_totalLe_of_totalLe {x y : Float32} (hxy : totalLe x y = true)
    (hyx : totalLe y x = true) : x = y := by
  simp only [totalLe, decide_eq_true_eq] at hxy hyx
  exact totalOrderKey_injective (UInt32.le_antisymm hxy hyx)

/-- 全順序で並んだ二つの列が互いの並べ替えなら、同じ列。 -/
theorem eq_of_perm_of_totalSorted {s t : List Float32} (hst : s.Perm t)
    (hs : s.Pairwise (fun a b => totalLe a b = true))
    (ht : t.Pairwise (fun a b => totalLe a b = true)) : s = t :=
  hst.eq_of_pairwise (fun _ _ _ _ hab hba => eq_of_totalLe_of_totalLe hab hba) hs ht

theorem pairwise_mergeSort_totalLe (vs : List Float32) :
    (vs.mergeSort totalLe).Pairwise (fun a b => totalLe a b = true) :=
  List.pairwise_mergeSort totalLe_trans totalLe_total vs

/-- 値を全順序で並べたどの列も、`mergeSort` の結果に等しい。 -/
theorem mergeSort_totalLe_eq {vs s : List Float32} (hperm : s.Perm vs)
    (hs : s.Pairwise (fun a b => totalLe a b = true)) : vs.mergeSort totalLe = s :=
  eq_of_perm_of_totalSorted ((List.mergeSort_perm vs totalLe).trans hperm.symm)
    (pairwise_mergeSort_totalLe vs) hs

/-! ## 選択の約束 -/

/-- 列 `out` は `k` 番目の値で分かれている：前の `k` 個は全順序でその値以下、後ろはその値以上。 -/
def SplitsAt (out : List Float32) (k : Nat) : Prop :=
  ∃ pre x post, out = pre ++ x :: post ∧ pre.length = k ∧
    (∀ a ∈ pre, totalLe a x = true) ∧ ∀ b ∈ post, totalLe x b = true

/-- 選択の約束。`select vs k` は `vs` の並べ替えで、`k < vs.length` なら `k` 番目で分かれている。
`k` 番目以外の値がどう並ぶかは約束しない。 -/
structure IsSelection (select : List Float32 → Nat → List Float32) : Prop where
  perm : ∀ vs k, (select vs k).Perm vs
  splitsAt : ∀ vs k, k < vs.length → SplitsAt (select vs k) k

/-- `k` 番目で分かれた並べ替えの `k` 番目は、全順序で並べた列の `k` 番目。前と後ろをそれぞれ
並べてつなぐと全順序で並んだ列になり、並んだ列は一通りしかない。 -/
theorem getD_eq_of_splitsAt {vs out : List Float32} {k : Nat} (hperm : out.Perm vs)
    (h : SplitsAt out k) : out.getD k 0 = (vs.mergeSort totalLe).getD k 0 := by
  obtain ⟨pre, x, post, rfl, rfl, hpre, hpost⟩ := h
  have hsort : ∀ l : List Float32, (l.mergeSort totalLe).Perm l := (List.mergeSort_perm · _)
  let sorted := pre.mergeSort totalLe ++ x :: post.mergeSort totalLe
  have hperm' : sorted.Perm vs := (((hsort pre).append ((hsort post).cons x))).trans hperm
  have hsorted : sorted.Pairwise (fun a b => totalLe a b = true) := by
    refine List.pairwise_append.2 ⟨pairwise_mergeSort_totalLe pre, List.pairwise_cons.2
      ⟨fun b hb => hpost b ((hsort post).subset hb), pairwise_mergeSort_totalLe post⟩, ?_⟩
    -- 前の値は `x` 以下で、`x` は後ろのどの値以下。
    intro a ha
    have hax := hpre a ((hsort pre).subset ha)
    exact List.forall_mem_cons.2
      ⟨hax, fun b hb => totalLe_trans _ _ _ hax (hpost b ((hsort post).subset hb))⟩
  rw [mergeSort_totalLe_eq hperm' hsorted]
  simp [sorted, List.getD_eq_getElem?_getD]

/-! ## クイックセレクト -/

theorem totalLt_eq_not_totalLe (x y : Float32) : totalLt x y = !totalLe y x := by
  simp only [totalLt, totalLe, ← decide_not, UInt32.not_le]

/-- 軸より小さい値は、全順序で軸以下。 -/
theorem totalLe_of_mem_below {p a : Float32} {rest : List Float32}
    (h : a ∈ rest.filter (totalLt · p)) : totalLe a p = true := by
  have hlt := (List.mem_filter.1 h).2
  rw [totalLt_eq_not_totalLe, Bool.not_eq_true'] at hlt
  simpa [hlt] using totalLe_total a p

/-- 軸より小さくない値は、全順序で軸以上。 -/
theorem totalLe_of_mem_notBelow {p b : Float32} {rest : List Float32}
    (h : b ∈ rest.filter (fun x => !totalLt x p)) : totalLe p b = true := by
  have hlt := (List.mem_filter.1 h).2
  rwa [totalLt_eq_not_totalLe, Bool.not_not] at hlt

/-- 軸で分けた二つの列の間に軸を置くと、元の列の並べ替えになる。 -/
theorem filter_pivot_perm (p : Float32) (rest : List Float32) :
    (rest.filter (totalLt · p) ++ p :: rest.filter (fun x => !totalLt x p)).Perm (p :: rest) :=
  List.perm_middle.trans ((List.filter_append_perm _ rest).cons p)

theorem length_filter_lt_cons (p : Float32) (rest : List Float32) (f : Float32 → Bool) :
    (rest.filter f).length < (p :: rest).length :=
  Nat.lt_succ_of_le (List.length_filter_le f rest)

/-- 選択の結果は値の並べ替え。 -/
theorem selectNth_perm : ∀ (vs : List Float32) (k : Nat), (selectNth vs k).Perm vs
  | [], _ => by rw [selectNth]
  | p :: rest, k => by
    rw [selectNth]
    have hpart := filter_pivot_perm p rest
    -- 選び直した側は、選ぶ前の側の並べ替えのまま。
    split_ifs
    · exact ((selectNth_perm _ k).append_right _).trans hpart
    · exact hpart
    · exact (((selectNth_perm _ _).cons p).append_left _).trans hpart
termination_by vs => vs.length
decreasing_by all_goals exact length_filter_lt_cons p rest _

/-- `k < 長さ` なら、選択の結果は `k` 番目で分かれている。 -/
theorem selectNth_splitsAt :
    ∀ (vs : List Float32) (k : Nat), k < vs.length → SplitsAt (selectNth vs k) k
  | [], _, hk => absurd hk (Nat.not_lt_zero _)
  | p :: rest, k, hk => by
    rw [selectNth]
    have hlen := (filter_pivot_perm p rest).length_eq
    simp only [List.length_append, List.length_cons] at hlen hk
    split_ifs with hlo heq
    · -- `k` 番目は軸より小さい側にあり、その側の選択がそのまま使える。
      obtain ⟨pre, x, post, hsel, hpre_len, hpre, hpost⟩ := selectNth_splitsAt _ k hlo
      have hx : x ∈ rest.filter (totalLt · p) :=
        (selectNth_perm _ k).subset (by rw [hsel]; simp)
      have hxp := totalLe_of_mem_below hx
      refine ⟨pre, x, post ++ p :: rest.filter (fun x => !totalLt x p), by rw [hsel]; simp,
        hpre_len, hpre, List.forall_mem_append.2 ⟨hpost, List.forall_mem_cons.2 ⟨hxp, ?_⟩⟩⟩
      exact fun b hb => totalLe_trans _ _ _ hxp (totalLe_of_mem_notBelow hb)
    · -- 軸がちょうど `k` 番目。
      exact ⟨_, p, _, rfl, heq.symm, fun a => totalLe_of_mem_below,
        fun b => totalLe_of_mem_notBelow⟩
    · -- `k` 番目は軸以上の側にあり、番号を軸と小さい側の分だけずらして選ぶ。
      obtain ⟨pre, x, post, hsel, hpre_len, hpre, hpost⟩ :=
        selectNth_splitsAt (rest.filter (fun x => !totalLt x p))
          (k - (rest.filter (totalLt · p)).length - 1) (by omega)
      have hx : x ∈ rest.filter (fun x => !totalLt x p) :=
        (selectNth_perm _ _).subset (by rw [hsel]; simp)
      have hpx := totalLe_of_mem_notBelow hx
      refine ⟨rest.filter (totalLt · p) ++ p :: pre, x, post, by rw [hsel]; simp,
        by simp only [List.length_append, List.length_cons]; omega,
        List.forall_mem_append.2 ⟨?_, List.forall_mem_cons.2 ⟨hpx, hpre⟩⟩, hpost⟩
      exact fun a ha => totalLe_trans _ _ _ (totalLe_of_mem_below ha) hpx
termination_by vs => vs.length
decreasing_by all_goals exact length_filter_lt_cons p rest _

theorem selectNth_isSelection : IsSelection selectNth := ⟨selectNth_perm, selectNth_splitsAt⟩

/-! ## 中央値 -/

/-- 二度目の選択。`mid` 番目で分かれた列 `once` の前の `mid` 個を、`mid - 1` 番目で分かれた
並べ替え `front` に置き換えると、列は `mid - 1` 番目でも `mid` 番目でも分かれている。 -/
theorem splitsAt_reselect {once front : List Float32} {mid : Nat} (h1 : SplitsAt once mid)
    (hfront : front.Perm (once.take mid)) (h2 : SplitsAt front (mid - 1)) :
    SplitsAt (front ++ once.drop mid) (mid - 1) ∧ SplitsAt (front ++ once.drop mid) mid := by
  obtain ⟨pre, x, post, rfl, rfl, hpre, hpost⟩ := h1
  simp only [List.take_left', List.drop_left'] at hfront ⊢
  -- `front` の値はどれも `pre` の値なので、`x` 以下。
  have hfx : ∀ a ∈ front, totalLe a x = true := fun a ha => hpre a (hfront.subset ha)
  refine ⟨?_, ⟨front, x, post, rfl, hfront.length_eq, hfx, hpost⟩⟩
  obtain ⟨pre2, y, post2, rfl, hlen2, hpre2, hpost2⟩ := h2
  have hyx := hfx y (by simp)
  refine ⟨pre2, y, post2 ++ x :: post, by simp, hlen2, hpre2,
    List.forall_mem_append.2 ⟨hpost2, List.forall_mem_cons.2 ⟨hyx, ?_⟩⟩⟩
  exact fun b hb => totalLe_trans _ _ _ hyx (hpost b hb)

/-- 約束を満たす選択で `mid` 番目を選び、前の `mid` 個から `mid - 1` 番目を選び直した列は、
`vs` の並べ替えで、`mid - 1` 番目でも `mid` 番目でも分かれている。 -/
theorem IsSelection.reselect {select : List Float32 → Nat → List Float32}
    (hsel : IsSelection select) (vs : List Float32) (mid : Nat) (hmid : 0 < mid)
    (hlt : mid < vs.length) :
    (select ((select vs mid).take mid) (mid - 1) ++ (select vs mid).drop mid).Perm vs ∧
      SplitsAt (select ((select vs mid).take mid) (mid - 1) ++ (select vs mid).drop mid)
        (mid - 1) ∧
      SplitsAt (select ((select vs mid).take mid) (mid - 1) ++ (select vs mid).drop mid) mid := by
  have hlen := (hsel.perm vs mid).length_eq
  have h2 := hsel.splitsAt ((select vs mid).take mid) (mid - 1) (by simp; omega)
  have hperm : (select ((select vs mid).take mid) (mid - 1) ++ (select vs mid).drop mid).Perm vs := by
    refine (((hsel.perm _ _).append_right _).trans ?_).trans (hsel.perm vs mid)
    rw [List.take_append_drop]
  exact ⟨hperm, splitsAt_reselect (hsel.splitsAt vs mid hlt) (hsel.perm _ _) h2⟩

/-- 全順序で並べた列の真ん中。偶数個なら真ん中の二つの単精度の平均、空なら 0。 -/
def totalMedian (vs : List Float32) : Float32 :=
  let s := vs.mergeSort totalLe
  if vs.length % 2 = 1 then s.getD (vs.length / 2) 0
  else (s.getD (vs.length / 2 - 1) 0 + s.getD (vs.length / 2) 0) / 2

/-- 真ん中は、値を全順序で並べたどの列 `s` から読んでも同じ。 -/
theorem totalMedian_eq_of_sorted {vs s : List Float32} (hperm : s.Perm vs)
    (hs : s.Pairwise (fun a b => totalLe a b = true)) :
    totalMedian vs =
      if vs.length % 2 = 1 then s.getD (vs.length / 2) 0
      else (s.getD (vs.length / 2 - 1) 0 + s.getD (vs.length / 2) 0) / 2 := by
  rw [totalMedian, mergeSort_totalLe_eq hperm hs]

/-- 値の順を入れ替えても真ん中は同じ。 -/
theorem totalMedian_perm {vs vs' : List Float32} (h : vs.Perm vs') :
    totalMedian vs = totalMedian vs' := by
  have hperm := List.mergeSort_perm vs' totalLe
  rw [totalMedian_eq_of_sorted (hperm.trans h.symm) (pairwise_mergeSort_totalLe vs'),
    totalMedian_eq_of_sorted hperm (pairwise_mergeSort_totalLe vs'), h.length_eq]

/-- 選択の約束を満たすどの選び方でも、`computeMedian` は全順序で並べた列の真ん中を返す。
奇数個なら一度の選択が真ん中を、偶数個なら二度の選択が真ん中の二つを置く。 -/
theorem computeMedian_eq_totalMedian {select : List Float32 → Nat → List Float32}
    (hsel : IsSelection select) (vs : List Float32) : computeMedian select vs = totalMedian vs := by
  unfold computeMedian totalMedian
  by_cases hone : vs.length = 1
  · -- 一つの値は、選ぶまでもなく真ん中。
    obtain ⟨x, rfl⟩ := List.length_eq_one_iff.1 hone
    simp
  by_cases hodd : vs.length % 2 = 1
  · simp only [hone, hodd, beq_iff_eq, if_true, if_false]
    exact getD_eq_of_splitsAt (hsel.perm _ _) (hsel.splitsAt _ _ (by omega))
  simp only [hone, hodd, beq_iff_eq, if_false]
  rcases Nat.eq_zero_or_pos vs.length with hzero | hpos
  · -- 空の列：選ぶ列も空で、どちらも 0 の平均。
    have hnil : ∀ k, select [] k = [] := fun k => (hsel.perm [] k).eq_nil
    simp [List.length_eq_zero_iff.1 hzero, hnil]
  -- 偶数個：`n / 2` 番目を選び、前の `n / 2` 個から `n / 2 - 1` 番目を選び直す。
  obtain ⟨hperm, hfst, hsnd⟩ := hsel.reselect vs (vs.length / 2) (by omega) (by omega)
  rw [getD_eq_of_splitsAt hperm hfst, getD_eq_of_splitsAt hperm hsnd]

/-- 値の列の中央値は、全順序で並べた列の真ん中。 -/
theorem medianValue_eq_totalMedian (vs : List Float32) : medianValue vs = totalMedian vs :=
  computeMedian_eq_totalMedian selectNth_isSelection vs

-- 外れ値は中央値に入らない。偶数個なら真ん中の二つの平均。
example : medianValue [0.1, 0.9, 0.1] = 0.1 := by decide +kernel
example : medianValue [0.9, 0.1, 0.5, 0.3] = 0.4 := by decide +kernel

/-! ## 平面の中央値 -/

/-- 平面の順を入れ替えても、形がそろっていれば中央値の平面は同じ。 -/
theorem medianOf_perm {planes planes' : List Plane} {h w : Nat} (hperm : planes'.Perm planes)
    (hshape : ∀ p ∈ planes, p.height = h ∧ p.width = w) : medianOf planes' = medianOf planes := by
  cases planes with
  | nil => rw [List.Perm.eq_nil hperm]
  | cons p rest =>
    cases planes' with
    | nil => exact absurd hperm.length_eq (by simp)
    | cons p' rest' =>
      have hp := hshape p List.mem_cons_self
      have hp' := hshape p' (hperm.subset List.mem_cons_self)
      simp only [medianOf, hp.1, hp.2, hp'.1, hp'.2, medianValue_eq_totalMedian]
      congr 1
      funext r c
      exact totalMedian_perm (hperm.map _)

/-- 同じ形 `h × w` の平面の空でない列の中央値は、各画素にその画素の値を全順序で並べた列の真ん中
（偶数個なら真ん中の二つの単精度の平均）を置いた平面であり、平面の順を入れ替えても変わらない。 -/
theorem medianOf_eq_pixelwise_median {planes : List Plane} {h w : Nat} (hne : planes ≠ [])
    (hshape : ∀ p ∈ planes, p.height = h ∧ p.width = w) :
    medianOf planes = Plane.ofFn h w (fun r c => totalMedian (planes.map (·.get r c))) ∧
      ∀ planes' : List Plane, planes'.Perm planes → medianOf planes' = medianOf planes := by
  refine ⟨?_, fun planes' hperm => medianOf_perm hperm hshape⟩
  obtain ⟨p, rest, rfl⟩ := List.exists_cons_of_ne_nil hne
  obtain ⟨hph, hpw⟩ := hshape p List.mem_cons_self
  simp only [medianOf, hph, hpw, medianValue_eq_totalMedian]

/-- 画素ごとの値が平面の順に並んでいない四枚の 1 × 2 の平面の中央値も、画素ごとの真ん中を置いた
平面で、平面の順によらない。 -/
theorem medianOf_eq_pixelwise_median_four :
    [Plane.ofFlat 1 2 #[0.9, 0.1], Plane.ofFlat 1 2 #[0.1, 0.7], Plane.ofFlat 1 2 #[0.5, 0.3],
        Plane.ofFlat 1 2 #[0.3, 0.2]] ≠ [] ∧
    (∀ p ∈ [Plane.ofFlat 1 2 #[0.9, 0.1], Plane.ofFlat 1 2 #[0.1, 0.7],
        Plane.ofFlat 1 2 #[0.5, 0.3], Plane.ofFlat 1 2 #[0.3, 0.2]], p.height = 1 ∧ p.width = 2) ∧
    medianOf [Plane.ofFlat 1 2 #[0.9, 0.1], Plane.ofFlat 1 2 #[0.1, 0.7],
        Plane.ofFlat 1 2 #[0.5, 0.3], Plane.ofFlat 1 2 #[0.3, 0.2]] =
      Plane.ofFn 1 2 (fun r c => totalMedian ([Plane.ofFlat 1 2 #[0.9, 0.1],
        Plane.ofFlat 1 2 #[0.1, 0.7], Plane.ofFlat 1 2 #[0.5, 0.3],
        Plane.ofFlat 1 2 #[0.3, 0.2]].map (·.get r c))) ∧
    ∀ planes' : List Plane, planes'.Perm [Plane.ofFlat 1 2 #[0.9, 0.1],
        Plane.ofFlat 1 2 #[0.1, 0.7], Plane.ofFlat 1 2 #[0.5, 0.3],
        Plane.ofFlat 1 2 #[0.3, 0.2]] →
      medianOf planes' = medianOf [Plane.ofFlat 1 2 #[0.9, 0.1], Plane.ofFlat 1 2 #[0.1, 0.7],
        Plane.ofFlat 1 2 #[0.5, 0.3], Plane.ofFlat 1 2 #[0.3, 0.2]] := by
  have hne : [Plane.ofFlat 1 2 #[0.9, 0.1], Plane.ofFlat 1 2 #[0.1, 0.7],
      Plane.ofFlat 1 2 #[0.5, 0.3], Plane.ofFlat 1 2 #[0.3, 0.2]] ≠ [] := by simp
  have hshape : ∀ p ∈ [Plane.ofFlat 1 2 #[0.9, 0.1], Plane.ofFlat 1 2 #[0.1, 0.7],
      Plane.ofFlat 1 2 #[0.5, 0.3], Plane.ofFlat 1 2 #[0.3, 0.2]], p.height = 1 ∧ p.width = 2 := by
    simp [Plane.ofFlat]
  exact ⟨hne, hshape, medianOf_eq_pixelwise_median hne hshape⟩

end DropletVision
