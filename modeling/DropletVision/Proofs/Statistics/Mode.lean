import Mathlib
import DropletVision.Statistics.Histogram

/-!
# 丸めた値ごとの個数と最頻値

`Stats.roundedCounts key values` は、値を整数に丸めたもの（`key`）の列を整列し、同じ整数の続きを
（整数, 個数）の組にまとめる。その組の列を `Stats.keepFirstMax` で左から畳むと、個数が最大の組のうち
最初のものが残る。整数は昇順に並ぶので、それは個数を最大にする整数のうち最小のもの。

* `Stats.RunsOf` — 組の列が整数の列を数えたものであること：整数は真に昇順、現れる整数は列の整数と
  同じ、個数は列での出現数。まとめる一歩で保たれ（`RunsOf.countRun`：同じ整数の続きは
  `cons_same`、新しい整数は `cons_new`）、整列した列を後ろからまとめると成り立つ
  （`runsOf_foldr_countRun`）。
* `Stats.Leads` — 見た組のうち個数が最大で、同数なら整数が最小の組。取り替える一歩で保たれる
  （`Leads.keepFirstMax`）。
* `Stats.IsSmallestMode` — 個数を最大にする整数のうち最小のもの。
* `Stats.roundedCounts_mode` — 最頻値の選び方は `IsSmallestMode` の整数を選ぶ。
-/

namespace DropletVision.Stats

/-! ## 個数の組 -/

/-- 組の列 `r` は整数の列 `ks` を数えたもの：整数は真に昇順、現れる整数は `ks` の整数と同じで、
個数は `ks` での出現数。 -/
structure RunsOf (ks : List Int) (r : List (Int × Nat)) : Prop where
  sorted : (r.map Prod.fst).Pairwise (· < ·)
  mem_iff : ∀ k, k ∈ r.map Prod.fst ↔ k ∈ ks
  count_eq : ∀ p ∈ r, p.2 = ks.count p.1

theorem runsOf_nil : RunsOf [] [] := ⟨List.Pairwise.nil, by simp, by simp⟩

variable {ks ks' : List Int} {r : List (Int × Nat)}

/-- 数えた組は、整数の列の並べ方によらない。 -/
theorem RunsOf.perm (h : RunsOf ks r) (hp : ks.Perm ks') : RunsOf ks' r :=
  ⟨h.sorted, fun k => (h.mem_iff k).trans hp.mem_iff, fun p hq => (h.count_eq p hq).trans (hp.count_eq _)⟩

/-- 組の整数は、数えた列に現れる。 -/
theorem RunsOf.mem_of_mem (h : RunsOf ks r) {p : Int × Nat} (hp : p ∈ r) : p.1 ∈ ks :=
  (h.mem_iff p.1).1 (List.mem_map_of_mem hp)

/-- 列に現れる整数には、その出現数の組がある。 -/
theorem RunsOf.pair_mem (h : RunsOf ks r) {k : Int} (hk : k ∈ ks) : (k, ks.count k) ∈ r := by
  obtain ⟨p, hp, rfl⟩ := List.mem_map.1 ((h.mem_iff k).2 hk)
  rw [← h.count_eq p hp]
  exact hp

/-- 先頭の組より後の組の整数は、先頭の組の整数より大きい。 -/
theorem RunsOf.lt_of_mem_tail {k : Int} {c : Nat} {rest : List (Int × Nat)}
    (h : RunsOf ks ((k, c) :: rest)) : ∀ p ∈ rest, k < p.1 := by
  have hs := h.sorted
  simp only [List.map_cons, List.pairwise_cons, List.mem_map] at hs
  exact fun p hp => hs.1 p.1 ⟨p, hp, rfl⟩

/-- 先頭の組と同じ整数を列の前に足すと、先頭の組の数が一つ増える。 -/
theorem RunsOf.cons_same {k : Int} {c : Nat} {rest : List (Int × Nat)}
    (h : RunsOf ks ((k, c) :: rest)) : RunsOf (k :: ks) ((k, c + 1) :: rest) := by
  refine ⟨h.sorted, fun x => ?_, fun p hp => ?_⟩
  · rw [List.mem_cons, ← h.mem_iff]
    simp only [List.map_cons, List.mem_cons, or_self_left]
  · rcases List.mem_cons.1 hp with rfl | hp
    · rw [List.count_cons_self, ← h.count_eq _ List.mem_cons_self]
    · rw [List.count_cons_of_ne (h.lt_of_mem_tail p hp).ne, h.count_eq p (List.mem_cons_of_mem _ hp)]

/-- どの組の整数よりも小さい整数を列の前に足すと、新しい組 `(k, 1)` が前に付く。 -/
theorem RunsOf.cons_new {k : Int} (h : RunsOf ks r) (hlt : ∀ p ∈ r, k < p.1) :
    RunsOf (k :: ks) ((k, 1) :: r) := by
  -- 列の値はどれも組の整数なので、`k` は列に無い
  have hnot : k ∉ ks := fun hmem => by
    obtain ⟨p, hp, hpk⟩ := List.mem_map.1 ((h.mem_iff k).2 hmem)
    exact (hlt p hp).ne hpk.symm
  refine ⟨?_, fun x => ?_, fun p hp => ?_⟩
  · rw [List.map_cons, List.pairwise_cons]
    exact ⟨fun x hx => by obtain ⟨p, hp, rfl⟩ := List.mem_map.1 hx; exact hlt p hp, h.sorted⟩
  · rw [List.map_cons, List.mem_cons, h.mem_iff, List.mem_cons]
  · rcases List.mem_cons.1 hp with rfl | hp
    · rw [List.count_cons_self, List.count_eq_zero_of_not_mem hnot]
    · rw [List.count_cons_of_ne (hlt p hp).ne, h.count_eq p hp]

/-- **一歩。** 列の前に、どの値よりも大きくない整数 `k` を足してまとめても、数えた組のまま。 -/
theorem RunsOf.countRun {k : Int} (h : RunsOf ks r) (hk : ∀ x ∈ ks, k ≤ x) :
    RunsOf (k :: ks) (countRun k r) := by
  match r, h with
  | [], h => exact h.cons_new (by simp)
  | (k', c) :: rest, h =>
    by_cases hkk : k = k'
    · -- 同じ整数の続き
      subst hkk
      simpa [Stats.countRun] using h.cons_same
    · -- 新しい整数：`k ≤ k'` で等しくなく、`k'` は組の整数の最小
      have hlt : ∀ p ∈ (k', c) :: rest, k < p.1 := by
        have hkk' : k < k' := lt_of_le_of_ne (hk k' (h.mem_of_mem List.mem_cons_self)) hkk
        intro p hp
        rcases List.mem_cons.1 hp with rfl | hp
        · exact hkk'
        · exact hkk'.trans (h.lt_of_mem_tail p hp)
      simpa [Stats.countRun, hkk] using h.cons_new hlt

/-- **実行。** 昇順の列を後ろからまとめると、その列を数えた組になる。 -/
theorem runsOf_foldr_countRun (ks : List Int) (hs : ks.Pairwise (· ≤ ·)) :
    RunsOf ks (ks.foldr countRun []) := by
  induction ks with
  | nil => exact runsOf_nil
  | cons k ks ih =>
    rw [List.pairwise_cons] at hs
    exact (ih hs.2).countRun hs.1

/-- 丸めた値ごとの個数は、丸めた整数の列を数えた組。 -/
theorem roundedCounts_runsOf {α : Type} (key : α → Int) (values : List α) :
    RunsOf (values.map key) (roundedCounts key values) := by
  have hsorted : ((values.map key).mergeSort (· ≤ ·)).Pairwise (· ≤ ·) := by
    have := @List.pairwise_mergeSort Int (fun a b => decide (a ≤ b))
      (fun a b c hab hbc => by simp only [decide_eq_true_eq] at hab hbc ⊢; omega)
      (fun a b => by simp only [Bool.or_eq_true, decide_eq_true_eq]; omega) (values.map key)
    exact this.imp fun h => by simpa using h
  exact (runsOf_foldr_countRun _ hsorted).perm (List.mergeSort_perm _ _)

/-! ## 最頻値の選び方 -/

/-- 組 `a` は、見た組 `seen` のうち個数が最大で、同数の組の中では整数が最小。 -/
structure Leads (seen : List (Int × Nat)) (a : Int × Nat) : Prop where
  mem : a ∈ seen
  count_le : ∀ q ∈ seen, q.2 ≤ a.2
  key_le : ∀ q ∈ seen, q.2 = a.2 → a.1 ≤ q.1

theorem keepFirstMax_none (q : Int × Nat) : keepFirstMax none q = some q := rfl

/-- 今までの組があれば、個数が真に多いときだけ新しい組に替わる。 -/
theorem keepFirstMax_some (a q : Int × Nat) :
    keepFirstMax (some a) q = some (if a.2 < q.2 then q else a) := by
  obtain ⟨b, bc⟩ := a
  obtain ⟨v, c⟩ := q
  simp only [keepFirstMax, gt_iff_lt]
  split_ifs <;> rfl

/-- **一歩。** 見た組のどれよりも整数が大きい組 `q` を見た後も、選び直した組が先頭。 -/
theorem Leads.keepFirstMax {seen : List (Int × Nat)} {a q : Int × Nat} (h : Leads seen a)
    (hq : ∀ p ∈ seen, p.1 < q.1) : Leads (seen ++ [q]) (if a.2 < q.2 then q else a) := by
  split_ifs with hlt
  · -- 真に多い：今までの組はどれも `q` より少ない
    refine ⟨by simp, fun p hp => ?_, fun p hp hpq => ?_⟩
    · rcases List.mem_append.1 hp with hp | hp
      · exact (h.count_le p hp).trans hlt.le
      · rw [List.mem_singleton.1 hp]
    · rcases List.mem_append.1 hp with hp | hp
      · exact absurd hpq (by have := h.count_le p hp; omega)
      · rw [List.mem_singleton.1 hp]
  · -- 多くない：同数なら先に見た `a` の方が整数が小さい
    refine ⟨List.mem_append_left _ h.mem, fun p hp => ?_, fun p hp hpa => ?_⟩
    · rcases List.mem_append.1 hp with hp | hp
      · exact h.count_le p hp
      · rw [List.mem_singleton.1 hp]
        omega
    · rcases List.mem_append.1 hp with hp | hp
      · exact h.key_le p hp hpa
      · rw [List.mem_singleton.1 hp]
        exact (hq a h.mem).le

/-- **実行。** 整数が真に昇順の組の列を畳んでも、見た組の先頭が残る。 -/
theorem Leads.foldl {seen : List (Int × Nat)} {a : Int × Nat} (h : Leads seen a)
    (l : List (Int × Nat)) (hs : ((seen ++ l).map Prod.fst).Pairwise (· < ·)) :
    ∃ b, l.foldl Stats.keepFirstMax (some a) = some b ∧ Leads (seen ++ l) b := by
  induction l generalizing seen a with
  | nil => exact ⟨a, rfl, by simpa using h⟩
  | cons q l ih =>
    have hq : ∀ p ∈ seen, p.1 < q.1 := by
      rw [List.map_append, List.pairwise_append] at hs
      exact fun p hp => hs.2.2 p.1 (List.mem_map_of_mem hp) q.1 List.mem_cons_self
    rw [List.foldl_cons, keepFirstMax_some]
    simpa using ih (h.keepFirstMax hq) (by simpa using hs)

/-- 空でない、整数が真に昇順の組の列を畳むと、列全体の先頭の組が残る。 -/
theorem foldl_keepFirstMax_leads (l : List (Int × Nat)) (hl : l ≠ [])
    (hs : (l.map Prod.fst).Pairwise (· < ·)) : ∃ b, l.foldl keepFirstMax none = some b ∧ Leads l b := by
  obtain ⟨q, l, rfl⟩ := List.exists_cons_of_ne_nil hl
  have h0 : Leads [q] q := ⟨List.mem_singleton_self q, by simp, by simp⟩
  rw [List.foldl_cons, keepFirstMax_none]
  exact h0.foldl l hs

/-- `k` は、個数 `cnt` を最大にする整数のうち最小のもの。 -/
def IsSmallestMode (cnt : Int → Nat) (k : Int) : Prop :=
  (∀ j, cnt j ≤ cnt k) ∧ ∀ j, cnt j = cnt k → k ≤ j

theorem count_map_eq_countP {α : Type} (key : α → Int) (values : List α) (j : Int) :
    (values.map key).count j = values.countP (key · = j) := by
  rw [List.count_eq_countP, List.countP_map]
  exact List.countP_congr fun x _ => by simp

/-- **最頻値。** 値があれば、丸めた値ごとの個数を畳んで残るのは、丸めて `k` になる値の数を最大にする
最小の整数 `k` の組。 -/
theorem roundedCounts_mode {α : Type} (key : α → Int) (values : List α) (hne : values ≠ []) :
    ∃ k c, (roundedCounts key values).foldl keepFirstMax none = some (k, c) ∧
      IsSmallestMode (fun j => values.countP (key · = j)) k := by
  have hr := roundedCounts_runsOf key values
  have hne' : roundedCounts key values ≠ [] := by
    obtain ⟨v, hv⟩ := List.exists_mem_of_ne_nil values hne
    intro h0
    simpa [h0] using (hr.mem_iff (key v)).2 (List.mem_map_of_mem hv)
  obtain ⟨⟨k, c⟩, hb, hlead⟩ := foldl_keepFirstMax_leads _ hne' hr.sorted
  have hk : k ∈ values.map key := hr.mem_of_mem hlead.mem
  have hc : c = (values.map key).count k := hr.count_eq _ hlead.mem
  refine ⟨k, c, hb, ?_⟩
  simp only [IsSmallestMode, ← count_map_eq_countP]
  refine ⟨fun j => ?_, fun j hj => ?_⟩
  · -- 現れない整数は 0 個、現れる整数には組がある
    by_cases hj : j ∈ values.map key
    · exact hc ▸ hlead.count_le _ (hr.pair_mem hj)
    · rw [List.count_eq_zero_of_not_mem hj]
      exact Nat.zero_le _
  · -- 同数の整数も現れるので組があり、整数は `k` 以上
    have hjmem : j ∈ values.map key := by
      by_contra hj'
      rw [List.count_eq_zero_of_not_mem hj'] at hj
      exact List.count_pos_iff.2 hk |>.ne' hj.symm
    exact hlead.key_le _ (hr.pair_mem hjmem) (hc ▸ hj)

end DropletVision.Stats
