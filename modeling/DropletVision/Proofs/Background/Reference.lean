import DropletVision.Proofs.Detector.WarmUp

/-!
# 背景のモデルの状態と参照

静的な背景のモデルに、差を求める・平面を与えて作る・やり直す・要る枚数を変える、の四つの
操作をどんな順に施しても、状態は次を満たす（`BackgroundModel.lifecycle_performAll`）。

* 集めている途中の平面は 1 枚以上、要る枚数未満で、どれも結びついた形をしている。
  用意のできた背景も結びついた形をしている（`WellShaped`）。
* 差を返すのは、与えた平面と形の合う背景があるときだけで、差はその平面の形をしている。
* 形に新しい平面の列（未初期化のモデル、あるいは別の形に結びついたモデルに与えるもの）は、
  最初の `required` 枚には差を返さず、それ以後はその `required` 枚から作った背景との差を返す。

## 仕組み

形の正しさは状態の構成子ごとの述語 `BackgroundState.Shaped` で言い、`Consistent`（枚数の範囲）と
合わせて `WellShaped` とする。操作ごとに保たれることを示し、列の帰納法で全体に広げる。
平面の列を与えたときの差の列は、用意のできた状態（`correctAll_of_ready`）、集めている途中の状態
（`correctAll_of_warmingUp`、集めた枚数についての帰納法）、形に新しい状態（`correctAll_of_fresh`）
の順に求める。
-/

namespace DropletVision

/-- 背景のモデルへの操作。 -/
inductive BackgroundOp where
  | correct (g : Plane)
  | seed (planes : List Plane)
  | reset
  | setRequired (n : Nat)

/-- 状態が結びついた形をしていること：集めている平面も、用意のできた背景もその形。 -/
def BackgroundState.Shaped : BackgroundState → Prop
  | .uninitialized => True
  | .warmingUp s frames => ∀ p ∈ frames, BackgroundModel.shapeOf p = s
  | .ready s ref => BackgroundModel.shapeOf ref = s

namespace BackgroundModel

/-- 一つの操作を施す。差は捨てる。 -/
def perform (m : BackgroundModel) : BackgroundOp → BackgroundModel
  | .correct g => (m.correct g).1
  | .seed planes => m.seed planes
  | .reset => m.reset
  | .setRequired n => m.setRequired n

/-- 操作の列を順に施す。 -/
def performAll (m : BackgroundModel) (ops : List BackgroundOp) : BackgroundModel :=
  ops.foldl perform m

/-- 平面を順に与え、返った差を並べる。 -/
def correctAll (m : BackgroundModel) : List Plane → BackgroundModel × List (Option Plane)
  | [] => (m, [])
  | g :: gs =>
    let r := (m.correct g).1.correctAll gs
    (r.1, (m.correct g).2 :: r.2)

/-- 集めた平面から作る背景。一枚ならその平面そのもの（一つの値の中央値はその値）、
二枚以上なら画素ごとの中央値。 -/
def warmUpReference : List Plane → Plane
  | [g] => g
  | planes => medianOf planes

/-- 要る枚数は 1 以上、集めている途中の平面の枚数は範囲にあり、状態は結びついた形をしている。 -/
structure WellShaped (m : BackgroundModel) : Prop extends m.Consistent where
  shaped : m.state.Shaped

variable {m : BackgroundModel} {g : Plane} {s : Nat × Nat}

@[simp] theorem performAll_nil (m : BackgroundModel) : m.performAll [] = m := rfl

@[simp] theorem performAll_cons (m : BackgroundModel) (op : BackgroundOp) (ops : List BackgroundOp) :
    m.performAll (op :: ops) = (m.perform op).performAll ops := rfl

@[simp] theorem correctAll_nil (m : BackgroundModel) : m.correctAll [] = (m, []) := rfl

@[simp] theorem correctAll_cons (m : BackgroundModel) (g : Plane) (gs : List Plane) :
    m.correctAll (g :: gs) =
      (((m.correct g).1.correctAll gs).1, (m.correct g).2 :: ((m.correct g).1.correctAll gs).2) := rfl

@[simp] theorem shapeOf_absDiff (g ref : Plane) : shapeOf (absDiff g ref) = shapeOf g := rfl

/-- 平面がどれも形 `s` なら、その中央値も形 `s` である。 -/
theorem shapeOf_medianOf {planes : List Plane} (hne : planes ≠ [])
    (h : ∀ p ∈ planes, shapeOf p = s) : shapeOf (medianOf planes) = s := by
  cases planes with
  | nil => exact absurd rfl hne
  | cons p rest =>
    rw [← h p List.mem_cons_self]
    rfl

theorem warmUpReference_of_two_le {planes : List Plane} (h : 2 ≤ planes.length) :
    warmUpReference planes = medianOf planes := by
  match planes, h with
  | _ :: _ :: _, _ => rfl

/-! ## 一つの操作が保つもの -/

theorem shaped_correct (h : m.state.Shaped) (g : Plane) : (m.correct g).1.state.Shaped := by
  rcases cases_shape m (shapeOf g) with ⟨ref, hst⟩ | ⟨frames, hst⟩ | hfresh
  · rw [correct_of_ready hst]
    exact h
  · have hframes : ∀ p ∈ frames, shapeOf p = shapeOf g := by rw [hst] at h; exact h
    have hall : ∀ p ∈ g :: frames, shapeOf p = shapeOf g := by
      intro p hp
      rcases List.mem_cons.mp hp with rfl | hp
      · rfl
      · exact hframes p hp
    rw [correct_of_warmingUp hst]
    split
    · -- 集め終えた：集めた平面の中央値が背景になる
      exact shapeOf_medianOf (by simp) (fun p hp => hall p (List.mem_reverse.mp hp))
    · exact hall
  · rw [correct_of_fresh hfresh]
    split
    · rfl
    · simp [BackgroundState.Shaped]

theorem shaped_seed (h : m.state.Shaped) (planes : List Plane) : (m.seed planes).state.Shaped := by
  cases planes with
  | nil => exact h
  | cons first rest =>
    -- 背景は先頭と同じ形の平面だけから作り、先頭そのものもその中にある
    have hmem : first ∈ (first :: rest).filter (fun p => shapeOf p == shapeOf first) := by simp
    exact shapeOf_medianOf (List.ne_nil_of_mem hmem)
      (fun p hp => by simpa using (List.mem_filter.mp hp).2)

theorem WellShaped.perform (h : m.WellShaped) : ∀ op, (m.perform op).WellShaped
  | .correct g => ⟨correct_consistent h.toConsistent, shaped_correct h.shaped g⟩
  | .seed planes => ⟨seed_consistent h.toConsistent planes, shaped_seed h.shaped planes⟩
  | .reset => ⟨reset_consistent h.toConsistent, trivial⟩
  | .setRequired n => ⟨⟨Nat.le_max_right _ _, fun _ _ hst => by cases hst⟩, trivial⟩

theorem WellShaped.performAll (h : m.WellShaped) (ops : List BackgroundOp) : (m.performAll ops).WellShaped := by
  induction ops generalizing m with
  | nil => exact h
  | cons op ops ih => exact ih (h.perform op)

theorem wellShaped_new (required : Nat) : (new required).WellShaped :=
  ⟨⟨Nat.le_max_right _ _, fun _ _ hst => by cases hst⟩, trivial⟩

/-! ## 差を返すとき -/

/-- 差を返すのは、与えた平面と形の合う背景があるときだけで、差はその背景との差である。 -/
theorem correct_snd_eq_some_iff {d : Plane} :
    (m.correct g).2 = some d ↔ ∃ ref, m.state = .ready (shapeOf g) ref ∧ d = absDiff g ref := by
  rcases cases_shape m (shapeOf g) with ⟨ref, hst⟩ | ⟨frames, hst⟩ | hfresh
  · rw [correct_of_ready hst]
    simp [hst, eq_comm]
  · have hr : ¬m.ReadyFor (shapeOf g) := by
      rintro ⟨ref, h⟩
      rw [hst] at h
      cases h
    simp [correct_snd_eq_none hr, hst]
  · have hr : ¬m.ReadyFor (shapeOf g) := by
      rintro ⟨ref, h⟩
      exact hfresh (by simp [shape?, h])
    simp only [correct_snd_eq_none hr, reduceCtorEq, false_iff, not_exists, not_and]
    exact fun ref h _ => hr ⟨ref, h⟩

/-! ## 同じ形の平面を続けて与える -/

/-- 形の合う背景があれば、モデルは変わらず、どの平面にもその背景との差を返す。 -/
theorem correctAll_of_ready {ref : Plane} (hst : m.state = .ready s ref) :
    ∀ gs : List Plane, (∀ g ∈ gs, shapeOf g = s) →
      m.correctAll gs = (m, gs.map (fun g => some (absDiff g ref)))
  | [], _ => rfl
  | g :: gs, hgs => by
    have hg : m.state = .ready (shapeOf g) ref := by rw [hgs g List.mem_cons_self]; exact hst
    rw [correctAll_cons, correct_of_ready hg,
      correctAll_of_ready hst gs (fun g' h => hgs g' (List.mem_cons_of_mem _ h))]
    rfl

/-- 形 `s` へ `frames` を集めている途中なら、残りの `k` 枚までは差を返さず、そこで集めた平面の
中央値を背景にし、以後はその背景との差を返す。 -/
theorem correctAll_of_warmingUp (gs : List Plane) (hgs : ∀ g ∈ gs, shapeOf g = s) :
    ∀ (m : BackgroundModel) (frames : List Plane), m.state = .warmingUp s frames →
      frames.length < m.required →
      let k := m.required - frames.length
      let ref := medianOf (frames.reverse ++ gs.take k)
      (m.correctAll gs).2 =
          (gs.take k).map (fun _ => none) ++ (gs.drop k).map (fun g => some (absDiff g ref)) ∧
        (k ≤ gs.length → (m.correctAll gs).1.state = .ready s ref) := by
  induction gs with
  | nil =>
    intro m frames _ hlt
    refine ⟨by simp, fun hk => ?_⟩
    simp only [List.length_nil] at hk
    omega
  | cons g gs ih =>
    intro m frames hst hlt
    have hg : shapeOf g = s := hgs g List.mem_cons_self
    have hrest : ∀ g' ∈ gs, shapeOf g' = s := fun g' h => hgs g' (List.mem_cons_of_mem _ h)
    -- 残りの枚数 `k` は 1 以上で、`g` で 1 つ減る
    obtain ⟨k', hk'⟩ : ∃ k', m.required - frames.length = k' + 1 := ⟨_, (Nat.succ_pred_eq_of_pos (by omega)).symm⟩
    rw [← hg] at hst
    simp only [hk', List.take_succ_cons, List.drop_succ_cons, List.map_cons, List.cons_append,
      correctAll_cons, correct_of_warmingUp hst]
    split
    · -- `g` で集め終えた
      rename_i hfull
      have hk0 : k' = 0 := by omega
      subst hk0
      have hready : ({ m with state := .ready (shapeOf g) (medianOf (g :: frames).reverse) } :
          BackgroundModel).state = .ready s (medianOf (frames.reverse ++ [g])) := by simp [hg]
      rw [correctAll_of_ready hready gs hrest]
      simp [hg]
    · rename_i hnotfull
      obtain ⟨hout, hstate⟩ := ih hrest { m with state := .warmingUp (shapeOf g) (g :: frames) } (g :: frames)
        (by rw [hg]) (by simp only [List.length_cons]; omega)
      have hk : m.required - (g :: frames).length = k' := by simp only [List.length_cons]; omega
      simp only [hk, List.reverse_cons, List.append_assoc, List.singleton_append] at hout hstate
      refine ⟨by rw [hout], fun hlen => hstate (by simp only [List.length_cons] at hlen; omega)⟩

/-- 形に新しいモデルに形 `s` の平面を続けて与えると、最初の `required` 枚には差を返さず、
それ以後はその `required` 枚から作った背景との差を返す。`required` 枚目で用意ができる。 -/
theorem correctAll_of_fresh (hreq : 1 ≤ m.required) (hfresh : m.shape? ≠ some s)
    (gs : List Plane) (hgs : ∀ g ∈ gs, shapeOf g = s) :
    let ref := warmUpReference (gs.take m.required)
    (m.correctAll gs).2 =
        (gs.take m.required).map (fun _ => none) ++ (gs.drop m.required).map (fun g => some (absDiff g ref)) ∧
      (m.required ≤ gs.length → (m.correctAll gs).1.state = .ready s ref) := by
  cases gs with
  | nil =>
    refine ⟨by simp, fun hlen => ?_⟩
    simp only [List.length_nil] at hlen
    omega
  | cons g gs =>
    have hg : shapeOf g = s := hgs g List.mem_cons_self
    have hrest : ∀ g' ∈ gs, shapeOf g' = s := fun g' h => hgs g' (List.mem_cons_of_mem _ h)
    rw [← hg] at hfresh
    simp only [correctAll_cons, correct_of_fresh hfresh]
    split
    · -- 一枚で足りる：その平面がそのまま背景になる
      rename_i hone
      have h1 : m.required = 1 := by omega
      have hready : ({ m with state := .ready (shapeOf g) g } : BackgroundModel).state = .ready s g := by
        simp [hg]
      rw [correctAll_of_ready hready gs hrest]
      simp [h1, warmUpReference, hg]
    · rename_i hmany
      obtain ⟨hout, hstate⟩ := correctAll_of_warmingUp gs hrest
        { m with state := .warmingUp (shapeOf g) [g] } [g] (by rw [hg]) (by simp only [List.length_singleton]; omega)
      -- 残りは `required - 1` 枚で、背景は最初の `required` 枚の中央値
      obtain ⟨n, hn⟩ : ∃ n, m.required = n + 1 := ⟨_, (Nat.succ_pred_eq_of_pos hreq).symm⟩
      simp only [List.length_singleton, List.reverse_singleton, List.singleton_append, hn,
        Nat.add_sub_cancel] at hout hstate
      simp only [hn, List.take_succ_cons, List.drop_succ_cons, List.map_cons, List.cons_append,
        List.length_cons]
      cases gs with
      | nil =>
        simp only [List.take_nil, List.map_nil, List.drop_nil, List.append_nil,
          List.length_nil, correctAll_nil, true_and]
        omega
      | cons g' gs' =>
        have htwo : 2 ≤ (g :: (g' :: gs').take n).length := by simp; omega
        rw [warmUpReference_of_two_le htwo]
        exact ⟨by rw [hout], fun hlen => hstate (by omega)⟩

/-! ## 操作の列の後の規則 -/

/-- 背景のモデルの状態の規則。 -/
structure Lifecycle (m : BackgroundModel) : Prop where
  /-- 集めている平面は 1 枚以上要る枚数未満で、状態は結びついた形をしている。 -/
  wellShaped : m.WellShaped
  /-- 差を返すのは形の合う背景があるときだけで、差はその背景との差である。 -/
  correct_eq_some_iff : ∀ g d, (m.correct g).2 = some d ↔
    ∃ ref, m.state = .ready (shapeOf g) ref ∧ d = absDiff g ref
  /-- 差は与えた平面の形をしている。 -/
  correct_shape : ∀ g d, (m.correct g).2 = some d → shapeOf d = shapeOf g
  /-- 形に新しい平面の列は、最初の `required` 枚に差を返さず、以後はその `required` 枚から
  作った背景との差を返す。`required` 枚目でその背景の用意ができる。 -/
  warm_up : ∀ s gs, m.shape? ≠ some s → (∀ g ∈ gs, shapeOf g = s) →
    (m.correctAll gs).2 = (gs.take m.required).map (fun _ => none) ++
        (gs.drop m.required).map (fun g => some (absDiff g (warmUpReference (gs.take m.required)))) ∧
      (m.required ≤ gs.length →
        (m.correctAll gs).1.state = .ready s (warmUpReference (gs.take m.required)))

theorem WellShaped.lifecycle (h : m.WellShaped) : m.Lifecycle where
  wellShaped := h
  correct_eq_some_iff := fun _ _ => correct_snd_eq_some_iff
  correct_shape := fun g d hd => by
    obtain ⟨ref, -, rfl⟩ := correct_snd_eq_some_iff.mp hd
    rfl
  warm_up := fun _ gs hfresh hgs => correctAll_of_fresh h.one_le_required hfresh gs hgs

/-- **背景のモデルの状態の規則。** 要る枚数をいくつにして作っても、どんな操作の列の後でも、
状態は規則に従う。 -/
theorem lifecycle_performAll (required : Nat) (ops : List BackgroundOp) :
    ((new required).performAll ops).Lifecycle :=
  ((wellShaped_new required).performAll ops).lifecycle

end BackgroundModel

end DropletVision
