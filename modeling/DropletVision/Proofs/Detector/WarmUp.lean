import Mathlib.Data.List.Basic
import DropletVision.Proofs.Detector.FailedFrame

/-!
# 静的な背景の準備

背景の方法が静的なとき、検出器がいつ報告を始めるかを、すべての操作の列について述べる。

* 形 `(高さ, 幅)` の背景を用意し終えるまで、その形の画像には何も報告しない。
* 新しい検出器、リセット、背景の枚数の変わる設定の切り替え、あるいは別の形の画像の後では、
  同じ形の明るさにできる画像の `N` 枚目でちょうど用意ができる（`N` は設定の枚数、1 以上に
  切り上げる）。その `N` 枚目もまだ何も報告しない。
* 検出器の段階は、背景の用意ができていれば「用意済み」、まだ動き出していなければ「未初期化」、
  それ以外は「準備中」である。動き出させるのは、一枚の処理、リセット、成功する背景の初期化。
* 形が変わっても処理は誤りにならず、その画像は重心の列が空の検出器と同じに処理される。

## 仕組み

背景のモデルの `correct` は、形の合う背景がある、形の合う途中の平面がある、形に新しい、の三つの
場合に分かれる（`cases_shape`）。それぞれの結果を一つずつ述べ（`correct_of_ready`、
`correct_of_warmingUp`、`correct_of_fresh`）、集めた枚数の増え方（`correct_collectedFor`）と
用意ができる条件（`readyFor_iff`）をそこから出す。操作の列については、一つの操作が保つもの
（`WarmUpInvariant`）を示し、列の長さの帰納法で全体に広げる。
-/

namespace DropletVision

namespace BackgroundModel

/-- 背景が結びついている形。未初期化なら無し。 -/
def shape? (m : BackgroundModel) : Option (Nat × Nat) :=
  match m.state with
  | .uninitialized => none
  | .warmingUp s _ => some s
  | .ready s _ => some s

/-- 形 `s` の背景を用意し終えている。 -/
def ReadyFor (m : BackgroundModel) (s : Nat × Nat) : Prop := ∃ ref, m.state = .ready s ref

/-- 形 `s` へ向けて集めた枚数。別の形に結びついていれば 0。 -/
def collectedFor (m : BackgroundModel) (s : Nat × Nat) : Nat :=
  if m.shape? = some s then m.collected else 0

/-- 要る枚数は 1 以上で、集めている途中の平面は 1 枚以上、要る枚数未満。 -/
structure Consistent (m : BackgroundModel) : Prop where
  one_le_required : 1 ≤ m.required
  warming : ∀ s frames, m.state = .warmingUp s frames → 1 ≤ frames.length ∧ frames.length < m.required

variable {m : BackgroundModel} {g : Plane} {s : Nat × Nat}

@[simp] theorem shape?_reset : m.reset.shape? = none := rfl

@[simp] theorem reset_required : m.reset.required = m.required := rfl

/-! ## `correct` の三つの場合 -/

/-- 形の合う背景があれば、モデルはそのままで差を返す。 -/
theorem correct_of_ready {ref : Plane} (h : m.state = .ready (shapeOf g) ref) :
    m.correct g = (m, some (absDiff g ref)) := by
  simp [correct, h]

/-- 形の合う平面を集めている途中なら加え、要る枚数に達すれば中央値を背景にする。 -/
theorem correct_of_warmingUp {frames : List Plane} (h : m.state = .warmingUp (shapeOf g) frames) :
    m.correct g =
      if m.required ≤ frames.length + 1 then
        ({ m with state := .ready (shapeOf g) (medianOf (g :: frames).reverse) }, none)
      else ({ m with state := .warmingUp (shapeOf g) (g :: frames) }, none) := by
  simp [correct, h]

/-- 別の形に結びついているか未初期化なら、この平面から集め直す。 -/
theorem correct_of_fresh (h : m.shape? ≠ some (shapeOf g)) :
    m.correct g =
      if m.required ≤ 1 then ({ m with state := .ready (shapeOf g) g }, none)
      else ({ m with state := .warmingUp (shapeOf g) [g] }, none) := by
  unfold correct
  cases hst : m.state with
  | uninitialized => simp [hst]
  | warmingUp s frames =>
    have hs : s ≠ shapeOf g := fun he => h (by simp [shape?, hst, he])
    simp [hs, reset]
  | ready s ref =>
    have hs : s ≠ shapeOf g := fun he => h (by simp [shape?, hst, he])
    simp [hs, reset]

/-- どのモデルも、形 `s` の背景があるか、形 `s` へ集めている途中か、形 `s` には新しいかである。 -/
theorem cases_shape (m : BackgroundModel) (s : Nat × Nat) :
    (∃ ref, m.state = .ready s ref) ∨ (∃ frames, m.state = .warmingUp s frames) ∨ m.shape? ≠ some s := by
  cases hst : m.state with
  | uninitialized => simp [shape?, hst]
  | warmingUp s' frames =>
    by_cases hs : s' = s
    · subst hs; simp
    · simp [shape?, hst, hs]
  | ready s' ref =>
    by_cases hs : s' = s
    · subst hs; simp
    · simp [shape?, hst, hs]


/-! ## 三つの場合から出ること -/

theorem correct_required (m : BackgroundModel) (g : Plane) : (m.correct g).1.required = m.required := by
  rcases cases_shape m (shapeOf g) with ⟨ref, h⟩ | ⟨frames, h⟩ | h
  · rw [correct_of_ready h]
  · rw [correct_of_warmingUp h]; split <;> rfl
  · rw [correct_of_fresh h]; split <;> rfl

theorem correct_shape? (m : BackgroundModel) (g : Plane) :
    (m.correct g).1.shape? = some (shapeOf g) := by
  rcases cases_shape m (shapeOf g) with ⟨ref, h⟩ | ⟨frames, h⟩ | h
  · rw [correct_of_ready h]; simp [shape?, h]
  · rw [correct_of_warmingUp h]; split <;> rfl
  · rw [correct_of_fresh h]; split <;> rfl

theorem correct_consistent (hc : m.Consistent) : (m.correct g).1.Consistent := by
  rcases cases_shape m (shapeOf g) with ⟨ref, h⟩ | ⟨frames, h⟩ | h
  · rw [correct_of_ready h]; exact hc
  · have hlen := hc.warming _ _ h
    rw [correct_of_warmingUp h]
    split
    · exact ⟨hc.one_le_required, by simp⟩
    · refine ⟨hc.one_le_required, ?_⟩
      rintro s' frames' hst
      simp only [BackgroundState.warmingUp.injEq] at hst
      obtain ⟨-, rfl⟩ := hst
      simp only [List.length_cons]
      omega
  · rw [correct_of_fresh h]
    split
    · exact ⟨hc.one_le_required, by simp⟩
    · refine ⟨hc.one_le_required, ?_⟩
      rintro s' frames' hst
      simp only [BackgroundState.warmingUp.injEq] at hst
      obtain ⟨-, rfl⟩ := hst
      simp only [List.length_singleton]
      omega

/-- 用意ができているのは、集めた枚数が要る枚数に達しているときである。 -/
theorem readyFor_iff (hc : m.Consistent) : m.ReadyFor s ↔ m.collectedFor s = m.required := by
  rcases cases_shape m s with ⟨ref, h⟩ | ⟨frames, h⟩ | h
  · simp [ReadyFor, collectedFor, shape?, collected, h]
  · have hlen := hc.warming _ _ h
    simp [ReadyFor, collectedFor, shape?, collected, h]
    omega
  · have hc1 := hc.one_le_required
    have hnot : ¬m.ReadyFor s := by
      rintro ⟨ref, hst⟩
      exact h (by simp [shape?, hst])
    simp only [hnot, false_iff, collectedFor, if_neg h]
    omega

/-- 同じ形の一枚で、集めた枚数は一つ増える（要る枚数で止まる）。 -/
theorem correct_collectedFor (hc : m.Consistent) :
    (m.correct g).1.collectedFor (shapeOf g) = min (m.collectedFor (shapeOf g) + 1) m.required := by
  rw [collectedFor, correct_shape?, if_pos rfl]
  rcases cases_shape m (shapeOf g) with ⟨ref, h⟩ | ⟨frames, h⟩ | h
  · rw [correct_of_ready h]
    simp [collectedFor, shape?, collected, h]
  · have hlen := hc.warming _ _ h
    rw [correct_of_warmingUp h]
    simp only [collectedFor, shape?, h, if_true]
    split <;> simp [collected, h] <;> omega
  · have hc1 := hc.one_le_required
    rw [correct_of_fresh h]
    simp only [collectedFor, if_neg h]
    split <;> simp [collected] <;> omega

/-- 形の合う背景が無ければ差は返さない。 -/
theorem correct_snd_eq_none (hr : ¬m.ReadyFor (shapeOf g)) : (m.correct g).2 = none := by
  rcases cases_shape m (shapeOf g) with ⟨ref, h⟩ | ⟨frames, h⟩ | h
  · exact absurd ⟨ref, h⟩ hr
  · rw [correct_of_warmingUp h]; split <;> rfl
  · rw [correct_of_fresh h]; split <;> rfl

end BackgroundModel

/-! ## 画像の形と前景の無い平面 -/

/-- 明るさの平面の形は、画像の最初の二つの次元である。 -/
theorem Frame.shapeOf_of_intensity {f : Frame} {g : Plane} (h : f.intensity = .ok g) :
    BackgroundModel.shapeOf g = (f.height, f.width) := by
  unfold Frame.intensity at h
  cases hv : f.validate with
  | error e => simp [hv, bind, Except.bind] at h
  | ok u =>
    simp only [hv, bind, Except.bind] at h
    split at h
    · rename_i hgt wd hs
      simp only [Except.ok.injEq] at h
      subst h
      simp [BackgroundModel.shapeOf, Plane.ofFn, Frame.height, Frame.width, hs]
    · rename_i hgt wd ch hs
      simp only [Except.ok.injEq] at h
      subst h
      simp [BackgroundModel.shapeOf, Plane.ofFn, Frame.height, Frame.width, hs]
    · simp at h

/-- 明るさにできる画像は検査に通る。 -/
theorem Frame.validate_of_intensity {f : Frame} {g : Plane} (h : f.intensity = .ok g) :
    f.validate = .ok () := by
  cases hv : f.validate with
  | error e => rw [Frame.intensity_of_validate_error hv] at h; cases h
  | ok u => rfl

@[simp] theorem Mask.get_empty (h w r c : Nat) : (Mask.empty h w).get r c = false := by
  simp [Mask.get, Mask.empty, ByteArray.getElem_eq_getElem_data]

/-- 前景の無い平面には成分が無い。二回の走査のどちらも状態を変えない。 -/
theorem connectedComponents_empty (h w : Nat) :
    (connectedComponents (Mask.empty h w)).components = #[] := by
  dsimp only [connectedComponents]
  split
  · rfl
  · have hfirst : ∀ (st : FirstPass) i, firstPassStep (Mask.empty h w) st i = st := by
      intro st i
      simp [firstPassStep]
    rw [List.foldl_fixed' (hfirst _)]
    have hsecond : ∀ (roots : Array Nat) i,
        secondPassStep w roots ⟨Array.replicate (h * w) 0, Array.replicate 1 0, #[]⟩ i =
          ⟨Array.replicate (h * w) 0, Array.replicate 1 0, #[]⟩ := by
      intro roots i
      have hz : (Array.replicate (h * w) 0 : Array Nat).getD i 0 = 0 := by
        rw [Array.getD_eq_getD_getElem?, Array.getElem?_replicate]
        split <;> rfl
      simp only [secondPassStep, hz]
      rfl
    simp only [Mask.empty]
    rw [List.foldl_fixed' (hsecond _)]

theorem findExternalContours_empty (h w : Nat) : findExternalContours (Mask.empty h w) = [] := by
  simp [findExternalContours, connectedComponents_empty]

theorem Segmenter.detect_empty (s : Segmenter) (h w : Nat) (band : Option (Nat × Nat)) :
    s.detect (Mask.empty h w) band = [] := by
  simp [Segmenter.detect, findExternalContours_empty]

/-! ## 静的な背景での一枚の処理 -/

/-- 静的な背景では、前処理は背景のモデルに平面を一枚与え、差が無ければ前景の無い平面を返す。 -/
theorem Preprocessor.tryProcess_static {p : Preprocessor} {f : Frame} {g : Plane}
    (hm : p.backgroundMethod = .static) (hg : f.intensity = .ok g) :
    ∃ mask, p.tryProcess f = .ok ({ p with background := (p.background.correct g).1 }, mask) ∧
      ((p.background.correct g).2 = none → mask = Mask.empty g.height g.width) := by
  rcases hc : p.background.correct g with ⟨bg, _ | diff⟩
  · exact ⟨_, by simp [tryProcess, hg, hm, hc, bind, Except.bind, pure, Except.pure], fun _ => rfl⟩
  · exact ⟨applyMorphology (applyThreshold diff p.thresholdMethod p.adaptiveBlockSize p.adaptiveC)
      p.element p.morphOperation,
      by simp [tryProcess, hg, hm, hc, bind, Except.bind, pure, Except.pure], fun h => by cases h⟩


/-! ## 何も報告しない処理 -/

@[simp] theorem ArtifactRejector.filter_nil (r : ArtifactRejector) (previous : CentroidHistory) :
    r.filter [] previous = [] := by
  simp [ArtifactRejector.filter]

@[simp] theorem ArtifactRejector.filterByFrameDifference_nil (r : ArtifactRejector) (gray : Plane) :
    (r.filterByFrameDifference [] gray).2 = [] := by
  unfold ArtifactRejector.filterByFrameDifference
  split
  · split <;> rfl
  · rfl

@[simp] theorem Measurer.measure_nil (ms : Measurer) (k : Calibration) : ms.measure [] k = [] := rfl

namespace DropletDetector

variable {d : DropletDetector} {f : Frame} {g : Plane}

/-- 明るさにできる画像の処理は、背景のモデルにその平面を一枚与え、形を覚える。 -/
theorem processFrame_of_intensity (hm : d.preprocessor.backgroundMethod = .static)
    (hg : f.intensity = .ok g) :
    (d.processFrame f).1.preprocessor =
        { d.preprocessor with background := (d.preprocessor.background.correct g).1 } ∧
      (d.processFrame f).1.started = true ∧
      (d.processFrame f).1.lastShape = some (f.height, f.width) := by
  obtain ⟨mask, hp, -⟩ := Preprocessor.tryProcess_static hm hg
  have hv := Frame.validate_of_intensity hg
  -- 形の比較、準備、除去の規則で分かれるが、三つの欄はどの道でも同じになる
  by_cases hr : ({ d.preprocessor with background := (d.preprocessor.background.correct g).1 } :
        Preprocessor).isReady <;> by_cases hu : d.rejector.useFrameDiff <;>
    by_cases hs : d.lastShape = some (f.height, f.width) <;>
    simp [processFrame, tryProcessFrame, hv, hs, hp, hr, hu, hg, bind, Except.bind, pure, Except.pure]

/-- 背景のモデルが差を返さなければ、前景の無い平面から始まるので何も報告しない。 -/
theorem processFrame_eq_nil_of_correct_none (hm : d.preprocessor.backgroundMethod = .static)
    (hg : f.intensity = .ok g) (hn : (d.preprocessor.background.correct g).2 = none) :
    (d.processFrame f).2.1 = [] := by
  obtain ⟨mask, hp, hmask⟩ := Preprocessor.tryProcess_static hm hg
  have hv := Frame.validate_of_intensity hg
  rw [hmask hn] at hp
  by_cases hr : ({ d.preprocessor with background := (d.preprocessor.background.correct g).1 } :
        Preprocessor).isReady <;> by_cases hu : d.rejector.useFrameDiff <;>
    by_cases hs : d.lastShape = some (f.height, f.width) <;>
    simp [processFrame, tryProcessFrame, hv, hs, hp, hr, hu, hg, bind, Except.bind, pure, Except.pure,
      Segmenter.detect_empty]

/-- 明るさにできない画像の処理は、前処理に触れず、何も報告しない。 -/
theorem processFrame_of_intensity_error' {e : DetectorError} (h : f.intensity = .error e) :
    (d.processFrame f).1.preprocessor = d.preprocessor ∧ (d.processFrame f).1.started = true ∧
      (d.processFrame f).2.1 = [] := by
  cases hv : f.validate with
  | error e' => rw [processFrame_of_validate_error hv]; simp
  | ok u => rw [processFrame_of_unreadable hv h]; simp

/-- 形 `(高さ, 幅)` の背景を用意し終えていなければ、その画像には何も報告しない。 -/
theorem processFrame_eq_nil_of_not_ready (hm : d.preprocessor.backgroundMethod = .static)
    (hr : ¬d.preprocessor.background.ReadyFor (f.height, f.width)) : (d.processFrame f).2.1 = [] := by
  rcases hg : f.intensity with e | g
  · exact (processFrame_of_intensity_error' hg).2.2
  · rw [← Frame.shapeOf_of_intensity hg] at hr
    exact processFrame_eq_nil_of_correct_none hm hg (BackgroundModel.correct_snd_eq_none hr)

end DropletDetector

/-! ## 操作ごとの背景のモデル -/

namespace BackgroundModel

variable {m : BackgroundModel}

theorem seed_required (m : BackgroundModel) (planes : List Plane) :
    (m.seed planes).required = m.required := by
  cases planes <;> rfl

theorem seed_consistent (hc : m.Consistent) (planes : List Plane) : (m.seed planes).Consistent := by
  cases planes with
  | nil => exact hc
  | cons first rest => exact ⟨hc.one_le_required, fun s frames h => by cases h⟩

theorem reset_consistent (hc : m.Consistent) : m.reset.Consistent :=
  ⟨hc.one_le_required, fun s frames h => by cases h⟩

end BackgroundModel

/-- 例外のモナドの `mapM` が成功するのは、どの要素でも成功するときである。 -/
theorem List.mapM_except_isOk {α β ε : Type} (f : α → Except ε β) :
    ∀ l : List α, (l.mapM f).isOk = l.all (fun a => (f a).isOk)
  | [] => rfl
  | a :: l => by
    rw [List.mapM_cons, List.all_cons, ← List.mapM_except_isOk f l]
    cases f a <;> cases l.mapM f <;> rfl

namespace DropletDetector

variable {d : DropletDetector}

/-- 背景の初期化が成功するのは、すべての画像を明るさにできるときである。成功すれば、背景の
モデルは与えた平面から作り直され、検出器は動き出す。 -/
theorem initializeBackground_spec (frames : List Frame) :
    (d.initializeBackground frames).isOk = frames.all (·.intensity.isOk) ∧
      ∀ d', d.initializeBackground frames = .ok d' →
        ∃ grays, d'.preprocessor =
            { d.preprocessor with background := d.preprocessor.background.seed grays } ∧
          d'.started = true := by
  rw [← List.mapM_except_isOk Frame.intensity frames]
  rcases hm : frames.mapM Frame.intensity with e | grays
  · refine ⟨by simp [initializeBackground, Preprocessor.seedBackground, hm, bind, Except.bind]; rfl, ?_⟩
    intro d' h
    simp [initializeBackground, Preprocessor.seedBackground, hm, bind, Except.bind] at h
  · refine ⟨by simp [initializeBackground, Preprocessor.seedBackground, hm, bind, Except.bind, pure,
      Except.pure]; rfl, ?_⟩
    intro d' h
    simp only [initializeBackground, Preprocessor.seedBackground, hm, bind, Except.bind, pure,
      Except.pure, Except.ok.injEq] at h
    exact ⟨grays, by rw [← h], by rw [← h]⟩

end DropletDetector

/-! ## 操作の列が保つもの -/

/-- 静的な背景の検出器が操作の列で保つもの。`c` は効いている設定。 -/
structure WarmUpInvariant (c : DetectionConfig) (d : DropletDetector) : Prop where
  static : d.preprocessor.backgroundMethod = .static
  required_eq : d.preprocessor.background.required = max c.backgroundFrames 1
  consistent : d.preprocessor.background.Consistent
  fresh_of_not_started : d.started = false → d.preprocessor.background.shape? = none

namespace DropletDetector

variable {c : DetectionConfig} {d : DropletDetector}

theorem warmUpInvariant_ofConfig (h : c.backgroundMethod = .static) :
    WarmUpInvariant c (ofConfig c) where
  static := h
  required_eq := rfl
  consistent := ⟨Nat.le_max_right _ _, fun s frames h => by cases h⟩
  fresh_of_not_started := fun _ => rfl

/-- 一枚の処理は、効いている設定を変えずに不変な条件を保ち、検出器を動き出させる。 -/
theorem processFrame_invariant (hi : WarmUpInvariant c d) (f : Frame) :
    WarmUpInvariant c (d.processFrame f).1 ∧ (d.processFrame f).1.started = true := by
  rcases hg : f.intensity with e | g
  · obtain ⟨hp, hs, -⟩ := processFrame_of_intensity_error' (d := d) hg
    exact ⟨⟨hp ▸ hi.static, hp ▸ hi.required_eq, hp ▸ hi.consistent, by simp [hs]⟩, hs⟩
  · obtain ⟨hp, hs, -⟩ := processFrame_of_intensity (d := d) hi.static hg
    refine ⟨⟨by rw [hp]; exact hi.static, ?_, ?_, by simp [hs]⟩, hs⟩
    · rw [hp]
      simp only
      rw [BackgroundModel.correct_required, hi.required_eq]
    · rw [hp]
      exact BackgroundModel.correct_consistent hi.consistent

/-- 設定の切り替えは、背景の方法か枚数が変わるときだけ背景のモデルを作り直す。 -/
theorem applyConfig_background (d : DropletDetector) (c : DetectionConfig) :
    (d.applyConfig c).preprocessor.background =
      if (d.preprocessor.backgroundMethod != c.backgroundMethod ||
          d.preprocessor.background.required != max c.backgroundFrames 1) then
        d.preprocessor.background.setRequired c.backgroundFrames
      else d.preprocessor.background := rfl

/-- 一つの操作は不変な条件を保つ。動き出させる操作の後は動き出している。 -/
theorem perform_invariant (hi : WarmUpInvariant c d) (op : DetectorOp)
    (hop : ∀ c', op = .configure c' → c'.backgroundMethod = .static) :
    WarmUpInvariant (op.configAfter c) (d.perform op).1 ∧
      (d.perform op).1.started = (d.started || op.starts) := by
  cases op with
  | frame f =>
    obtain ⟨hi', hs⟩ := processFrame_invariant hi f
    exact ⟨hi', by simp [hs, DetectorOp.starts]⟩
  | reset =>
    refine ⟨⟨hi.static, hi.required_eq, BackgroundModel.reset_consistent hi.consistent, ?_⟩, ?_⟩
    · intro h
      cases h
    · simp [perform, reset, DetectorOp.starts]
  | initBackground frames =>
    obtain ⟨hok, hspec⟩ := initializeBackground_spec (d := d) frames
    rcases h : d.initializeBackground frames with e | d'
    · have hall : frames.all (·.intensity.isOk) = false := by rw [← hok, h]; rfl
      refine ⟨?_, by simp [perform, h, DetectorOp.starts, hall]⟩
      simpa [perform, h, DetectorOp.configAfter] using hi
    · obtain ⟨grays, hp, hs⟩ := hspec d' h
      have hall : frames.all (·.intensity.isOk) = true := by rw [← hok, h]; rfl
      simp only [perform, h, DetectorOp.configAfter]
      refine ⟨⟨by rw [hp]; exact hi.static, ?_, ?_, by simp [hs]⟩, by simp [hs, DetectorOp.starts, hall]⟩
      · rw [hp]
        simp only
        rw [BackgroundModel.seed_required, hi.required_eq]
      · rw [hp]
        exact BackgroundModel.seed_consistent hi.consistent grays
  | configure c' =>
    have hstatic := hop c' rfl
    simp only [perform_configure, DetectorOp.configAfter, DetectorOp.starts, Bool.or_false]
    refine ⟨⟨hstatic, ?_, ?_, ?_⟩, rfl⟩
    · rw [applyConfig_background]
      split
      · rfl
      · rename_i hch
        simp only [Bool.or_eq_true, bne_iff_ne, ne_eq, not_or, not_not] at hch
        exact hch.2
    · rw [applyConfig_background]
      split
      · exact ⟨Nat.le_max_right _ _, fun s frames h => by cases h⟩
      · exact hi.consistent
    · intro hns
      rw [applyConfig_background]
      split
      · rfl
      · exact hi.fresh_of_not_started hns

/-- **操作の列は不変な条件を保つ。** 検出器が動き出しているのは、動き出させる操作があったときである。 -/
theorem performAll_invariant (ops : List DetectorOp) :
    ∀ (c : DetectionConfig) (d : DropletDetector), WarmUpInvariant c d →
      (∀ c', DetectorOp.configure c' ∈ ops → c'.backgroundMethod = .static) →
      WarmUpInvariant (DetectorOp.configInForce c ops) (d.performAll ops).1 ∧
        (d.performAll ops).1.started = (d.started || ops.any DetectorOp.starts) := by
  induction ops with
  | nil => intro c d hi _; simpa [DetectorOp.configInForce] using hi
  | cons op ops ih =>
    intro c d hi hops
    obtain ⟨hi', hs'⟩ := perform_invariant hi op (fun c' h => hops c' (by simp [h]))
    obtain ⟨hrun, hstarted⟩ := ih _ _ hi' (fun c' h => hops c' (List.mem_cons_of_mem _ h))
    refine ⟨hrun, ?_⟩
    rw [performAll_cons, hstarted, hs', List.any_cons, Bool.or_assoc]

end DropletDetector

/-! ## 同じ形の画像を続けて与える -/

theorem BackgroundModel.collectedFor_le {m : BackgroundModel} (hc : m.Consistent) (s : Nat × Nat) :
    m.collectedFor s ≤ m.required := by
  unfold BackgroundModel.collectedFor
  split
  · unfold BackgroundModel.collected
    split
    · exact Nat.zero_le _
    · rename_i s' frames hst
      exact Nat.le_of_lt (hc.warming s' frames hst).2
    · exact Nat.le_refl _
  · exact Nat.zero_le _

namespace DropletDetector

variable {c : DetectionConfig} {d : DropletDetector} {f : Frame} {s : Nat × Nat}

/-- 形 `s` の画像は形 `s` へ集めた枚数を一つ増やし、明るさにできない画像は何も変えない。 -/
theorem processFrame_collectedFor (hi : WarmUpInvariant c d)
    (hf : f.intensity.isOk → (f.height, f.width) = s) :
    (d.processFrame f).1.preprocessor.background.collectedFor s =
      if f.intensity.isOk then min (d.preprocessor.background.collectedFor s + 1) (max c.backgroundFrames 1)
      else d.preprocessor.background.collectedFor s := by
  rcases hg : f.intensity with e | g
  · obtain ⟨hp, -, -⟩ := processFrame_of_intensity_error' (d := d) hg
    simp [hp, Except.isOk, Except.toBool]
  · have hs : BackgroundModel.shapeOf g = s := by
      rw [Frame.shapeOf_of_intensity hg]; exact hf (by rw [hg]; rfl)
    obtain ⟨hp, -, -⟩ := processFrame_of_intensity (d := d) hi.static hg
    rw [hp, ← hs, ← hi.required_eq]
    exact BackgroundModel.correct_collectedFor hi.consistent

/-- 同じ形 `s` の画像の列では、形 `s` へ集めた枚数は明るさにできる画像の数だけ増え、要る枚数で
止まる。集めた枚数と画像の数の和が要る枚数を超えなければ、どの画像にも何も報告しない。 -/
theorem performAll_frames_collectedFor (fs : List Frame) :
    (∀ f ∈ fs, f.intensity.isOk → (f.height, f.width) = s) →
    ∀ (d : DropletDetector), WarmUpInvariant c d →
      (d.performAll (fs.map .frame)).1.preprocessor.background.collectedFor s =
          min (d.preprocessor.background.collectedFor s + (fs.filter (·.intensity.isOk)).length)
            (max c.backgroundFrames 1) ∧
        (d.preprocessor.background.collectedFor s + (fs.filter (·.intensity.isOk)).length ≤
            max c.backgroundFrames 1 → ∀ out ∈ (d.performAll (fs.map .frame)).2, out = []) := by
  induction fs with
  | nil =>
    intro _ d hi
    have hle := BackgroundModel.collectedFor_le hi.consistent s
    rw [hi.required_eq] at hle
    simp [Nat.min_eq_left hle]
  | cons f fs ih =>
    intro hs d hi
    have hf := hs f (List.mem_cons_self ..)
    obtain ⟨hi', -⟩ := processFrame_invariant hi f
    obtain ⟨hcount, hsilent⟩ := ih (fun f' h => hs f' (List.mem_cons_of_mem _ h)) _ hi'
    have hstep := processFrame_collectedFor hi hf
    simp only [List.map_cons, performAll_cons, perform_frame] at hcount hsilent ⊢
    constructor
    · rw [hcount, hstep]
      cases hok : f.intensity.isOk
      · simp [hok]
      · simp [hok]; omega
    · intro hle out hout
      simp only [List.mem_cons] at hout
      rcases hout with rfl | hout
      · -- 与える前に集めた枚数が要る枚数に届いていないので、背景の用意ができていない
        rcases hg : f.intensity with e | g
        · exact (processFrame_of_intensity_error' hg).2.2
        · have hfs : (f.height, f.width) = s := hf (by rw [hg]; rfl)
          refine processFrame_eq_nil_of_not_ready hi.static ?_
          rw [hfs, BackgroundModel.readyFor_iff hi.consistent, hi.required_eq]
          have : (f.intensity.isOk) = true := by rw [hg]; rfl
          simp [this] at hle
          omega
      · refine hsilent ?_ out hout
        rw [hstep]
        cases hok : f.intensity.isOk <;> simp [hok] at hle ⊢ <;> omega

end DropletDetector

/-! ## 形の変わる画像 -/

/-- 明るさにできる画像なら、背景の方法によらず前処理は成功する。 -/
theorem Preprocessor.tryProcess_ok {p : Preprocessor} {f : Frame} {g : Plane}
    (hg : f.intensity = .ok g) : ∃ r, p.tryProcess f = .ok r := by
  cases hm : p.backgroundMethod with
  | static =>
    obtain ⟨mask, hp, -⟩ := Preprocessor.tryProcess_static hm hg
    exact ⟨_, hp⟩
  | highpass =>
    simp [Preprocessor.tryProcess, hg, hm, bind, Except.bind, pure, Except.pure]

namespace DropletDetector

variable {c : DetectionConfig} {d : DropletDetector} {f : Frame} {g : Plane}

/-- 明るさにできる画像の処理は誤りにならない。 -/
theorem tryProcessFrame_ok (hg : f.intensity = .ok g) : ∃ r, (d.tryProcessFrame f).2 = .ok r := by
  obtain ⟨⟨p, mask⟩, hp⟩ := Preprocessor.tryProcess_ok (p := d.preprocessor) hg
  have hv := Frame.validate_of_intensity hg
  by_cases hr : p.isReady <;> by_cases hu : d.rejector.useFrameDiff <;>
    by_cases hs : d.lastShape = some (f.height, f.width) <;>
    simp [tryProcessFrame, hv, hs, hp, hr, hu, hg, bind, Except.bind, pure, Except.pure]

/-- 検査に通る画像の形が前と違えば、重心の列が空の検出器と同じに処理する。 -/
theorem processFrame_of_shape_change (hv : f.validate = .ok ())
    (hs : d.lastShape ≠ some (f.height, f.width)) :
    d.processFrame f = ({ d with history := [] }).processFrame f := by
  simp [processFrame, tryProcessFrame, hv, hs]

/-- 検出器の段階は、背景の用意ができていれば用意済み、動き出していなければ未初期化、
それ以外は準備中である。 -/
theorem state_eq_of_invariant (hi : WarmUpInvariant c d) :
    d.state = if d.preprocessor.background.isReady then .ready
      else if d.started then .warmingUp else .uninitialized := by
  unfold state Preprocessor.backgroundPhase
  rw [hi.static]
  have hu : (BackgroundPhase.uninitialized == BackgroundPhase.ready) = false := rfl
  have hw : (BackgroundPhase.warmingUp == BackgroundPhase.ready) = false := rfl
  have hr : (BackgroundPhase.ready == BackgroundPhase.ready) = true := rfl
  cases hst : d.preprocessor.background.state with
  | uninitialized => simp [BackgroundModel.phase, BackgroundModel.isReady, hst, hu]
  | warmingUp s frames =>
    have hstarted : d.started = true := by
      cases hs : d.started
      · have := hi.fresh_of_not_started hs
        simp [BackgroundModel.shape?, hst] at this
      · rfl
    simp [BackgroundModel.phase, BackgroundModel.isReady, hst, hstarted, hw]
  | ready s ref => simp [BackgroundModel.phase, BackgroundModel.isReady, hst, hr]

end DropletDetector

/-! ## 準備の規則 -/

/-- 静的な背景の検出器 `d` の準備の規則。`N` は効いている設定の枚数（1 以上に切り上げ）、
`started` は動き出させる操作があったか。 -/
structure WarmUpLaw (d : DropletDetector) (N : Nat) (started : Bool) : Prop where
  /-- 背景に要る枚数は `N` である。 -/
  required_eq : d.preprocessor.background.required = N
  /-- 形の合う背景を用意し終えていなければ、その画像には何も報告しない。 -/
  silent_until_ready : ∀ f : Frame,
    ¬d.preprocessor.background.ReadyFor (f.height, f.width) → (d.processFrame f).2.1 = []
  /-- 形 `s` に新しい背景は、明るさにできる形 `s` の画像の `N` 枚目でちょうど用意ができ、
  その `N` 枚目までの画像には何も報告しない。 -/
  ready_on_nth : ∀ (s : Nat × Nat) (fs : List Frame), d.preprocessor.background.shape? ≠ some s →
    (∀ f ∈ fs, f.intensity.isOk → (f.height, f.width) = s) →
    ((d.performAll (fs.map .frame)).1.preprocessor.background.ReadyFor s ↔
        N ≤ (fs.filter (·.intensity.isOk)).length) ∧
      ((fs.filter (·.intensity.isOk)).length ≤ N → ∀ out ∈ (d.performAll (fs.map .frame)).2, out = [])
  /-- 動き出す前の背景、リセットの後、背景の方法か枚数の変わる設定の切り替えの後の背景は、
  どの形にも新しい。 -/
  fresh_of_not_started : started = false → d.preprocessor.background.shape? = none
  fresh_after_reset : d.reset.preprocessor.background.shape? = none
  fresh_after_configure : ∀ c : DetectionConfig,
    (d.preprocessor.backgroundMethod != c.backgroundMethod ||
      d.preprocessor.background.required != max c.backgroundFrames 1) = true →
    (d.applyConfig c).preprocessor.background.shape? = none
  /-- 段階は、背景の用意ができていれば用意済み、動き出していなければ未初期化、それ以外は準備中。 -/
  state_eq : d.state = if d.preprocessor.background.isReady then .ready
    else if started then .warmingUp else .uninitialized
  /-- 形の変わる画像でも処理は誤りにならず、重心の列が空の検出器と同じに処理する。 -/
  shape_change : ∀ f : Frame, f.intensity.isOk → d.lastShape ≠ some (f.height, f.width) →
    (∃ r, (d.tryProcessFrame f).2 = .ok r) ∧ d.processFrame f = ({ d with history := [] }).processFrame f

namespace DropletDetector

variable {c : DetectionConfig} {d : DropletDetector}

/-- 不変な条件を満たす検出器は準備の規則に従う。 -/
theorem warmUpLaw_of_invariant (hi : WarmUpInvariant c d) :
    WarmUpLaw d (max c.backgroundFrames 1) d.started where
  required_eq := hi.required_eq
  silent_until_ready := fun f hr => processFrame_eq_nil_of_not_ready hi.static hr
  ready_on_nth := by
    intro s fs hfresh hfs
    obtain ⟨hcount, hsilent⟩ := performAll_frames_collectedFor fs hfs d hi
    have h0 : d.preprocessor.background.collectedFor s = 0 := by
      simp [BackgroundModel.collectedFor, hfresh]
    obtain ⟨hi', -⟩ := performAll_invariant (fs.map .frame) c d hi
      (fun c' h => by simp at h)
    have hc : DetectorOp.configInForce c (fs.map .frame) = c := by
      simp [DetectorOp.configInForce, List.foldl_map, DetectorOp.configAfter]
    rw [hc] at hi'
    rw [h0, Nat.zero_add] at hcount hsilent
    refine ⟨?_, hsilent⟩
    rw [BackgroundModel.readyFor_iff hi'.consistent, hcount, hi'.required_eq]
    omega
  fresh_of_not_started := hi.fresh_of_not_started
  fresh_after_reset := rfl
  fresh_after_configure := fun c hch => by rw [applyConfig_background, if_pos hch]; rfl
  state_eq := state_eq_of_invariant hi
  shape_change := by
    intro f hok hs
    rcases hg : f.intensity with e | g
    · rw [hg] at hok; cases hok
    · exact ⟨tryProcessFrame_ok hg, processFrame_of_shape_change (Frame.validate_of_intensity hg) hs⟩

/-- **静的な背景の検出器の準備の規則。** 静的な背景の設定だけを使う操作の列の後の検出器は、
効いている設定の枚数で準備の規則に従う。動き出しているのは、一枚の処理、リセット、成功する背景の
初期化のどれかがあったときである。 -/
theorem warmUpLaw_of_static (c₀ : DetectionConfig) (ops : List DetectorOp)
    (h₀ : c₀.backgroundMethod = .static)
    (hops : ∀ c, DetectorOp.configure c ∈ ops → c.backgroundMethod = .static) :
    WarmUpLaw ((ofConfig c₀).performAll ops).1
      (max (DetectorOp.configInForce c₀ ops).backgroundFrames 1) (ops.any DetectorOp.starts) := by
  obtain ⟨hi, hstarted⟩ := performAll_invariant ops c₀ (ofConfig c₀) (warmUpInvariant_ofConfig h₀) hops
  have h := warmUpLaw_of_invariant hi
  rw [hstarted] at h
  simpa [ofConfig] using h

/-- 二枚の背景を要る設定に切り替え、一枚処理してリセットした検出器での `warmUpLaw_of_static`。 -/
theorem warmUpLaw_after_frame_configure_reset :
    let ops := [DetectorOp.frame (Frame.mono 2 2 ⟨#[0, 0, 0, 0]⟩),
      .configure { backgroundFrames := 2 }, .reset]
    ({} : DetectionConfig).backgroundMethod = .static ∧
      (∀ c, DetectorOp.configure c ∈ ops → c.backgroundMethod = .static) ∧
      WarmUpLaw ((ofConfig {}).performAll ops).1
        (max (DetectorOp.configInForce {} ops).backgroundFrames 1) (ops.any DetectorOp.starts) :=
  have h₀ : ({} : DetectionConfig).backgroundMethod = .static := rfl
  have hops : ∀ c, DetectorOp.configure c ∈ [DetectorOp.frame (Frame.mono 2 2 ⟨#[0, 0, 0, 0]⟩),
      .configure { backgroundFrames := 2 }, .reset] → c.backgroundMethod = .static := by
    intro c hc
    simp only [List.mem_cons, List.not_mem_nil, or_false, reduceCtorEq, false_or,
      DetectorOp.configure.injEq] at hc
    rw [hc]
  ⟨h₀, hops, warmUpLaw_of_static _ _ h₀ hops⟩

/-- 背景の初期化が失敗しても、検出器は動き出さず未初期化のままである。 -/
theorem state_uninitialized_after_failed_initialization :
    ((ofConfig {}).performAll [.initBackground [⟨[3], ⟨#[0, 0, 0]⟩, 0, none⟩]]).1.state =
      .uninitialized := rfl

end DropletDetector

end DropletVision
