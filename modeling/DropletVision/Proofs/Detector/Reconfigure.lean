import DropletVision.Proofs.Detector.WarmUp

/-!
# 設定の切り替えが変えるもの、残すもの

画像の合間の設定の切り替え `DropletDetector.applyConfig` について。

* `DropletDetector.Follows c d` — 検出器の設定から決まる部分が設定 `c` のものであること。
  新しい検出器は作った設定に、どんな操作の列の後の検出器も最後に与えた設定に従う
  （`follows_performAll`）。
* 設定 `c₁` に従う検出器に `c₂` を与えると、背景のモデルは方法か枚数（1 以上に切り上げ）が
  変わったときだけ作り直し（`applyConfig_background_of_follows`）、構造要素は大きさ
  （1 以上に切り上げ）が変わったときだけ作り直す（`applyConfig_element_of_follows`）。
  重心の列、前の形、処理した枚数、前の平面はどれも残る。
* `applyConfig_applyConfig` — 同じ設定を二度与えても一度と同じ。
* `applyConfig_of_follows` — 従っている設定を与え直しても検出器は変わらない。

## 仕組み

一枚の処理・リセット・背景の初期化が変えるのは状態の部分（背景のモデル、前の平面、重心の列、
前の形、枚数、動き出したか）だけで、背景のモデルに要る枚数も変えない
（`tryProcessFrame_frame`）。それで `Follows` は設定の切り替えのほかのどの操作でも保たれる。
-/

namespace DropletVision

/-- 背景の方法の `!=` は等しくないこと。 -/
theorem BackgroundMethod.bne_iff_ne {a b : BackgroundMethod} : (a != b) = true ↔ a ≠ b := by
  cases a <;> cases b <;> decide

@[simp] theorem BackgroundMethod.bne_self (a : BackgroundMethod) : (a != a) = false := by
  cases a <;> rfl

/-- 構造要素は大きさ（1 以上に切り上げ）だけで決まる。 -/
@[simp] theorem StructuringElement.size_ellipse (s : Nat) :
    (StructuringElement.ellipse s).size = max s 1 :=
  rfl

theorem StructuringElement.ellipse_max_one (s : Nat) :
    StructuringElement.ellipse (max s 1) = StructuringElement.ellipse s := by
  simp only [ellipse, Nat.max_eq_left (Nat.le_max_right s 1)]

/-! ## 設定に従う検出器 -/

/-- 前処理の、設定から決まる部分が設定 `c` のものであること。背景のモデルは状態を持つので、
要る枚数だけが設定から決まる。 -/
structure Preprocessor.Follows (c : DetectionConfig) (p : Preprocessor) : Prop where
  eq : p = { Preprocessor.ofConfig c with background := p.background }
  required : p.background.required = max c.backgroundFrames 1

/-- 検出器の、設定から決まる部分が設定 `c` のものであること。 -/
structure DropletDetector.Follows (c : DetectionConfig) (d : DropletDetector) : Prop where
  preprocessor : d.preprocessor.Follows c
  segmenter : d.segmenter = Segmenter.ofConfig c
  rejector :
    d.rejector = { ArtifactRejector.ofConfig c with previousFrame := d.rejector.previousFrame }
  measurer : d.measurer = Measurer.ofConfig c
  calibration : d.calibration = c.calibration
  channelBand : d.channelBand = c.channelBand

namespace Preprocessor

variable {p p' : Preprocessor} {f : Frame} {mask : Mask}

/-- 前処理が変えるのは背景のモデルだけで、要る枚数は変えない。 -/
theorem tryProcess_frame (h : p.tryProcess f = .ok (p', mask)) :
    ∃ bg, p' = { p with background := bg } ∧ bg.required = p.background.required := by
  rcases hg : f.intensity with e | g
  · simp [tryProcess, hg, bind, Except.bind] at h
  by_cases hm : p.backgroundMethod = .static
  · obtain ⟨mask', hp, -⟩ := tryProcess_static hm hg
    rw [hp] at h
    cases h
    exact ⟨_, rfl, BackgroundModel.correct_required _ _⟩
  · have hh : p.backgroundMethod = .highpass := by
      cases hb : p.backgroundMethod
      · exact absurd hb hm
      · rfl
    simp only [tryProcess, hg, hh, bind, Except.bind, pure, Except.pure, Except.ok.injEq,
      Prod.mk.injEq] at h
    rw [← h.1]
    exact ⟨_, rfl, rfl⟩

theorem Follows.method {c : DetectionConfig} (hf : p.Follows c) :
    p.backgroundMethod = c.backgroundMethod :=
  congrArg Preprocessor.backgroundMethod hf.eq

theorem Follows.element {c : DetectionConfig} (hf : p.Follows c) :
    p.element = StructuringElement.ellipse c.morphKernelSize :=
  congrArg Preprocessor.element hf.eq

/-- 設定を与えた後の背景のモデルに要る枚数は、与えた設定のもの（1 以上に切り上げ）。 -/
theorem required_applyConfig (p : Preprocessor) (c : DetectionConfig) :
    (p.applyConfig c).background.required = max c.backgroundFrames 1 := by
  simp only [applyConfig]
  split
  · rfl
  · rename_i h
    simp only [Bool.or_eq_true, bne_iff_ne, ne_eq, not_or, not_not] at h
    exact h.2

/-- 設定を与えた後の構造要素の大きさは、与えた設定のもの（1 以上に切り上げ）。 -/
theorem size_applyConfig (p : Preprocessor) (c : DetectionConfig) :
    (p.applyConfig c).element.size = max c.morphKernelSize 1 := by
  simp only [applyConfig]
  split
  · rfl
  · rename_i h
    simpa using h

/-- 設定を与えた前処理は、背景のモデルと構造要素のほかは設定から作ったものと同じ。 -/
theorem applyConfig_eq (p : Preprocessor) (c : DetectionConfig) :
    p.applyConfig c = { Preprocessor.ofConfig c with background := (p.applyConfig c).background,
                                                       element := (p.applyConfig c).element } :=
  rfl

/-- 背景の方法と枚数、構造要素の大きさが変わらない設定は、背景のモデルと構造要素を残す。 -/
theorem applyConfig_of_unchanged {c : DetectionConfig}
    (hm : p.backgroundMethod = c.backgroundMethod)
    (hr : p.background.required = max c.backgroundFrames 1)
    (hs : p.element.size = max c.morphKernelSize 1) :
    p.applyConfig c =
      { Preprocessor.ofConfig c with background := p.background, element := p.element } := by
  simp only [applyConfig, hm, hr, hs, BackgroundMethod.bne_self, bne_self_eq_false, Bool.or_false,
    if_false, Bool.false_eq_true]
  rfl

/-- 同じ設定を二度与えても、二度目は何も変えない。 -/
theorem applyConfig_applyConfig (p : Preprocessor) (c : DetectionConfig) :
    (p.applyConfig c).applyConfig c = p.applyConfig c := by
  rw [applyConfig_of_unchanged rfl (required_applyConfig p c) (size_applyConfig p c)]
  rfl

/-- 従っている設定を与え直しても、前処理は変わらない。 -/
theorem Follows.applyConfig_self {c : DetectionConfig} (hf : p.Follows c) :
    p.applyConfig c = p := by
  have hs : p.element.size = max c.morphKernelSize 1 := by rw [hf.element]; rfl
  rw [applyConfig_of_unchanged hf.method hf.required hs, hf.element]
  exact hf.eq.symm

end Preprocessor

/-- 平面の差で選ぶと、与えた平面が次の「前」になる。ほかの欄は変わらない。 -/
@[simp] theorem ArtifactRejector.filterByFrameDifference_fst (r : ArtifactRejector)
    (cs : List Contour) (gray : Plane) :
    (r.filterByFrameDifference cs gray).1 = { r with previousFrame := some gray } := by
  unfold ArtifactRejector.filterByFrameDifference
  split
  · split <;> rfl
  · rfl

namespace DropletDetector

variable {c c₁ c₂ : DetectionConfig} {d : DropletDetector}

/-- 状態の部分だけを差し替えた検出器。 -/
def withState (d : DropletDetector) (bg : BackgroundModel) (previous : Option Plane)
    (history : CentroidHistory) (lastShape : Option (Nat × Nat)) : DropletDetector :=
  { d with preprocessor := { d.preprocessor with background := bg },
           rejector := { d.rejector with previousFrame := previous }, history, lastShape }

/-- 一枚の処理の本体が変えるのは、背景のモデル、前の平面、重心の列、前の形だけで、背景のモデルに
要る枚数は変えない。 -/
theorem tryProcessFrame_frame (d : DropletDetector) (f : Frame) :
    ∃ bg, bg.required = d.preprocessor.background.required ∧
      (d.tryProcessFrame f).1 = d.withState bg (d.tryProcessFrame f).1.rejector.previousFrame
        (d.tryProcessFrame f).1.history (d.tryProcessFrame f).1.lastShape := by
  rcases hv : f.validate with e | u
  · refine ⟨_, rfl, ?_⟩
    simp only [tryProcessFrame, hv]
    rfl
  rcases hp : d.preprocessor.tryProcess f with e | ⟨p, mask⟩
  · refine ⟨_, rfl, ?_⟩
    cases hs : (d.lastShape != some (f.height, f.width)) <;>
      simp only [tryProcessFrame, hv, hs, hp, if_true, if_false, Bool.false_eq_true] <;> rfl
  obtain ⟨bg, rfl, hreq⟩ := Preprocessor.tryProcess_frame hp
  refine ⟨bg, hreq, ?_⟩
  -- 除去の規則は、欄ごと場合分けして両辺で同じ値にする
  obtain ⟨pre, seg, ⟨mm, mp, ae, useFrameDiff, fdt, pf⟩, meas, hist, cal, band, ls, fp, st⟩ := d
  cases hr : (!({ pre with background := bg } : Preprocessor).isReady) <;> cases useFrameDiff <;>
    cases hs : (ls != some (f.height, f.width)) <;>
    rcases hg : f.intensity with e | g <;>
    simp only [tryProcessFrame, hv, hs, hp, hr, hg, bind, Except.bind, pure, Except.pure,
      if_true, if_false, Bool.false_eq_true, ArtifactRejector.filterByFrameDifference_fst] <;>
    rfl

/-- 一枚の処理は、数を進めて動き出させるほかは、処理の本体と同じに検出器を変える。 -/
theorem processFrame_fst (d : DropletDetector) (f : Frame) :
    (d.processFrame f).1 =
      (({ d with framesProcessed := d.framesProcessed + 1, started := true } : DropletDetector
        ).tryProcessFrame f).1 := by
  unfold processFrame
  dsimp only
  split <;> rename_i h <;> rw [h]

/-- 背景の初期化が成功すれば、背景のモデルは与えた平面から作り直され、前の平面と重心の列は
捨てられる。 -/
theorem initializeBackground_frame {frames : List Frame} {d' : DropletDetector}
    (h : d.initializeBackground frames = .ok d') :
    ∃ bg, bg.required = d.preprocessor.background.required ∧
      d' = { d.withState bg none [] (frames.head?.map (fun f => (f.height, f.width))) with
             started := true } := by
  unfold initializeBackground Preprocessor.seedBackground at h
  rcases hg : frames.mapM Frame.intensity with e | grays
  · simp [hg, bind, Except.bind] at h
  · simp only [hg, bind, Except.bind, pure, Except.pure, Except.ok.injEq] at h
    subst h
    exact ⟨_, BackgroundModel.seed_required _ _, rfl⟩

/-! ## 設定に従うことは操作で保たれる -/

theorem follows_ofConfig (c : DetectionConfig) : (ofConfig c).Follows c where
  preprocessor := ⟨rfl, rfl⟩
  segmenter := rfl
  rejector := rfl
  measurer := rfl
  calibration := rfl
  channelBand := rfl

/-- 状態の部分だけを差し替えても、要る枚数が同じなら設定に従う。 -/
theorem Follows.withState {bg : BackgroundModel} (hf : d.Follows c)
    (hbg : bg.required = d.preprocessor.background.required) (previous : Option Plane)
    (history : CentroidHistory) (lastShape : Option (Nat × Nat)) :
    (d.withState bg previous history lastShape).Follows c where
  preprocessor := by
    refine ⟨?_, hbg.trans hf.preprocessor.required⟩
    show ({ d.preprocessor with background := bg } : Preprocessor) = _
    rw [hf.preprocessor.eq]
    rfl
  segmenter := hf.segmenter
  rejector := by
    show ({ d.rejector with previousFrame := previous } : ArtifactRejector) = _
    rw [hf.rejector]
    rfl
  measurer := hf.measurer
  calibration := hf.calibration
  channelBand := hf.channelBand

/-- 処理した枚数と動き出したかは、設定に従うかどうかに関わらない。 -/
theorem Follows.withCounters (hf : d.Follows c) (n : Nat) (b : Bool) :
    ({ d with framesProcessed := n, started := b } : DropletDetector).Follows c :=
  ⟨hf.preprocessor, hf.segmenter, hf.rejector, hf.measurer, hf.calibration, hf.channelBand⟩

theorem Follows.processFrame (hf : d.Follows c) (f : Frame) : (d.processFrame f).1.Follows c := by
  rw [processFrame_fst]
  obtain ⟨bg, hbg, hd⟩ := tryProcessFrame_frame
    ({ d with framesProcessed := d.framesProcessed + 1, started := true } : DropletDetector) f
  rw [hd]
  exact (hf.withCounters _ _).withState hbg _ _ _

theorem Follows.reset (hf : d.Follows c) : d.reset.Follows c := by
  have hbg : d.preprocessor.background.reset.required = d.preprocessor.background.required := rfl
  exact (hf.withState hbg none [] none).withCounters 0 true

theorem Follows.initializeBackground {frames : List Frame} {d' : DropletDetector} (hf : d.Follows c)
    (h : d.initializeBackground frames = .ok d') : d'.Follows c := by
  obtain ⟨bg, hbg, rfl⟩ := initializeBackground_frame h
  exact (hf.withState hbg _ _ _).withCounters _ true

/-- 設定 `c₁` に従う検出器に `c₂` を与えると、背景のモデルは方法か枚数（1 以上に切り上げ）が
変わったときだけ作り直す。 -/
theorem applyConfig_background_of_follows (hf : d.Follows c₁) (c₂ : DetectionConfig) :
    (d.applyConfig c₂).preprocessor.background =
      if c₂.backgroundMethod ≠ c₁.backgroundMethod ∨
          max c₂.backgroundFrames 1 ≠ max c₁.backgroundFrames 1 then
        BackgroundModel.new c₂.backgroundFrames
      else d.preprocessor.background := by
  rw [applyConfig_background, hf.preprocessor.method, hf.preprocessor.required]
  have hcond : (c₁.backgroundMethod != c₂.backgroundMethod ||
      max c₁.backgroundFrames 1 != max c₂.backgroundFrames 1) = true ↔
      c₂.backgroundMethod ≠ c₁.backgroundMethod ∨
        max c₂.backgroundFrames 1 ≠ max c₁.backgroundFrames 1 := by
    simp only [Bool.or_eq_true, BackgroundMethod.bne_iff_ne, bne_iff_ne]
    exact or_congr ne_comm ne_comm
  by_cases h : c₂.backgroundMethod ≠ c₁.backgroundMethod ∨
      max c₂.backgroundFrames 1 ≠ max c₁.backgroundFrames 1
  · rw [if_pos (hcond.2 h), if_pos h]
    rfl
  · rw [if_neg (mt hcond.1 h), if_neg h]

/-- 構造要素は大きさ（1 以上に切り上げ）が変わったときだけ作り直す。作り直さなくても、
与えた設定の大きさの楕円になっている。 -/
theorem applyConfig_element_of_follows (hf : d.Follows c₁) (c₂ : DetectionConfig) :
    (d.applyConfig c₂).preprocessor.element =
        (if max c₂.morphKernelSize 1 ≠ max c₁.morphKernelSize 1 then
          StructuringElement.ellipse c₂.morphKernelSize
        else d.preprocessor.element) ∧
      (d.applyConfig c₂).preprocessor.element = StructuringElement.ellipse c₂.morphKernelSize := by
  have he := hf.preprocessor.element
  have hrebuild : (d.applyConfig c₂).preprocessor.element =
      if max c₂.morphKernelSize 1 ≠ max c₁.morphKernelSize 1 then
        StructuringElement.ellipse c₂.morphKernelSize
      else d.preprocessor.element := by
    show (d.preprocessor.applyConfig c₂).element = _
    simp only [Preprocessor.applyConfig, he, StructuringElement.size_ellipse, bne_iff_ne, ne_eq,
      eq_comm (a := max c₁.morphKernelSize 1)]
  refine ⟨hrebuild, ?_⟩
  rw [hrebuild]
  split
  · rfl
  · rename_i h
    -- 大きさが同じ楕円は同じ
    rw [he, ← StructuringElement.ellipse_max_one c₁.morphKernelSize, ← not_not.1 h,
      StructuringElement.ellipse_max_one]

/-- 設定を与えると、検出器はその設定に従う。 -/
theorem Follows.applyConfig (hf : d.Follows c₁) (c₂ : DetectionConfig) :
    (d.applyConfig c₂).Follows c₂ where
  preprocessor := by
    refine ⟨?_, Preprocessor.required_applyConfig _ _⟩
    have he : (d.preprocessor.applyConfig c₂).element =
        StructuringElement.ellipse c₂.morphKernelSize :=
      (applyConfig_element_of_follows hf c₂).2
    show d.preprocessor.applyConfig c₂ = _
    rw [Preprocessor.applyConfig_eq, he]
    rfl
  segmenter := rfl
  rejector := rfl
  measurer := rfl
  calibration := rfl
  channelBand := rfl

theorem Follows.perform (hf : d.Follows c) (op : DetectorOp) :
    (d.perform op).1.Follows (op.configAfter c) := by
  cases op with
  | frame f => exact hf.processFrame f
  | reset => exact hf.reset
  | initBackground frames =>
    cases h : d.initializeBackground frames with
    | ok d' =>
      simpa [DropletDetector.perform, h, DetectorOp.configAfter] using hf.initializeBackground h
    | error e => simpa [DropletDetector.perform, h, DetectorOp.configAfter] using hf
  | configure c' => exact hf.applyConfig c'

/-- **どんな操作の列の後も、検出器は最後に与えた設定に従う。** -/
theorem follows_performAll (ops : List DetectorOp) :
    ∀ (c : DetectionConfig) (d : DropletDetector), d.Follows c →
      (d.performAll ops).1.Follows (DetectorOp.configInForce c ops) := by
  induction ops with
  | nil => intro c d hf; exact hf
  | cons op ops ih => intro c d hf; exact ih _ _ (hf.perform op)

/-! ## 同じ設定を与え直す -/

/-- 同じ設定を二度与えても一度と同じ。 -/
theorem applyConfig_applyConfig (d : DropletDetector) (c : DetectionConfig) :
    (d.applyConfig c).applyConfig c = d.applyConfig c := by
  show { d.applyConfig c with preprocessor := (d.preprocessor.applyConfig c).applyConfig c } = _
  rw [Preprocessor.applyConfig_applyConfig]
  rfl

/-- 従っている設定を与え直しても、検出器は変わらない。 -/
theorem Follows.applyConfig_self (hf : d.Follows c) : d.applyConfig c = d := by
  show { d with preprocessor := d.preprocessor.applyConfig c, segmenter := Segmenter.ofConfig c,
                rejector :=
                  { ArtifactRejector.ofConfig c with previousFrame := d.rejector.previousFrame },
                measurer := Measurer.ofConfig c, calibration := c.calibration,
                channelBand := c.channelBand } = d
  rw [hf.preprocessor.applyConfig_self, ← hf.segmenter, ← hf.rejector, ← hf.measurer,
    ← hf.calibration, ← hf.channelBand]

/-- **設定の切り替えは、変わった部分だけを作り直す。**

新しい検出器に操作の列を施した検出器 `d` は、列が最後に与えた設定 `c₁`（無ければ作った設定）に
従う。そこへ設定 `c₂` を与えると、背景のモデルは方法か枚数（1 以上に切り上げ）が変わったとき
だけ作り直し、構造要素は大きさ（1 以上に切り上げ）が変わったときだけ作り直す。重心の列、前の形、
処理した枚数、前の平面は変えない。同じ設定を二度与えても一度と同じで、`c₁` を与え直しても
検出器はそのまま（以後の処理の結果も変わらない）。 -/
theorem applyConfig_rebuilds_only_changed_parts {c₀ c₂ : DetectionConfig} {ops : List DetectorOp}
    {d : DropletDetector} (hd : ((ofConfig c₀).performAll ops).1 = d) :
    (d.applyConfig c₂).preprocessor.background =
        (if c₂.backgroundMethod ≠ (DetectorOp.configInForce c₀ ops).backgroundMethod ∨
            max c₂.backgroundFrames 1 ≠
              max (DetectorOp.configInForce c₀ ops).backgroundFrames 1 then
          BackgroundModel.new c₂.backgroundFrames
        else d.preprocessor.background) ∧
      (d.applyConfig c₂).preprocessor.element =
        (if max c₂.morphKernelSize 1 ≠ max (DetectorOp.configInForce c₀ ops).morphKernelSize 1 then
          StructuringElement.ellipse c₂.morphKernelSize
        else d.preprocessor.element) ∧
      (d.applyConfig c₂).history = d.history ∧ (d.applyConfig c₂).lastShape = d.lastShape ∧
      (d.applyConfig c₂).framesProcessed = d.framesProcessed ∧
      (d.applyConfig c₂).rejector.previousFrame = d.rejector.previousFrame ∧
      (d.applyConfig c₂).applyConfig c₂ = d.applyConfig c₂ ∧
      d.applyConfig (DetectorOp.configInForce c₀ ops) = d := by
  have hf : d.Follows (DetectorOp.configInForce c₀ ops) :=
    hd ▸ follows_performAll ops c₀ _ (follows_ofConfig c₀)
  exact ⟨applyConfig_background_of_follows hf c₂, (applyConfig_element_of_follows hf c₂).1,
    rfl, rfl, rfl, rfl, applyConfig_applyConfig d c₂, hf.applyConfig_self⟩

/-- 枚数を 5 にした検出器に、構造要素の大きさだけを 5 にした設定を与える。 -/
theorem applyConfig_rebuilds_only_changed_parts_after_configure :
    ((ofConfig {}).performAll [.configure { backgroundFrames := 5 }]).1 =
        (ofConfig {}).applyConfig { backgroundFrames := 5 } ∧
      (((ofConfig {}).applyConfig { backgroundFrames := 5 }).applyConfig
          { morphKernelSize := 5 }).preprocessor.background =
        (if (BackgroundMethod.static ≠ .static ∨ max 30 1 ≠ max 5 1) then BackgroundModel.new 30
        else ((ofConfig {}).applyConfig { backgroundFrames := 5 }).preprocessor.background) ∧
      (((ofConfig {}).applyConfig { backgroundFrames := 5 }).applyConfig
          { morphKernelSize := 5 }).preprocessor.element =
        (if max 5 1 ≠ max 3 1 then StructuringElement.ellipse 5
        else ((ofConfig {}).applyConfig { backgroundFrames := 5 }).preprocessor.element) ∧
      (((ofConfig {}).applyConfig { backgroundFrames := 5 }).applyConfig
          { morphKernelSize := 5 }).history =
        ((ofConfig {}).applyConfig { backgroundFrames := 5 }).history ∧
      (((ofConfig {}).applyConfig { backgroundFrames := 5 }).applyConfig
          { morphKernelSize := 5 }).lastShape =
        ((ofConfig {}).applyConfig { backgroundFrames := 5 }).lastShape ∧
      (((ofConfig {}).applyConfig { backgroundFrames := 5 }).applyConfig
          { morphKernelSize := 5 }).framesProcessed =
        ((ofConfig {}).applyConfig { backgroundFrames := 5 }).framesProcessed ∧
      (((ofConfig {}).applyConfig { backgroundFrames := 5 }).applyConfig
          { morphKernelSize := 5 }).rejector.previousFrame =
        ((ofConfig {}).applyConfig { backgroundFrames := 5 }).rejector.previousFrame ∧
      ((((ofConfig {}).applyConfig { backgroundFrames := 5 }).applyConfig
          { morphKernelSize := 5 }).applyConfig { morphKernelSize := 5 }) =
        ((ofConfig {}).applyConfig { backgroundFrames := 5 }).applyConfig { morphKernelSize := 5 } ∧
      ((ofConfig {}).applyConfig { backgroundFrames := 5 }).applyConfig { backgroundFrames := 5 } =
        (ofConfig {}).applyConfig { backgroundFrames := 5 } :=
  ⟨rfl, @applyConfig_rebuilds_only_changed_parts {} { morphKernelSize := 5 }
    [.configure { backgroundFrames := 5 }] _ rfl⟩

end DropletDetector

end DropletVision
