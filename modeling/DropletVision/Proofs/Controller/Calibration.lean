import DropletVision.Proofs.Controller.Ledger

/-!
# カメラの較正と設定の検査

制御の設定を入れ替える道は四つある：作るとき、更新、プロファイルの読み込み、開始。作るとき・
更新・読み込みは入れる設定を検査するが、開始はカメラの較正（換算と半径の補正）を検査せずに
設定へ写す。動いている間の読み込みも、読んだ設定の較正をカメラの較正で置き換える。

* `Calibration.violations` — 較正が破る規則の文言。設定の検査の最後の二つの規則にあたる。
* `DetectionConfig.ValidApartFromCalibration` — 較正を検査を通るものに差し替えれば、設定は
  検査を通る。
* `DetectionController.config_valid_up_to_calibration` — どんな操作の列の後でも、効いている設定は
  較正を除けば検査を通り、開始したカメラの較正がどれも検査を通るなら設定そのものが検査を通る。
* `DetectionController.start_installs_invalid_calibration` — 換算が 0 のカメラで開始すると、
  検査を通らない設定が効くようになる。

## 仕組み

操作が設定とカメラの較正にすることを一つの補題（`perform_calibration_cases`）にまとめ、
二つの不変条件（較正を除いた検査、較正の検査）はそれぞれその場合分けで保たれることを示す。
-/

namespace DropletVision

/-- 較正が破る規則の文言：換算は正の有限の数、半径の補正は有限の数。 -/
def Calibration.violations (k : Calibration) : List String :=
  DetectionConfig.rule (k.umPerPx > 0 && k.umPerPx.isFinite) "um_per_px must be a positive finite number" ++
  DetectionConfig.rule k.radiusOffsetPx.isFinite "radius_offset_px must be finite"

/-- 例外のモナドの `>>=` が成功したなら、前半が成功し、その値で後半が成功した。 -/
theorem Except.exists_of_bind_eq_ok {ε α β : Type} {x : Except ε α} {g : α → Except ε β} {b : β}
    (h : x >>= g = .ok b) : ∃ a, x = .ok a ∧ g a = .ok b := by
  cases x with
  | error e => cases h
  | ok a => exact ⟨a, rfl, h⟩

namespace DetectionConfig

variable {c : DetectionConfig} {k k' : Calibration}

theorem validate_eq_ok_iff : c.validate = .ok () ↔ c.violations = [] := by
  unfold validate
  split <;> simp_all

@[simp] theorem calibration_withCalibration : (c.withCalibration k).calibration = k := rfl

@[simp] theorem withCalibration_withCalibration :
    (c.withCalibration k).withCalibration k' = c.withCalibration k' := rfl

@[simp] theorem withCalibration_calibration : c.withCalibration c.calibration = c := rfl

/-- 較正を除けば設定は検査を通る：較正を検査を通るものに差し替えれば、設定は検査を通る。 -/
def ValidApartFromCalibration (c : DetectionConfig) : Prop :=
  ∀ k : Calibration, k.violations = [] → (c.withCalibration k).validate = .ok ()

/-- 設定の検査は、較正の二つの規則を最後に調べる。設定が規則をすべて満たせば、較正を検査を
通るものに差し替えても満たす。 -/
theorem violations_withCalibration_eq_nil (h : c.violations = []) (hk : k.violations = []) :
    (c.withCalibration k).violations = [] := by
  -- 規則の並びは `delta` で開く（等式の補題は作らせない）
  delta violations at h ⊢
  dsimp only [withCalibration]
  rw [Calibration.violations] at hk
  simp only [List.append_eq_nil_iff] at h hk ⊢
  exact ⟨⟨h.1.1, hk.1⟩, hk.2⟩

/-- 検査を通る設定の較正は、較正の規則を満たす。 -/
theorem calibration_violations_eq_nil (h : c.violations = []) : c.calibration.violations = [] := by
  delta violations at h
  simp only [List.append_eq_nil_iff] at h
  simp only [Calibration.violations, calibration, List.append_eq_nil_iff]
  exact ⟨h.1.2, h.2⟩

theorem validApartFromCalibration_of_validate (h : c.validate = .ok ()) : c.ValidApartFromCalibration :=
  fun _ hk => validate_eq_ok_iff.mpr (violations_withCalibration_eq_nil (validate_eq_ok_iff.mp h) hk)

theorem ValidApartFromCalibration.withCalibration (h : c.ValidApartFromCalibration) (k' : Calibration) :
    (c.withCalibration k').ValidApartFromCalibration := by
  intro k hk
  rw [withCalibration_withCalibration]
  exact h k hk

theorem ValidApartFromCalibration.validate (h : c.ValidApartFromCalibration)
    (hk : c.calibration.violations = []) : c.validate = .ok () := by
  have := h c.calibration hk
  rwa [withCalibration_calibration] at this

end DetectionConfig

namespace DetectionController

variable {k k' : DetectionController} {cam : Camera}

@[simp] theorem applyPendingBackground_cameraCalibration (k : DetectionController) :
    k.applyPendingBackground.cameraCalibration = k.cameraCalibration := by
  unfold applyPendingBackground
  split <;> rfl

@[simp] theorem installConfig_config (k : DetectionController) (next : DetectionConfig) :
    (k.installConfig next).config = next := rfl

@[simp] theorem installConfig_cameraCalibration (k : DetectionController) (next : DetectionConfig) :
    (k.installConfig next).cameraCalibration = k.cameraCalibration := rfl

/-! ## 一つの操作が設定とカメラの較正にすること -/

/-- 開始に成功すれば、カメラの較正を覚え、それが設定の較正と違えば設定に写す。 -/
theorem start_spec (hs : k.start cam = .ok k') :
    k'.cameraCalibration = cam.calibration ∧
      k'.config = match cam.calibration with
        | some cal => if calibrationDiffers cal k.config.calibration then k.config.withCalibration cal
          else k.config
        | none => k.config := by
  unfold start at hs
  cases hr : k.isRunning
  · cases hroi : cam.roi with
    | none => simp [hr, hroi, bind, Except.bind, throw, throwThe, MonadExceptOf.throw] at hs
    | some r =>
      cases hv : r.validateForSensor cam.sensorSize.1 cam.sensorSize.2 with
      | error e => simp [hr, hroi, hv, bind, Except.bind, pure, Except.pure] at hs
      | ok u =>
        simp only [hr, hroi, hv, bind, Except.bind, pure, Except.pure, Except.ok.injEq,
          Bool.false_eq_true, if_false] at hs
        subst hs
        rw [applyPendingBackground_cameraCalibration, (applyPendingBackground_config_measurements _).1]
        cases hc : cam.calibration with
        | none => exact ⟨rfl, rfl⟩
        | some cal =>
          by_cases hd : calibrationDiffers cal k.config.calibration = true
          · simp [hd]
          · simp [hd]
  · simp [hr, bind, Except.bind, throw, throwThe, MonadExceptOf.throw] at hs

/-- 止まっていて、カメラの領域がセンサーに収まれば、開始は成功する。 -/
theorem start_ok {r : Roi} (hr : k.isRunning = false) (hroi : cam.roi = some r)
    (hv : r.validateForSensor cam.sensorSize.1 cam.sensorSize.2 = .ok ()) :
    ∃ k', k.start cam = .ok k' := by
  unfold start
  simp [hr, hroi, hv, bind, Except.bind, pure, Except.pure]

theorem updateConfig_spec {p : ConfigPatch} (hu : k.updateConfig p = .ok k') :
    p.apply k.config = .ok k'.config ∧ k'.cameraCalibration = k.cameraCalibration := by
  obtain ⟨next, ha, hk⟩ := Except.exists_of_bind_eq_ok hu
  simp only [pure, Except.pure, Except.ok.injEq] at hk
  subst hk
  exact ⟨ha, rfl⟩

/-- 読んだ設定に入れ替える。動いていてカメラの較正があれば、それを入れたものに入れ替える。 -/
theorem loadConfig_spec (c : DetectionConfig) :
    ((k.loadConfig c).config = c ∨
        ∃ cal, k.cameraCalibration = some cal ∧ (k.loadConfig c).config = c.withCalibration cal) ∧
      (k.loadConfig c).cameraCalibration = k.cameraCalibration := by
  unfold loadConfig
  split
  · rename_i cal _ hcal
    exact ⟨.inr ⟨cal, hcal, rfl⟩, rfl⟩
  · exact ⟨.inl rfl, rfl⟩

theorem initializeBackground_spec {frames : List Frame} (hi : k.initializeBackground frames = .ok k') :
    k'.config = k.config ∧ k'.cameraCalibration = k.cameraCalibration := by
  obtain ⟨u, -, hk⟩ := Except.exists_of_bind_eq_ok hi
  simp only [pure, Except.pure, Except.ok.injEq] at hk
  subst hk
  exact ⟨(applyPendingBackground_config_measurements _).1, applyPendingBackground_cameraCalibration _⟩

theorem addFrame_config (k : DetectionController) (f : Frame) (t : Nat) :
    (k.addFrame f t).2.config = k.config ∧ (k.addFrame f t).2.cameraCalibration = k.cameraCalibration := by
  unfold addFrame
  split
  · exact ⟨rfl, rfl⟩
  · split <;> exact ⟨rfl, rfl⟩

theorem orKeep_cases {r : Outcome DetectionController} :
    k.orKeep r = k ∨ r = .ok (k.orKeep r) := by
  cases r with
  | ok k' => exact .inr rfl
  | error e => exact .inl rfl

/-- 操作が設定とカメラの較正にすることは四通り：どちらも変えない、検査に通った更新を入れる、
読めたプロファイルを（動いていればカメラの較正を入れて）入れる、開始したカメラの較正を覚えて
設定に写す。 -/
theorem perform_calibration_cases (k : DetectionController) (op : ControllerOp) :
    ((k.perform op).config = k.config ∧ (k.perform op).cameraCalibration = k.cameraCalibration) ∨
    (∃ p, op = .updateConfig p ∧ p.apply k.config = .ok (k.perform op).config ∧
      (k.perform op).cameraCalibration = k.cameraCalibration) ∨
    (∃ files path c, op = .loadProfile files path ∧ (loadProfile files path).1 = .ok c ∧
      ((k.perform op).config = c ∨
        ∃ cal, k.cameraCalibration = some cal ∧ (k.perform op).config = c.withCalibration cal) ∧
      (k.perform op).cameraCalibration = k.cameraCalibration) ∨
    (∃ cam, op = .start cam ∧ (k.perform op).cameraCalibration = cam.calibration ∧
      ((k.perform op).config = k.config ∨
        ∃ cal, cam.calibration = some cal ∧ (k.perform op).config = k.config.withCalibration cal)) := by
  cases op with
  | start cam =>
    rcases orKeep_cases (k := k) (r := k.start cam) with hk | hs
    · exact .inl (by simp [perform, hk])
    · obtain ⟨hcam, hcfg⟩ := start_spec hs
      refine .inr (.inr (.inr ⟨cam, rfl, hcam, ?_⟩))
      rw [show k.perform (.start cam) = k.orKeep (k.start cam) from rfl, hcfg]
      cases cam.calibration with
      | none => exact .inl rfl
      | some cal =>
        by_cases hd : calibrationDiffers cal k.config.calibration = true
        · exact .inr ⟨cal, rfl, by simp [hd]⟩
        · exact .inl (by simp [hd])
  | stop => exact .inl ⟨rfl, rfl⟩
  | reset => exact .inl ⟨rfl, rfl⟩
  | frame f t => exact .inl (addFrame_config k f t)
  | updateConfig p =>
    rcases orKeep_cases (k := k) (r := k.updateConfig p) with hk | hu
    · exact .inl (by simp [perform, hk])
    · obtain ⟨ha, hcam⟩ := updateConfig_spec hu
      exact .inr (.inl ⟨p, rfl, ha, hcam⟩)
  | loadProfile files path =>
    rw [perform_loadProfile]
    cases hl : (loadProfile files path).1 with
    | ok c =>
      obtain ⟨hcfg, hcam⟩ := loadConfig_spec (k := k) c
      exact .inr (.inr (.inl ⟨files, path, c, rfl, hl, hcfg, hcam⟩))
    | error e => exact .inl ⟨rfl, rfl⟩
  | initializeBackground frames =>
    rcases orKeep_cases (k := k) (r := k.initializeBackground frames) with hk | hi
    · exact .inl (by simp [perform, hk])
    · exact .inl (initializeBackground_spec hi)

/-! ## 較正を除いた検査 -/

/-- どの操作も、較正を除けば検査を通る設定を保つ。 -/
theorem validApartFromCalibration_perform (h : k.config.ValidApartFromCalibration) (op : ControllerOp) :
    (k.perform op).config.ValidApartFromCalibration := by
  rcases perform_calibration_cases k op with ⟨hc, -⟩ | ⟨p, -, ha, -⟩ | ⟨files, path, c, -, hl, hc, -⟩ |
      ⟨cam, -, -, hc⟩
  · rwa [hc]
  · exact DetectionConfig.validApartFromCalibration_of_validate (ConfigPatch.validate_of_apply ha)
  · have hv := DetectionConfig.validApartFromCalibration_of_validate (validate_of_loadProfile hl)
    rcases hc with hc | ⟨cal, -, hc⟩
    · rwa [hc]
    · rw [hc]
      exact hv.withCalibration cal
  · rcases hc with hc | ⟨cal, -, hc⟩
    · rwa [hc]
    · rw [hc]
      exact h.withCalibration cal

/-! ## 較正の検査 -/

/-- 設定の較正と覚えているカメラの較正が、どちらも較正の規則を満たすこと。 -/
structure CalibrationValid (k : DetectionController) : Prop where
  config : k.config.calibration.violations = []
  camera : ∀ cal, k.cameraCalibration = some cal → cal.violations = []

/-- 開始するカメラの較正が規則を満たすなら、一つの操作は較正の検査を保つ。 -/
theorem CalibrationValid.perform (h : k.CalibrationValid) (op : ControllerOp)
    (hop : ∀ cam, op = .start cam → ∀ cal, cam.calibration = some cal → cal.violations = []) :
    (k.perform op).CalibrationValid := by
  rcases perform_calibration_cases k op with ⟨hc, hcam⟩ | ⟨p, -, ha, hcam⟩ |
      ⟨files, path, c, -, hl, hc, hcam⟩ | ⟨cam, rfl, hcam, hc⟩
  · exact ⟨by rw [hc]; exact h.config, by rw [hcam]; exact h.camera⟩
  · refine ⟨?_, by rw [hcam]; exact h.camera⟩
    exact DetectionConfig.calibration_violations_eq_nil
      (DetectionConfig.validate_eq_ok_iff.mp (ConfigPatch.validate_of_apply ha))
  · refine ⟨?_, by rw [hcam]; exact h.camera⟩
    rcases hc with hc | ⟨cal, hcal, hc⟩
    · rw [hc]
      exact DetectionConfig.calibration_violations_eq_nil
        (DetectionConfig.validate_eq_ok_iff.mp (validate_of_loadProfile hl))
    · rw [hc, DetectionConfig.calibration_withCalibration]
      exact h.camera cal hcal
  · have hvalid := hop cam rfl
    refine ⟨?_, by rw [hcam]; exact hvalid⟩
    rcases hc with hc | ⟨cal, hcal, hc⟩
    · rw [hc]
      exact h.config
    · rw [hc, DetectionConfig.calibration_withCalibration]
      exact hvalid cal hcal

/-! ## 操作の列 -/

theorem validApartFromCalibration_performAll (h : k.config.ValidApartFromCalibration)
    (ops : List ControllerOp) : (k.performAll ops).config.ValidApartFromCalibration := by
  induction ops generalizing k with
  | nil => exact h
  | cons op ops ih => exact ih (validApartFromCalibration_perform h op)

theorem CalibrationValid.performAll (h : k.CalibrationValid) (ops : List ControllerOp)
    (hops : ∀ cam, ControllerOp.start cam ∈ ops → ∀ cal, cam.calibration = some cal → cal.violations = []) :
    (k.performAll ops).CalibrationValid := by
  induction ops generalizing k with
  | nil => exact h
  | cons op ops ih =>
    exact ih (h.perform op (fun cam hcam => hops cam (by rw [hcam]; exact List.mem_cons_self)))
      (fun cam hcam => hops cam (List.mem_cons_of_mem _ hcam))

/-- **較正を除いた設定の検査。** 検査を通る設定から作った制御にどんな操作の列を施しても、効いている
設定は、較正を検査を通るものに差し替えれば検査を通る。開始したカメラの較正がどれも検査を通るなら、
効いている設定そのものが検査を通る。 -/
theorem config_valid_up_to_calibration {c : DetectionConfig} {k₀ : DetectionController}
    (hk : new c = .ok k₀) (ops : List ControllerOp) :
    (∀ cal : Calibration, cal.violations = [] →
        ((k₀.performAll ops).config.withCalibration cal).validate = .ok ()) ∧
      ((∀ cam, ControllerOp.start cam ∈ ops → ∀ cal, cam.calibration = some cal → cal.violations = []) →
        (k₀.performAll ops).config.validate = .ok ()) := by
  have hc : c.validate = .ok () := by
    unfold new at hk
    cases hv : c.validate with
    | error e => simp [hv, bind, Except.bind] at hk
    | ok u => rfl
  rw [new_eq_ok hk]
  have hapart := validApartFromCalibration_performAll
    (k := { config := c, measurements := .ofConfig c })
    (DetectionConfig.validApartFromCalibration_of_validate hc) ops
  refine ⟨hapart, fun hops => hapart.validate ?_⟩
  have hinit : ({ config := c, measurements := .ofConfig c } : DetectionController).CalibrationValid :=
    ⟨DetectionConfig.calibration_violations_eq_nil (DetectionConfig.validate_eq_ok_iff.mp hc),
      fun _ h => by cases h⟩
  exact (hinit.performAll ops hops).config

/-- 換算が 2、半径の補正が -1 の較正を持つカメラで開始し、最小の面積を更新してから止めた制御での
`config_valid_up_to_calibration`。 -/
theorem config_valid_up_to_calibration_calibrated_camera :
    let cam : Camera := .synthetic { SyntheticCamera.new { width := 8, height := 8 } with
      roi := some ⟨0, 0, 8, 8⟩, calibration := some ⟨2.0, -1.0⟩ }
    let ops := [ControllerOp.start cam, .updateConfig { minArea := some 10.0 }, .stop]
    let k := ({ config := {}, measurements := .ofConfig {} } : DetectionController).performAll ops
    new {} = .ok { config := {}, measurements := .ofConfig {} } ∧
      (∀ cal : Calibration, cal.violations = [] → (k.config.withCalibration cal).validate = .ok ()) ∧
      ((∀ cam, ControllerOp.start cam ∈ ops → ∀ cal, cam.calibration = some cal → cal.violations = []) →
        k.config.validate = .ok ()) := by
  intro cam ops k
  have hnew : new {} = .ok { config := {}, measurements := .ofConfig {} } := rfl
  refine ⟨hnew, config_valid_up_to_calibration hnew ops⟩

/-- **開始は検査しない較正を入れる。** 換算が 0 のカメラで既定の設定の制御を開始すると、効いている
設定は換算の規則を破る。 -/
theorem start_installs_invalid_calibration :
    let cam : Camera := .synthetic { SyntheticCamera.new { width := 8, height := 8 } with
      roi := some ⟨0, 0, 8, 8⟩, calibration := some ⟨0.0, 0.0⟩ }
    let k := ({ config := {}, measurements := .ofConfig {} } : DetectionController).perform (.start cam)
    new {} = .ok { config := {}, measurements := .ofConfig {} } ∧
      k.config.violations = ["um_per_px must be a positive finite number"] := by
  intro cam k
  obtain ⟨k', hs⟩ : ∃ k', start { config := {}, measurements := .ofConfig {} } cam = .ok k' :=
    start_ok (r := ⟨0, 0, 8, 8⟩) rfl rfl rfl
  have hk : k = k' := by simp only [k, perform, orKeep, hs]
  obtain ⟨-, hc⟩ := start_spec hs
  refine ⟨rfl, ?_⟩
  rw [hk, hc]
  decide

end DetectionController

end DropletVision
