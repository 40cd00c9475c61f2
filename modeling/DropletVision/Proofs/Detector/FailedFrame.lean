import DropletVision.Proofs.Detector.Session

/-!
# 処理できない画像が検出器に残すもの

検出器は、検査（`Frame.validate`）に通らない画像や、明るさの平面にできない画像（四次元以上など）を
処理できず、何も報告しない。そのとき状態の何が変わるかを、ちょうど述べる。

* 検査に通らない画像 — 処理した枚数と「動き出した」印のほかは何も変わらない
  （`processFrame_of_validate_error`）。
* 検査には通るが明るさにできない画像 — 背景のモデルと動かない物の除去の前の平面は変わらない。
  ただし形 `(高さ, 幅)` が前の画像と違えば、形を覚え直し、重心の列を捨てる
  （`processFrame_of_unreadable`）。捨てた重心の列は戻らないので、次の画像では比べる相手が無い。
* どちらも含めた一つの式が `processFrame_of_intensity_error` である。

形が変わらないか検査で落ちる場合は、処理した枚数と印だけが変わる。その二つは後の処理に効かない
（`performAll_counters`）ので、後の操作の報告は、その画像が来なかったときと同じになる
（`performAll_after_unprocessable_frame`）。
-/

namespace DropletVision

/-- 検査に通らない画像は明るさにもできない。 -/
theorem Frame.intensity_of_validate_error {f : Frame} {e : DetectorError}
    (h : f.validate = .error e) : f.intensity = .error e := by
  simp [Frame.intensity, h, bind, Except.bind]

/-- 明るさにできない画像は前処理もできない（状態を返さない）。 -/
theorem Preprocessor.tryProcess_of_intensity_error {p : Preprocessor} {f : Frame}
    {e : DetectorError} (h : f.intensity = .error e) : p.tryProcess f = .error e := by
  simp [Preprocessor.tryProcess, h, bind, Except.bind]

namespace DropletDetector

variable {d : DropletDetector} {f : Frame} {e : DetectorError}

/-! ## 一枚の処理 -/

/-- 検査に通らない画像では、処理した枚数と印だけが変わる。 -/
theorem processFrame_of_validate_error (h : f.validate = .error e) :
    d.processFrame f = ({ d with framesProcessed := d.framesProcessed + 1, started := true }, [], []) := by
  simp [processFrame, tryProcessFrame, h]

/-- 検査に通るが明るさにできない画像では、形が変わっていれば重心の列を捨てて形を覚え直す。
背景のモデルと除去の状態は変わらない。 -/
theorem processFrame_of_unreadable (hv : f.validate = .ok ()) (h : f.intensity = .error e) :
    d.processFrame f =
      ({ d with
          framesProcessed := d.framesProcessed + 1, started := true
          history := if d.lastShape = some (f.height, f.width) then d.history else []
          lastShape := some (f.height, f.width) }, [], []) := by
  have hp := Preprocessor.tryProcess_of_intensity_error (p := d.preprocessor) h
  by_cases hs : d.lastShape = some (f.height, f.width)
  · simp [processFrame, tryProcessFrame, hv, hs, hp]
  · simp [processFrame, tryProcessFrame, hv, hs, hp]

/-- **処理できない画像が検出器に残すもの。** 何も報告せず、背景のモデルと除去の状態は変わらない。
重心の列と覚えた形が変わるのは、画像が検査に通り、形が前と違うときだけである。 -/
theorem processFrame_of_intensity_error (h : f.intensity = .error e) :
    d.processFrame f =
      ({ d with
          framesProcessed := d.framesProcessed + 1, started := true
          history :=
            if f.validate.isOk ∧ d.lastShape ≠ some (f.height, f.width) then [] else d.history
          lastShape := if f.validate.isOk then some (f.height, f.width) else d.lastShape },
        [], []) := by
  cases hv : f.validate with
  | error e' =>
    rw [processFrame_of_validate_error hv]
    simp [Except.isOk, Except.toBool]
  | ok u =>
    rw [processFrame_of_unreadable hv h]
    by_cases hs : d.lastShape = some (f.height, f.width) <;> simp [hs, Except.isOk, Except.toBool]

/-- 形の違う四次元の画像での `processFrame_of_intensity_error`。 -/
theorem processFrame_of_intensity_error_four_dims :
    let d : DropletDetector := { ofConfig {} with history := [(1, 1)], lastShape := some (1, 1) }
    let f : Frame := ⟨[2, 2, 1, 1], ⟨#[0, 0, 0, 0]⟩, 0, none⟩
    f.intensity = .error (.invalidFrame "unsupported frame with 4 dimensions (shape [2, 2, 1, 1])") ∧
    d.processFrame f =
      ({ d with
          framesProcessed := d.framesProcessed + 1, started := true
          history :=
            if f.validate.isOk ∧ d.lastShape ≠ some (f.height, f.width) then [] else d.history
          lastShape := if f.validate.isOk then some (f.height, f.width) else d.lastShape },
        [], []) :=
  have h : Frame.intensity ⟨[2, 2, 1, 1], ⟨#[0, 0, 0, 0]⟩, 0, none⟩ =
      .error (.invalidFrame "unsupported frame with 4 dimensions (shape [2, 2, 1, 1])") := by
    rfl
  ⟨h, processFrame_of_intensity_error h⟩

/-- 形の違う四次元の画像は処理できないが、重心の列を捨て、覚えた形を変えてしまう。 -/
theorem processFrame_drops_history_on_unreadable_frame :
    let d : DropletDetector := { ofConfig {} with history := [(1, 1)], lastShape := some (1, 1) }
    let f : Frame := ⟨[2, 2, 1, 1], ⟨#[0, 0, 0, 0]⟩, 0, none⟩
    f.intensity.isOk = false ∧ (d.processFrame f).2.1 = [] ∧
      (d.processFrame f).1.history ≠ d.history ∧ (d.processFrame f).1.lastShape ≠ d.lastShape := by
  intro d f
  have hh : (d.processFrame f).1.history = [] := rfl
  have hs : (d.processFrame f).1.lastShape = some (2, 2) := rfl
  refine ⟨by decide, rfl, ?_, ?_⟩
  · rw [hh]; simp [d]
  · rw [hs]; simp [d]

/-! ## 数えるだけの欄は後の処理に効かない -/

/-- 処理の本体は、処理した枚数と印を読まず、書き換えもしない。 -/
theorem tryProcessFrame_counters (d : DropletDetector) (n : Nat) (b : Bool) (f : Frame) :
    ({ d with framesProcessed := n, started := b }).tryProcessFrame f =
      ({ (d.tryProcessFrame f).1 with framesProcessed := n, started := b },
        (d.tryProcessFrame f).2) := by
  unfold tryProcessFrame
  cases f.validate with
  | error e => rfl
  | ok u =>
    -- 分かれ目は、形の比較、前処理の成否、準備、除去の規則の四つ
    rcases hp : d.preprocessor.tryProcess f with _ | ⟨p, mask⟩
    · by_cases hs : d.lastShape = some (f.height, f.width) <;> simp [hs, hp]
    · by_cases hs : d.lastShape = some (f.height, f.width) <;>
        by_cases hr : p.isReady <;> by_cases hu : d.rejector.useFrameDiff <;>
        rcases f.intensity with _ | g <;> simp [hs, hp, hr, hu, bind, Except.bind, pure, Except.pure]

/-- 一つの操作も、数えるだけの欄の違いを広げない。報告は同じになる。 -/
theorem perform_counters (d : DropletDetector) (n : Nat) (b : Bool) (op : DetectorOp) :
    ∃ n' b', ({ d with framesProcessed := n, started := b }).perform op =
      ({ (d.perform op).1 with framesProcessed := n', started := b' }, (d.perform op).2) := by
  cases op with
  | frame f =>
    refine ⟨n + 1, true, ?_⟩
    have h := tryProcessFrame_counters
      { d with framesProcessed := d.framesProcessed + 1, started := true } (n + 1) true f
    simp only [perform_frame, processFrame]
    rw [h]
    rcases (({ d with framesProcessed := d.framesProcessed + 1, started := true } :
      DropletDetector).tryProcessFrame f) with ⟨d', _ | ⟨ms, st⟩⟩ <;> rfl
  | reset => exact ⟨0, true, rfl⟩
  | initBackground frames =>
    cases hs : d.preprocessor.seedBackground frames with
    | error e => exact ⟨n, b, by simp [perform, initializeBackground, hs, bind, Except.bind]⟩
    | ok p => exact ⟨n, true, by simp [perform, initializeBackground, hs, bind, Except.bind, pure,
        Except.pure]⟩
  | configure c => exact ⟨n, b, rfl⟩

/-- 操作の列の報告は、処理した枚数と印によらない。 -/
theorem performAll_counters (ops : List DetectorOp) :
    ∀ (d : DropletDetector) (n : Nat) (b : Bool),
      (({ d with framesProcessed := n, started := b }).performAll ops).2 = (d.performAll ops).2 := by
  induction ops with
  | nil => intro d n b; rfl
  | cons op ops ih =>
    intro d n b
    obtain ⟨n', b', h⟩ := perform_counters d n b op
    simp only [performAll_cons, h]
    rw [ih]

/-- 検査で落ちるか形の変わらない処理できない画像の後は、どんな操作の列の報告も、
その画像が来なかったときと同じである。 -/
theorem performAll_after_unprocessable_frame (h : f.intensity = .error e)
    (hshape : f.validate = .ok () → d.lastShape = some (f.height, f.width))
    (ops : List DetectorOp) : ((d.processFrame f).1.performAll ops).2 = (d.performAll ops).2 := by
  cases hv : f.validate with
  | error e' =>
    rw [processFrame_of_validate_error hv]
    exact performAll_counters ops d _ _
  | ok u =>
    have hs := hshape (by rw [hv])
    rw [processFrame_of_unreadable hv h, if_pos hs, ← hs]
    exact performAll_counters ops d _ _

end DropletDetector

end DropletVision
