import Mathlib.Data.List.Basic
import Mathlib.Data.List.Induction
import DropletVision.Proofs.Controller.Calibration

/-!
# 開始と停止

制御の開始・停止・リセット・一枚の処理が、動いているかと関心領域にすること。

* `start_eq_error_alreadyRunning_iff` — 開始が「すでに動いている」で失敗するのは、動いているとき
  だけ。そのとき状態は変わらない。
* `start_eq_error_roiNotConfigured_iff`、`start_eq_error_invalidRoi_iff` — 止まっていれば、
  カメラに関心領域が無いときに限り「領域が無い」、領域が空かセンサーからはみ出すときに限り
  領域の誤りで失敗する。どちらの誤りでも、止まったまま、関心領域も無く、設定も変わらない。
* `stop_stop` — 停止は二度しても一度と同じ。
* `addFrame_fst_eq_true_iff` — 一枚を受け取るのは、動いていてフレームが検査に通るときだけ。
* `roi_performAll_eq_some_iff` — 止まった状態からのどんな操作の列の後でも、関心領域が `r` である
  のは、列の中に領域 `r` で成功した開始があって、その後に停止が無いとき（`StartedWith`）。
* `start_stop_lifecycle` — 以上をまとめたもの。

## 仕組み

一つの操作が関心領域にすることを三つの補題にまとめる：開始は止まっているときだけカメラの領域
（検査に通るもの）を入れ（`roi_perform_start`）、停止は外し（`roi_perform_stop`）、ほかの操作は
変えない（`roi_perform_of_ne`）。操作の列についての主張は、列の最後の操作についての帰納法で、
この三つから出る。
-/

namespace DropletVision

/-- 末尾に一つ足した列を、ある要素の前後に分ける分け方：足した要素で分けるか、元の列の分け方の
後半に足すか。 -/
theorem List.append_singleton_eq_append_cons_iff {α : Type} {ops pre post : List α} {a x : α} :
    ops ++ [a] = pre ++ x :: post ↔
      (post = [] ∧ pre = ops ∧ x = a) ∨ ∃ post', post = post' ++ [a] ∧ ops = pre ++ x :: post' := by
  rcases List.eq_nil_or_concat post with rfl | ⟨post', b, rfl⟩
  · constructor
    · intro h
      obtain ⟨h1, h2⟩ := List.append_inj' h rfl
      exact .inl ⟨rfl, h1.symm, (List.singleton_inj.1 h2).symm⟩
    · rintro (⟨-, rfl, rfl⟩ | ⟨post', h, -⟩)
      · rfl
      · simp at h
  · rw [List.concat_eq_append]
    have hsplit : pre ++ x :: (post' ++ [b]) = (pre ++ x :: post') ++ [b] := by simp
    rw [hsplit]
    constructor
    · intro h
      obtain ⟨h1, h2⟩ := List.append_inj' h rfl
      obtain rfl := List.singleton_inj.1 h2
      exact .inr ⟨post', rfl, h1⟩
    · rintro (⟨h, -, -⟩ | ⟨post'', h, rfl⟩)
      · simp at h
      · obtain ⟨rfl, h2⟩ := List.append_inj' h rfl
        rw [List.singleton_inj.1 h2]

namespace Roi

variable (r : Roi) (sw sh : Nat)

/-- 関心領域がセンサーの内側にあることの検査：空なら「幅と高さは正」、はみ出せば「センサーの
範囲を越える」という理由の領域の誤り。 -/
theorem validateForSensor_eq :
    r.validateForSensor sw sh =
      if r.width = 0 ∨ r.height = 0 then
        .error (.invalidRoi r.x r.y r.width r.height "width and height must be positive")
      else if sw < r.x + r.width ∨ sh < r.y + r.height then
        .error (.invalidRoi r.x r.y r.width r.height s!"exceeds sensor bounds {sw}x{sh}")
      else .ok () := by
  unfold validateForSensor validate invalid
  by_cases h0 : r.width = 0 ∨ r.height = 0
  · have : (r.width == 0 || r.height == 0) = true := by simpa using h0
    simp only [this, if_true, if_pos h0]
    rfl
  · have : (r.width == 0 || r.height == 0) = false := by simpa using h0
    simp only [this, if_neg h0, Bool.false_eq_true, if_false]
    by_cases h1 : sw < r.x + r.width ∨ sh < r.y + r.height
    · have : (decide (r.x + r.width > sw) || decide (r.y + r.height > sh)) = true := by
        simpa using h1
      simp only [this, if_pos h1]
      rfl
    · have : (decide (r.x + r.width > sw) || decide (r.y + r.height > sh)) = false := by
        simpa [not_or] using h1
      simp only [this, if_neg h1, Bool.false_eq_true, if_false]
      rfl

/-- 検査に通るのは、空でなく、センサーからはみ出さないとき。 -/
theorem validateForSensor_isOk_iff :
    (r.validateForSensor sw sh).isOk = true ↔
      ¬ (r.width = 0 ∨ r.height = 0 ∨ sw < r.x + r.width ∨ sh < r.y + r.height) := by
  rw [validateForSensor_eq]
  by_cases h0 : r.width = 0 ∨ r.height = 0
  · simp only [if_pos h0]
    simp only [Except.isOk, Except.toBool, Bool.false_eq_true, false_iff, not_or]
    omega
  · by_cases h1 : sw < r.x + r.width ∨ sh < r.y + r.height
    · simp only [if_neg h0, if_pos h1]
      simp only [Except.isOk, Except.toBool, Bool.false_eq_true, false_iff, not_or]
      omega
    · simp only [if_neg h0, if_neg h1, Except.isOk, Except.toBool, true_iff]
      omega

end Roi

namespace DetectionController

variable {k : DetectionController} {cam : Camera}

/-! ## 動いているかと関心領域 -/

/-- 関心領域は、動いている間だけある。 -/
theorem isSome_roi (k : DetectionController) : k.roi.isSome = k.isRunning := by
  simp [roi, isRunning]

theorem roi_eq_none_of_not_running (h : k.isRunning = false) : k.roi = none := by
  simpa [← isSome_roi] using h

@[simp] theorem roi_mapDetector (f : DropletDetector → DropletDetector) :
    (k.mapDetector f).roi = k.roi := by
  simp only [roi, mapDetector, Option.map_map]
  rfl

@[simp] theorem roi_installConfig (next : DetectionConfig) : (k.installConfig next).roi = k.roi := by
  show (k.mapDetector fun d => d.applyConfig next).roi = k.roi
  exact roi_mapDetector _

@[simp] theorem roi_applyPendingBackground : k.applyPendingBackground.roi = k.roi := by
  unfold applyPendingBackground
  split
  · rename_i s frames hs hp
    simp [roi, hs]
  · rfl

@[simp] theorem roi_reset : k.reset.roi = k.roi := by
  show (k.mapDetector fun d => d.reset).roi = k.roi
  exact roi_mapDetector _

@[simp] theorem roi_stop : k.stop.roi = none := rfl

@[simp] theorem roi_addFrame (f : Frame) (t : Nat) : (k.addFrame f t).2.roi = k.roi := by
  unfold addFrame
  split
  · rfl
  · rename_i s hs
    split
    · rfl
    · simp [roi, hs]

/-! ## 開始 -/

theorem start_of_running (h : k.isRunning = true) : k.start cam = .error .alreadyRunning := by
  simp [start, h, bind, Except.bind, throw, throwThe, MonadExceptOf.throw]

theorem start_of_roi_none (h : k.isRunning = false) (hroi : cam.roi = none) :
    k.start cam = .error .roiNotConfigured := by
  simp [start, h, hroi, bind, Except.bind, throw, throwThe, MonadExceptOf.throw]

theorem start_of_validateForSensor_error {r : Roi} {e : DetectorError} (h : k.isRunning = false)
    (hroi : cam.roi = some r) (hv : r.validateForSensor cam.sensorSize.1 cam.sensorSize.2 = .error e) :
    k.start cam = .error e := by
  simp [start, h, hroi, hv, bind, Except.bind, pure, Except.pure]

/-- 止まっていて、カメラの関心領域が検査に通れば、開始は成功し、その領域で動き出す。 -/
theorem start_of_validateForSensor_ok {r : Roi} (h : k.isRunning = false) (hroi : cam.roi = some r)
    (hv : r.validateForSensor cam.sensorSize.1 cam.sensorSize.2 = .ok ()) :
    ∃ k', k.start cam = .ok k' ∧ k'.roi = some r := by
  simp only [start, h, hroi, hv, Bool.false_eq_true, if_false, bind, Except.bind, pure, Except.pure,
    Except.ok.injEq, exists_eq_left', roi_applyPendingBackground]
  rfl

/-- 止まっているときの開始は三通り：関心領域が無ければ「領域が無い」、領域が検査に通らなければ
その誤り、通ればその領域で動き出す。 -/
theorem start_cases_of_not_running (cam : Camera) (h : k.isRunning = false) :
    (cam.roi = none ∧ k.start cam = .error .roiNotConfigured) ∨
    (∃ r e, cam.roi = some r ∧ r.validateForSensor cam.sensorSize.1 cam.sensorSize.2 = .error e ∧
      k.start cam = .error e) ∨
    (∃ r k', cam.roi = some r ∧ r.validateForSensor cam.sensorSize.1 cam.sensorSize.2 = .ok () ∧
      k.start cam = .ok k' ∧ k'.roi = some r) := by
  cases hroi : cam.roi with
  | none => exact .inl ⟨rfl, start_of_roi_none h hroi⟩
  | some r =>
    cases hv : r.validateForSensor cam.sensorSize.1 cam.sensorSize.2 with
    | error e => exact .inr (.inl ⟨r, e, rfl, hv, start_of_validateForSensor_error h hroi hv⟩)
    | ok u =>
      obtain ⟨k', hk', hr⟩ := start_of_validateForSensor_ok h hroi hv
      exact .inr (.inr ⟨r, k', rfl, hv, hk', hr⟩)

/-- 関心領域の検査の誤りは、どれも領域の誤り。 -/
theorem validateForSensor_eq_error {r : Roi} {sw sh : Nat} {e : DetectorError}
    (hv : r.validateForSensor sw sh = .error e) : ∃ reason, e = .invalidRoi r.x r.y r.width r.height reason := by
  rw [Roi.validateForSensor_eq] at hv
  by_cases h0 : r.width = 0 ∨ r.height = 0
  · rw [if_pos h0] at hv
    exact ⟨_, (Except.error.inj hv).symm⟩
  · by_cases h1 : sw < r.x + r.width ∨ sh < r.y + r.height
    · rw [if_neg h0, if_pos h1] at hv
      exact ⟨_, (Except.error.inj hv).symm⟩
    · rw [if_neg h0, if_neg h1] at hv
      cases hv

/-- **開始が「すでに動いている」で失敗するのは、動いているときだけ。** -/
theorem start_eq_error_alreadyRunning_iff : k.start cam = .error .alreadyRunning ↔ k.isRunning = true := by
  refine ⟨fun hs => ?_, start_of_running⟩
  cases h : k.isRunning
  · -- 止まっていれば、誤りは領域が無いか領域の誤り
    rcases start_cases_of_not_running cam h with ⟨-, h'⟩ | ⟨r, e, -, hv, h'⟩ | ⟨r, k', -, -, h', -⟩
    · rw [h'] at hs
      cases hs
    · obtain ⟨reason, rfl⟩ := validateForSensor_eq_error hv
      rw [h'] at hs
      cases hs
    · rw [h'] at hs
      cases hs
  · rfl

/-- **止まっていれば、開始が「領域が無い」で失敗するのは、カメラに関心領域が無いときだけ。** -/
theorem start_eq_error_roiNotConfigured_iff (h : k.isRunning = false) :
    k.start cam = .error .roiNotConfigured ↔ cam.roi = none := by
  rcases start_cases_of_not_running cam h with ⟨hroi, h'⟩ | ⟨r, e, hroi, hv, h'⟩ |
    ⟨r, k', hroi, -, h', -⟩
  · exact ⟨fun _ => hroi, fun _ => h'⟩
  · obtain ⟨reason, rfl⟩ := validateForSensor_eq_error hv
    rw [h', hroi]
    simp
  · rw [h', hroi]
    simp

/-- **止まっていてカメラに関心領域 `r` があれば、開始が領域の誤りで失敗するのは、`r` が空か
センサーからはみ出すときだけ。** -/
theorem start_eq_error_invalidRoi_iff {r : Roi} (h : k.isRunning = false) (hroi : cam.roi = some r) :
    (∃ reason, k.start cam = .error (.invalidRoi r.x r.y r.width r.height reason)) ↔
      r.width = 0 ∨ r.height = 0 ∨ cam.sensorSize.1 < r.x + r.width ∨
        cam.sensorSize.2 < r.y + r.height := by
  have hiff := Roi.validateForSensor_isOk_iff r cam.sensorSize.1 cam.sensorSize.2
  rcases start_cases_of_not_running cam h with ⟨hroi', -⟩ | ⟨r', e, hroi', hv, h'⟩ |
    ⟨r', k', hroi', hv, h', -⟩
  · rw [hroi] at hroi'
    cases hroi'
  · obtain rfl : r' = r := Option.some_inj.1 (hroi'.symm.trans hroi)
    obtain ⟨reason, rfl⟩ := validateForSensor_eq_error hv
    rw [hv] at hiff
    simp only [Except.isOk, Except.toBool, Bool.false_eq_true, false_iff, Classical.not_not] at hiff
    exact ⟨fun _ => hiff, fun _ => ⟨reason, h'⟩⟩
  · obtain rfl : r' = r := Option.some_inj.1 (hroi'.symm.trans hroi)
    rw [hv] at hiff
    simp only [Except.isOk, Except.toBool, true_iff] at hiff
    rw [h']
    simp only [reduceCtorEq, exists_const, false_iff]
    exact hiff

/-- 失敗した開始は状態を変えない。 -/
theorem perform_start_of_error {e : DetectorError} (he : k.start cam = .error e) :
    k.perform (.start cam) = k := by
  simp [perform, orKeep, he]

/-! ## 停止と一枚の処理 -/

/-- 停止は二度しても一度と同じ。 -/
theorem stop_stop (k : DetectionController) : k.stop.stop = k.stop := rfl

/-- 止まっているときの停止は何もしない。 -/
theorem stop_of_not_running (h : k.isRunning = false) : k.stop = k := by
  cases k
  simp_all [stop, isRunning]

/-- **一枚を受け取るのは、動いていてフレームが検査に通るときだけ。** -/
theorem addFrame_fst_eq_true_iff (f : Frame) (t : Nat) :
    (k.addFrame f t).1 = true ↔ k.isRunning = true ∧ f.validate = .ok () := by
  unfold addFrame isRunning
  cases k.session with
  | none => simp
  | some s =>
    cases hv : f.validate with
    | error e => simp
    | ok u => simp

/-! ## 操作の列の後の関心領域 -/

theorem roi_orKeep {o : Outcome DetectionController} (h : ∀ k', o = .ok k' → k'.roi = k.roi) :
    (k.orKeep o).roi = k.roi := by
  cases o with
  | ok k' => exact h k' rfl
  | error e => rfl

/-- 開始は、止まっているときだけ、カメラの関心領域のうち検査に通るものを入れる。 -/
theorem roi_perform_start (k : DetectionController) (cam : Camera) :
    (k.perform (.start cam)).roi = if k.isRunning then k.roi
      else cam.roi.filter fun r => (r.validateForSensor cam.sensorSize.1 cam.sensorSize.2).isOk := by
  cases h : k.isRunning
  · have hnone := roi_eq_none_of_not_running h
    simp only [Bool.false_eq_true, if_false]
    rcases start_cases_of_not_running cam h with ⟨hroi, h'⟩ | ⟨r, e, hroi, hv, h'⟩ |
      ⟨r, k', hroi, hv, h', hr⟩
    · rw [perform_start_of_error h', hnone, hroi]
      rfl
    · rw [perform_start_of_error h', hnone, hroi, Option.filter_some, hv]
      rfl
    · simp only [perform, orKeep, h', hr, hroi, Option.filter_some, hv]
      rfl
  · simp [perform_start_of_error (start_of_running h)]

@[simp] theorem roi_perform_stop (k : DetectionController) : (k.perform .stop).roi = none := rfl

/-- 開始と停止のほかの操作は、関心領域を変えない。 -/
theorem roi_perform_of_ne {op : ControllerOp} (hstart : ∀ cam, op ≠ .start cam)
    (hstop : op ≠ .stop) : (k.perform op).roi = k.roi := by
  cases op with
  | start cam => exact absurd rfl (hstart cam)
  | stop => exact absurd rfl hstop
  | reset =>
    simp only [perform]
    exact roi_reset
  | frame f t =>
    simp only [perform]
    exact roi_addFrame f t
  | updateConfig p =>
    simp only [perform]
    refine roi_orKeep fun k' hk' => ?_
    obtain ⟨next, -, hk⟩ := Except.exists_of_bind_eq_ok hk'
    cases hk
    exact roi_installConfig next
  | loadProfile files path =>
    simp only [perform]
    split
    · exact roi_installConfig _
    · rfl
  | initializeBackground frames =>
    simp only [perform]
    refine roi_orKeep fun k' hk' => ?_
    obtain ⟨u, -, hk⟩ := Except.exists_of_bind_eq_ok hk'
    cases hk
    exact roi_applyPendingBackground

theorem performAll_append_singleton (k : DetectionController) (ops : List ControllerOp)
    (op : ControllerOp) : k.performAll (ops ++ [op]) = (k.performAll ops).perform op := by
  simp [performAll]

/-- 列の中の成功した開始で、その後に停止が無いもの：開始の前の列 `pre` の後で止まっていて、
カメラの関心領域 `r` が検査に通る。 -/
def StartedWith (k : DetectionController) (ops : List ControllerOp) (r : Roi) : Prop :=
  ∃ pre cam post, ops = pre ++ ControllerOp.start cam :: post ∧
    (k.performAll pre).isRunning = false ∧ cam.roi = some r ∧
    (r.validateForSensor cam.sensorSize.1 cam.sensorSize.2).isOk = true ∧ ControllerOp.stop ∉ post

theorem not_startedWith_nil (k : DetectionController) (r : Roi) : ¬ StartedWith k [] r := by
  rintro ⟨pre, cam, post, h, -⟩
  simp at h

/-- 末尾に一つ足した列の開始：足した操作が成功する開始か、元の列の開始で足した操作が停止でない。 -/
theorem startedWith_append_singleton (ops : List ControllerOp) (op : ControllerOp) (r : Roi) :
    StartedWith k (ops ++ [op]) r ↔
      (∃ cam, op = .start cam ∧ (k.performAll ops).isRunning = false ∧ cam.roi = some r ∧
        (r.validateForSensor cam.sensorSize.1 cam.sensorSize.2).isOk = true) ∨
      (StartedWith k ops r ∧ op ≠ .stop) := by
  constructor
  · rintro ⟨pre, cam, post, h, hrun, hroi, hv, hstop⟩
    rcases List.append_singleton_eq_append_cons_iff.1 h with ⟨rfl, rfl, rfl⟩ | ⟨post', rfl, rfl⟩
    · exact .inl ⟨cam, rfl, hrun, hroi, hv⟩
    · refine .inr ⟨⟨pre, cam, post', rfl, hrun, hroi, hv, fun h => hstop (List.mem_append_left _ h)⟩,
        fun h => hstop ?_⟩
      rw [h]
      exact List.mem_append_right _ (List.mem_singleton_self _)
  · rintro (⟨cam, rfl, hrun, hroi, hv⟩ | ⟨⟨pre, cam, post', rfl, hrun, hroi, hv, hstop⟩, hne⟩)
    · exact ⟨ops, cam, [], rfl, hrun, hroi, hv, List.not_mem_nil⟩
    · refine ⟨pre, cam, post' ++ [op], by simp, hrun, hroi, hv, ?_⟩
      simp only [List.mem_append, List.mem_singleton, not_or]
      exact ⟨hstop, fun h => hne h.symm⟩

/-- **操作の列の後に関心領域 `r` があるのは、列の中に、止まっているときにカメラの領域 `r` で成功した
開始があり、その後に停止が無いとき。** 最後の操作についての帰納法で、`roi_perform_start` などから。 -/
theorem roi_performAll_eq_some_iff (hk : k.isRunning = false) (ops : List ControllerOp) (r : Roi) :
    (k.performAll ops).roi = some r ↔ StartedWith k ops r := by
  induction ops using List.reverseRecOn with
  | nil =>
    rw [performAll_nil, roi_eq_none_of_not_running hk]
    simp only [reduceCtorEq, false_iff]
    exact not_startedWith_nil k r
  | append_singleton ops op ih =>
    rw [performAll_append_singleton, startedWith_append_singleton]
    by_cases hstart : ∃ cam, op = .start cam
    · obtain ⟨cam, rfl⟩ := hstart
      rw [roi_perform_start]
      cases hrun : (k.performAll ops).isRunning
      · -- 止まっていれば、それまでの開始は停止で終わっている
        have hnone := roi_eq_none_of_not_running hrun
        have hnot : ¬ StartedWith k ops r := fun h => by
          rw [← ih, hnone] at h
          cases h
        simp only [Bool.false_eq_true, if_false, Option.filter_eq_some_iff, ControllerOp.start.injEq,
          exists_eq_left', true_and, hnot, false_and, or_false]
      · -- 動いていれば、この開始は失敗し、関心領域はそのまま
        simp only [if_true, ih, reduceCtorEq, false_and, and_false, exists_false, false_or, ne_eq,
          not_false_eq_true, and_true]
    · by_cases hstop : op = .stop
      · subst hstop
        simp only [roi_perform_stop, reduceCtorEq, false_and, exists_false, ne_eq,
          not_true_eq_false, and_false, or_self]
      · rw [roi_perform_of_ne (fun cam h => hstart ⟨cam, h⟩) hstop, ih]
        simp only [hstop, ne_eq, not_false_eq_true, and_true]
        exact ⟨.inr, fun h => h.elim (fun ⟨cam, h, _⟩ => absurd ⟨cam, h⟩ hstart) id⟩

/-- **開始・停止・リセット・一枚の処理の約束。** どの状態でも、開始が「すでに動いている」で失敗する
のは動いているときだけで、そのとき状態は変わらない。止まっていれば、開始が「領域が無い」で失敗する
のはカメラに関心領域が無いときだけ、領域の誤りで失敗するのは領域が空かセンサーからはみ出すときだけ
で、失敗した開始の後も止まったまま、関心領域は無く、設定も変わらない。停止は二度しても一度と同じ。
一枚を受け取るのは、動いていてフレームが検査に通るときだけ。関心領域があるのは動いている間だけで、
止まった状態からのどんな操作の列の後でも、関心領域が `r` であるのは、列の中に領域 `r` で成功した
開始があり、その後に停止が無いとき。 -/
theorem start_stop_lifecycle :
    (∀ (k : DetectionController) (cam : Camera),
      (k.start cam = .error .alreadyRunning ↔ k.isRunning = true) ∧
      (k.isRunning = true → k.perform (.start cam) = k)) ∧
    (∀ (k : DetectionController) (cam : Camera), k.isRunning = false →
      (k.start cam = .error .roiNotConfigured ↔ cam.roi = none) ∧
      (∀ r, cam.roi = some r →
        ((∃ reason, k.start cam = .error (.invalidRoi r.x r.y r.width r.height reason)) ↔
          r.width = 0 ∨ r.height = 0 ∨ cam.sensorSize.1 < r.x + r.width ∨
            cam.sensorSize.2 < r.y + r.height)) ∧
      ((∃ e, k.start cam = .error e) →
        (k.perform (.start cam)).isRunning = false ∧ (k.perform (.start cam)).roi = none ∧
          (k.perform (.start cam)).config = k.config)) ∧
    (∀ k : DetectionController, k.stop.stop = k.stop) ∧
    (∀ (k : DetectionController) (f : Frame) (t : Nat),
      (k.addFrame f t).1 = true ↔ k.isRunning = true ∧ f.validate = .ok ()) ∧
    (∀ k : DetectionController, k.roi.isSome = k.isRunning) ∧
    (∀ k : DetectionController, k.isRunning = false → ∀ ops r,
      (k.performAll ops).roi = some r ↔ k.StartedWith ops r) := by
  refine ⟨fun k cam => ⟨start_eq_error_alreadyRunning_iff,
      fun h => perform_start_of_error (start_of_running h)⟩,
    fun k cam h => ⟨start_eq_error_roiNotConfigured_iff h,
      fun r hroi => start_eq_error_invalidRoi_iff h hroi, ?_⟩,
    stop_stop, fun k f t => addFrame_fst_eq_true_iff f t, isSome_roi,
    fun k hk ops r => roi_performAll_eq_some_iff hk ops r⟩
  -- 失敗した開始は状態を変えないので、止まったまま
  rintro ⟨e, he⟩
  rw [perform_start_of_error he]
  exact ⟨h, roi_eq_none_of_not_running h, rfl⟩

/-- 8 × 8 のセンサー全体を関心領域にした合成カメラで、既定の設定の制御を開始し、リセットした後の
`start_stop_lifecycle`：関心領域は開始した領域。 -/
theorem start_stop_lifecycle_started_then_reset :
    let cam : Camera := .synthetic { SyntheticCamera.new { width := 8, height := 8 } with
      roi := some ⟨0, 0, 8, 8⟩ }
    let k : DetectionController := { config := {}, measurements := .ofConfig {} }
    k.isRunning = false ∧ k.StartedWith [.start cam, .reset] ⟨0, 0, 8, 8⟩ ∧
      (k.performAll [.start cam, .reset]).roi = some ⟨0, 0, 8, 8⟩ := by
  intro cam k
  have hk : k.isRunning = false := rfl
  have hs : k.StartedWith [.start cam, .reset] ⟨0, 0, 8, 8⟩ :=
    ⟨[], cam, [.reset], rfl, rfl, rfl, rfl, by simp⟩
  exact ⟨hk, hs, (start_stop_lifecycle.2.2.2.2.2 k hk _ _).2 hs⟩

end DetectionController

end DropletVision
