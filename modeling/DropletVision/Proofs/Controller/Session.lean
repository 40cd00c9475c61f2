import DropletVision.Controller.Command

/-!
# 制御への操作の列

呼び出し側が制御にできる操作を値にし、操作の列を順に施す。制御の性質は、この列のすべてについて
述べる。

* `ControllerOp` — 開始、停止、リセット、一枚の処理、設定の更新、プロファイルの読み込み、
  背景の初期化。プロファイルはファイルの木から読む。
* `perform` — 一つの操作。誤りを返した操作は状態を変えない（呼び出し側の手元に元の状態が残る）。
* `performAll` — 操作の列を順に施す。
-/

namespace DropletVision

/-- 制御への操作。 -/
inductive ControllerOp where
  | start (cam : Camera)
  | stop
  | reset
  /-- 一枚を渡す。`timestampMs` は記録に付く時刻。 -/
  | frame (f : Frame) (timestampMs : Nat)
  | updateConfig (p : ConfigPatch)
  /-- ファイルの木 `files` の `path` からプロファイルを読んで入れ替える。 -/
  | loadProfile (files : FileTree) (path : String)
  | initializeBackground (frames : List Frame)

namespace DetectionController

/-- 誤りなら元の状態のまま。 -/
def orKeep (k : DetectionController) : Outcome DetectionController → DetectionController
  | .ok k' => k'
  | .error _ => k

/-- 一つの操作を施す。 -/
def perform (k : DetectionController) : ControllerOp → DetectionController
  | .start cam => k.orKeep (k.start cam)
  | .stop => k.stop
  | .reset => k.reset
  | .frame f t => (k.addFrame f t).2
  | .updateConfig p => k.orKeep (k.updateConfig p)
  | .loadProfile files path =>
    match (DropletVision.loadProfile files path).1 with
    | .ok c => k.loadConfig c
    | .error _ => k
  | .initializeBackground frames => k.orKeep (k.initializeBackground frames)

/-- 操作の列を順に施す。 -/
def performAll (k : DetectionController) (ops : List ControllerOp) : DetectionController :=
  ops.foldl perform k

@[simp] theorem performAll_nil (k : DetectionController) : k.performAll [] = k := rfl

@[simp] theorem performAll_cons (k : DetectionController) (op : ControllerOp)
    (ops : List ControllerOp) : k.performAll (op :: ops) = (k.perform op).performAll ops := rfl

/-- 検査を通った設定から作った制御は、その設定と空の蓄えだけを持つ。 -/
theorem new_eq_ok {c : DetectionConfig} {k : DetectionController} (h : new c = .ok k) :
    k = { config := c, measurements := .ofConfig c } := by
  unfold new at h
  cases hv : c.validate with
  | error e => simp [hv, bind, Except.bind] at h
  | ok u => simp only [hv, bind, Except.bind, pure, Except.pure, Except.ok.injEq] at h; exact h.symm

end DetectionController

end DropletVision
