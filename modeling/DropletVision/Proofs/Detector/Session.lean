import DropletVision.Detection.Detector

/-!
# 検出器への操作の列

呼び出し側が検出器にできる操作（一枚の処理、リセット、背景の初期化、設定の切り替え）を値にし、
操作の列を順に施す。検出器の性質は、この列のすべてについて述べる。

* `perform` — 一つの操作。一枚の処理なら報告した計測値も返す。背景の初期化が誤りを返したときは、
  呼び出し側の手元に元の検出器が残る。
* `performAll` — 操作の列。各操作の計測値を順に並べる。
* `DetectorOp.starts` — 検出器を「動き出した」状態にする操作（一枚の処理、リセット、成功する背景の
  初期化）。
-/

namespace DropletVision

/-- 検出器への操作。 -/
inductive DetectorOp where
  | frame (f : Frame)
  | reset
  | initBackground (frames : List Frame)
  | configure (c : DetectionConfig)

namespace DetectorOp

/-- 検出器を動き出させる操作か。背景の初期化は、すべての画像を明るさにできるときだけ成功する。 -/
def starts : DetectorOp → Bool
  | .frame _ => true
  | .reset => true
  | .initBackground frames => frames.all (·.intensity.isOk)
  | .configure _ => false

/-- 操作の後に効いている設定。設定の切り替えだけが変える。 -/
def configAfter (c : DetectionConfig) : DetectorOp → DetectionConfig
  | .configure c' => c'
  | _ => c

/-- 操作の列が最後に与えた設定（無ければ `c`）。 -/
def configInForce (c : DetectionConfig) (ops : List DetectorOp) : DetectionConfig :=
  ops.foldl configAfter c

end DetectorOp

namespace DropletDetector

/-- 一つの操作を施す。一枚の処理なら報告した計測値も返す。 -/
def perform (d : DropletDetector) : DetectorOp → DropletDetector × List DropletMetrics
  | .frame f => ((d.processFrame f).1, (d.processFrame f).2.1)
  | .reset => (d.reset, [])
  | .initBackground frames =>
    match d.initializeBackground frames with
    | .ok d' => (d', [])
    | .error _ => (d, [])
  | .configure c => (d.applyConfig c, [])

/-- 操作の列を順に施す。各操作の計測値を順に並べて返す。 -/
def performAll (d : DropletDetector) : List DetectorOp → DropletDetector × List (List DropletMetrics)
  | [] => (d, [])
  | op :: ops =>
    let rest := (d.perform op).1.performAll ops
    (rest.1, (d.perform op).2 :: rest.2)

@[simp] theorem performAll_nil (d : DropletDetector) : d.performAll [] = (d, []) := rfl

@[simp] theorem performAll_cons (d : DropletDetector) (op : DetectorOp) (ops : List DetectorOp) :
    d.performAll (op :: ops) =
      (((d.perform op).1.performAll ops).1, (d.perform op).2 :: ((d.perform op).1.performAll ops).2) :=
  rfl

@[simp] theorem perform_frame (d : DropletDetector) (f : Frame) :
    d.perform (.frame f) = ((d.processFrame f).1, (d.processFrame f).2.1) := rfl

@[simp] theorem perform_reset (d : DropletDetector) : d.perform .reset = (d.reset, []) := rfl

@[simp] theorem perform_configure (d : DropletDetector) (c : DetectionConfig) :
    d.perform (.configure c) = (d.applyConfig c, []) := rfl

end DropletDetector

end DropletVision
