import DropletVision.Frame
import DropletVision.Config.Basic
import DropletVision.Background.Model
import DropletVision.Filter.Blur
import DropletVision.Binarize.Threshold
import DropletVision.Morphology

/-!
# 前処理

一枚の画像から前景の二値の平面を作る：背景の補正、しきい値、形態演算。

* 静的な背景 — 背景のモデルとの差の絶対値。背景の用意ができるまでは全面が背景。
* ハイパス — 明るさからそのガウスぼかしを引き、負の値は 0 にする。準備は要らない。
* 設定の取り込みでは、背景の方法か枚数（1 以上に切り上げ）が変わったときだけ背景を作り直し、
  構造要素は大きさ（1 以上に切り上げ）が変わったときだけ作り直す。
* 明るさにできない画像は、形 `(高さ, 幅)` の全面が背景の平面にする（`process`）。
-/

namespace DropletVision

/-- 前処理の状態。 -/
structure Preprocessor where
  backgroundMethod : BackgroundMethod
  blurKernelSize : Nat
  thresholdMethod : ThresholdMethod
  adaptiveBlockSize : Nat
  adaptiveC : Float32
  morphOperation : MorphOperation
  element : StructuringElement
  background : BackgroundModel

namespace Preprocessor

/-- 設定から作る。 -/
def ofConfig (c : DetectionConfig) : Preprocessor :=
  ⟨c.backgroundMethod, c.blurKernelSize, c.thresholdMethod, c.adaptiveBlockSize, c.adaptiveC,
   c.morphOperation, StructuringElement.ellipse c.morphKernelSize, BackgroundModel.new c.backgroundFrames⟩

/-- 新しい設定を取り込む。 -/
def applyConfig (p : Preprocessor) (c : DetectionConfig) : Preprocessor :=
  let changed := p.backgroundMethod != c.backgroundMethod ||
    p.background.required != max c.backgroundFrames 1
  let background := if changed then p.background.setRequired c.backgroundFrames else p.background
  let element :=
    if p.element.size != max c.morphKernelSize 1 then StructuringElement.ellipse c.morphKernelSize
    else p.element
  { backgroundMethod := c.backgroundMethod, blurKernelSize := c.blurKernelSize,
    thresholdMethod := c.thresholdMethod, adaptiveBlockSize := c.adaptiveBlockSize,
    adaptiveC := c.adaptiveC, morphOperation := c.morphOperation, element, background }

/-- 作る平面が本当の前景を表すか。 -/
def isReady (p : Preprocessor) : Bool :=
  match p.backgroundMethod with
  | .static => p.background.isReady
  | .highpass => true

/-- 背景の段階。 -/
def backgroundPhase (p : Preprocessor) : BackgroundPhase :=
  match p.backgroundMethod with
  | .static => p.background.phase
  | .highpass => .ready

/-- 集めた枚数と要る枚数。 -/
def warmUpProgress (p : Preprocessor) : Nat × Nat := (p.background.collected, p.background.required)

/-- 背景を捨てる。 -/
def reset (p : Preprocessor) : Preprocessor := { p with background := p.background.reset }

/-- 与えた画像からすぐ背景を作る。明るさにできない画像があれば誤り。 -/
def seedBackground (p : Preprocessor) (frames : List Frame) : Outcome Preprocessor := do
  let grays ← frames.mapM Frame.intensity
  pure { p with background := p.background.seed grays }

/-- 一枚を処理する。明るさにできなければ誤り。 -/
def tryProcess (p : Preprocessor) (f : Frame) : Outcome (Preprocessor × Mask) := do
  let gray ← f.intensity
  let (p, corrected) ← match p.backgroundMethod with
    | .static =>
      let (bg, d) := p.background.correct gray
      pure ({ p with background := bg }, d)
    | .highpass =>
      let blurred := gaussianBlur gray p.blurKernelSize
      pure (p, some (Plane.ofFn gray.height gray.width (fun r c =>
        Float32.maxNum (gray.get r c - blurred.get r c) 0)))
  match corrected with
  | none => pure (p, Mask.empty gray.height gray.width)
  | some d =>
    let mask := applyThreshold d p.thresholdMethod p.adaptiveBlockSize p.adaptiveC
    pure (p, applyMorphology mask p.element p.morphOperation)

/-- 一枚を処理する。失敗すれば全面が背景の平面。 -/
def process (p : Preprocessor) (f : Frame) : Preprocessor × Mask :=
  match p.tryProcess f with
  | .ok r => r
  | .error _ => (p, Mask.empty f.height f.width)

end Preprocessor

end DropletVision
