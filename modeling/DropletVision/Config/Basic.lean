import DropletVision.Error

/-!
# 検出の設定

前処理・切り出し・誤検出の除去・計測・ヒストグラムの各段階の設定値の組 `DetectionConfig`。

* `DetectionConfig.default` と四つの既定の組（`preset`）。
* `validate` — 規則をすべて調べ、破れた規則の文言を宣言の順に並べて返す。
* `backgroundChanged`、`histogramShapeChanged` — 設定を差し替えるときに作り直しが要る部分。

浮動小数点の値の比較（`beq`）は数としての等しさ（NaN は自分と等しくない）。
-/

namespace DropletVision

/-- 背景の推定方法。 -/
inductive BackgroundMethod where
  | static
  | highpass
  deriving BEq, Repr, Inhabited, DecidableEq

/-- 二値化の方法。 -/
inductive ThresholdMethod where
  | otsu
  | adaptive
  deriving BEq, Repr, Inhabited, DecidableEq

/-- 形態演算の組み合わせ。 -/
inductive MorphOperation where
  | opening
  | closing
  | both
  deriving BEq, Repr, Inhabited, DecidableEq

/-- 表示名。 -/
def BackgroundMethod.label : BackgroundMethod → String
  | .static => "Static"
  | .highpass => "High-pass"

/-- 表示名。 -/
def ThresholdMethod.label : ThresholdMethod → String
  | .otsu => "Otsu"
  | .adaptive => "Adaptive"

/-- 表示名。 -/
def MorphOperation.label : MorphOperation → String
  | .opening => "Open"
  | .closing => "Close"
  | .both => "Open + Close"

/-- 画素から長さへの換算。 -/
structure Calibration where
  umPerPx : Float := 1.0
  radiusOffsetPx : Float := 0.0

/-- 長さの単位：換算が 1 ちょうどなら画素（`px`）、それ以外は `um`。 -/
def Calibration.unit (c : Calibration) : String :=
  if c.umPerPx != 1.0 then "um" else "px"

/-- 検出の設定。 -/
structure DetectionConfig where
  backgroundMethod : BackgroundMethod := .static
  backgroundFrames : Nat := 30
  blurKernelSize : Nat := 11
  thresholdMethod : ThresholdMethod := .otsu
  adaptiveBlockSize : Nat := 11
  adaptiveC : Float32 := 2.0
  morphKernelSize : Nat := 3
  morphOperation : MorphOperation := .opening
  minArea : Float := 20.0
  maxArea : Float := 5000.0
  minAspectRatio : Float := 0.5
  maxAspectRatio : Float := 3.0
  /-- 流路の上端と下端の行（含まない側は下端）。 -/
  channelBand : Option (Nat × Nat) := none
  channelBandMargin : Nat := 10
  minMotion : Float := 0.5
  maxPerpDrift : Float := 5.0
  acceptEntering : Bool := false
  useFrameDiff : Bool := false
  frameDiffThreshold : Float32 := 30.0
  minContourPoints : Nat := 5
  histogramWindowSize : Nat := 2000
  histogramBins : Nat := 40
  rawLogCapacity : Nat := 10000
  umPerPx : Float := 1.0
  radiusOffsetPx : Float := 0.0

namespace DetectionConfig

instance : Inhabited DetectionConfig := ⟨{}⟩

/-- 楕円の当てはめに要る最少の点数。 -/
def minEllipsePoints : Nat := 5

/-- 既定の組の名前。 -/
def presetNames : List String := ["default", "small_droplets", "large_droplets", "high_density"]

/-- 名前つきの既定の組。 -/
def preset (name : String) : Option DetectionConfig :=
  match name with
  | "default" => some {}
  | "small_droplets" => some { minArea := 10, maxArea := 1000, minAspectRatio := 1.2, maxAspectRatio := 8 }
  | "large_droplets" =>
    some { minArea := 100, maxArea := 10000, minAspectRatio := 2, maxAspectRatio := 15 }
  | "high_density" =>
    some { minArea := 20, maxArea := 5000, minAspectRatio := 1.5, maxAspectRatio := 10,
           morphKernelSize := 5 }
  | _ => none

/-- 換算。 -/
def calibration (c : DetectionConfig) : Calibration := ⟨c.umPerPx, c.radiusOffsetPx⟩

/-- 換算を差し替える。 -/
def withCalibration (c : DetectionConfig) (k : Calibration) : DetectionConfig :=
  { c with umPerPx := k.umPerPx, radiusOffsetPx := k.radiusOffsetPx }

/-- 奇数で `min` 以上でなければならない大きさの規則。 -/
def oddKernelRule (name : String) (value min : Nat) : List String :=
  if value < min || value % 2 == 0 then [s!"{name} must be odd and >= {min} (got {value})"] else []

/-- 条件が成り立たなければ文言を一つ。 -/
def rule (ok : Bool) (text : String) : List String := if ok then [] else [text]

/-- 破れた規則の文言（宣言の順）。 -/
def violations (c : DetectionConfig) : List String :=
  rule (c.backgroundFrames ≥ 1) "background_frames must be >= 1" ++
  oddKernelRule "blur_kernel_size" c.blurKernelSize 3 ++
  oddKernelRule "adaptive_block_size" c.adaptiveBlockSize 3 ++
  oddKernelRule "morph_kernel_size" c.morphKernelSize 1 ++
  rule c.adaptiveC.isFinite "adaptive_c must be finite" ++
  rule (c.minArea ≥ 0) "min_area must be >= 0" ++
  rule (c.maxArea > c.minArea) "max_area must be > min_area" ++
  rule (c.minAspectRatio > 0) "min_aspect_ratio must be > 0" ++
  rule (c.maxAspectRatio > c.minAspectRatio) "max_aspect_ratio must be > min_aspect_ratio" ++
  (match c.channelBand with
   | some (lo, hi) => rule (lo < hi) s!"channel_band must satisfy y_min < y_max (got {lo}..{hi})"
   | none => []) ++
  rule (c.minMotion ≥ 0) "min_motion must be >= 0" ++
  rule (c.maxPerpDrift ≥ 0) "max_perp_drift must be >= 0" ++
  rule (0 ≤ c.frameDiffThreshold && c.frameDiffThreshold ≤ 255)
    "frame_diff_threshold must be in 0..=255" ++
  rule (c.minContourPoints ≥ minEllipsePoints) s!"min_contour_points must be >= {minEllipsePoints}" ++
  rule (1 ≤ c.histogramWindowSize && c.histogramWindowSize ≤ 100000)
    "histogram_window_size must be in 1..=100000" ++
  rule (1 ≤ c.histogramBins && c.histogramBins ≤ 1000) "histogram_bins must be in 1..=1000" ++
  rule (c.rawLogCapacity ≥ 1) "raw_log_capacity must be >= 1" ++
  rule (c.umPerPx > 0 && c.umPerPx.isFinite) "um_per_px must be a positive finite number" ++
  rule c.radiusOffsetPx.isFinite "radius_offset_px must be finite"

/-- 規則をすべて満たすこと。 -/
def validate (c : DetectionConfig) : Outcome Unit :=
  match c.violations with
  | [] => .ok ()
  | es => .error (.invalidConfig es)

/-- 背景の作り直しが要る違い。 -/
def backgroundChanged (c d : DetectionConfig) : Bool :=
  c.backgroundMethod != d.backgroundMethod || c.backgroundFrames != d.backgroundFrames ||
    c.blurKernelSize != d.blurKernelSize

/-- ヒストグラムの作り直しが要る違い。 -/
def histogramShapeChanged (c d : DetectionConfig) : Bool :=
  c.histogramWindowSize != d.histogramWindowSize || c.histogramBins != d.histogramBins

/-- 値の等しさ（浮動小数点は数として比べる）。 -/
def beq (c d : DetectionConfig) : Bool :=
  c.backgroundMethod == d.backgroundMethod && c.backgroundFrames == d.backgroundFrames &&
  c.blurKernelSize == d.blurKernelSize && c.thresholdMethod == d.thresholdMethod &&
  c.adaptiveBlockSize == d.adaptiveBlockSize && c.adaptiveC == d.adaptiveC &&
  c.morphKernelSize == d.morphKernelSize && c.morphOperation == d.morphOperation &&
  c.minArea == d.minArea && c.maxArea == d.maxArea && c.minAspectRatio == d.minAspectRatio &&
  c.maxAspectRatio == d.maxAspectRatio && c.channelBand == d.channelBand &&
  c.channelBandMargin == d.channelBandMargin && c.minMotion == d.minMotion &&
  c.maxPerpDrift == d.maxPerpDrift && c.acceptEntering == d.acceptEntering &&
  c.useFrameDiff == d.useFrameDiff && c.frameDiffThreshold == d.frameDiffThreshold &&
  c.minContourPoints == d.minContourPoints && c.histogramWindowSize == d.histogramWindowSize &&
  c.histogramBins == d.histogramBins && c.rawLogCapacity == d.rawLogCapacity &&
  c.umPerPx == d.umPerPx && c.radiusOffsetPx == d.radiusOffsetPx

end DetectionConfig

end DropletVision
