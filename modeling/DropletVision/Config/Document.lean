import DropletVision.Config.Patch
import DropletVision.Json.Read

/-!
# 設定と JSON の値

設定の欄と JSON のキーの対応、読み書きの規則。

* キーは欄の名前（`min_area` など）。三つの欄には古い別名がある：
  `gaussian_blur_kernel`、`adaptive_C`、`pixel_ratio`。同じ欄を二度指定すると誤り。
* 核の大きさ（`blur_kernel_size`、`morph_kernel_size`）は `n` か正方形の `[n, n]`。
* 設定として読むときは知らないキーを無視し、無い欄は既定値。`null` は帯（`channel_band`）
  にだけ許され「帯なし」。
* 更新として読むときは知らないキーを誤りとし、`null` は「変えない」。
* どちらもオブジェクトのほかに、欄を宣言の順に並べた配列を受ける（短ければ残りは既定）。
* 書き出しは宣言の順で、帯が無ければその欄を書かない。単精度の欄は単精度の数として書く。
-/

namespace DropletVision

open Json

/-- 読み方の違い。 -/
inductive ReadMode where
  /-- 設定として：知らないキーは無視、`null` は帯だけ。 -/
  | config
  /-- 更新として：知らないキーは誤り、`null` は変えない。 -/
  | patch
  deriving BEq

/-- 一つの欄の読み方。 -/
structure FieldRule where
  name : String
  aliases : List String := []
  /-- 設定として読むときに `null` を受けるか。 -/
  nullable : Bool := false
  /-- 設定として読むときに使う欄か（更新にしか無い欄は `false`）。 -/
  inConfig : Bool := true
  set : Json → ConfigPatch → Read ConfigPatch

/-- 核の大きさ：`n` か `[n, n]`。 -/
def readKernelSize (j : Json) : Read Nat :=
  let noMatch : Read Nat := .error "data did not match any variant of untagged enum KernelSizeRepr"
  match j with
  | .num (.nat n) => if n < Nat.pow 2 64 then .ok n else noMatch
  | .arr [.num (.nat h), .num (.nat w)] =>
    if h < Nat.pow 2 64 && w < Nat.pow 2 64 then
      if h == w then .ok h else .error s!"kernel size must be square, got [{h}, {w}]"
    else noMatch
  | _ => noMatch

/-- 背景の方法の名前。 -/
def backgroundNames : List String := ["static", "highpass"]
/-- 二値化の方法の名前。 -/
def thresholdNames : List String := ["otsu", "adaptive"]
/-- 形態演算の名前。 -/
def morphNames : List String := ["open", "close", "both"]

/-- 背景の方法の、名前の一覧での番号。 -/
def BackgroundMethod.index : BackgroundMethod → Nat
  | .static => 0
  | .highpass => 1

/-- 二値化の方法の、名前の一覧での番号。 -/
def ThresholdMethod.index : ThresholdMethod → Nat
  | .otsu => 0
  | .adaptive => 1

/-- 形態演算の、名前の一覧での番号。 -/
def MorphOperation.index : MorphOperation → Nat
  | .opening => 0
  | .closing => 1
  | .both => 2

/-- 欄の宣言の順の読み方の表。 -/
def fieldRules : List FieldRule := [
  { name := "background_method", set := fun j p => do
      let i ← readVariant backgroundNames j
      pure { p with backgroundMethod := some (if i == 0 then .static else .highpass) } },
  { name := "background_frames", set := fun j p => do
      pure { p with backgroundFrames := some (← readUsize j) } },
  { name := "blur_kernel_size", aliases := ["gaussian_blur_kernel"], set := fun j p => do
      pure { p with blurKernelSize := some (← readKernelSize j) } },
  { name := "threshold_method", set := fun j p => do
      let i ← readVariant thresholdNames j
      pure { p with thresholdMethod := some (if i == 0 then .otsu else .adaptive) } },
  { name := "adaptive_block_size", set := fun j p => do
      pure { p with adaptiveBlockSize := some (← readUsize j) } },
  { name := "adaptive_c", aliases := ["adaptive_C"], set := fun j p => do
      pure { p with adaptiveC := some (← readF32 j) } },
  { name := "morph_kernel_size", set := fun j p => do
      pure { p with morphKernelSize := some (← readKernelSize j) } },
  { name := "morph_operation", set := fun j p => do
      let i ← readVariant morphNames j
      pure { p with morphOperation := some (if i == 0 then .opening else if i == 1 then .closing else .both) } },
  { name := "min_area", set := fun j p => do pure { p with minArea := some (← readF64 j) } },
  { name := "max_area", set := fun j p => do pure { p with maxArea := some (← readF64 j) } },
  { name := "min_aspect_ratio", set := fun j p => do
      pure { p with minAspectRatio := some (← readF64 j) } },
  { name := "max_aspect_ratio", set := fun j p => do
      pure { p with maxAspectRatio := some (← readF64 j) } },
  { name := "channel_band", nullable := true, set := fun j p => do
      pure { p with channelBand := some (← readPairU32 j) } },
  { name := "clear_channel_band", inConfig := false, set := fun j p => do
      pure { p with clearChannelBand := some (← readBool j) } },
  { name := "channel_band_margin", set := fun j p => do
      pure { p with channelBandMargin := some (← readU32 j) } },
  { name := "min_motion", set := fun j p => do pure { p with minMotion := some (← readF64 j) } },
  { name := "max_perp_drift", set := fun j p => do
      pure { p with maxPerpDrift := some (← readF64 j) } },
  { name := "accept_entering", set := fun j p => do
      pure { p with acceptEntering := some (← readBool j) } },
  { name := "use_frame_diff", set := fun j p => do
      pure { p with useFrameDiff := some (← readBool j) } },
  { name := "frame_diff_threshold", set := fun j p => do
      pure { p with frameDiffThreshold := some (← readF32 j) } },
  { name := "min_contour_points", set := fun j p => do
      pure { p with minContourPoints := some (← readUsize j) } },
  { name := "histogram_window_size", set := fun j p => do
      pure { p with histogramWindowSize := some (← readUsize j) } },
  { name := "histogram_bins", set := fun j p => do
      pure { p with histogramBins := some (← readUsize j) } },
  { name := "raw_log_capacity", set := fun j p => do
      pure { p with rawLogCapacity := some (← readUsize j) } },
  { name := "um_per_px", aliases := ["pixel_ratio"], set := fun j p => do
      pure { p with umPerPx := some (← readF64 j) } },
  { name := "radius_offset_px", set := fun j p => do
      pure { p with radiusOffsetPx := some (← readF64 j) } }
]

/-- その読み方で使う欄。 -/
def rulesFor (mode : ReadMode) : List FieldRule :=
  match mode with
  | .config => fieldRules.filter (·.inConfig)
  | .patch => fieldRules

/-- 一つの値を欄に入れる。 -/
def applyRule (mode : ReadMode) (r : FieldRule) (v : Json) (p : ConfigPatch) : Read ConfigPatch :=
  if v.isNull && (mode == .patch || r.nullable) then .ok p else r.set v p

/-- キーと値の組を一つ読む。`acc` は読んだ更新と、すでに読んだ欄の名前。 -/
def readField (mode : ReadMode) (acc : ConfigPatch × List String) (kv : String × Json) :
    Read (ConfigPatch × List String) :=
  let rules := rulesFor mode
  let (p, seen) := acc
  match rules.find? (fun r => r.name == kv.1 || r.aliases.contains kv.1) with
  | none =>
    if mode == .patch then
      let key := kv.1
      let expected := expectedVariants (rules.map (·.name))
      .error s!"unknown field `{key}`, expected {expected}"
    else .ok (p, seen)
  | some r =>
    if seen.contains r.name then .error s!"duplicate field `{r.name}`"
    else do
      let p ← applyRule mode r kv.2 p
      pure (p, r.name :: seen)

/-- キーと値の組を順に読む。 -/
def readFields (mode : ReadMode) (fields : List (String × Json)) : Read ConfigPatch :=
  (fields.foldlM (readField mode) ({}, [])).map (·.1)

/-- 欄を宣言の順に並べた配列を読む。 -/
def readPositional (mode : ReadMode) (items : List Json) : Read ConfigPatch := do
  let rules := rulesFor mode
  let p ← (rules.zip items).foldlM (fun p (r, v) => applyRule mode r v p) ({} : ConfigPatch)
  if items.length > rules.length then
    .error s!"invalid length {items.length}, expected fewer elements in array"
  else pure p

/-- JSON の値を読む。 -/
def readDocument (mode : ReadMode) (j : Json) : Read ConfigPatch :=
  match j with
  | .obj fields => readFields mode fields
  | .arr items => readPositional mode items
  | _ =>
    .error (invalidType j (if mode == .patch then "struct ConfigPatch" else "struct DetectionConfig"))

namespace DetectionConfig

/-- 設定として読む（検査はしない）。 -/
def ofJson (j : Json) : Read DetectionConfig :=
  (readDocument .config j).map (·.overwrite {})

/-- 名前。 -/
def methodName (i : Nat) (names : List String) : Json := .str ((names[i]?).getD "")

/-- 宣言の順の JSON。帯が無ければ書かない。 -/
def toJson (c : DetectionConfig) : Json :=
  .obj ([
    ("background_method", methodName c.backgroundMethod.index backgroundNames),
    ("background_frames", .ofNat c.backgroundFrames),
    ("blur_kernel_size", .ofNat c.blurKernelSize),
    ("threshold_method", methodName c.thresholdMethod.index thresholdNames),
    ("adaptive_block_size", .ofNat c.adaptiveBlockSize),
    ("adaptive_c", .ofFloat32 c.adaptiveC),
    ("morph_kernel_size", .ofNat c.morphKernelSize),
    ("morph_operation", methodName c.morphOperation.index morphNames),
    ("min_area", .ofFloat c.minArea),
    ("max_area", .ofFloat c.maxArea),
    ("min_aspect_ratio", .ofFloat c.minAspectRatio),
    ("max_aspect_ratio", .ofFloat c.maxAspectRatio)] ++
    (match c.channelBand with
     | some (lo, hi) => [("channel_band", .arr [.ofNat lo, .ofNat hi])]
     | none => []) ++ [
    ("channel_band_margin", .ofNat c.channelBandMargin),
    ("min_motion", .ofFloat c.minMotion),
    ("max_perp_drift", .ofFloat c.maxPerpDrift),
    ("accept_entering", .bool c.acceptEntering),
    ("use_frame_diff", .bool c.useFrameDiff),
    ("frame_diff_threshold", .ofFloat32 c.frameDiffThreshold),
    ("min_contour_points", .ofNat c.minContourPoints),
    ("histogram_window_size", .ofNat c.histogramWindowSize),
    ("histogram_bins", .ofNat c.histogramBins),
    ("raw_log_capacity", .ofNat c.rawLogCapacity),
    ("um_per_px", .ofFloat c.umPerPx),
    ("radius_offset_px", .ofFloat c.radiusOffsetPx)])

end DetectionConfig

namespace ConfigPatch

/-- 更新として読む。読めなければ設定の誤り（`malformed config update: …`）。 -/
def ofJson (j : Json) : Outcome ConfigPatch :=
  (readDocument .patch j).mapError (fun e => .invalidConfig [s!"malformed config update: {e}"])

end ConfigPatch

end DropletVision
