import DropletVision.Random.ChaCha
import DropletVision.Synthetic.Ellipse
import DropletVision.Roi
import DropletVision.Config.Basic
import DropletVision.Json.Read

/-!
# 合成カメラ

横向きの流路を明るい液滴が `+x` の向きに流れる様子を、決まった手順で描くカメラ。

* 流路の壁は中心 `channel_center_y` から `±channel_height / 2`（丸めた行）で、その行との距離が
  1 未満の行を壁の明るさで塗る。
* 液滴 `k` は進んだ距離 `frame · speed` が `k · spacing` に達したとき `x = -a` から入る。
  フレームで見える液滴は、最も新しいものから、左端 `x - a` が画像の幅を超えるまで。
  縦の位置は中心に揺らぎ（種 `seed ^ (k · 0x9E3779B9)` の乱数、`±jitter`）を足したもの。
* 描く順は背景・壁・ごみ（半径 2 の円）・液滴。雑音があれば各画素に `±noise` の整数の
  乱数を足して 0 から 255 に収める。雑音の乱数はカメラが持ち続ける。
* 領域を指定した取り込みは、その領域だけを描く（全体を描いて切り出したものと同じ）。
* `frame_limit` に達したら取り込みは終わる。時刻は `frame · frame_interval_us`。

設定の JSON は欄ごとに既定値があり、知らない欄は無視する。
-/

namespace DropletVision

open Json

/-- 合成する流路の設定。 -/
structure SyntheticConfig where
  width : Nat := 640
  height : Nat := 240
  channelCenterY : Float := 120.0
  channelHeight : Float := 60.0
  dropletSemiMajor : Float := 20.0
  dropletSemiMinor : Float := 12.0
  spacing : Float := 140.0
  speed : Float := 6.0
  jitter : Float := 1.5
  backgroundLevel : UInt8 := 20
  dropletLevel : UInt8 := 210
  wallLevel : UInt8 := 90
  noise : UInt8 := 0
  debris : List (Float × Float) := []
  seed : UInt64 := 7
  frameLimit : Option Nat := none
  frameIntervalUs : Nat := 10000

namespace SyntheticConfig

/-- 8 ビットの値。 -/
def readU8 : Json → Read UInt8 := fun j => do pure (← readBounded 256 "u8" j).toUInt8

/-- 64 ビットの値。 -/
def readU64 : Json → Read Nat := readBounded (Nat.pow 2 64) "u64"

/-- 倍精度の二つ組。 -/
def readPoint (j : Json) : Read (Float × Float) :=
  match j with
  | .arr [a, b] => do pure (← readF64 a, ← readF64 b)
  | .arr [] => .error "invalid length 0, expected a tuple of size 2"
  | .arr [a] => do
    let _ ← readF64 a
    .error "invalid length 1, expected a tuple of size 2"
  | .arr (a :: b :: rest) => do
    let _ ← readF64 a
    let _ ← readF64 b
    .error s!"invalid length {rest.length + 2}, expected fewer elements in array"
  | _ => .error (invalidType j "a tuple of size 2")

/-- 列。 -/
def readSeq {α : Type} (f : Json → Read α) (j : Json) : Read (List α) :=
  match j with
  | .arr xs => xs.mapM f
  | _ => .error (invalidType j "a sequence")

/-- 欄があれば読み、無ければ既定値。 -/
def withField {α : Type} (fields : List (String × Json)) (k : String) (f : Json → Read α) (d : α) :
    Read α :=
  match fields.find? (·.1 == k) with
  | some (_, v) => f v
  | none => .ok d

/-- JSON のオブジェクトから読む。 -/
def ofJson (j : Json) : Read SyntheticConfig := do
  let fs ← match j with
    | .obj fs => pure fs
    | _ => .error (invalidType j "struct SyntheticConfig")
  let d : SyntheticConfig := {}
  pure {
    width := ← withField fs "width" readUsize d.width
    height := ← withField fs "height" readUsize d.height
    channelCenterY := ← withField fs "channel_center_y" readF64 d.channelCenterY
    channelHeight := ← withField fs "channel_height" readF64 d.channelHeight
    dropletSemiMajor := ← withField fs "droplet_semi_major" readF64 d.dropletSemiMajor
    dropletSemiMinor := ← withField fs "droplet_semi_minor" readF64 d.dropletSemiMinor
    spacing := ← withField fs "spacing" readF64 d.spacing
    speed := ← withField fs "speed" readF64 d.speed
    jitter := ← withField fs "jitter" readF64 d.jitter
    backgroundLevel := ← withField fs "background_level" readU8 d.backgroundLevel
    dropletLevel := ← withField fs "droplet_level" readU8 d.dropletLevel
    wallLevel := ← withField fs "wall_level" readU8 d.wallLevel
    noise := ← withField fs "noise" readU8 d.noise
    debris := ← withField fs "debris" (readSeq readPoint) d.debris
    seed := ← withField fs "seed" (fun v => do pure (← readU64 v).toUInt64) d.seed
    frameLimit := ← withField fs "frame_limit"
      (fun v => if v.isNull then .ok none else some <$> readUsize v) d.frameLimit
    frameIntervalUs := ← withField fs "frame_interval_us" readU64 d.frameIntervalUs }

/-- JSON のオブジェクト（欄は宣言の順）。 -/
def toJson (c : SyntheticConfig) : Json :=
  .obj [("width", .ofNat c.width), ("height", .ofNat c.height),
    ("channel_center_y", .ofFloat c.channelCenterY), ("channel_height", .ofFloat c.channelHeight),
    ("droplet_semi_major", .ofFloat c.dropletSemiMajor),
    ("droplet_semi_minor", .ofFloat c.dropletSemiMinor), ("spacing", .ofFloat c.spacing),
    ("speed", .ofFloat c.speed), ("jitter", .ofFloat c.jitter),
    ("background_level", .ofNat c.backgroundLevel.toNat), ("droplet_level", .ofNat c.dropletLevel.toNat),
    ("wall_level", .ofNat c.wallLevel.toNat), ("noise", .ofNat c.noise.toNat),
    ("debris", .arr (c.debris.map (fun (x, y) => .arr [.ofFloat x, .ofFloat y]))),
    ("seed", .ofNat c.seed.toNat), ("frame_limit", (c.frameLimit.map Json.ofNat).getD .null),
    ("frame_interval_us", .ofNat c.frameIntervalUs)]

end SyntheticConfig

/-- 合成カメラ。`roi` と `hardwareRoi` は領域の指定、`noiseRng` は雑音の乱数。 -/
structure SyntheticCamera where
  config : SyntheticConfig
  roi : Option Roi := none
  hardwareRoi : Bool := false
  calibration : Option Calibration := none
  frameIndex : Nat := 0
  noiseRng : Random.ChaCha8

namespace SyntheticCamera

/-- 設定から作る。 -/
def new (config : SyntheticConfig) : SyntheticCamera :=
  { config, noiseRng := Random.ChaCha8.seedFromU64 config.seed }

/-- 32 ビットに切り詰める（負と NaN は 0、上は `2^32 - 1`）。 -/
def toU32Sat (x : Float) : Nat := min (Float.toNatSat x) (Nat.pow 2 32 - 1)

/-- 既定の関心領域：流路と 10 画素の余白、幅いっぱい。 -/
def channelRoi (cam : SyntheticCamera) : Roi :=
  let c := cam.config
  let margin := 10.0
  let top := toU32Sat (Float.maxNum (c.channelCenterY - c.channelHeight / 2.0 - margin) 0.0)
  let bottom := toU32Sat (Float.minNum (c.channelCenterY + c.channelHeight / 2.0 + margin)
    (Float.ofNat c.height))
  ⟨0, top, c.width % Nat.pow 2 32, max (bottom - top) 1⟩

/-- 液滴 `k` の縦の揺らぎ。揺らぎの幅が乱数の区間にならなければ打ち切る。 -/
def jitterFor (c : SyntheticConfig) (k : Nat) : Except String Float :=
  if c.jitter ≤ 0.0 then .ok 0.0
  else
    let seed := c.seed ^^^ (k.toUInt64 * 0x9E3779B9)
    (Random.ChaCha8.seedFromU64 seed |>.uniformInclusive (-c.jitter) c.jitter).map (·.1)

/-- フレーム `frame` で見える液滴の中心（センサーの座標）。新しい液滴から。 -/
def dropletCenters (c : SyntheticConfig) (frame : Nat) : Except String (List (Float × Float)) :=
  let travelled := Float.ofNat frame * c.speed
  let a := c.dropletSemiMajor
  let spacing := Float.maxNum c.spacing 1.0
  let newest := Float.toInt64Sat (travelled / spacing).floor
  if newest < 0 then .ok [] else go travelled a spacing (newest.toNat + 1) newest.toNat
where
  /-- 液滴 `k` から古い方へ。 -/
  go (travelled a spacing : Float) : Nat → Nat → Except String (List (Float × Float))
    | 0, _ => .ok []
    | fuel + 1, k =>
      let x := travelled - Float.ofNat k * spacing - a
      if x - a > Float.ofNat c.width then .ok []
      else do
        let dy ← jitterFor c k
        let rest ← if k == 0 then pure [] else go travelled a spacing fuel (k - 1)
        pure ((x, c.channelCenterY + dy) :: rest)

/-- 中心の列 `centers` の液滴を領域 `region` に描き、雑音を足す。 -/
def paint (c : SyntheticConfig) (centers : List (Float × Float)) (rng : Random.ChaCha8) (region : Roi) :
    ByteArray × Random.ChaCha8 := Id.run do
  let x0 := Float.ofNat region.x
  let y0 := Float.ofNat region.y
  let h := region.height
  let w := region.width
  let mut data : ByteArray := ⟨Array.replicate (h * w) c.backgroundLevel⟩
  let wallTop := (c.channelCenterY - c.channelHeight / 2.0).round
  let wallBottom := (c.channelCenterY + c.channelHeight / 2.0).round
  for row in [0:h] do
    let y := y0 + Float.ofNat row
    if (y - wallTop).abs < 1.0 || (y - wallBottom).abs < 1.0 then
      for col in [0:w] do
        data := data.set! (row * w + col) c.wallLevel
  for (dx, dy) in c.debris do
    data := drawEllipse h w data (dx - x0) (dy - y0) 2.0 2.0 c.dropletLevel
  for (cx, cy) in centers do
    data := drawEllipse h w data (cx - x0) (cy - y0) c.dropletSemiMajor c.dropletSemiMinor
      c.dropletLevel
  let mut g := rng
  if c.noise > 0 then
    let amp : Int := c.noise.toNat
    for i in [0:h * w] do
      let (n, g') := g.uniformSmallInt (-amp) amp
      g := g'
      let v := ((data[i]?.getD 0).toNat : Int) + n
      data := data.set! i (max 0 (min v 255)).toNat.toUInt8
  return (data, g)

/-- 領域 `region` を描く。返すのは画素と、使った後の雑音の乱数。 -/
def render (c : SyntheticConfig) (frame : Nat) (rng : Random.ChaCha8) (region : Roi) :
    Except String (ByteArray × Random.ChaCha8) := do
  let centers ← dropletCenters c frame
  pure (paint c centers rng region)

/-- 次のフレームを領域 `region` で描く。上限に達していれば `none`。
描けなければ（揺らぎの幅が乱数の区間にならない）その理由。 -/
def nextFrame (cam : SyntheticCamera) (region : Roi) : Except String (Option Frame × SyntheticCamera) :=
  match cam.config.frameLimit with
  | some limit =>
    if cam.frameIndex ≥ limit then .ok (none, cam) else draw cam
  | none => draw cam
where
  /-- 描いて番号を進める。 -/
  draw (cam : SyntheticCamera) : Except String (Option Frame × SyntheticCamera) := do
    let (data, g) ← render cam.config cam.frameIndex cam.noiseRng region
    let ts := cam.frameIndex * cam.config.frameIntervalUs % Nat.pow 2 64
    pure (some ⟨[region.height, region.width], data, cam.frameIndex, some ts⟩,
      { cam with frameIndex := cam.frameIndex + 1, noiseRng := g })

/-- センサー全体の領域。 -/
def fullSensor (cam : SyntheticCamera) : Roi :=
  ⟨0, 0, cam.config.width % Nat.pow 2 32, cam.config.height % Nat.pow 2 32⟩

end SyntheticCamera

end DropletVision
