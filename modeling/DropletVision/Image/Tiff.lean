import DropletVision.Codec.Zlib
import DropletVision.Frame
import DropletVision.Numeric
import DropletVision.Image.Tiff.Directory
import DropletVision.Image.Tiff.Compression

/-!
# TIFF

TIFF のファイル（最初の画像）を 8 ビットのフレームに復号し、白黒か RGB のフレームを TIFF にする。

* 欄は ImageWidth・ImageLength（どちらも欠かせず 0 は不可）、PhotometricInterpretation（欠かせない）、
  Compression、SamplesPerPixel（0 は不可）、SampleFormat（すべて同じ）、BitsPerSample
  （一つかサンプルの数だけ、すべて同じで 0 は不可）、Predictor（1〜3）、PlanarConfiguration（1 か 2）の順に読む。
* 画像データはストリップ（StripOffsets・StripByteCounts・RowsPerStrip）かタイル
  （TileOffsets・TileByteCounts・TileWidth・TileLength）のどちらか一方。区画の数は画像の大きさと
  合わなければならない。PlanarConfiguration が 2 なら、サンプルごとの面が順に並ぶ。
* 扱える色は、灰色（1・8・16 ビット）、RGB と透明度つき RGB（8・16・32 ビット）、CMYK（8・16 ビット）。
  標本は符号なしの整数だけ。32 ビットの RGB は値のビットを単精度の小数として読む。
* 圧縮はなし・LZW・PackBits・Deflate。区画を戻した長さが足りなければ誤り。Deflate は
  ちょうど足りる長さで終わったとき、続く検査和が合わなければ誤り。圧縮なしと Deflate は
  区画の長さを越えてファイルの終わりまで読める。区画の長さと画像の大きさの和は上限に収まる。
* 予測子 2（水平差分）は行ごとに戻す。1 ビットの灰色には使えず、予測子 3 は使えない。
* 白が 0 の灰色は反転する。結果は灰色なら白黒 `[h, w]`、ほかは `[h, w, 3]`。
  16 ビットは `(v + 128) / 257`、1 ビットは 0 か 255、CMYK は `(255 - c)(1 - k / 255)` で RGB にする。
* 書くときは小さい桁から、圧縮なし、一つのストリップ。

## 仕組み

欄の読み取りと確かめは、誤りの順が変わらないように一つずつ行う。区画はそれぞれ戻して、
行ごとに標本へ分け、予測と反転を戻してから画像の標本の表に置く。
-/

namespace DropletVision.Tiff

open Codec

/-- 画素の区切り方。 -/
inductive Chunking where
  | strips (rowsPerStrip : Nat)
  | tiles (width length : Nat)

/-- 画像の欄から読み取った並び方。 -/
structure Description where
  width : Nat
  height : Nat
  photometric : Nat
  compression : Nat
  samples : Nat
  sampleFormat : Nat
  bits : Nat
  predictor : Nat
  planar : Bool
  chunking : Chunking
  offsets : List Nat
  counts : List Nat

/-- 復号に使える大きさの上限（バイト）。画像の大きさと、一つの区画の長さの和もこれに収まる。 -/
def memoryLimit : Nat := 512 * 1024 * 1024

/-- 区画の数が合わない。 -/
def inconsistentSizes : ImageError := formatError "Inconsistent sizes encountered"

/-- 知らない色の解釈。 -/
def unknownInterpretation : ImageError := unsupported "Unknown photometric interpretation"

/-- 知られた色の解釈の番号か。 -/
def knownPhotometric (p : Nat) : Bool := [0, 1, 2, 3, 4, 5, 6, 8].contains p

/-- 欄の値があれば `f` で読み、無ければ `d`。 -/
def Directory.valueOr {α : Type} (d : Directory) (b : ByteArray) (tag : Nat) (dflt : α)
    (f : Value → Except ImageError α) : Except ImageError α := do
  match ← d.value? b tag with
  | some v => f v
  | none => pure dflt

/-- 16 ビットに収まる整数の並び。 -/
def Value.toU16List (v : Value) (name : String) : Except ImageError (List Nat) := do
  let vs ← v.toList
  if vs.any (· ≥ 65536) then throw (formatError s!"Invalid tag value type {name}")
  pure vs

/-- 区画の並び方を読む。 -/
def readChunking (d : Directory) (b : ByteArray) (width height planes : Nat) :
    Except ImageError (Chunking × List Nat × List Nat) := do
  match d.has 279, d.has 273, d.has 325, d.has 324 with
  | true, true, false, false =>
    let offsets ← (← d.require b 273 "StripOffsets").toList
    let counts ← (← d.require b 279 "StripByteCounts").toList
    let rps ← d.valueOr b 278 height Value.toU32
    if offsets.length != counts.length || rps == 0 ||
        offsets.length != ((height - 1) / rps + 1) * planes then
      throw inconsistentSizes
    pure (.strips rps, offsets, counts)
  | false, false, true, true =>
    let tw ← (← d.require b 322 "TileWidth").toU32
    let tl ← (← d.require b 323 "TileLength").toU32
    if tw == 0 then throw (formatError "Invalid tag value type TileWidth")
    if tl == 0 then throw (formatError "Invalid tag value type TileLength")
    let offsets ← (← d.require b 324 "TileOffsets").toList
    let counts ← (← d.require b 325 "TileByteCounts").toList
    if offsets.length != counts.length ||
        offsets.length != ((height + tl - 1) / tl) * ((width + tw - 1) / tw) * planes then
      throw inconsistentSizes
    pure (.tiles tw tl, offsets, counts)
  | _, _, _, _ =>
    throw (formatError ("File should contain either (StripByteCounts and StripOffsets) or " ++
      "(TileByteCounts and TileOffsets), other combination was found."))

/-- 欄を順に読んで並び方を決める。 -/
def describe (d : Directory) (b : ByteArray) : Except ImageError Description := do
  let width ← (← d.require b 256 "ImageWidth").toU32
  let height ← (← d.require b 257 "ImageLength").toU32
  if width == 0 || height == 0 then throw (formatError s!"Invalid dimensions: {width}x{height}.")
  let photometric ← match ← d.value? b 262 with
    | some v => do
      let p ← v.toU16
      if knownPhotometric p then pure p else throw unknownInterpretation
    | none => throw unknownInterpretation
  let compression ← d.valueOr b 259 1 Value.toU16
  let samples ← d.valueOr b 277 1 Value.toU16
  if samples == 0 then throw (formatError "Samples per pixel is zero")
  let sampleFormat ← match ← d.value? b 339 with
    | some v => do
      match ← v.toU16List "SampleFormat" with
      | [] => throw (.abort "index out of bounds: the len is 0 but the index is 0")
      | f :: rest => if rest.all (· == f) then pure f else throw (unsupported "Unsupported sample format")
    | none => pure 1
  let bitsList ← match ← d.value? b 258 with
    | some v => do
      let bs ← v.toList
      if bs.any (· ≥ 256) then throw (formatError "Invalid tag value type BitsPerSample")
      pure bs
    | none => pure [1]
  if bitsList.length != samples && bitsList.length != 1 then throw inconsistentSizes
  let bits := bitsList.headD 0
  if bitsList.any (· != bits) || bits == 0 then throw (unsupported "Inconsistent bits per sample")
  let predictor ← d.valueOr b 317 1 (fun v => do
    let p ← v.toU16
    if 1 ≤ p && p ≤ 3 then pure p else throw (formatError s!"Unknown predictor {p} encountered"))
  let planar ← d.valueOr b 284 false (fun v => do
    let p ← v.toU16
    if p == 1 then pure false else if p == 2 then pure true
    else throw (formatError s!"Unknown planar configuration {p} encountered"))
  let (chunking, offsets, counts) ← readChunking d b width height (if planar then samples else 1)
  pure ⟨width, height, photometric, compression, samples, sampleFormat, bits, predictor, planar,
    chunking, offsets, counts⟩

/-! ## 色 -/

/-- 復号できる色の種類。 -/
inductive Color where
  /-- 灰色（1・8・16 ビット）。`whiteIsZero` なら反転する。 -/
  | gray (whiteIsZero : Bool)
  /-- RGB と透明度つき RGB（8・16・32 ビット）。 -/
  | rgb
  /-- CMYK（8・16 ビット）。 -/
  | cmyk

/-- 色の解釈とサンプルの数の組。扱える色なら `some`、形としては正しいが扱えないものは `none`。 -/
def Description.interpretation (d : Description) : Except ImageError (Option Color) :=
  let bad : Except ImageError (Option Color) := .error (unsupported "Unsupported interpretation with bits")
  match d.photometric with
  | 2 => if d.samples == 3 || d.samples == 4 then .ok (some .rgb) else bad
  | 5 => if d.samples == 4 then .ok (some .cmyk) else bad
  | 6 => if d.samples == 3 then .ok none else bad
  | 0 | 1 => if d.samples == 1 then .ok (some (.gray (d.photometric == 0))) else .ok none
  | _ => bad

/-- 色の種類を決める。扱えない組み合わせは誤り。 -/
def Description.color (d : Description) : Except ImageError Color := do
  let c ← d.interpretation
  if d.sampleFormat != 1 then
    throw (unsupported "Unhandled TIFF sample format")
  match c with
  | some (.gray w) => if [1, 8, 16].contains d.bits then pure (.gray w) else throw unknownColor
  | some .rgb => if [8, 16, 32].contains d.bits then pure .rgb else throw unknownColor
  | some .cmyk => if [8, 16].contains d.bits then pure .cmyk else throw unknownColor
  | none => throw unknownColor
where
  unknownColor : ImageError := unsupported "Unknown color type"

/-- 復号の途中の一画素のバイト数。 -/
def Description.pixelBytes (d : Description) : Color → Nat
  | .gray _ => if d.bits == 16 then 2 else 1
  | .rgb => d.samples * d.bits / 8
  | .cmyk => 3 * d.bits / 8

/-! ## 区画 -/

/-- 一つの区画の位置と大きさ。 -/
structure Chunk where
  plane : Nat
  x0 : Nat
  y0 : Nat
  /-- 画像の中にある部分の幅と行数。 -/
  dataWidth : Nat
  dataRows : Nat
  /-- 区画の一行の画素数（右の詰め物を含む）。 -/
  fullWidth : Nat

/-- `i` 番目の区画。 -/
def Description.chunk (d : Description) (i : Nat) : Chunk :=
  match d.chunking with
  | .strips rps =>
    let perPlane := (d.height - 1) / rps + 1
    let y0 := i % perPlane * rps
    ⟨i / perPlane, 0, y0, d.width, min rps (d.height - y0), d.width⟩
  | .tiles tw tl =>
    let across := (d.width + tw - 1) / tw
    let down := (d.height + tl - 1) / tl
    let j := i % (across * down)
    let cx := j % across
    let cy := j / across
    let padRight := (tw - d.width % tw) % tw
    let padDown := (tl - d.height % tl) % tl
    ⟨i / (across * down), cx * tw, cy * tl,
      tw - (if cx + 1 == across then padRight else 0),
      tl - (if cy + 1 == down then padDown else 0), tw⟩

/-- 一つの区画の標本の数（面ごとなら 1）。 -/
def Description.chunkSamples (d : Description) : Nat := if d.planar then 1 else d.samples

/-- 区画のデータとして読むバイト。圧縮なしと Deflate は区画の長さに縛られず、
ファイルの終わりまで読める。LZW と PackBits は区画の長さだけ。 -/
def Description.chunkSource (d : Description) (b : ByteArray) (offset count : Nat) : ByteArray :=
  if d.compression == 5 || d.compression == 32773 then b.extract offset (offset + count)
  else b.extract offset b.size

/-- 区画の圧縮を戻す。足りなければ誤り。 -/
def Description.inflateChunk (d : Description) (raw : ByteArray) (needed : Nat) :
    Except ImageError ByteArray := do
  let out ← match d.compression with
    | 1 => pure raw
    | 5 => pure (unpackLzw raw)
    | 32773 => pure (unpackBits raw)
    | _ =>
      match unwrapPartial raw with
      | none => throw (.io (.other "corrupt deflate stream"))
      | some u =>
        if u.badChecksum && u.output.size == needed then throw (.io (.other "corrupt deflate stream"))
        else pure u.output
  if out.size < needed then throw truncated
  pure out

/-- 行の標本：1 ビットは上位のビットから、ほかはバイト順に従う。 -/
def rowSamples (o : ByteOrder) (data : ByteArray) (start count bits : Nat) : Array Nat :=
  (Array.range count).map (fun k =>
    if bits == 1 then ((data[start + k / 8]?.getD 0).toNat >>> (7 - k % 8)) % 2
    else o.read data (start + k * (bits / 8)) (bits / 8))

/-- 水平差分を戻す：各標本に同じチャネルの左の標本を足す。 -/
def undoDifferences (spc bits : Nat) (row : Array Nat) : Array Nat :=
  (List.range row.size).foldl (fun acc k =>
    if k < spc then acc
    else acc.set! k ((acc[k]?.getD 0 + acc[k - spc]?.getD 0) % Nat.pow 2 bits)) row

/-- 区画を一つ戻して標本の表に置く。 -/
def Description.placeChunk (d : Description) (o : ByteOrder) (color : Color) (b : ByteArray)
    (grid : Array Nat) (i offset count : Nat) : Except ImageError (Array Nat) := do
  let c := d.chunk i
  let spc := d.chunkSamples
  let rowBytes := (c.fullWidth * d.bits * spc + 7) / 8
  let dataRowBytes := (c.dataWidth * d.bits * spc + 7) / 8
  let needed := (c.dataRows - 1) * rowBytes + dataRowBytes
  if count + d.width * d.height * d.pixelBytes color > memoryLimit then throw .memoryLimit
  let data ← d.inflateChunk (d.chunkSource b offset count) needed
  let maxValue := Nat.pow 2 d.bits - 1
  pure ((List.range c.dataRows).foldl (fun grid r =>
    let row := rowSamples o data (r * rowBytes) (c.dataWidth * spc) d.bits
    let row := if d.predictor == 2 then undoDifferences spc d.bits row else row
    let row := match color with
      | .gray true => row.map (maxValue - ·)
      | _ => row
    (List.range row.size).foldl (fun grid k =>
      let x := c.x0 + k / spc
      let s := if d.planar then c.plane else k % spc
      grid.set! (((c.y0 + r) * d.width + x) * d.samples + s) (row[k]?.getD 0)) grid) grid)

/-! ## 8 ビットへ -/

/-- 16 ビットの値を 8 ビットに丸める。 -/
def narrow16 (v : Nat) : UInt8 := ((v + 128) / 257).toUInt8

/-- 単精度の小数を 8 ビットにする。1 以上と NaN は 255、負は 0。 -/
def narrowFloat (bits : Nat) : UInt8 :=
  let x := Float32.ofBits bits.toUInt32
  if !(x < 1) then 255
  else (((if x < 0 then 0 else x) * 255).round).toUInt8

/-- 標本を 8 ビットにする（灰色と RGB）。 -/
def Description.narrow (d : Description) (v : Nat) : UInt8 :=
  match d.bits with
  | 1 => if v == 0 then 0 else 255
  | 16 => narrow16 v
  | 32 => narrowFloat v
  | _ => v.toUInt8

/-- CMYK の一画素を RGB にする（16 ビットは 16 ビットの RGB を経て丸める）。 -/
def Description.cmykPixel (d : Description) (c m y k : Nat) : List UInt8 :=
  let top : Float32 := if d.bits == 16 then 65535 else 255
  let kf := 1 - Float32.ofNat k / top
  let ch (v : Nat) : Nat := ((top - Float32.ofNat v) * kf).toUInt32.toNat
  if d.bits == 16 then [narrow16 (ch c), narrow16 (ch m), narrow16 (ch y)]
  else [(ch c).toUInt8, (ch m).toUInt8, (ch y).toUInt8]

/-- 標本の表をフレームにする。 -/
def Description.toFrame (d : Description) (color : Color) (grid : Array Nat) : Frame :=
  let n := d.width * d.height
  let at_ (i s : Nat) : Nat := grid[i * d.samples + s]?.getD 0
  match color with
  | .gray _ =>
    ⟨[d.height, d.width], ⟨(Array.range n).map (fun i => d.narrow (at_ i 0))⟩, 0, none⟩
  | .rgb =>
    ⟨[d.height, d.width, 3], ⟨(Array.range (n * 3)).map (fun j => d.narrow (at_ (j / 3) (j % 3)))⟩,
      0, none⟩
  | .cmyk =>
    let px := (List.range n).flatMap (fun i => d.cmykPixel (at_ i 0) (at_ i 1) (at_ i 2) (at_ i 3))
    ⟨[d.height, d.width, 3], ⟨px.toArray⟩, 0, none⟩

/-- 読む前に区画の並びを確かめる。 -/
def Description.checkChunks (d : Description) : Except ImageError Unit := do
  let (cw, _) := match d.chunking with
    | .strips rps => (d.width, rps)
    | .tiles tw tl => (tw, tl)
  let cw := min cw d.width
  let across := (d.width - 1) / cw + 1
  if across > 1 && (cw * d.bits * d.samples) % 8 != 0 then
    throw (unsupported "Misaligned tile boundaries")
  if d.bits == 1 && d.predictor != 1 then throw (unsupported "Predictor for bilevel image")
  if d.predictor == 3 then throw (unsupported "Floating point predictor for integer samples")
  if !([1, 5, 8, 32773, 32946].contains d.compression) then
    throw (unsupported s!"Compression method {d.compression} is unsupported")

/-- TIFF のバイト列を復号する。 -/
def decode (b : ByteArray) : Except ImageError Frame := do
  let dir ← readDirectory b
  let d ← describe dir b
  let color ← d.color
  if d.width * d.height * d.pixelBytes color > memoryLimit then throw .memoryLimit
  d.checkChunks
  let grid ← (d.offsets.zip d.counts).zipIdx.foldlM (fun grid ((offset, count), i) =>
    d.placeChunk dir.order color b grid i offset count) (Array.replicate (d.width * d.height * d.samples) 0)
  pure (d.toFrame color grid)

/-! ## 書き出し -/

/-- 小さい桁からの `n` バイト。 -/
def leBytes (v n : Nat) : ByteArray :=
  ⟨(Array.range n).map (fun k => (v / Nat.pow 256 k % 256).toUInt8)⟩

/-- 欄を一つ書く（値は 4 バイトに収まるもの、または位置）。 -/
def entryBytes (tag ty count value : Nat) : ByteArray :=
  leBytes tag 2 ++ leBytes ty 2 ++ leBytes count 4 ++
    (if ty == 3 && count == 1 then leBytes value 2 ++ leBytes 0 2 else leBytes value 4)

/-- 白黒（`[h, w]`）か RGB（`[h, w, 3]`）のフレームを TIFF にする。 -/
def encode (f : Frame) : ByteArray :=
  let samples := if f.shape.length == 2 then 1 else 3
  let entries := 9
  let ifdSize := 2 + 12 * entries + 4
  let bitsAt := 8 + ifdSize
  let extra := if samples == 3 then leBytes 8 2 ++ leBytes 8 2 ++ leBytes 8 2 else .empty
  let dataAt := bitsAt + extra.size
  let ifd := leBytes entries 2 ++
    entryBytes 256 4 1 f.width ++
    entryBytes 257 4 1 f.height ++
    (if samples == 1 then entryBytes 258 3 1 8 else entryBytes 258 3 3 bitsAt) ++
    entryBytes 259 3 1 1 ++
    entryBytes 262 3 1 (if samples == 1 then 1 else 2) ++
    entryBytes 273 4 1 dataAt ++
    entryBytes 277 3 1 samples ++
    entryBytes 278 4 1 f.height ++
    entryBytes 279 4 1 f.data.size ++
    leBytes 0 4
  ByteArray.mk #[73, 73, 42, 0] ++ leBytes 8 4 ++ ifd ++ extra ++ f.data

end DropletVision.Tiff
