import DropletVision.Codec.Zlib
import DropletVision.Frame

/-!
# PNG

PNG のファイルを 8 ビットのフレームに復号し、白黒か RGB のフレームを PNG にする。

* 復号の結果は、灰色（透明度つきも）なら白黒 `[h, w]`、それ以外（RGB・パレット・透明度つき）は
  `[h, w, 3]`。透明度は捨てる。
* 8 ビット未満の灰色は `v · 255 / (2^d - 1)` に広げる。16 ビットの値は `(v + 128) / 257`。
  パレットの外の番号は黒。
* 行ごとのフィルター（なし・左・上・平均・Paeth）を戻し、Adam7 の飛び越しにも対応する。
* チャンクの検査和は確かめる。画像データは IDAT の並びの次のチャンクの見出しまで読む。
* 知らないチャンクは、欠かせない種類（名前の最初のバイトの 5 番のビットが 0）なら誤り、ほかは読み飛ばす。
  IHDR と PLTE は一度だけで、PLTE は空にできない。
* パレットの長さが 3 の倍数でないか 256 色を超えると、最初の行を戻すところで処理全体の打ち切りになる。
* 書くときは 8 ビット、フィルターなし、圧縮なしの zlib。

## 仕組み

足りないバイトは「読み終える前に終わった」、形式の誤りは PNG の復号の誤り。
-/

namespace DropletVision.Png

open Codec

/-- PNG の先頭の八バイト。 -/
def signature : ByteArray := ⟨#[137, 80, 78, 71, 13, 10, 26, 10]⟩

/-- 誤りの文言に使う形式の名前。 -/
def formatName : String := "Png"

/-- 形式の誤り。 -/
def formatError (detail : String) : ImageError := .decoding formatName detail

/-- 大きい桁からの 32 ビットの値。 -/
def be32 (b : ByteArray) (i : Nat) : Nat :=
  (List.range 4).foldl (fun acc k => acc * 256 + (b[i + k]?.getD 0).toNat) 0

/-- IHDR の中身。 -/
structure Header where
  width : Nat
  height : Nat
  bitDepth : Nat
  colorType : Nat
  interlaced : Bool

/-- 色の種類ごとのチャネル数。 -/
def Header.channels (h : Header) : Nat :=
  match h.colorType with
  | 0 => 1
  | 2 => 3
  | 3 => 1
  | 4 => 2
  | _ => 4

/-- 色の種類とビット深度の組が許されるか。 -/
def validDepth (colorType bitDepth : Nat) : Bool :=
  match colorType with
  | 0 => [1, 2, 4, 8, 16].contains bitDepth
  | 3 => [1, 2, 4, 8].contains bitDepth
  | 2 | 4 | 6 => [8, 16].contains bitDepth
  | _ => false

/-- IHDR を読む。 -/
def parseHeader (d : ByteArray) : Except ImageError Header := do
  if d.size != 13 then throw (formatError "Invalid IHDR chunk length")
  let h : Header := ⟨be32 d 0, be32 d 4, (d[8]?.getD 0).toNat, (d[9]?.getD 0).toNat,
    (d[12]?.getD 0) == 1⟩
  if h.width == 0 || h.height == 0 then throw (formatError "Invalid image dimensions")
  if !validDepth h.colorType h.bitDepth then
    throw (formatError s!"Invalid color/depth combination in header: {h.colorType}/{h.bitDepth}")
  if (d[10]?.getD 0) != 0 then throw (formatError "Unknown compression method")
  if (d[11]?.getD 0) != 0 then throw (formatError "Unknown filter method")
  if (d[12]?.getD 0) > 1 then throw (formatError "Unknown interlace method")
  pure h

/-- 読み取った中身：見出し、パレット、つなげた画像データ。 -/
structure Contents where
  header : Option Header := none
  palette : Option ByteArray := none
  data : ByteArray := .empty
  seenData : Bool := false

/-- 欠かせないチャンクの種類か（名前の最初のバイトの 5 番のビットが 0、つまり英字なら大文字）。 -/
def critical (kind : String) : Bool :=
  match kind.toList with
  | c :: _ => (c.toNat >>> 5) % 2 == 0
  | [] => false

/-- チャンクを順に読む。`pos` は次のチャンクの位置。 -/
def readChunks (b : ByteArray) : Nat → Nat → Contents → Except ImageError Contents
  | 0, _, _ => throw (.io .unexpectedEof)
  | fuel + 1, pos, c => do
    if pos + 8 > b.size then throw (.io .unexpectedEof)
    let len := be32 b pos
    let kind := String.ofList ((b.extract (pos + 4) (pos + 8)).toList.map (fun x => Char.ofNat x.toNat))
    if c.seenData && kind != "IDAT" then return c
    if len ≥ Nat.pow 2 31 then throw (formatError "Chunk length is too large")
    if pos + 12 + len > b.size then throw (.io .unexpectedEof)
    let body := b.extract (pos + 8) (pos + 8 + len)
    let stored := be32 b (pos + 8 + len)
    let computed := (crc32 (b.extract (pos + 4) (pos + 8 + len))).toNat
    if stored != computed then throw (formatError s!"CRC error while decoding {kind} chunk")
    let next := pos + 12 + len
    match c.header with
    | none =>
      if kind != "IHDR" then throw (formatError s!"{kind} chunk appeared before IHDR chunk")
      readChunks b fuel next { c with header := some (← parseHeader body) }
    | some _ =>
      if kind == "IDAT" then
        readChunks b fuel next { c with data := c.data ++ body, seenData := true }
      else if kind == "PLTE" then
        if c.palette.isSome then throw (formatError "Chunk PLTE must appear at most once.")
        if body.isEmpty then throw (formatError "Invalid palette length.")
        readChunks b fuel next { c with palette := some body }
      else if kind == "IEND" then throw (formatError "IDAT or fDAT chunk is missing.")
      else if kind == "IHDR" then throw (formatError "Chunk IHDR must appear at most once.")
      else if critical kind then throw (formatError s!"Unknown critical chunk {kind}")
      else readChunks b fuel next c

/-- Paeth の予測。 -/
def paeth (a b c : Nat) : Nat :=
  let p : Int := (a : Int) + b - c
  let pa := (p - a).natAbs
  let pb := (p - b).natAbs
  let pc := (p - c).natAbs
  if pa ≤ pb && pa ≤ pc then a else if pb ≤ pc then b else c

/-- 一つの画像（飛び越しなら一つの段）の行のフィルターを戻す。 -/
def unfilter (data : ByteArray) (offset rows rowBytes bpp : Nat) :
    Except ImageError (ByteArray × Nat) := do
  if offset + rows * (rowBytes + 1) > data.size then
    throw (formatError "IDAT or fDAT chunk does not have enough data for image.")
  let mut out := ByteArray.emptyWithCapacity (rows * rowBytes)
  for r in [0:rows] do
    let base := offset + r * (rowBytes + 1)
    let kind := (data[base]?.getD 0).toNat
    if kind > 4 then throw (formatError s!"Unknown filter method: {kind}")
    let rowStart := r * rowBytes
    for i in [0:rowBytes] do
      let x := (data[base + 1 + i]?.getD 0).toNat
      let a := if i ≥ bpp then (out[rowStart + i - bpp]?.getD 0).toNat else 0
      let up := if r > 0 then (out[rowStart - rowBytes + i]?.getD 0).toNat else 0
      let c := if r > 0 && i ≥ bpp then (out[rowStart - rowBytes + i - bpp]?.getD 0).toNat else 0
      let v := match kind with
        | 0 => x
        | 1 => x + a
        | 2 => x + up
        | 3 => x + (a + up) / 2
        | _ => x + paeth a up c
      out := out.push (v % 256).toUInt8
  pure (out, offset + rows * (rowBytes + 1))

/-- 行の中の `k` 番目の標本（深さ `depth` ビット）。 -/
def sample (row : ByteArray) (start k depth : Nat) : Nat :=
  if depth == 8 then (row[start + k]?.getD 0).toNat
  else if depth == 16 then
    (row[start + 2 * k]?.getD 0).toNat * 256 + (row[start + 2 * k + 1]?.getD 0).toNat
  else
    let bit := k * depth
    let byte := (row[start + bit / 8]?.getD 0).toNat
    (byte >>> (8 - depth - bit % 8)) % (Nat.pow 2 depth)

/-- 標本を 8 ビットにする。 -/
def toEightBits (v depth : Nat) : UInt8 :=
  if depth == 16 then ((v + 128) / 257).toUInt8
  else if depth == 8 then v.toUInt8
  else (v * 255 / (Nat.pow 2 depth - 1)).toUInt8

/-- 出力が白黒か。 -/
def Header.isGray (h : Header) : Bool := h.colorType == 0 || h.colorType == 4

/-- 一画素の出力の値（白黒は一つ、ほかは三つ）。 -/
def pixelValues (h : Header) (palette : ByteArray) (row : ByteArray) (start x : Nat) : List UInt8 :=
  let ch := h.channels
  let s (k : Nat) : Nat := sample row start (x * ch + k) h.bitDepth
  match h.colorType with
  | 0 | 4 => [toEightBits (s 0) h.bitDepth]
  | 3 =>
    let i := s 0
    if 3 * i + 2 < palette.size then
      [palette[3 * i]?.getD 0, palette[3 * i + 1]?.getD 0, palette[3 * i + 2]?.getD 0]
    else [0, 0, 0]
  | _ => [toEightBits (s 0) h.bitDepth, toEightBits (s 1) h.bitDepth, toEightBits (s 2) h.bitDepth]

/-- Adam7 の七つの段：列・行の始まりと間隔。 -/
def adam7 : List (Nat × Nat × Nat × Nat) :=
  [(0, 0, 8, 8), (4, 0, 8, 8), (0, 4, 4, 8), (2, 0, 4, 4), (0, 2, 2, 4), (1, 0, 2, 2), (0, 1, 1, 2)]

/-- 段の中の画素の数。 -/
def passSize (total start step : Nat) : Nat := (total + step - 1 - start) / step

/-- 画素を書き込む先の配列に、段の画素を置く。 -/
def placePass (h : Header) (palette : ByteArray) (rows : ByteArray) (pw ph rowBytes : Nat)
    (out : ByteArray) (x0 y0 dx dy outCh : Nat) : ByteArray := Id.run do
  let mut o := out
  for py in [0:ph] do
    for px in [0:pw] do
      let vs := pixelValues h palette rows (py * rowBytes) px
      let base := ((y0 + py * dy) * h.width + (x0 + px * dx)) * outCh
      for k in [0:outCh] do
        o := o.set! (base + k) (vs.getD k 0)
  return o

/-- パレットの長さ `n` バイトを 256 色の表に写すときの破れ。色は 4 バイトずつ写して 3 バイト進むので、
4 バイト未満の残りが 1・2 バイトなら残りの一色が欠け、257 色目を書こうとすれば表が尽きる。 -/
def paletteFault (n : Nat) : Option String :=
  let copied := if n ≥ 4 then (n - 1) / 3 else 0
  let rest := n - 3 * copied
  if copied > 256 || (copied == 256 && rest > 0) then
    some "index out of bounds: the len is 0 but the index is 0"
  else if rest == 1 || rest == 2 then
    some s!"range end index 3 out of range for slice of length {rest}"
  else none

/-- 最初に戻す行（飛び越しなら最初の空でない段の最初の行）が、フィルターの種類も含めて揃っているか。 -/
def firstRowReady (h : Header) (raw : ByteArray) : Bool :=
  let passes := if h.interlaced then adam7 else [(0, 0, 1, 1)]
  match passes.find? (fun (x0, y0, dx, dy) => passSize h.width x0 dx > 0 && passSize h.height y0 dy > 0) with
  | some (x0, _, dx, _) =>
    let rowBytes := (passSize h.width x0 dx * h.channels * h.bitDepth + 7) / 8
    raw.size ≥ rowBytes + 1 && (raw[0]?.getD 0) ≤ 4
  | none => false

/-- PNG のバイト列を復号する。 -/
def decode (b : ByteArray) : Except ImageError Frame := do
  if b.size < 8 then throw (.io .unexpectedEof)
  if b.extract 0 8 != signature then throw (formatError "Invalid PNG signature.")
  let c ← readChunks b (b.size + 1) 8 {}
  let h ← match c.header with
    | some h => pure h
    | none => throw (formatError "IHDR chunk missing")
  let palette ← match c.palette, h.colorType with
    | none, 3 => throw (formatError "Missing palette of indexed image.")
    | p, _ => pure (p.getD .empty)
  let raw ← match unwrap c.data with
    | some r => pure r
    | none => throw (formatError "Corrupt deflate stream.")
  let ch := h.channels
  let bpp := max 1 (ch * h.bitDepth / 8)
  if h.colorType == 3 then
    if let some m := paletteFault palette.size then
      -- パレットは最初の行を戻したときに組み立てる。
      if firstRowReady h raw then throw (.abort m)
  let outCh := if h.isGray then 1 else 3
  let passes := if h.interlaced then adam7 else [(0, 0, 1, 1)]
  let (out, _) ← passes.foldlM (fun (out, offset) (x0, y0, dx, dy) => do
      let pw := passSize h.width x0 dx
      let ph := passSize h.height y0 dy
      if pw == 0 || ph == 0 then pure (out, offset)
      else
        let rowBytes := (pw * ch * h.bitDepth + 7) / 8
        let (rows, offset) ← unfilter raw offset ph rowBytes bpp
        pure (placePass h palette rows pw ph rowBytes out x0 y0 dx dy outCh, offset))
    (ByteArray.mk (Array.replicate (h.width * h.height * outCh) 0), 0)
  let shape := if outCh == 1 then [h.height, h.width] else [h.height, h.width, 3]
  pure ⟨shape, out, 0, none⟩

/-- チャンクを一つ書く。 -/
def chunk (kind : String) (body : ByteArray) : ByteArray :=
  let k := kind.toUTF8
  bigEndian32 body.size ++ k ++ body ++ bigEndian32 (crc32 (k ++ body)).toNat

/-- 白黒（`[h, w]`）か RGB（`[h, w, 3]`）のフレームを PNG にする。 -/
def encode (f : Frame) : ByteArray :=
  let channels := if f.shape.length == 2 then 1 else 3
  let colorType : UInt8 := if channels == 1 then 0 else 2
  let rowBytes := f.width * channels
  let ihdr := bigEndian32 f.width ++ bigEndian32 f.height ++
    ByteArray.mk #[8, colorType, 0, 0, 0]
  let raw := (List.range f.height).foldl (fun acc r =>
    (acc.push 0) ++ f.data.extract (r * rowBytes) ((r + 1) * rowBytes)) ByteArray.empty
  signature ++ chunk "IHDR" ihdr ++ chunk "IDAT" (wrapStored raw) ++ chunk "IEND" .empty

end DropletVision.Png
