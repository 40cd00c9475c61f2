import DropletVision.Ser.Header
import DropletVision.Frame
import DropletVision.FileTree

/-!
# SER の読み取り

SER の記録のバイト列を検査して開き、番号の画像を読む。

* 受け付けるのは、長さが見出し以上で、`LUCAM-RECORDER` で始まり、見出しが正しく、
  見出しの後に `枚数 × 一枚のバイト数` のデータがあるもの。
* 標本が 2 バイトのときは見出しのバイト順の 16 ビット値を、画素の深さ（8〜16 に収める）から
  8 を引いたビット数だけ右にずらし、255 で止めた値にする。
* 白黒とベイヤーは `(高さ, 幅)`、RGB と BGR は `(高さ, 幅, 3)`（BGR は RGB の順に並べ替える）。
* データの後に画像ごとの 8 バイトの時刻があれば、それを画像の時刻にする。
* ファイルの木から開くとき、ディレクトリは対応する装置の無い誤り（写像できない）。
-/

namespace DropletVision

/-- 開いた SER の記録。 -/
structure SerReader where
  bytes : ByteArray
  frameSize : Nat
  header : SerHeader

namespace SerReader

/-- バイト列を検査して開く。 -/
def ofBytes (b : ByteArray) : Outcome SerReader := do
  if b.size < serHeaderSize then throw (.invalidSer "File too small for SER header")
  if b.extract 0 14 != serMagic then throw (.invalidSer "Missing LUCAM-RECORDER magic")
  let header ← SerHeader.parse b
  let frameSize ← match header.frameByteSize with
    | some n => pure n
    | none => throw (.invalidSer "Frame size overflows")
  let data := frameSize * header.frameCount
  if data ≥ Nat.pow 2 64 || data + serHeaderSize ≥ Nat.pow 2 64 then throw (.invalidSer "Data size overflows")
  let expected := data + serHeaderSize
  if b.size < expected then
    throw (.invalidSer s!"File truncated: expected at least {expected} bytes, got {b.size}")
  pure ⟨b, frameSize, header⟩

/-- ファイルの木の上の記録を開く。 -/
def load (t : FileTree) (path : String) : Outcome SerReader := do
  if t.isDir path then throw (.io (.os 19))
  ofBytes (← (t.readFile path).mapError .io)

/-- 枚数。 -/
def frameCount (r : SerReader) : Nat := r.header.frameCount

/-- 幅。 -/
def width (r : SerReader) : Nat := r.header.width

/-- 高さ。 -/
def height (r : SerReader) : Nat := r.header.height

/-- 番号の画像の生のバイト列。 -/
def frameRaw (r : SerReader) (index : Nat) : Outcome ByteArray :=
  if index ≥ r.frameCount then .error (.frameIndexOutOfRange index r.frameCount)
  else
    let offset := serHeaderSize + index * r.frameSize
    .ok (r.bytes.extract offset (offset + r.frameSize))

/-- 標本の値。 -/
def sample (h : SerHeader) (raw : ByteArray) (k : Nat) : UInt8 :=
  let bps := h.bytesPerPixelPlane
  let idx := k * bps
  let at_ (i : Nat) : Nat := ((raw[i]?).getD 0).toNat
  if bps == 1 then (raw[idx]?).getD 0
  else
    let v := if h.littleEndian then at_ idx + 256 * at_ (idx + 1) else 256 * at_ idx + at_ (idx + 1)
    let shift := (min (max h.pixelDepth 8) 16) - 8
    (min (v >>> shift) 255).toUInt8

/-- 番号の画像の時刻（データの後の 8 バイト）。 -/
def timestamp (r : SerReader) (index : Nat) : Option Nat :=
  let off := serHeaderSize + r.frameSize * r.frameCount + index * 8
  if off + 8 ≤ r.bytes.size then some (readLE r.bytes off 8) else none

/-- 番号の画像を読む。 -/
def readFrame (r : SerReader) (index : Nat) : Outcome Frame := do
  let raw ← r.frameRaw index
  let h := r.header
  let w := r.width
  let ht := r.height
  let (shape, data) := match h.color with
    | .mono | .bayer =>
      ([ht, w], ByteArray.mk ((Array.range (ht * w)).map (sample h raw)))
    | c =>
      ([ht, w, 3], ByteArray.mk ((Array.range (ht * w * 3)).map (fun i =>
        let ch := i % 3
        let plane := if c == .bgr then 2 - ch else ch
        sample h raw (i - ch + plane))))
  pure ⟨shape, data, index, r.timestamp index⟩

end SerReader

end DropletVision
