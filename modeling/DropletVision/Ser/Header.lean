import DropletVision.Error
import DropletVision.Unicode

/-!
# SER の見出し

SER 形式の記録の 178 バイトの見出し。

| 位置 | 長さ | 内容 |
|---|---|---|
| 0 | 14 | `LUCAM-RECORDER` |
| 14 | 4 | LuID（読み飛ばす） |
| 18 | 4 | 色の番号（8〜19 はベイヤー、100 は RGB、101 は BGR、他は白黒） |
| 22 | 4 | バイト順の印（1 ならビッグエンディアン、他はリトルエンディアン） |
| 26, 30 | 4, 4 | 幅、高さ |
| 34 | 4 | 画素の深さ（1〜16 ビット） |
| 38 | 4 | 枚数 |
| 42, 82, 122 | 40 ずつ | 観測者、機器、望遠鏡の名前 |
| 162, 170 | 8, 8 | 日時、UTC の日時 |

整数はすべてリトルエンディアン。名前は UTF-8 として（不正な部分は置換文字で）読み、
末尾の NUL と両端の空白を除く。
-/

namespace DropletVision

/-- 見出しの長さ。 -/
def serHeaderSize : Nat := 178

/-- 先頭の印。 -/
def serMagic : ByteArray := "LUCAM-RECORDER".toUTF8

/-- 色の並び。 -/
inductive SerColor where
  | mono
  | bayer
  | rgb
  | bgr
  deriving BEq, Repr, Inhabited

/-- 表示名。 -/
def SerColor.label : SerColor → String
  | .mono => "Mono"
  | .bayer => "Bayer (as mono)"
  | .rgb => "RGB"
  | .bgr => "BGR"

/-- SER の見出し。 -/
structure SerHeader where
  colorId : Int
  littleEndian : Bool
  width : Nat
  height : Nat
  pixelDepth : Nat
  frameCount : Nat
  observer : String
  instrument : String
  telescope : String
  dateTime : Nat
  dateTimeUtc : Nat
  deriving Repr, Inhabited

/-- `b` の `i` から `n` バイトのリトルエンディアンの符号なし整数。 -/
def readLE (b : ByteArray) (i n : Nat) : Nat :=
  (List.range n).foldr (fun k acc => acc * 256 + ((b[i + k]?).getD 0).toNat) 0

/-- 32 ビット符号つきのリトルエンディアンの整数。 -/
def readI32LE (b : ByteArray) (i : Nat) : Int :=
  let u := readLE b i 4
  if u ≥ Nat.pow 2 31 then (u : Int) - Int.pow 2 32 else u

/-- 整数 `v` を `n` バイトのリトルエンディアンに（2^(8n) を法として）。 -/
def leBytes (v : Int) (n : Nat) : ByteArray :=
  let u := (v % Int.pow 2 (8 * n)).toNat
  ⟨(List.range n).toArray.map (fun k => (u / Nat.pow 256 k % 256).toUInt8)⟩

namespace SerHeader

/-- 8 ビットの記録の見出し。 -/
def new8bit (width height : Nat) (color : SerColor) (frameCount : Nat) : SerHeader :=
  let colorId : Int := match color with
    | .mono | .bayer => 0
    | .rgb => 100
    | .bgr => 101
  ⟨colorId, true, width, height, 8, frameCount, "", "", "", 0, 0⟩

/-- 色の並び。 -/
def color (h : SerHeader) : SerColor :=
  if 8 ≤ h.colorId && h.colorId ≤ 19 then .bayer
  else if h.colorId == 100 then .rgb
  else if h.colorId == 101 then .bgr
  else .mono

/-- 一つの標本のバイト数。 -/
def bytesPerPixelPlane (h : SerHeader) : Nat := if h.pixelDepth ≤ 8 then 1 else 2

/-- 一画素の標本の数。 -/
def planesPerPixel (h : SerHeader) : Nat :=
  match h.color with
  | .rgb | .bgr => 3
  | .mono | .bayer => 1

/-- 一枚の画像の形：白黒・ベイヤーなら `[高さ, 幅]`、RGB・BGR なら `[高さ, 幅, 3]`。 -/
def frameShape (h : SerHeader) : List Nat :=
  if h.planesPerPixel == 1 then [h.height, h.width] else [h.height, h.width, 3]

/-- 一枚のバイト数。64 ビットに収まらなければ `none`。 -/
def frameByteSize (h : SerHeader) : Option Nat :=
  let wh := h.width * h.height
  let n := wh * (h.bytesPerPixelPlane * h.planesPerPixel)
  if wh < Nat.pow 2 64 && n < Nat.pow 2 64 then some n else none

/-- 固定長の名前の欄を読む。 -/
def fixedString (b : ByteArray) (i n : Nat) : String :=
  let s := Unicode.decodeLossy (b.extract i (i + n))
  let s := String.ofList ((s.toList.reverse.dropWhile (· == '\x00')).reverse)
  Unicode.trim s

/-- 見出しの 178 バイトを読む。 -/
def parse (b : ByteArray) : Outcome SerHeader := do
  let colorId := readI32LE b 18
  let leFlag := readI32LE b 22
  let width := readI32LE b 26
  let height := readI32LE b 30
  let depth := readI32LE b 34
  let count := readI32LE b 38
  if width ≤ 0 || height ≤ 0 then throw (.invalidSer s!"Invalid dimensions {width}x{height}")
  if !(1 ≤ depth && depth ≤ 16) then throw (.invalidSer s!"Unsupported pixel depth {depth}")
  if count < 0 then throw (.invalidSer s!"Negative frame count {count}")
  pure ⟨colorId, leFlag != 1, width.toNat, height.toNat, depth.toNat, count.toNat,
    fixedString b 42 40, fixedString b 82 40, fixedString b 122 40, readLE b 162 8, readLE b 170 8⟩

/-- 固定長の名前の欄を書く（長すぎれば切り、足りなければ NUL で埋める）。 -/
def fixedBytes (s : String) (n : Nat) : ByteArray :=
  let b := s.toUTF8
  let k := min b.size n
  b.extract 0 k ++ ⟨Array.replicate (n - k) 0⟩

/-- 見出しの 178 バイト。 -/
def toBytes (h : SerHeader) : ByteArray :=
  serMagic ++ leBytes 0 4 ++ leBytes h.colorId 4 ++ leBytes (if h.littleEndian then 0 else 1) 4 ++
    leBytes h.width 4 ++ leBytes h.height 4 ++ leBytes h.pixelDepth 4 ++ leBytes h.frameCount 4 ++
    fixedBytes h.observer 40 ++ fixedBytes h.instrument 40 ++ fixedBytes h.telescope 40 ++
    leBytes h.dateTime 8 ++ leBytes h.dateTimeUtc 8

end SerHeader

end DropletVision
