import DropletVision.Frame
import DropletVision.Image.Webp.Lossless

/-!
# WebP

WebP のファイルを RGB のフレーム `[h, w, 3]` に復号し、白黒か RGB のフレームを可逆圧縮の
WebP にする。

* 入れ物は RIFF：`RIFF`、大きさ、`WEBP`、続いてチャンク（名前、大きさ、中身、奇数なら詰め物）。
  最初のチャンクが `VP8L` ならそれを、`VP8X`（拡張）なら後に続く `VP8L` を復号する。
  非可逆の `VP8 ` は扱えない。
* 拡張の入れ物では、画面の幅と高さ（24 ビットずつ、1 を引いた値）が `VP8L` の幅と高さと等しい。
  `VP8L` だけの入れ物では、幅や高さが 16384 のものは 14 ビットの欄で 0 に戻ってしまい、読めない。
* 復号の結果は透明度を捨てた RGB。白黒で書いた画像も RGB で読み戻る。
* 書くときは変換も色の控えも使わず、緑・赤・青をどれも 8 ビットの固定の符号で書く
  （透明度はいつも 255、距離の符号は使わない）。幅と高さは 16384 まで。

## 停止性

チャンクの探索は一回ごとに位置が 8 バイト以上進み、入力の長さを燃料にする。
-/

namespace DropletVision.Webp

open Codec

/-- 小さい桁からの 32 ビット。 -/
def le32 (b : ByteArray) (i : Nat) : Nat :=
  (List.range 4).foldl (fun acc k => acc + (b[i + k]?.getD 0).toNat * Nat.pow 256 k) 0

/-- 位置 `i` からの四文字がチャンクの名前 `name` か。 -/
def isTag (b : ByteArray) (i : Nat) (name : String) : Bool := b.extract i (i + 4) == name.toUTF8

/-- 拡張の入れ物のチャンクの並びから `VP8L` の中身を探す。チャンクは `limit` の手前から始まるものだけ。 -/
def findLosslessChunk (b : ByteArray) (limit : Nat) : Nat → Nat → Except ImageError ByteArray
  | 0, _ => .error (formatError "no image data")
  | fuel + 1, pos =>
    if pos ≥ limit || pos + 8 > b.size then .error (formatError "no image data")
    else
      let size := le32 b (pos + 4)
      let body := pos + 8
      if isTag b pos "VP8L" then
        if body + size > b.size then .error truncated else .ok (b.extract body (body + size))
      else if isTag b pos "VP8 " then .error (.unsupported formatName "lossy image data")
      else findLosslessChunk b limit fuel (body + size + size % 2)

/-- 小さい桁からの 24 ビット。 -/
def le24 (b : ByteArray) (i : Nat) : Nat := le32 b i % Nat.pow 2 24

/-- 入れ物から `VP8L` の中身と、拡張の入れ物なら画面の幅と高さを取り出す。
拡張の入れ物のチャンクは、RIFF の大きさが示す範囲（拡張の見出しのチャンクの後から数える）だけを探す。 -/
def losslessData (b : ByteArray) : Except ImageError (ByteArray × Option (Nat × Nat)) := do
  if b.size < 20 then throw truncated
  if !isTag b 0 "RIFF" || !isTag b 8 "WEBP" then throw (formatError "invalid signature")
  let size := le32 b 16
  if isTag b 12 "VP8L" then
    if 20 + size > b.size then throw truncated
    pure (b.extract 20 (20 + size), none)
  else if isTag b 12 "VP8X" then
    if 30 > b.size then throw truncated
    let canvas := (le24 b 24 + 1, le24 b 27 + 1)
    let first := 20 + size + size % 2
    let data ← findLosslessChunk b (first + (le32 b 4 - 12)) (b.size + 1) first
    pure (data, some canvas)
  else if isTag b 12 "VP8 " then throw (.unsupported formatName "lossy image data")
  else throw (formatError "invalid chunk")

/-- 復号に使える大きさの上限（バイト）。 -/
def memoryLimit : Nat := 512 * 1024 * 1024

/-- VP8L の幅と高さの最大（14 ビットに 1 を足したもの）。 -/
def maxSide : Nat := 16384

/-- WebP のバイト列を復号する。 -/
def decode (b : ByteArray) : Except ImageError Frame := do
  let (data, canvas) ← losslessData b
  let (w, h, alpha, _) ← readHeader data
  match canvas with
  | some (cw, ch) => if cw != w || ch != h then throw (formatError "inconsistent image sizes")
  | none => if w == maxSide || h == maxSide then throw (formatError "inconsistent image sizes")
  if w * h * (if alpha then 4 else 3) > memoryLimit then throw .memoryLimit
  let img ← decodeLossless data
  let rgb := img.pixels.foldl (fun (acc : ByteArray) p =>
    acc.push (component p 2).toUInt8 |>.push (component p 1).toUInt8 |>.push (component p 0).toUInt8)
    (ByteArray.emptyWithCapacity (3 * w * h))
  pure ⟨[h, w, 3], rgb, 0, none⟩

/-! ## 書き出し -/

/-- 書きかけのビット列：揃ったバイトと、まだバイトにならない下位のビット。 -/
structure BitWriter where
  bytes : ByteArray := .empty
  pending : Nat := 0
  count : Nat := 0

/-- 揃った八ビットずつを書き出す。 -/
def BitWriter.flush (w : BitWriter) : Nat → BitWriter
  | 0 => w
  | fuel + 1 =>
    if w.count < 8 then w
    else BitWriter.flush ⟨w.bytes.push (w.pending % 256).toUInt8, w.pending / 256, w.count - 8⟩ fuel

/-- 値の下位 `n` ビットを、下位から書く。 -/
def BitWriter.write (w : BitWriter) (value n : Nat) : BitWriter :=
  let pending := w.pending + value % Nat.pow 2 n * Nat.pow 2 w.count
  BitWriter.flush ⟨w.bytes, pending, w.count + n⟩ (n / 8 + 2)

/-- 最後の半端なビットも一バイトにして取り出す。 -/
def BitWriter.finish (w : BitWriter) : ByteArray :=
  if w.count > 0 then w.bytes.push (w.pending % 256).toUInt8 else w.bytes

/-- 8 ビットの値のビットを逆順にする。 -/
def reverse8 (v : Nat) : Nat :=
  (List.range 8).foldl (fun acc k => acc * 2 + v / Nat.pow 2 k % 2) 0

/-- 記号 256 個がどれも長さ 8 の普通の符号。`limited` なら読む符号長を 256 個で打ち切る。 -/
def writeFlatCode (w : BitWriter) (limited : Bool) : BitWriter :=
  -- 符号長の符号は記号 8 だけ（順では 12 番目）で、符号長はどれも 0 ビットで読める。
  let w := (w.write 0 1).write (12 - 4) 4
  let w := (List.range 12).foldl (fun w k => w.write (if k == 11 then 1 else 0) 3) w
  if limited then ((w.write 1 1).write 3 3).write (256 - 2) 8 else w.write 0 1

/-- 記号一つの簡単な符号。 -/
def writeSingleCode (w : BitWriter) (symbol : Nat) : BitWriter :=
  if symbol < 2 then (((w.write 1 1).write 0 1).write 0 1).write symbol 1
  else (((w.write 1 1).write 0 1).write 1 1).write symbol 8

/-- 画素 `(r, g, b)` の並びを VP8L のデータにする。 -/
def encodeLossless (width height : Nat) (pixels : List (Nat × Nat × Nat)) : ByteArray :=
  let w : BitWriter := {}
  let w := (((w.write 0x2f 8).write (width - 1) 14).write (height - 1) 14).write 0 1 |>.write 0 3
  -- 変換なし、色の控えなし、群は一つ。
  let w := ((w.write 0 1).write 0 1).write 0 1
  let w := writeSingleCode (writeSingleCode (writeFlatCode (writeFlatCode (writeFlatCode w true)
    false) false) 255) 0
  let w := pixels.foldl (fun w (px : Nat × Nat × Nat) =>
    ((w.write (reverse8 px.2.1) 8).write (reverse8 px.1) 8).write (reverse8 px.2.2) 8) w
  w.finish

/-- 白黒（`[h, w]`）か RGB（`[h, w, 3]`）のフレームを WebP にする。大きすぎれば `none`。 -/
def encode (f : Frame) : Option ByteArray :=
  let width := f.width
  let height := f.height
  if width == 0 || height == 0 || width > maxSide || height > maxSide then none
  else
    let rgb := f.shape.length == 3
    let px (i : Nat) : Nat × Nat × Nat :=
      if rgb then ((f.byte (3 * i)).toNat, (f.byte (3 * i + 1)).toNat, (f.byte (3 * i + 2)).toNat)
      else ((f.byte i).toNat, (f.byte i).toNat, (f.byte i).toNat)
    let data := encodeLossless width height ((List.range (width * height)).map px)
    let pad := data.size % 2
    let le (v : Nat) : ByteArray := ⟨#[(v % 256).toUInt8, (v / 256 % 256).toUInt8,
      (v / 65536 % 256).toUInt8, (v / 16777216 % 256).toUInt8]⟩
    some ("RIFF".toUTF8 ++ le (4 + 8 + data.size + pad) ++ "WEBP".toUTF8 ++ "VP8L".toUTF8 ++
      le data.size ++ data ++ ByteArray.mk (Array.replicate pad 0))

end DropletVision.Webp
