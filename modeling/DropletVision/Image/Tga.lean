import DropletVision.Frame

/-!
# TGA

TGA のファイルを 8 ビットのフレームに復号し、白黒か RGB のフレームを TGA にする。

* 見出しは 18 バイト：識別子の長さ、色表の有無、種類、色表の始まり・長さ・一項目のビット数、
  原点、幅、高さ、一画素のビット数、記述子（下位 4 ビットは透明度のビット数、ビット 4 は右から並ぶか、
  ビット 5 は上から並ぶか）。幅と高さは 0 にできない。
* 種類は 1・9 が色表の番号、2・10 が青・緑・赤（透明度つきも）、3・11 が灰色。9〜11 は連長圧縮。
* 一画素のビット数は 8・16・24・32、透明度のビット数は 8 以下。透明度と残りのビット数の組で色が決まる：
  RGB（24）、透明度つき RGB（32 か 24 + 8）、5 ビットずつの RGB（15・16 か 15 + 1、残りの一ビットは捨てる）、
  灰色（8）、透明度つき灰色（8 + 8）、透明度だけ（灰色として読む）。
  色表の番号を使う画像では、残りのビット数は色表の一項目のビット数から数える。色表は、あれば
  （一項目は 15・16・24・32 ビット）読むが、番号を使う画像でなければ使わない。
* 色表の番号を使う画像は、色表の種類が 1、番号が 8 か 16 ビットで一項目より大きくない。
* 連長圧縮は、先頭のバイトの最上位が立っていれば続く一画素を `(下位 7 ビット) + 1` 回、
  そうでなければ続く `+ 1` 画素をそのまま。
* 色表の番号は小さい桁から読み、番号から色表の始まりの番号を引いた項目を使う。始まりより小さい番号や
  色表の外の番号は誤り。
* 記述子のビット 5 が立っていなければ下の行から、ビット 4 が立っていれば右から並ぶ。
  結果は灰色なら `[h, w]`、ほかは `[h, w, 3]`。
* 書くときは圧縮なしで上の行から。幅と高さは 16 ビットに収まらなければならない。

## 停止性

連長圧縮は一回ごとに少なくとも一バイト読み、残りのバイト数を燃料にする。
繰り返しでない塊は、足りない分だけを読む。
-/

namespace DropletVision.Tga

/-- 誤りの文言に使う形式の名前。 -/
def formatName : String := "Tga"

/-- 扱えない色。 -/
def unsupportedColor (bits : Nat) : ImageError := .unsupported formatName s!"color type Unknown({bits})"

/-- 足りないバイトの誤り。 -/
def truncated : ImageError := .io (.other "failed to fill whole buffer")

/-- 小さい桁からの 16 ビット。 -/
def le16 (b : ByteArray) (i : Nat) : Nat := (b[i]?.getD 0).toNat + 256 * (b[i + 1]?.getD 0).toNat

/-- 復号の途中の色。 -/
inductive Color where
  | rgb
  | rgba
  /-- 一色 16 ビット（5 ビットずつの青・緑・赤、最上位は属性のビット）。 -/
  | rgb15
  | grayAlpha
  | gray
  deriving BEq

/-- 一画素のバイト数（復号の結果）。 -/
def Color.bytes : Color → Nat
  | .rgb | .rgb15 => 3
  | .rgba => 4
  | .grayAlpha => 2
  | .gray => 1

/-- 透明度のビット数、残りのビット数、色があるかから色を決める。 -/
def Color.of : Nat → Nat → Bool → Option Color
  | 0, 32, true => some .rgba
  | 8, 24, true => some .rgba
  | 0, 24, true => some .rgb
  | 1, 15, true => some .rgb15
  | 0, 15, true => some .rgb15
  | 0, 16, true => some .rgb15
  | 8, 8, false => some .grayAlpha
  | 0, 8, false => some .gray
  | 8, 0, false => some .gray
  | _, _, _ => none

/-- 連長圧縮を戻す。`need` バイトに達するまで読む。 -/
def unpackRle (b : ByteArray) (bpp need : Nat) : Nat → Nat → ByteArray → Except ImageError ByteArray
  | 0, _, out => .ok out
  | fuel + 1, pos, out =>
    if out.size ≥ need then .ok (out.extract 0 need)
    else
      match b[pos]? with
      | none => .error truncated
      | some packet =>
        let count := packet.toNat % 128 + 1
        if packet.toNat ≥ 128 then
          if pos + 1 + bpp > b.size then .error truncated
          else
            let px := b.extract (pos + 1) (pos + 1 + bpp)
            unpackRle b bpp need fuel (pos + 1 + bpp)
              ((List.range count).foldl (fun o _ => o ++ px) out)
        else
          let len := min (count * bpp) (need - out.size)
          if pos + 1 + len > b.size then .error truncated
          else unpackRle b bpp need fuel (pos + 1 + len) (out ++ b.extract (pos + 1) (pos + 1 + len))

/-- 小さい桁からの 16 ビットの色を 5 ビットずつの青・緑・赤にして、8 ビットに広げた赤・緑・青。 -/
def expand15 (v : Nat) : List UInt8 :=
  let widen (c : Nat) : UInt8 := ((c % 32 * 255 + 15) / 31).toUInt8
  [widen (v >>> 10), widen (v >>> 5), widen v]

/-- 復号に使える大きさの上限（バイト）。 -/
def memoryLimit : Nat := 512 * 1024 * 1024

/-- 見出しの後の識別子と色表を読み、色表（番号のある画像のときだけ）と画素の始まりを返す。 -/
def readColorMap (b : ByteArray) (idLength mapType mapLength entryBits : Nat) (mapped : Bool) :
    Except ImageError (ByteArray × Nat) := do
  let start := 18 + idLength
  if start > b.size then throw truncated
  if mapType != 1 then return (ByteArray.empty, start)
  let entrySize := (entryBits + 7) / 8
  if !([15, 16, 24, 32].contains entryBits) then
    throw (.unsupported formatName "Unsupported color map entry size")
  let stop := start + mapLength * entrySize
  if stop > b.size then throw truncated
  pure (if mapped then b.extract start stop else ByteArray.empty, stop)

/-- TGA のバイト列を復号する。 -/
def decode (b : ByteArray) : Except ImageError Frame := do
  if b.size < 18 then throw truncated
  let byte (i : Nat) : Nat := (b[i]?.getD 0).toNat
  let idLength := byte 0
  let mapType := byte 1
  let kind := byte 2
  let mapOrigin := le16 b 3
  let mapLength := le16 b 5
  let mapEntryBits := byte 7
  let w := le16 b 12
  let h := le16 b 14
  let depth := byte 16
  let desc := byte 17
  let mapped := kind == 1 || kind == 9
  let colored := mapped || kind == 2 || kind == 10
  let encoded := kind == 9 || kind == 10 || kind == 11
  let alphaBits := desc % 16
  if w == 0 || h == 0 then throw (.decoding formatName "Invalid empty image")
  if !([8, 16, 24, 32].contains depth) || alphaBits > 8 then throw (unsupportedColor depth)
  if mapped then
    if mapType != 1 then throw (.decoding formatName "Color map type must be 1 for color mapped images")
    if depth != 8 && depth != 16 then throw (.decoding formatName "Color map must use 1 or 2 byte indexes")
    if depth > mapEntryBits then throw (.unsupported formatName "Indices larger than pixel values")
  let entrySize := (mapEntryBits + 7) / 8
  let (colorMap, start) ← readColorMap b idLength mapType mapLength mapEntryBits mapped
  let total := if mapped then mapEntryBits else depth
  if alphaBits > total then throw (unsupportedColor total)
  let color ← match Color.of alphaBits (total - alphaBits) colored with
    | some c => pure c
    | none => throw (unsupportedColor depth)
  if w * h * color.bytes > memoryLimit then throw .memoryLimit
  let bpp := depth / 8
  let need := w * h * bpp
  let raw ← if encoded then unpackRle b bpp need (b.size + 1) start .empty
    else if start + need > b.size then throw truncated
    else pure (b.extract start (start + need))
  -- 記述子のビット 5 が立っていなければ下の行から、ビット 4 が立っていれば右から並ぶ。
  let fromBottom := desc &&& 0x20 == 0
  let fromRight := desc &&& 0x10 != 0
  let raw := if fromBottom || fromRight then
      (List.range (w * h)).foldl (fun acc i =>
        let y := if fromBottom then h - 1 - i / w else i / w
        let x := if fromRight then w - 1 - i % w else i % w
        acc ++ raw.extract ((y * w + x) * bpp) ((y * w + x + 1) * bpp)) ByteArray.empty
    else raw
  let stored ← if mapped then
      (List.range (w * h)).foldlM (fun (out : ByteArray) i => do
        let index := if bpp == 1 then (raw[i]?.getD 0).toNat else le16 raw (2 * i)
        let at_ := entrySize * (index - mapOrigin)
        if index < mapOrigin || at_ + entrySize > colorMap.size then
          throw (.decoding formatName "Invalid color map index")
        pure (out ++ colorMap.extract at_ (at_ + entrySize))) ByteArray.empty
    else pure raw
  let sb := if mapped then entrySize else bpp
  match color with
  | .rgb15 =>
    let px := (List.range (w * h)).flatMap (fun i => expand15 (le16 stored (i * sb)))
    pure ⟨[h, w, 3], ⟨px.toArray⟩, 0, none⟩
  | .rgb | .rgba =>
    pure ⟨[h, w, 3], ⟨(Array.range (w * h * 3)).map (fun j =>
      stored[j / 3 * sb + (2 - j % 3)]?.getD 0)⟩, 0, none⟩
  | _ => pure ⟨[h, w], ⟨(Array.range (w * h)).map (fun i => stored[i * sb]?.getD 0)⟩, 0, none⟩

/-- 書ける最大の幅と高さ。 -/
def maxSide : Nat := 65535

/-- 白黒（`[h, w]`）か RGB（`[h, w, 3]`）のフレームを、圧縮なしで上の行からの TGA にする。
幅か高さが 16 ビットに収まらなければ `none`。 -/
def encode (f : Frame) : Option ByteArray :=
  if f.width > maxSide || f.height > maxSide then none else
  let gray := f.shape.length == 2
  let le (v : Nat) : List UInt8 := [(v % 256).toUInt8, (v / 256 % 256).toUInt8]
  let header : List UInt8 := [0, 0, if gray then 3 else 2, 0, 0, 0, 0, 0, 0, 0, 0, 0] ++
    le f.width ++ le f.height ++ [if gray then 8 else 24, 0x20]
  let body := if gray then f.data
    else ⟨(Array.range f.data.size).map (fun j => f.byte (j / 3 * 3 + (2 - j % 3)))⟩
  some (⟨header.toArray⟩ ++ body)

end DropletVision.Tga
