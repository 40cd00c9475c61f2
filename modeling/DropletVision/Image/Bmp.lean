import DropletVision.Frame

/-!
# BMP

BMP のファイルを RGB のフレーム `[h, w, 3]` に復号し、白黒か RGB のフレームを BMP にする。

* 見出しは 12 バイト（OS/2）か 40・52・56・108・124 バイト（Windows）。12 バイト未満は小さすぎ、
  ほかの大きさは扱えない。面の数は 1 でなければならない。
* 12 バイトの見出しは 1・4・8・24 ビット。ほかの見出しは幅が負でなく、幅と高さが 65535 以下。
  高さが負なら上の行から（圧縮は不可）、正なら下の行から並ぶ。
* 圧縮 0 は 1・2・4・8 ビットのパレットの番号、16 ビット（5-5-5）、24 ビット（青・緑・赤）、
  32 ビット（8-8-8）。圧縮 1 は 8 ビット、2 は 4 ビットの連長圧縮。3 は 16・32 ビットの色ごとの覆い。
* 覆いはビットが続いていて、画素のビット数に収まらなければならない。赤・緑・青の覆いは 0 でない。
  透明度の覆いは 56 バイト以上の見出しだけにある。`n` ビットの値は 8 ビットに広げる
  （7 ビットはビットを繰り返し、ほかは丸め。9 ビット以上は上の 8 ビット）。
* パレットは見出しの直後。使う色の数が 0 ならビット数の分、それより多ければ誤り。
  足りない番号は黒。
* 行は 4 バイトの境目まで詰める。
* 書くときは 24 ビットで下の行から。白黒の値は三つの色に同じ値を入れる。

## 仕組み

見出しの欄は先頭から順に確かめるので、足りないバイトに行き着く前に見つかった誤りが先に出る。
連長圧縮は命令を一つずつ読む。命令はどれも 2 バイト以上読むので、残りのバイト数が回数の上限になる。
幅か高さが 0 の画像は見出しの段階で誤りになる。
-/

namespace DropletVision.Bmp

/-- 誤りの文言に使う形式の名前。 -/
def formatName : String := "Bmp"

/-- 形式の誤り。 -/
def formatError (detail : String) : ImageError := .decoding formatName detail

/-- 扱えない中身。 -/
def unsupported (feature : String) : ImageError := .unsupported formatName feature

/-- 足りないバイトの誤り。 -/
def truncated : ImageError := .io (.other "failed to fill whole buffer")

/-- 壊れた連長圧縮。 -/
def corruptRle : ImageError := formatError "Corrupt RLE data"

/-- 先頭から `n` バイトあることを確かめる。 -/
def need (b : ByteArray) (n : Nat) : Except ImageError Unit :=
  if b.size < n then .error truncated else .ok ()

/-- 小さい桁からの符号なし整数。 -/
def le (b : ByteArray) (i n : Nat) : Nat :=
  (List.range n).foldr (fun k acc => acc * 256 + (b[i + k]?.getD 0).toNat) 0

/-- 小さい桁からの 32 ビットの符号つき整数。 -/
def leSigned (b : ByteArray) (i : Nat) : Int :=
  let u := le b i 4
  if u ≥ Nat.pow 2 31 then (u : Int) - Int.pow 2 32 else u

/-! ## 色の覆い -/

/-- 色の覆い：位置と幅（8 ビット以下）。 -/
structure Field where
  shift : Nat
  width : Nat
  deriving BEq

/-- 32 ビットの中で立っているビットの数。 -/
def popCount (v : Nat) : Nat := ((List.range 32).filter (fun k => (v >>> k) % 2 == 1)).length

/-- 覆いのビット列から位置と幅を求める。ビットが続いていないか、`limit` ビットに
収まらなければ誤り。9 ビット以上の覆いは上の 8 ビットだけを読む。 -/
def Field.ofMask (mask limit : Nat) : Except ImageError Field :=
  if mask == 0 then .ok ⟨0, 0⟩
  else
    let shift := ((List.range 32).find? (fun k => (mask >>> k) % 2 == 1)).getD 0
    let width := ((List.range 33).find? (fun k => (mask >>> (shift + k)) % 2 == 0)).getD 32
    if width != popCount mask then .error (formatError "Non-contiguous bitfield mask")
    else if width + shift > limit then .error (formatError "Invalid bitfield mask")
    else if width > 8 then .ok ⟨shift + width - 8, 8⟩
    else .ok ⟨shift, width⟩

/-- 覆いの値を 8 ビットに広げる。7 ビットは上のビットを繰り返し、ほかの幅は
`v · 255 / (2^n - 1)` を丸める（分母が奇数なので丸めの境目には来ない）。 -/
def Field.read (f : Field) (v : Nat) : UInt8 :=
  let m := Nat.pow 2 f.width - 1
  let d := (v >>> f.shift) % (m + 1)
  if f.width == 0 then 0
  else if f.width == 7 then ((d <<< 1) ||| (d >>> 6)).toUInt8
  else ((d * 255 * 2 + m) / (2 * m)).toUInt8

/-- 16 ビットの既定の覆い（5-5-5）。 -/
def fields555 : Field × Field × Field := (⟨10, 5⟩, ⟨5, 5⟩, ⟨0, 5⟩)

/-- 32 ビットの既定の覆い（8-8-8）。 -/
def fields888 : Field × Field × Field := (⟨16, 8⟩, ⟨8, 8⟩, ⟨0, 8⟩)

/-! ## 見出し -/

/-- 画素の並び方。 -/
inductive Pixels where
  /-- パレットの番号（1・2・4・8 ビット）。 -/
  | indexed
  /-- 色ごとの覆い（16・32 ビット）。 -/
  | masked (fields : Field × Field × Field)
  /-- 青・緑・赤の 3 バイト。 -/
  | rgb24
  /-- 8 ビットの番号の連長圧縮。 -/
  | rle8
  /-- 4 ビットの番号の連長圧縮。 -/
  | rle4

/-- 見出しから読み取った並び方。 -/
structure Layout where
  width : Nat
  height : Nat
  topDown : Bool
  bitCount : Nat
  pixels : Pixels
  /-- 256 色のパレット（赤・緑・青）。 -/
  palette : Array (UInt8 × UInt8 × UInt8)
  /-- 透明度の覆いがあるか（復号の途中では一画素 4 バイト）。 -/
  alpha : Bool
  dataOffset : Nat

/-- パレットを使う並び方か。 -/
def Pixels.usesPalette : Pixels → Bool
  | .indexed | .rle8 | .rle4 => true
  | _ => false

/-- 圧縮の種類とビット数から並び方を決める（覆いは後で読む）。 -/
def pixelsFor (compression bits : Nat) : Except ImageError Pixels :=
  match compression with
  | 0 =>
    if [1, 2, 4, 8].contains bits then .ok .indexed
    else if bits == 16 then .ok (.masked fields555)
    else if bits == 24 then .ok .rgb24
    else if bits == 32 then .ok (.masked fields888)
    else .error (formatError s!"Invalid channel bit count for RGB: {bits}")
  | 1 => if bits == 8 then .ok .rle8 else .error (formatError s!"Invalid channel bit count for RLE8: {bits}")
  | 2 => if bits == 4 then .ok .rle4 else .error (formatError s!"Invalid channel bit count for RLE4: {bits}")
  | 3 =>
    if bits == 16 || bits == 32 then .ok (.masked fields888)
    else .error (formatError s!"Invalid channel bit count for bitfields: {bits}")
  | 4 => .error (unsupported "JPEG compression")
  | 5 => .error (unsupported "PNG compression")
  | 11 | 12 | 13 => .error (unsupported "CMYK format")
  | c => .error (formatError s!"Unknown image compression type {c}")

/-- 見出しの後のパレットを読む。`entrySize` は一色のバイト数。足りない色は黒。 -/
def readPalette (b : ByteArray) (at_ bits colorsUsed entrySize : Nat) :
    Except ImageError (Array (UInt8 × UInt8 × UInt8)) := do
  let entries ← if colorsUsed == 0 then pure (Nat.pow 2 bits)
    else if colorsUsed > Nat.pow 2 bits then
      throw (formatError
        s!"Palette size {colorsUsed} exceeds maximum size for BMP with bit count of {bits}")
    else pure colorsUsed
  let count := min entries 256
  need b (at_ + count * entrySize)
  pure ((Array.range 256).map (fun i =>
    if i < count then
      let p := at_ + i * entrySize
      (b[p + 2]?.getD 0, b[p + 1]?.getD 0, b[p]?.getD 0)
    else (0, 0, 0)))

/-- 色ごとの覆いを読む。`alphaToo` なら透明度の覆いも読む。 -/
def readFields (b : ByteArray) (bits : Nat) (alphaToo : Bool) :
    Except ImageError (Field × Field × Field × Bool) := do
  need b 66
  let a ← if alphaToo then do need b 70; pure (le b 66 4) else pure 0
  let r ← Field.ofMask (le b 54 4) bits
  let g ← Field.ofMask (le b 58 4) bits
  let bl ← Field.ofMask (le b 62 4) bits
  let _ ← Field.ofMask a bits
  if r.width == 0 || g.width == 0 || bl.width == 0 then
    throw (formatError s!"Missing {bits}-bit bitfield mask")
  pure (r, g, bl, a != 0)

/-- 幅も高さも 0 でないことを確かめる。 -/
def checkDimensions (width height : Nat) : Except ImageError Unit :=
  if width == 0 || height == 0 then
    .error (unsupported s!"Image dimensions ({width}x{height} w/3 channels) are too large")
  else .ok ()

/-- 12 バイトの見出しの残り。 -/
def parseCore (b : ByteArray) (dataOffset : Nat) : Except ImageError Layout := do
  need b 22
  let width := le b 18 2
  let height := le b 20 2
  checkDimensions width height
  need b 24
  if le b 22 2 != 1 then throw (formatError "More than one plane")
  need b 26
  let bits := le b 24 2
  if !([1, 4, 8, 24].contains bits) then throw (unsupported s!"Unsupported bit count: {bits}")
  let palette ← if bits == 24 then pure (Array.replicate 256 (0, 0, 0))
    else readPalette b 26 bits 0 3
  pure ⟨width, height, false, bits, if bits == 24 then .rgb24 else .indexed, palette, false,
    dataOffset⟩

/-- 40 バイト以上の見出しの残り。 -/
def parseInfo (b : ByteArray) (hsize dataOffset : Nat) : Except ImageError Layout := do
  need b 26
  let width := leSigned b 18
  let heightSigned := leSigned b 22
  if width < 0 then throw (formatError s!"Negative width ({width})")
  if width > 0xFFFF || heightSigned > 0xFFFF then
    throw (formatError
      s!"Image too large (one of ({width}, {heightSigned}) > soft limit of 65535)")
  if heightSigned == -Int.pow 2 31 then throw (formatError "Invalid height")
  let topDown := heightSigned < 0
  checkDimensions width.toNat heightSigned.natAbs
  need b 28
  if le b 26 2 != 1 then throw (formatError "More than one plane")
  need b 30
  let bits := le b 28 2
  need b 34
  let compression := le b 30 4
  if topDown && compression != 0 && compression != 3 then
    throw (formatError s!"Invalid image type {compression} for top-down image.")
  let pixels ← pixelsFor compression bits
  need b 50
  let colorsUsed := le b 46 4
  need b 54
  let (pixels, alpha) ← if compression == 3 then do
      let (r, g, bl, alpha) ← readFields b bits (hsize ≥ 56)
      pure (Pixels.masked (r, g, bl), alpha)
    else pure (pixels, false)
  let palette ← if pixels.usesPalette then readPalette b (14 + hsize) bits colorsUsed 4
    else pure (Array.replicate 256 (0, 0, 0))
  pure ⟨width.toNat, heightSigned.natAbs, topDown, bits, pixels, palette, alpha, dataOffset⟩

/-- 見出しを読む。 -/
def parseLayout (b : ByteArray) : Except ImageError Layout := do
  need b 2
  if b[0]?.getD 0 != 66 || b[1]?.getD 0 != 77 then throw (formatError "BMP signature not found")
  need b 14
  let dataOffset := le b 10 4
  need b 18
  let hsize := le b 14 4
  if hsize < 12 then throw (formatError s!"Bitmap header is too small ({hsize} bytes)")
  if hsize == 12 then parseCore b dataOffset
  else if [40, 52, 56, 108, 124].contains hsize then parseInfo b hsize dataOffset
  else throw (unsupported s!"Unknown bitmap header type (size={hsize})")

/-! ## 画素 -/

/-- 一画素の RGB（圧縮なし）。 -/
def pixel (l : Layout) (b : ByteArray) (rowStart x : Nat) : UInt8 × UInt8 × UInt8 :=
  match l.pixels with
  | .rgb24 =>
    let i := rowStart + 3 * x
    (b[i + 2]?.getD 0, b[i + 1]?.getD 0, b[i]?.getD 0)
  | .masked (r, g, bl) =>
    let n := l.bitCount / 8
    let v := le b (rowStart + n * x) n
    (r.read v, g.read v, bl.read v)
  | _ =>
    let bpp := l.bitCount
    let bit := x * bpp
    let byte := (b[rowStart + bit / 8]?.getD 0).toNat
    let idx := (byte >>> (8 - bpp - bit % 8)) % (Nat.pow 2 bpp)
    l.palette[idx]?.getD (0, 0, 0)

/-- 出力の行：読む順の `k` 番目の行が画像の何行目か。 -/
def Layout.imageRow (l : Layout) (k : Nat) : Nat := if l.topDown then k else l.height - 1 - k

/-- 出力に一画素を書く。 -/
def putPixel (l : Layout) (out : ByteArray) (k col : Nat) (rgb : UInt8 × UInt8 × UInt8) :
    ByteArray :=
  let i := (l.imageRow k * l.width + col) * 3
  (out.set! i rgb.1).set! (i + 1) rgb.2.1 |>.set! (i + 2) rgb.2.2

/-- 圧縮なしの画素を読む。 -/
def decodePlain (l : Layout) (b : ByteArray) : Except ImageError ByteArray := do
  let rowBytes := (l.width * l.bitCount + 31) / 32 * 4
  if l.height > 0 && b.size < l.dataOffset + rowBytes * l.height then throw truncated
  let mut out := ByteArray.emptyWithCapacity (l.width * l.height * 3)
  for r in [0:l.height] do
    let stored := if l.topDown then r else l.height - 1 - r
    let rowStart := l.dataOffset + stored * rowBytes
    for x in [0:l.width] do
      let (red, green, blue) := pixel l b rowStart x
      out := out.push red |>.push green |>.push blue
  pure out

/-! ## 連長圧縮 -/

/-- 連長圧縮を戻す途中の状態。 -/
structure RleState where
  /-- 次に読むバイトの位置。 -/
  pos : Nat
  /-- いまの行（読む順に数える）。 -/
  row : Nat
  /-- いまの行の次に書く画素。 -/
  col : Nat
  /-- 命令の長さを足した行の中の位置（書けなかった分も数える）。 -/
  x : Nat
  out : ByteArray

/-- 番号の列の `k` 番目（8 ビットはバイト、4 ビットは上・下の半分の順）。 -/
def rleIndex (four : Bool) (bytes : ByteArray) (k : Nat) : Nat :=
  if four then
    let v := (bytes[k / 2]?.getD 0).toNat
    if k % 2 == 0 then v >>> 4 else v % 16
  else (bytes[k]?.getD 0).toNat

/-- いまの行の `col` から番号の列の先頭 `n` 個を書く。 -/
def rlePut (l : Layout) (four : Bool) (s : RleState) (bytes : ByteArray) (n : Nat) : ByteArray :=
  (List.range n).foldl (fun out k =>
    putPixel l out s.row (s.col + k) (l.palette[rleIndex four bytes k]?.getD (0, 0, 0))) s.out

/-- 命令を一つずつ読む。行が尽きるか、終わりの命令で止まる。 -/
def rleSteps (l : Layout) (b : ByteArray) (four : Bool) : Nat → RleState → Except ImageError ByteArray
  | 0, _ => .error truncated
  | fuel + 1, s =>
    if s.row ≥ l.height then .ok s.out
    else
      match b[s.pos]?, b[s.pos + 1]? with
      | none, _ | some _, none => .error truncated
      | some 0, some 0 => rleSteps l b four fuel { s with pos := s.pos + 2, row := s.row + 1, col := 0, x := 0 }
      | some 0, some 1 => .ok s.out
      | some 0, some 2 =>
        match b[s.pos + 2]?, b[s.pos + 3]? with
        | some dx, some dy => do
          let dx := dx.toNat
          let dy := dy.toNat
          let (row, col) ← if dy > 0 then
              if s.row + dy ≥ l.height || s.x > l.width then throw corruptRle
              else pure (s.row + dy, s.x)
            else pure (s.row, s.col)
          if col + dx > l.width then throw corruptRle
          rleSteps l b four fuel { s with pos := s.pos + 4, row, col := col + dx, x := s.x + dx }
        | _, _ => .error truncated
      | some 0, some op => do
        let n := op.toNat
        let len := if four then (n + 1) / 2 else n
        let len := len + len % 2
        let bytes := b.extract (s.pos + 2) (s.pos + 2 + len)
        let count := min n (if four then 2 * bytes.size else bytes.size)
        if s.col + count > l.width then throw corruptRle
        let out := rlePut l four s bytes count
        rleSteps l b four fuel { s with pos := s.pos + 2 + bytes.size, col := s.col + count, x := s.x + n, out }
      | some c, some idx =>
        let n := c.toNat
        let room := l.width - s.col
        let run := ByteArray.mk (Array.replicate ((n + 1) / 2 + 1) idx)
        let out := rlePut l four s (if four then run else ByteArray.mk (Array.replicate n idx)) (min n room)
        if n ≤ room then
          rleSteps l b four fuel { s with pos := s.pos + 2, col := s.col + n, x := s.x + n, out }
        else
          -- 行に収まらない分は捨てて次の行へ。
          rleSteps l b four fuel { pos := s.pos + 2, row := s.row + 1, col := 0, x := 0, out }

/-- 連長圧縮の画素を読む。書かれなかった画素は黒。 -/
def decodeRle (l : Layout) (b : ByteArray) (four : Bool) : Except ImageError ByteArray :=
  rleSteps l b four (b.size + 1)
    ⟨l.dataOffset, 0, 0, 0, ByteArray.mk (Array.replicate (l.width * l.height * 3) 0)⟩

/-- 復号に使える大きさの上限（バイト）。 -/
def memoryLimit : Nat := 512 * 1024 * 1024

/-- BMP のバイト列を復号する。 -/
def decode (b : ByteArray) : Except ImageError Frame := do
  let l ← parseLayout b
  if l.width * l.height * (if l.alpha then 4 else 3) > memoryLimit then throw .memoryLimit
  let out ← match l.pixels with
    | .rle8 => decodeRle l b false
    | .rle4 => decodeRle l b true
    | _ => decodePlain l b
  pure ⟨[l.height, l.width, 3], out, 0, none⟩

/-! ## 書き出し -/

/-- 小さい桁からの `n` バイト。 -/
def leBytes (v n : Nat) : ByteArray :=
  ⟨(Array.range n).map (fun k => (v / Nat.pow 256 k % 256).toUInt8)⟩

/-- 白黒（`[h, w]`）か RGB（`[h, w, 3]`）のフレームを 24 ビットの BMP にする。 -/
def encode (f : Frame) : ByteArray :=
  let w := f.width
  let h := f.height
  let gray := f.shape.length == 2
  let rowBytes := (w * 3 + 3) / 4 * 4
  let dataSize := rowBytes * h
  let header := ByteArray.mk #[66, 77] ++ leBytes (54 + dataSize) 4 ++ leBytes 0 4 ++ leBytes 54 4 ++
    leBytes 40 4 ++ leBytes w 4 ++ leBytes h 4 ++ leBytes 1 2 ++ leBytes 24 2 ++ leBytes 0 4 ++
    leBytes dataSize 4 ++ leBytes 2835 4 ++ leBytes 2835 4 ++ leBytes 0 4 ++ leBytes 0 4
  let rows := (List.range h).foldl (fun acc k =>
    let r := h - 1 - k
    let row := (List.range w).foldl (fun row x =>
      let (red, green, blue) :=
        if gray then (f.byte (r * w + x), f.byte (r * w + x), f.byte (r * w + x))
        else (f.byte ((r * w + x) * 3), f.byte ((r * w + x) * 3 + 1), f.byte ((r * w + x) * 3 + 2))
      row.push blue |>.push green |>.push red) acc
    row ++ ⟨Array.replicate (rowBytes - w * 3) 0⟩) ByteArray.empty
  header ++ rows

end DropletVision.Bmp
