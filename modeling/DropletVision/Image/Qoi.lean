import DropletVision.Frame

/-!
# QOI

QOI のファイルを RGB のフレーム `[h, w, 3]` に復号し、RGB のフレームを QOI にする。

* 見出しは `qoif`、幅と高さ（32 ビット、大きい桁から）、チャネル数（3 か 4）、色空間（0 か 1）。
  幅か高さが 0、画素が 4 億を超えるものは誤り。
* 画素は一つ前の画素（最初は不透明の黒）と、最近の 64 色の表からの差で表す：
  表の番号、小さな差、輝度の差、同じ画素の繰り返し、RGB、RGBA。表の位置は
  `(3r + 5g + 7b + 11a) mod 64`（3 チャネルなら `a` は 255）。表の番号と繰り返しの画素は表に入れない。
  3 チャネルの画像の RGBA の命令は、その一バイトだけ読んで前の画素を繰り返す。
* 最後に 7 バイトの 0 と 1 バイトの 1 が続かなければ誤り。透明度は捨てる。
* 書くときは RGB の 3 チャネル。白黒のフレームは書けない。

## 停止性

画素の読み取りは残りの画素の数を燃料にする。
-/

namespace DropletVision.Qoi

/-- 誤りの文言に使う形式の名前。 -/
def formatName : String := "Qoi"

/-- 形式の誤り。 -/
def formatError (detail : String) : ImageError := .decoding formatName detail

/-- RGBA の画素。 -/
structure Pixel where
  r : Nat
  g : Nat
  b : Nat
  a : Nat
  deriving BEq

/-- 最近の色の表の位置。 -/
def Pixel.hash (p : Pixel) : Nat := (p.r * 3 + p.g * 5 + p.b * 7 + p.a * 11) % 64

/-- 大きい桁からの 32 ビット。 -/
def be32 (b : ByteArray) (i : Nat) : Nat :=
  (List.range 4).foldl (fun acc k => acc * 256 + (b[i + k]?.getD 0).toNat) 0

/-- 画素を読む途中の状態。 -/
structure Cursor where
  pos : Nat
  prev : Pixel
  table : Array Pixel
  out : Array Pixel

/-- 8 ビットでの足し算。 -/
def wrap (v : Int) : Nat := (v % 256).toNat

/-- 前の画素を書き換える命令（RGB・RGBA・小さな差・輝度の差）を読み、新しい画素と次の位置を返す。
足りなければ `none`。3 チャネルの画像の RGBA の命令は何も変えず、その一バイトだけを読む。 -/
def change (b : ByteArray) (alpha : Bool) (op pos : Nat) (p : Pixel) : Option (Pixel × Nat) := do
  if op == 0xFE then
    let r := (← b[pos + 1]?).toNat
    let g := (← b[pos + 2]?).toNat
    let bl := (← b[pos + 3]?).toNat
    pure (⟨r, g, bl, p.a⟩, pos + 4)
  else if op == 0xFF then
    if alpha then
      let r := (← b[pos + 1]?).toNat
      let g := (← b[pos + 2]?).toNat
      let bl := (← b[pos + 3]?).toNat
      let a := (← b[pos + 4]?).toNat
      pure (⟨r, g, bl, a⟩, pos + 5)
    else pure (p, pos + 1)
  else if op < 0x80 then
    let d (k : Nat) : Int := ((op >>> k) % 4 : Nat) - 2
    pure ({ p with r := wrap (p.r + d 4), g := wrap (p.g + d 2), b := wrap (p.b + d 0) }, pos + 1)
  else
    let second := (← b[pos + 1]?).toNat
    let dg : Int := (op % 64 : Nat) - 32
    let dr : Int := dg + ((second >>> 4 : Nat) : Int) - 8
    let db : Int := dg + ((second % 16 : Nat) : Int) - 8
    pure ({ p with r := wrap (p.r + dr), g := wrap (p.g + dg), b := wrap (p.b + db) }, pos + 2)

/-- 足りないバイトの誤り。 -/
def truncated : ImageError := .io (.other "failed to fill whole buffer")

/-- 残り `left` 個の画素を読む。表の番号と繰り返しの命令は表を変えず、ほかの命令の画素は
表に入れる。`alpha` でなければ透明度はいつも 255。命令はどれも一つ以上の画素を出すので、
燃料は画素の数で足りる。 -/
def pixels (b : ByteArray) (alpha : Bool) : Nat → Nat → Cursor → Except ImageError Cursor
  | 0, _, c => .ok c
  | fuel + 1, left, c =>
    if left == 0 then .ok c
    else
      match b[c.pos]? with
      | none => .error truncated
      | some op =>
        let op := op.toNat
        let p := c.prev
        if op < 0x40 then
          let q := c.table[op]?.getD ⟨0, 0, 0, 0⟩
          let q := if alpha then q else { q with a := 255 }
          pixels b alpha fuel (left - 1) ⟨c.pos + 1, q, c.table, c.out.push q⟩
        else if 0xC0 ≤ op && op ≤ 0xFD then
          let n := min (op % 64 + 1) left
          pixels b alpha fuel (left - n) ⟨c.pos + 1, p, c.table, c.out ++ Array.replicate n p⟩
        else
          match change b alpha op c.pos p with
          | none => .error truncated
          | some (q, pos) =>
            pixels b alpha fuel (left - 1) ⟨pos, q, c.table.set! q.hash q, c.out.push q⟩

/-- 最後の 8 バイト。 -/
def padding : ByteArray := ⟨#[0, 0, 0, 0, 0, 0, 0, 1]⟩

/-- 画素の数の上限。 -/
def pixelLimit : Nat := 400000000

/-- 復号に使える大きさの上限（バイト）。 -/
def memoryLimit : Nat := 512 * 1024 * 1024

/-- QOI のバイト列を復号する。 -/
def decode (b : ByteArray) : Except ImageError Frame := do
  if b.size < 14 then throw truncated
  if b.extract 0 4 != "qoif".toUTF8 then throw (formatError "Invalid magic")
  let w := be32 b 4
  let h := be32 b 8
  let channels := (b[12]?.getD 0).toNat
  if channels != 3 && channels != 4 then throw (formatError s!"Invalid number of channels: {channels}")
  if (b[13]?.getD 0).toNat > 1 then throw (formatError "Invalid color space")
  if w * h == 0 || w * h > pixelLimit then throw (formatError s!"Invalid image dimensions: {w}x{h}")
  if w * h * channels > memoryLimit then throw .memoryLimit
  let c ← pixels b (channels == 4) (w * h) (w * h)
    ⟨14, ⟨0, 0, 0, 255⟩, Array.replicate 64 ⟨0, 0, 0, 0⟩, #[]⟩
  if c.pos + 8 > b.size then throw truncated
  if b.extract c.pos (c.pos + 8) != padding then throw (formatError "Invalid padding (stream end marker)")
  let out := c.out.foldl (fun acc p => acc.push p.r.toUInt8 |>.push p.g.toUInt8 |>.push p.b.toUInt8)
    (ByteArray.emptyWithCapacity (w * h * 3))
  pure ⟨[h, w, 3], out, 0, none⟩

/-! ## 書き出し -/

/-- 書く途中の状態。 -/
structure Writer where
  out : ByteArray
  prev : Pixel
  table : Array Pixel
  run : Nat

/-- 溜めた繰り返しを書き出す。 -/
def Writer.flush (w : Writer) : Writer :=
  if w.run == 0 then w else { w with out := w.out.push (0xC0 + w.run - 1).toUInt8, run := 0 }

/-- 差を 8 ビットの符号つきの値として見る。 -/
def signedDiff (a b : Nat) : Int :=
  let d := (a + 256 - b) % 256
  if d ≥ 128 then (d : Int) - 256 else d

/-- 画素を一つ書く。`last` は最後の画素か。 -/
def Writer.push (w : Writer) (px : Pixel) (last : Bool) : Writer :=
  if px == w.prev then
    let w := { w with run := w.run + 1 }
    if w.run == 62 || last then w.flush else w
  else
    let w := w.flush
    let i := px.hash
    if w.table[i]? == some px then { w with out := w.out.push i.toUInt8, prev := px }
    else
      let table := w.table.set! i px
      let vr := signedDiff px.r w.prev.r
      let vg := signedDiff px.g w.prev.g
      let vb := signedDiff px.b w.prev.b
      let vgr := vr - vg
      let vgb := vb - vg
      let bytes : List Nat :=
        if px.a != w.prev.a then [0xFF, px.r, px.g, px.b, px.a]
        else if -3 < vr && vr < 2 && -3 < vg && vg < 2 && -3 < vb && vb < 2 then
          [(0x40 + ((vr + 2) * 16 + (vg + 2) * 4 + (vb + 2))).toNat]
        else if -33 < vg && vg < 32 && -9 < vgr && vgr < 8 && -9 < vgb && vgb < 8 then
          [(0x80 + (vg + 32)).toNat, ((vgr + 8) * 16 + (vgb + 8)).toNat]
        else [0xFE, px.r, px.g, px.b]
      { out := bytes.foldl (fun o v => o.push v.toUInt8) w.out, prev := px, table, run := 0 }

/-- 大きい桁からの 32 ビット。 -/
def be32Bytes (v : Nat) : ByteArray :=
  ⟨#[(v / 16777216 % 256).toUInt8, (v / 65536 % 256).toUInt8, (v / 256 % 256).toUInt8,
    (v % 256).toUInt8]⟩

/-- RGB のフレーム（`[h, w, 3]`）を QOI にする。 -/
def encode (f : Frame) : ByteArray :=
  let n := f.width * f.height
  let header := "qoif".toUTF8 ++ be32Bytes f.width ++ be32Bytes f.height ++ ⟨#[3, 0]⟩
  let w := (List.range n).foldl (fun w i =>
    w.push ⟨(f.byte (3 * i)).toNat, (f.byte (3 * i + 1)).toNat, (f.byte (3 * i + 2)).toNat, 255⟩
      (i + 1 == n)) (⟨header, ⟨0, 0, 0, 255⟩, Array.replicate 64 ⟨0, 0, 0, 0⟩, 0⟩ : Writer)
  w.out ++ padding

end DropletVision.Qoi
