import DropletVision.Image.Webp.Prefix

/-!
# WebP の可逆圧縮の画像

VP8L のビット列を ARGB の画素（32 ビット、上の桁から透明度・赤・緑・青）の並びに復号する。

* 見出しは `0x2F`、幅と高さ（14 ビットずつ、1 を引いた値）、透明度を使うかの 1 ビット、
  版（3 ビット、0 だけ）。
* 続いて変換（予測・色の変換・緑を引く・色の番号付け、どれも一度まで）、色の控えの大きさ、
  前置符号の群の選び方（主な画像だけ）、群ごとの五つの前置符号、画素の並び。
* 画素は緑の記号から始まる。256 未満なら緑で、赤・青・透明度が続く。次の 24 は前の画素の写し
  （長さと距離）、残りは色の控えの番号。書いた画素はどれも色の控えに入る。
* 変換は読んだのと逆の順に戻す。予測は左上から順に、左・上・右上・左上の戻した画素を使う。
  色の番号付けは、色が少なければ一つの画素に 2・4・8 個の番号を詰める。

## 停止性

画素の読み取りは一回ごとに画素が一つ以上増え、画素の数を燃料にする。
変換の読み取りは種類が重ならないので、五回目で必ず止まる。
-/

namespace DropletVision.Webp

open Codec

/-- 一つの群の五つの前置符号。 -/
structure Group where
  /-- 緑と、写しの長さと、色の控えの番号。 -/
  green : PrefixCode
  red : PrefixCode
  blue : PrefixCode
  alpha : PrefixCode
  distance : PrefixCode

instance : Inhabited Group := ⟨⟨default, default, default, default, default⟩⟩

/-- 群を一つ読む。`cacheSize` は色の控えの大きさ。 -/
def readGroup (cacheSize : Nat) (s : BitStream) : Except ImageError (Group × BitStream) := do
  let (green, s) ← readPrefixCode (256 + 24 + cacheSize) s
  let (red, s) ← readPrefixCode 256 s
  let (blue, s) ← readPrefixCode 256 s
  let (alpha, s) ← readPrefixCode 256 s
  let (distance, s) ← readPrefixCode 40 s
  pure (⟨green, red, blue, alpha, distance⟩, s)

/-- 群を `n` 個読む。 -/
def readGroups (cacheSize : Nat) :
    Nat → Array Group → BitStream → Except ImageError (Array Group × BitStream)
  | 0, acc, s => .ok (acc, s)
  | n + 1, acc, s => do
    let (g, s) ← readGroup cacheSize s
    readGroups cacheSize n (acc.push g) s

/-- 色の控え：最近の画素を、画素から決まる位置に覚える。 -/
structure Cache where
  bits : Nat
  entries : Array UInt32

/-- `bits` ビットの空の控え（0 なら控えを使わない）。 -/
def Cache.empty (bits : Nat) : Cache :=
  ⟨bits, if bits == 0 then #[] else Array.replicate (Nat.pow 2 bits) 0⟩

/-- 画素を覚える位置。 -/
def Cache.key (c : Cache) (p : UInt32) : Nat :=
  ((0x1e35a7bd * p) >>> (32 - c.bits).toUInt32).toNat

/-- 画素を覚える。 -/
def Cache.insert (c : Cache) (p : UInt32) : Cache :=
  if c.bits == 0 then c else { c with entries := c.entries.setIfInBounds (c.key p) p }

/-- 長さや距離の記号と追加のビットから値を求める。 -/
def prefixValue (code : Nat) (s : BitStream) : Except ImageError (Nat × BitStream) :=
  if code < 4 then .ok (code + 1, s)
  else do
    let extra := (code - 2) / 2
    let (v, s) ← readBits s extra
    pure ((2 + code % 2) * Nat.pow 2 extra + v + 1, s)

/-- 距離の符号 1〜120 が指す近くの画素（右へ `x`、上へ `y`）。 -/
def nearOffsets : Array (Int × Nat) :=
  #[(0, 1), (1, 0), (1, 1), (-1, 1), (0, 2), (2, 0), (1, 2), (-1, 2),
    (2, 1), (-2, 1), (2, 2), (-2, 2), (0, 3), (3, 0), (1, 3), (-1, 3),
    (3, 1), (-3, 1), (2, 3), (-2, 3), (3, 2), (-3, 2), (0, 4), (4, 0),
    (1, 4), (-1, 4), (4, 1), (-4, 1), (3, 3), (-3, 3), (2, 4), (-2, 4),
    (4, 2), (-4, 2), (0, 5), (3, 4), (-3, 4), (4, 3), (-4, 3), (5, 0),
    (1, 5), (-1, 5), (5, 1), (-5, 1), (2, 5), (-2, 5), (5, 2), (-5, 2),
    (4, 4), (-4, 4), (3, 5), (-3, 5), (5, 3), (-5, 3), (0, 6), (6, 0),
    (1, 6), (-1, 6), (6, 1), (-6, 1), (2, 6), (-2, 6), (6, 2), (-6, 2),
    (4, 5), (-4, 5), (5, 4), (-5, 4), (3, 6), (-3, 6), (6, 3), (-6, 3),
    (0, 7), (7, 0), (1, 7), (-1, 7), (5, 5), (-5, 5), (7, 1), (-7, 1),
    (4, 6), (-4, 6), (6, 4), (-6, 4), (2, 7), (-2, 7), (7, 2), (-7, 2),
    (3, 7), (-3, 7), (7, 3), (-7, 3), (5, 6), (-5, 6), (6, 5), (-6, 5),
    (8, 0), (4, 7), (-4, 7), (7, 4), (-7, 4), (8, 1), (8, 2), (6, 6),
    (-6, 6), (8, 3), (5, 7), (-5, 7), (7, 5), (-7, 5), (8, 4), (6, 7),
    (-6, 7), (7, 6), (-7, 6), (8, 5), (7, 7), (-7, 7), (8, 6), (8, 7)]

/-- 距離の符号を、幅 `w` の画像の画素の数での距離にする（1 以上）。 -/
def planeDistance (w code : Nat) : Nat :=
  if code > 120 then code - 120
  else
    let (x, y) := nearOffsets[code - 1]?.getD (0, 0)
    let d := x + (y * w : Nat)
    if d < 1 then 1 else d.toNat

/-- 画素を `total` 個読む。`groupAt` は画素の位置から群の番号を選ぶ。 -/
def readPixels (w total : Nat) (groups : Array Group) (groupAt : Nat → Nat) :
    Nat → Cache → Array UInt32 → BitStream → Except ImageError (Array UInt32 × BitStream)
  | 0, _, out, s => .ok (out, s)
  | fuel + 1, cache, out, s =>
    if out.size ≥ total then .ok (out, s)
    else do
      let g ← match groups[groupAt out.size]? with
        | some g => pure g
        | none => throw (formatError "missing prefix code group")
      let (sym, s) ← g.green.read s
      if sym < 256 then
        let (r, s) ← g.red.read s
        let (b, s) ← g.blue.read s
        let (a, s) ← g.alpha.read s
        let p := (a * 16777216 + r * 65536 + sym * 256 + b).toUInt32
        readPixels w total groups groupAt fuel (cache.insert p) (out.push p) s
      else if sym < 280 then
        let (len, s) ← prefixValue (sym - 256) s
        let (dsym, s) ← g.distance.read s
        let (dcode, s) ← prefixValue dsym s
        let dist := planeDistance w dcode
        if dist > out.size || total - out.size < len then throw (formatError "invalid backward reference")
        let (cache, out) := (List.range len).foldl (fun (st : Cache × Array UInt32) _ =>
          let p := st.2[st.2.size - dist]?.getD 0
          (st.1.insert p, st.2.push p)) (cache, out)
        readPixels w total groups groupAt fuel cache out s
      else
        let p := cache.entries[sym - 280]?.getD 0
        readPixels w total groups groupAt fuel (cache.insert p) (out.push p) s

/-- 色の控えの大きさ（ビット数、使わなければ 0）を読む。 -/
def readCacheBits (s : BitStream) : Except ImageError (Nat × BitStream) := do
  let (used, s) ← readBits s 1
  if used == 0 then pure (0, s)
  else
    let (bits, s) ← readBits s 4
    if bits < 1 || bits > 11 then throw (formatError "invalid color cache size")
    pure (bits, s)

/-- 色の控えの記号の数。 -/
def cacheSize (bits : Nat) : Nat := if bits == 0 then 0 else Nat.pow 2 bits

/-- 割って切り上げる。 -/
def divCeil (a b : Nat) : Nat := (a + b - 1) / b

/-- 変換の画像などの、群が一つの画像を読む。 -/
def readSubImage (w h : Nat) (s : BitStream) : Except ImageError (Array UInt32 × BitStream) := do
  let (bits, s) ← readCacheBits s
  let (groups, s) ← readGroups (cacheSize bits) 1 #[] s
  readPixels w (w * h) groups (fun _ => 0) (w * h + 1) (Cache.empty bits) #[] s

/-- 主な画像を読む。群は、`2^bits` 四方の区画ごとに群の番号の画像から選ぶこともある。 -/
def readMainImage (w h : Nat) (s : BitStream) : Except ImageError (Array UInt32 × BitStream) := do
  let (bits, s) ← readCacheBits s
  let (grouped, s) ← readBits s 1
  let (codes, blockBits, s) ← if grouped == 1 then do
      let (b, s) ← readBits s 3
      let blockBits := b + 2
      let side := Nat.pow 2 blockBits
      let (image, s) ← readSubImage (divCeil w side) (divCeil h side) s
      pure (image.map (fun (p : UInt32) => ((p >>> 8) &&& 0xffff).toNat), blockBits, s)
    else pure (#[], 0, s)
  let count := codes.foldl max 0 + 1
  let codesWidth := divCeil w (Nat.pow 2 blockBits)
  let groupAt (pos : Nat) : Nat :=
    codes[(pos / w / Nat.pow 2 blockBits) * codesWidth + pos % w / Nat.pow 2 blockBits]?.getD 0
  let (groups, s) ← readGroups (cacheSize bits) count #[] s
  readPixels w (w * h) groups groupAt (w * h + 1) (Cache.empty bits) #[] s

/-! ## 変換 -/

/-- 画素を成分ごとに足す（それぞれ 256 で割った余り）。 -/
def addPixels (a b : UInt32) : UInt32 :=
  (((a &&& 0xff00ff00) + (b &&& 0xff00ff00)) &&& 0xff00ff00) |||
    (((a &&& 0x00ff00ff) + (b &&& 0x00ff00ff)) &&& 0x00ff00ff)

/-- 画素の `k` 番目の成分（0 が青、3 が透明度）。 -/
def component (p : UInt32) (k : Nat) : Nat := ((p >>> (8 * k).toUInt32) &&& 0xff).toNat

/-- 成分ごとに計算して 0〜255 に収めた画素。 -/
def ofComponents (f : Nat → Int) : UInt32 :=
  (List.range 4).foldl (fun acc k =>
    let v := f k
    let v : Nat := if v < 0 then 0 else if v > 255 then 255 else v.toNat
    acc ||| (v.toUInt32 <<< (8 * k).toUInt32)) 0

/-- 成分ごとの切り捨ての平均。 -/
def average (a b : UInt32) : UInt32 := (((a ^^^ b) &&& 0xfefefefe) >>> 1) + (a &&& b)

/-- 左と上のうち、`左 + 上 - 左上` に近いほう（同じなら上）。 -/
def select (left top topLeft : UInt32) : UInt32 :=
  let diff := (List.range 4).foldl (fun (acc : Int) k =>
    let tl : Int := component topLeft k
    acc + ((component left k : Int) - tl).natAbs - ((component top k : Int) - tl).natAbs) 0
  if diff ≤ 0 then top else left

/-- 予測の方式 `mode` で、左・上・左上・右上の画素から予測する。 -/
def predict (mode : Nat) (left top topLeft topRight : UInt32) : UInt32 :=
  match mode with
  | 1 => left
  | 2 => top
  | 3 => topRight
  | 4 => topLeft
  | 5 => average (average left topRight) top
  | 6 => average left topLeft
  | 7 => average left top
  | 8 => average topLeft top
  | 9 => average top topRight
  | 10 => average (average left topLeft) (average top topRight)
  | 11 => select left top topLeft
  | 12 => ofComponents (fun k =>
      (component left k : Int) + component top k - component topLeft k)
  | 13 =>
    let avg := average left top
    ofComponents (fun k =>
      let a : Int := component avg k
      a + Int.tdiv (a - component topLeft k) 2)
  | _ => 0xff000000

/-- 変換。 -/
inductive Transform where
  /-- 予測：`2^bits` 四方の区画ごとの方式（緑の成分）。`width` は画像の幅。 -/
  | predictor (bits width : Nat) (modes : Array UInt32)
  /-- 色の変換：区画ごとの係数。 -/
  | color (bits width : Nat) (elements : Array UInt32)
  /-- 赤と青から緑を引く。 -/
  | subtractGreen
  /-- 色の番号付け：`width` は詰める前の幅。 -/
  | colorIndexing (width : Nat) (table : Array UInt32)

/-- 色の番号付けで一つの画素に詰める番号の数の対数。 -/
def packingBits (colors : Nat) : Nat :=
  if colors ≤ 2 then 3 else if colors ≤ 4 then 2 else if colors ≤ 16 then 1 else 0

/-- 符号つきの 8 ビットとして読む。 -/
def signed8 (v : Nat) : Int := if v ≥ 128 then (v : Int) - 256 else v

/-- 色の変換の差分。 -/
def colorDelta (factor color : Nat) : Int := Int.fdiv (signed8 factor * signed8 color) 32

/-- 予測を戻す。 -/
def invertPredictor (bits width height : Nat) (modes data : Array UInt32) : Array UInt32 :=
  let side := Nat.pow 2 bits
  let blocks := divCeil width side
  (List.range (width * height)).foldl (fun (out : Array UInt32) pos =>
    let x := pos % width
    let y := pos / width
    let at_ (i : Nat) : UInt32 := out[i]?.getD 0
    let guess : UInt32 :=
      if pos == 0 then 0xff000000
      else if y == 0 then at_ (pos - 1)
      else if x == 0 then at_ (pos - width)
      else
        let mode := ((((modes[(y / side) * blocks + x / side]?).getD 0) >>> 8) &&& 0xf).toNat
        predict mode (at_ (pos - 1)) (at_ (pos - width)) (at_ (pos - width - 1))
          (at_ (pos - width + 1))
    out.push (addPixels (data[pos]?.getD 0) guess)) (Array.emptyWithCapacity (width * height))

/-- 色の変換を戻す。 -/
def invertColor (bits width : Nat) (elements data : Array UInt32) : Array UInt32 :=
  let side := Nat.pow 2 bits
  let blocks := divCeil width side
  data.mapIdx (fun pos (p : UInt32) =>
    let e := (elements[(pos / width / side) * blocks + pos % width / side]?).getD 0
    let green := component p 1
    let red := (((component p 2 : Int) + colorDelta (component e 0) green) % 256).toNat
    let blue := (((component p 0 : Int) + colorDelta (component e 1) green +
      colorDelta (component e 2) red) % 256).toNat
    (p &&& (0xff00ff00 : UInt32)) ||| (red.toUInt32 <<< (16 : UInt32)) ||| blue.toUInt32)

/-- 緑を引いたのを戻す。 -/
def addGreen (p : UInt32) : UInt32 :=
  let g := (p >>> 8) &&& 0xff
  addPixels p ((g <<< 16) ||| g)

/-- 色の番号付けを戻す。 -/
def invertIndexing (width height : Nat) (table data : Array UInt32) : Array UInt32 :=
  let wb := packingBits table.size
  let perPixel := Nat.pow 2 wb
  let bitsEach := 8 / perPixel
  let packedWidth := divCeil width perPixel
  (Array.range (width * height)).map (fun pos =>
    let x := pos % width
    let packed := ((data[(pos / width) * packedWidth + x / perPixel]?).getD 0 >>> 8).toNat
    let index := packed / Nat.pow 2 ((x % perPixel) * bitsEach) % Nat.pow 2 bitsEach
    (table[index]?).getD 0)

/-- 変換を一つ戻す。 -/
def Transform.invert (height : Nat) (data : Array UInt32) : Transform → Array UInt32
  | .predictor bits width modes => invertPredictor bits width height modes data
  | .color bits width elements => invertColor bits width elements data
  | .subtractGreen => data.map addGreen
  | .colorIndexing width table => invertIndexing width height table data

/-- 変換の種類の番号。 -/
def Transform.kind : Transform → Nat
  | .predictor .. => 0
  | .color .. => 1
  | .subtractGreen => 2
  | .colorIndexing .. => 3

/-- 変換を読む。`width` は今の画像の幅（色の番号付けで狭まる）。読んだ順の逆に並べて返す。 -/
def readTransforms (height : Nat) :
    Nat → Nat → List Transform → BitStream → Except ImageError (Nat × List Transform × BitStream)
  | 0, _, _, _ => .error (formatError "repeated transform")
  | fuel + 1, width, acc, s => do
    let (more, s) ← readBits s 1
    if more == 0 then return (width, acc, s)
    let (kind, s) ← readBits s 2
    if acc.any (·.kind == kind) then throw (formatError "repeated transform")
    match kind with
    | 0 | 1 =>
      let (b, s) ← readBits s 3
      let bits := b + 2
      let side := Nat.pow 2 bits
      let (image, s) ← readSubImage (divCeil width side) (divCeil height side) s
      let t := if kind == 0 then Transform.predictor bits width image else .color bits width image
      readTransforms height fuel width (t :: acc) s
    | 2 => readTransforms height fuel width (.subtractGreen :: acc) s
    | _ =>
      let (n, s) ← readBits s 8
      let (raw, s) ← readSubImage (n + 1) 1 s
      let table := (raw.foldl (fun (st : Array UInt32 × UInt32) p =>
        let q := addPixels p st.2
        (st.1.push q, q)) (#[], 0)).1
      let packed := divCeil width (Nat.pow 2 (packingBits (n + 1)))
      readTransforms height fuel packed (.colorIndexing width table :: acc) s

/-- 復号した画像：幅、高さ、透明度を使うか、ARGB の画素。 -/
structure Decoded where
  width : Nat
  height : Nat
  alpha : Bool
  pixels : Array UInt32

/-- 見出しだけを読む：幅、高さ、透明度を使うか。 -/
def readHeader (b : ByteArray) : Except ImageError (Nat × Nat × Bool × BitStream) := do
  let s : BitStream := ⟨b, 0⟩
  let (sig, s) ← readBits s 8
  if sig != 0x2f then throw (formatError "invalid lossless signature")
  let (w, s) ← readBits s 14
  let (h, s) ← readBits s 14
  let (alpha, s) ← readBits s 1
  let (version, s) ← readBits s 3
  if version != 0 then throw (formatError "invalid lossless version")
  pure (w + 1, h + 1, alpha == 1, s)

/-- VP8L のデータを復号する。 -/
def decodeLossless (b : ByteArray) : Except ImageError Decoded := do
  let (w, h, alpha, s) ← readHeader b
  let (packed, transforms, s) ← readTransforms h 5 w [] s
  let (pixels, _) ← readMainImage packed h s
  pure ⟨w, h, alpha, transforms.foldl (Transform.invert h) pixels⟩

end DropletVision.Webp
