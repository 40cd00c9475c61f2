/-!
# 圧縮データの展開（DEFLATE）

DEFLATE の圧縮データを展開する。ブロックは三種類：そのまま・固定の符号・動的な符号。

* ビットは各バイトの下位から読む。ハフマン符号は上位のビットから一ビットずつ読む。
* 正規ハフマン符号は符号長ごとの個数と、符号長・記号の順に並べた記号の列で表す。
  長さ `len` の符号の最初の値は、それより短い符号の個数から決まる。
* 長さ・距離の組は、展開済みの出力の `距離` だけ前から `長さ` バイトを写す（重なってよい）。

壊れたデータ（足りないビット、表に無い符号、出力の先頭より前を指す距離、
過剰に割り当てられた符号長）では `inflate` は `none`。`inflatePartial` は壊れたところの
手前までの出力を返す。

## 停止性

ブロックの繰り返しも記号の繰り返しも、一回ごとに少なくとも一ビット読む。
どちらも入力のビット数を燃料にする。
-/

namespace DropletVision.Codec

/-- 読みかけのビット列。`pos` はビット単位の位置。 -/
structure BitStream where
  data : ByteArray
  pos : Nat := 0

namespace BitStream

/-- 残りのビット数。 -/
def remaining (s : BitStream) : Nat := s.data.size * 8 - s.pos

/-- 一ビット読む。 -/
def bit? (s : BitStream) : Option (Nat × BitStream) :=
  match s.data[s.pos / 8]? with
  | some b => some ((b.toNat >>> (s.pos % 8)) % 2, { s with pos := s.pos + 1 })
  | none => none

/-- `n` ビットを下位から読んで整数にする。 -/
def bits? (s : BitStream) : Nat → Option (Nat × BitStream)
  | 0 => some (0, s)
  | n + 1 => do
    let (b, s) ← s.bit?
    let (rest, s) ← s.bits? n
    pure (b + 2 * rest, s)

/-- 次のバイトの境目まで進める。 -/
def align (s : BitStream) : BitStream := { s with pos := (s.pos + 7) / 8 * 8 }

end BitStream

/-- 正規ハフマン符号。`counts[len]` は長さ `len` の符号の数、`symbols` は長さ・記号の順。 -/
structure Huffman where
  counts : Array Nat
  symbols : Array Nat

/-- 最長の符号長。 -/
def maxCodeLength : Nat := 15

namespace Huffman

/-- 記号ごとの符号長から作る。過剰に割り当てられた長さなら `none`。 -/
def build (lengths : Array Nat) : Option Huffman :=
  let counts := lengths.foldl (fun c l => c.modify l (· + 1)) (Array.replicate (maxCodeLength + 1) 0)
  let counts := counts.set! 0 0
  let oversubscribed := (List.range maxCodeLength).foldl (fun (left : Int) k =>
      if left < 0 then left else left * 2 - ((counts[k + 1]?.getD 0 : Nat) : Int)) 1 < 0
  if oversubscribed then none
  else
    let symbols := (List.range (maxCodeLength + 1)).foldl (fun acc len =>
      if len == 0 then acc
      else acc ++ ((List.range lengths.size).filter (fun i => lengths[i]?.getD 0 == len)).toArray) #[]
    some ⟨counts, symbols⟩

/-- 一つの記号を読む。 -/
def decode? (h : Huffman) (s : BitStream) : Option (Nat × BitStream) :=
  go maxCodeLength 1 0 0 0 s
where
  /-- 長さ `len` の符号まで読み進める。`code` は読んだ値、`first` はこの長さの最初の符号、
  `index` はこの長さの最初の記号の位置。 -/
  go : Nat → Nat → Nat → Nat → Nat → BitStream → Option (Nat × BitStream)
    | 0, _, _, _, _, _ => none
    | fuel + 1, len, code, first, index, s => do
      let (b, s) ← s.bit?
      let code := code + b
      let count := h.counts[len]?.getD 0
      if code < first + count then
        pure (h.symbols[index + (code - first)]?.getD 0, s)
      else
        go fuel (len + 1) (code * 2) ((first + count) * 2) (index + count) s

end Huffman

/-- 長さの符号 257 から 285 の基本値。 -/
def lengthBase : Array Nat :=
  #[3, 4, 5, 6, 7, 8, 9, 10, 11, 13, 15, 17, 19, 23, 27, 31, 35, 43, 51, 59, 67, 83, 99, 115,
    131, 163, 195, 227, 258]

/-- 長さの符号の追加ビット数。 -/
def lengthExtra : Array Nat :=
  #[0, 0, 0, 0, 0, 0, 0, 0, 1, 1, 1, 1, 2, 2, 2, 2, 3, 3, 3, 3, 4, 4, 4, 4, 5, 5, 5, 5, 0]

/-- 距離の符号 0 から 29 の基本値。 -/
def distanceBase : Array Nat :=
  #[1, 2, 3, 4, 5, 7, 9, 13, 17, 25, 33, 49, 65, 97, 129, 193, 257, 385, 513, 769, 1025, 1537,
    2049, 3073, 4097, 6145, 8193, 12289, 16385, 24577]

/-- 距離の符号の追加ビット数。 -/
def distanceExtra : Array Nat :=
  #[0, 0, 0, 0, 1, 1, 2, 2, 3, 3, 4, 4, 5, 5, 6, 6, 7, 7, 8, 8, 9, 9, 10, 10, 11, 11, 12, 12, 13, 13]

/-- 固定の符号の長さ・文字の表。 -/
def fixedLiteral : Option Huffman :=
  Huffman.build ((Array.range 288).map (fun i =>
    if i < 144 then 8 else if i < 256 then 9 else if i < 280 then 7 else 8))

/-- 固定の符号の距離の表。 -/
def fixedDistance : Option Huffman := Huffman.build (Array.replicate 30 5)

/-- 出力の `dist` だけ前から `len` バイトを写す。 -/
def copyBack (out : ByteArray) (dist len : Nat) : Option ByteArray :=
  if dist == 0 || dist > out.size then none
  else some ((List.range len).foldl (fun o _ => o.push (o[o.size - dist]?.getD 0)) out)

/-- 長さの記号 `sym` に続く追加ビットと距離を読み、出力の前から写す。 -/
def backReference (dist : Huffman) (s : BitStream) (sym : Nat) (out : ByteArray) :
    Option (BitStream × ByteArray) := do
  let k := sym - 257
  if k ≥ lengthBase.size then none
  let (extra, s) ← s.bits? (lengthExtra[k]?.getD 0)
  let len := lengthBase[k]?.getD 0 + extra
  let (dsym, s) ← dist.decode? s
  if dsym ≥ distanceBase.size then none
  let (dextra, s) ← s.bits? (distanceExtra[dsym]?.getD 0)
  let out ← copyBack out (distanceBase[dsym]?.getD 0 + dextra) len
  pure (s, out)

/-- 符号化されたブロックの記号を、ブロックの終わり（256）まで読む。壊れていれば、
そこまでの出力を誤りとして返す。 -/
def inflateCodes (lit dist : Huffman) : Nat → BitStream → ByteArray → Except ByteArray (BitStream × ByteArray)
  | 0, _, out => .error out
  | fuel + 1, s, out =>
    match lit.decode? s with
    | none => .error out
    | some (sym, s) =>
      if sym < 256 then inflateCodes lit dist fuel s (out.push sym.toUInt8)
      else if sym == 256 then .ok (s, out)
      else
        match backReference dist s sym out with
        | some (s, out) => inflateCodes lit dist fuel s out
        | none => .error out

/-- 符号長の符号長を並べる順。 -/
def codeLengthOrder : Array Nat := #[16, 17, 18, 0, 8, 7, 9, 6, 10, 5, 11, 4, 12, 3, 13, 2, 14, 1, 15]

/-- 符号長の列を `total` 個まで読む。16 は直前の長さの繰り返し、17 と 18 は 0 の繰り返し。 -/
def readLengths (h : Huffman) (total : Nat) : Nat → BitStream → Array Nat → Option (BitStream × Array Nat)
  | 0, _, _ => none
  | fuel + 1, s, acc =>
    if acc.size ≥ total then
      if acc.size == total then some (s, acc) else none
    else do
      let (sym, s) ← h.decode? s
      if sym < 16 then readLengths h total fuel s (acc.push sym)
      else if sym == 16 then
        match acc.back? with
        | none => none
        | some prev =>
          let (r, s) ← s.bits? 2
          readLengths h total fuel s (acc ++ Array.replicate (3 + r) prev)
      else if sym == 17 then
        let (r, s) ← s.bits? 3
        readLengths h total fuel s (acc ++ Array.replicate (3 + r) 0)
      else
        let (r, s) ← s.bits? 7
        readLengths h total fuel s (acc ++ Array.replicate (11 + r) 0)

/-- 動的な符号の表を読む。 -/
def readDynamicTables (s : BitStream) : Option (Huffman × Huffman × BitStream) := do
  let (hlit, s) ← s.bits? 5
  let (hdist, s) ← s.bits? 5
  let (hclen, s) ← s.bits? 4
  let nlen := hlit + 257
  let ndist := hdist + 1
  if nlen > 286 || ndist > 30 then none
  let (clens, s) ← (List.range (hclen + 4)).foldlM (fun (acc, s) i => do
      let (l, s) ← s.bits? 3
      pure (acc.set! (codeLengthOrder[i]?.getD 0) l, s)) (Array.replicate 19 0, s)
  let clh ← Huffman.build clens
  let (s, lengths) ← readLengths clh (nlen + ndist) (s.remaining + 1) s #[]
  if lengths[256]?.getD 0 == 0 then none
  let lit ← Huffman.build (lengths.extract 0 nlen)
  let dist ← Huffman.build (lengths.extract nlen (nlen + ndist))
  pure (lit, dist, s)

/-- そのままのブロック。途中で切れていれば、読めた分までの出力を誤りとして返す。 -/
def storedBlock (s : BitStream) (out : ByteArray) : Except ByteArray (BitStream × ByteArray) :=
  let s := s.align
  let i := s.pos / 8
  let b (k : Nat) : Nat := (s.data[i + k]?.getD 0).toNat
  let len := b 0 + 256 * b 1
  let nlen := b 2 + 256 * b 3
  if i + 4 > s.data.size || len + nlen != 65535 then .error out
  else if i + 4 + len > s.data.size then .error (out ++ s.data.extract (i + 4) s.data.size)
  else .ok ({ s with pos := (i + 4 + len) * 8 }, out ++ s.data.extract (i + 4) (i + 4 + len))

/-- 一つのブロックを展開する。 -/
def inflateBlock (kind : Nat) (s : BitStream) (out : ByteArray) :
    Except ByteArray (BitStream × ByteArray) :=
  match kind, fixedLiteral, fixedDistance with
  | 0, _, _ => storedBlock s out
  | 1, some lit, some dist => inflateCodes lit dist (s.remaining + 1) s out
  | 2, _, _ =>
    match readDynamicTables s with
    | some (lit, dist, s) => inflateCodes lit dist (s.remaining + 1) s out
    | none => .error out
  | _, _, _ => .error out

/-- ブロックを最後のものまで展開する。壊れていれば、そこまでの出力を誤りとして返す。 -/
def inflateBlocks : Nat → BitStream → ByteArray → Except ByteArray (BitStream × ByteArray)
  | 0, _, out => .error out
  | fuel + 1, s, out =>
    match s.bits? 1 with
    | none => .error out
    | some (last, s) =>
      match s.bits? 2 with
      | none => .error out
      | some (kind, s) =>
        match inflateBlock kind s out with
        | .error o => .error o
        | .ok (s, out) => if last == 1 then .ok (s, out) else inflateBlocks fuel s out

/-- 展開の結果：出力と、最後のブロックまで読めたならその終わりの位置（バイト単位）。 -/
structure Inflated where
  output : ByteArray
  finish : Option Nat

/-- DEFLATE の圧縮データを、壊れたところの手前まで展開する。 -/
def inflatePartial (data : ByteArray) (start : Nat := 0) : Inflated :=
  let s : BitStream := ⟨data, start * 8⟩
  match inflateBlocks (s.remaining + 1) s .empty with
  | .ok (s, out) => ⟨out, some ((s.pos + 7) / 8)⟩
  | .error out => ⟨out, none⟩

/-- DEFLATE の圧縮データを展開する。返すのは展開した中身と、読み終えた位置（バイト単位）。 -/
def inflate (data : ByteArray) (start : Nat := 0) : Option (ByteArray × Nat) :=
  match inflatePartial data start with
  | ⟨out, some stop⟩ => some (out, stop)
  | ⟨_, none⟩ => none

end DropletVision.Codec
