import DropletVision.Frame
import DropletVision.Image.NeuQuant

/-!
# GIF

GIF のファイルの最初の画像を RGB のフレーム `[h, w, 3]` に復号し、RGB のフレームを GIF にする。

* 見出しは `GIF87a` か `GIF89a`、続いて画面の幅と高さ（16 ビット、小さい桁から）、旗、背景色、縦横比。
  旗の最上位が立っていれば全体の色表（`2^(下位 3 ビット + 1)` 色）が続く。
* 拡張（`0x21`）は読み飛ばし、最初の画像（`0x2C`）を読む。終わり（`0x3B`）が先に来れば誤り。
  拡張の種類は平文・画像の制御・注釈・応用のどれかで、画像の制御の最初の塊は 4 バイト。
* 画像は位置と大きさ、旗（自分の色表、飛び越し）、LZW の最小の符号長（1 以上 11 以下）、小分けのデータ。
  色は自分の色表、無ければ全体の色表から引き、表の外の番号は黒。どちらの表も無ければ誤り。
* LZW の符号は下位のビットから読む。表に項目を足して、次に使う番号が `2^幅` に達したら幅を一つ
  広げる（12 まで）。画素が足りなければ誤り、余りは捨てる。
* 画素の無い画像は誤り（飛び越しで高さが 0 のものだけは空の画像として読める）。
* 画像は画面の上に置き、画像の外は黒。
* 書くときは色表を画像に付ける。色が 256 以下なら使われた色を並べたもの、超えれば NeuQuant で
  学習した 256 色（`NeuQuant.quantize`）。白黒のフレームは書けない。

## 停止性

LZW の読み取りは符号を一つ読むたびにビットの位置が進み、入力のビット数を燃料にする。
小分けのデータの読み取りは一回ごとに一バイト以上進む。
-/

namespace DropletVision.Gif

/-- 誤りの文言に使う形式の名前。 -/
def formatName : String := "Gif"

/-- 形式の誤り。 -/
def formatError (detail : String) : ImageError := .decoding formatName detail

/-- 足りないバイトの誤り。 -/
def truncated : ImageError := formatError "unexpected EOF"

/-- 小さい桁からの 16 ビット。 -/
def le16 (b : ByteArray) (i : Nat) : Nat := (b[i]?.getD 0).toNat + 256 * (b[i + 1]?.getD 0).toNat

/-- 知られた拡張の種類（平文・画像の制御・注釈・応用）。 -/
def knownExtensions : List Nat := [0x01, 0xF9, 0xFE, 0xFF]

/-- 小分けのデータを長さ 0 の区切りまでつなぐ。終わりに行き着いたらそこまで。 -/
def subBlocks (b : ByteArray) : Nat → Nat → ByteArray → ByteArray × Nat × Bool
  | 0, pos, acc => (acc, pos, false)
  | fuel + 1, pos, acc =>
    match b[pos]? with
    | none => (acc, pos, false)
    | some 0 => (acc, pos + 1, true)
    | some n =>
      let stop := pos + 1 + n.toNat
      if stop > b.size then (acc ++ b.extract (pos + 1) b.size, b.size, false)
      else subBlocks b fuel stop (acc ++ b.extract (pos + 1) stop)

/-- 符号を下位のビットから `width` ビット読む。 -/
def readCode (data : ByteArray) (pos width : Nat) : Option Nat :=
  if pos + width > data.size * 8 then none
  else some ((List.range width).foldr (fun k acc =>
    let p := pos + k
    acc * 2 + ((data[p / 8]?.getD 0).toNat >>> (p % 8)) % 2) 0)

/-- LZW を展開する。`need` バイトに達したか、終わりの符号か、データの終わりで止まる。 -/
def unpackLzw (data : ByteArray) (minSize need : Nat) :
    Nat → Nat → Nat → Array ByteArray → Option ByteArray → ByteArray → Except ImageError ByteArray
  | 0, _, _, _, _, out => .ok out
  | fuel + 1, pos, width, table, prev, out =>
    if out.size ≥ need then .ok out
    else
      let clear := Nat.pow 2 minSize
      match readCode data pos width with
      | none => .ok out
      | some code =>
        let pos := pos + width
        if code == clear then unpackLzw data minSize need fuel pos (minSize + 1) #[] none out
        else if code == clear + 1 then .ok out
        else
          let entry? : Option ByteArray :=
            if code < clear then some (ByteArray.empty.push code.toUInt8)
            else if code - (clear + 2) < table.size then table[code - (clear + 2)]?
            else if code - (clear + 2) == table.size then prev.map (fun p => p.push (p[0]?.getD 0))
            else none
          match entry? with
          | none => .error (formatError "invalid code in LZW stream")
          | some entry =>
            let (table, added) := match prev with
              | some p =>
                if table.size + clear + 2 < 4096 then (table.push (p.push (entry[0]?.getD 0)), true)
                else (table, false)
              | none => (table, false)
            let next := table.size + clear + 2
            let width := if added && next ≥ Nat.pow 2 width && width < 12 then width + 1 else width
            unpackLzw data minSize need fuel pos width table (some entry) (out ++ entry)

/-- 飛び越しの順に並んだ行を、上からの行の順に並べ替えるときの、`k` 番目に読んだ行の位置。 -/
def interlacedRows (h : Nat) : List Nat :=
  ((List.range h).filter (· % 8 == 0)) ++ ((List.range h).filter (· % 8 == 4)) ++
    ((List.range h).filter (· % 4 == 2)) ++ ((List.range h).filter (· % 2 == 1))

/-- 画像の中身：位置、大きさ、色表、画素の番号（上からの行の順）。 -/
structure Picture where
  left : Nat
  top : Nat
  width : Nat
  height : Nat
  palette : ByteArray
  indices : ByteArray

/-- 拡張を読み飛ばしながら最初の画像を探す。 -/
def findPicture (b : ByteArray) (global : Option ByteArray) : Nat → Nat → Except ImageError Picture
  | 0, _ => .error truncated
  | fuel + 1, pos =>
    match b[pos]? with
    | none => .error truncated
    | some 0x21 =>
      if pos + 2 > b.size then .error truncated
      else
        let label := (b[pos + 1]?.getD 0).toNat
        if !knownExtensions.contains label then .error (formatError "unknown extension block encountered")
        else if label == 0xF9 && b[pos + 2]? != some 4 then
          if pos + 3 > b.size then .error truncated
          else .error (formatError "control extension has wrong length")
        else
          match subBlocks b (b.size + 1) (pos + 2) .empty with
          | (_, next, true) => findPicture b global fuel next
          | _ => .error truncated
    | some 0x2C => do
      if pos + 10 > b.size then throw truncated
      let left := le16 b (pos + 1)
      let top := le16 b (pos + 3)
      let w := le16 b (pos + 5)
      let h := le16 b (pos + 7)
      let flags := (b[pos + 9]?.getD 0).toNat
      let tableSize := 3 * Nat.pow 2 (flags % 8 + 1)
      let (palette, p) ← if flags ≥ 128 then
          if pos + 10 + tableSize > b.size then throw truncated
          else pure (some (b.extract (pos + 10) (pos + 10 + tableSize)), pos + 10 + tableSize)
        else pure (global, pos + 10)
      let palette ← match palette with
        | some t => pure t
        | none => throw (formatError "no color table available for current frame")
      let minSize ← match b[p]? with
        | some m => pure m.toNat
        | none => throw truncated
      if minSize > 11 || minSize < 1 then throw (formatError "invalid minimal code size")
      let interlaced := flags &&& 0x40 != 0
      if (!interlaced && w * h == 0) || (interlaced && h > 0 && w == 0) then
        throw (formatError "odd-sized buffer")
      let (data, _, _) := subBlocks b (b.size + 1) (p + 1) .empty
      let need := w * h
      let raw ← unpackLzw data minSize need (data.size * 8 + 1) 0 (minSize + 1) #[] none .empty
      if raw.size < need then throw (formatError "image truncated")
      let indices := if interlaced then
          let order := interlacedRows h
          let placed := (order.zipIdx).foldl (fun (acc : Array Nat) (row, k) => acc.set! row k)
            (Array.replicate h 0)
          (List.range h).foldl (fun acc row =>
            let k := placed[row]?.getD 0
            acc ++ raw.extract (k * w) (k * w + w)) ByteArray.empty
        else raw.extract 0 need
      pure ⟨left, top, w, h, palette, indices⟩
    | some 0x3B => .error (formatError "no more data")
    | some _ => .error (formatError "unknown block type encountered")

/-- 復号に使える大きさの上限（バイト）。 -/
def memoryLimit : Nat := 512 * 1024 * 1024

/-- GIF のバイト列を復号する。 -/
def decode (b : ByteArray) : Except ImageError Frame := do
  if b.size < 6 then throw truncated
  let sig := b.extract 0 6
  if sig != "GIF87a".toUTF8 && sig != "GIF89a".toUTF8 then throw (formatError "malformed GIF header")
  if b.size < 13 then throw truncated
  let sw := le16 b 6
  let sh := le16 b 8
  let flags := (b[10]?.getD 0).toNat
  let tableSize := 3 * Nat.pow 2 (flags % 8 + 1)
  let (global, start) ← if flags ≥ 128 then
      if 13 + tableSize > b.size then throw truncated
      else pure (some (b.extract 13 (13 + tableSize)), 13 + tableSize)
    else pure (none, 13)
  if sw * sh * 4 > memoryLimit then throw .memoryLimit
  let pic ← findPicture b global (b.size + 1) start
  let color (x y k : Nat) : UInt8 :=
    if x ≥ pic.left && x - pic.left < pic.width && y ≥ pic.top && y - pic.top < pic.height then
      let i := (pic.indices[(y - pic.top) * pic.width + (x - pic.left)]?.getD 0).toNat
      if 3 * i + 3 ≤ pic.palette.size then pic.palette[3 * i + k]?.getD 0 else 0
    else 0
  pure ⟨[sh, sw, 3], ⟨(Array.range (sw * sh * 3)).map (fun j =>
    color (j / 3 % sw) (j / 3 / sw) (j % 3))⟩, 0, none⟩

/-! ## 書き出し -/

/-- たまったビット（`bits` 個、下位から）のうち、揃った八ビットずつを書き出す。 -/
def flushBits (out : ByteArray) (acc bits : Nat) : Nat → ByteArray × Nat × Nat
  | 0 => (out, acc, bits)
  | fuel + 1 =>
    if bits < 8 then (out, acc, bits)
    else flushBits (out.push (acc % 256).toUInt8) (acc / 256) (bits - 8) fuel

/-- LZW で書く：幅を `minSize + 1` に保つため、表が広がる前に表を空に戻す。
符号は下位のビットから詰める。 -/
def packLzw (minSize : Nat) (indices : List UInt8) : ByteArray :=
  let clear := Nat.pow 2 minSize
  let width := minSize + 1
  let limit := clear - 2
  let codes := (indices.zipIdx.foldl (fun acc (v, k) =>
    let acc := if k % limit == 0 then clear :: acc else acc
    v.toNat :: acc) []).reverse ++ [clear + 1]
  let (out, acc, bits) := codes.foldl (fun (st : ByteArray × Nat × Nat) c =>
    flushBits st.1 (st.2.1 + c * Nat.pow 2 st.2.2) (st.2.2 + width) 3) (ByteArray.empty, 0, 0)
  if bits > 0 then out.push (acc % 256).toUInt8 else out

/-- データを 255 バイトずつの小分けにする。 -/
def chunked (data : ByteArray) : ByteArray :=
  let count := (data.size + 254) / 255
  (List.range count).foldl (fun acc i =>
    let part := data.extract (255 * i) (255 * i + 255)
    (acc.push part.size.toUInt8) ++ part) ByteArray.empty |>.push 0

/-- 色の辞書順。 -/
def colorLess (a b : Nat × Nat × Nat) : Bool :=
  a.1 < b.1 || (a.1 == b.1 && (a.2.1 < b.2.1 || (a.2.1 == b.2.1 && a.2.2 < b.2.2)))

/-- 並べた色の並びから、続けて同じ色を一つにする。 -/
def dedupSorted : List (Nat × Nat × Nat) → List (Nat × Nat × Nat)
  | x :: y :: rest => if x == y then dedupSorted (y :: rest) else x :: dedupSorted (y :: rest)
  | xs => xs

/-- 色表（RGB の三バイトずつ）と画素ごとの番号。256 色以下なら使われた色を辞書順に並べた
ちょうどの色表、超えれば NeuQuant で学習した 256 色の色表。 -/
def palette (f : Frame) : List (Nat × Nat × Nat) × List Nat :=
  let n := f.width * f.height
  let px (i : Nat) : Nat × Nat × Nat :=
    ((f.byte (3 * i)).toNat, (f.byte (3 * i + 1)).toNat, (f.byte (3 * i + 2)).toNat)
  let colors := dedupSorted (((List.range n).map px).mergeSort (fun a b => colorLess a b || a == b))
  if colors.length ≤ 256 then (colors, (List.range n).map (fun i => colors.idxOf (px i)))
  else
    let rgba := (List.range n).foldl (fun (acc : ByteArray) i =>
      acc.push (f.byte (3 * i)) |>.push (f.byte (3 * i + 1)) |>.push (f.byte (3 * i + 2)) |>.push 255)
      (ByteArray.emptyWithCapacity (4 * n))
    let (p, indices) := NeuQuant.quantize 1 rgba
    (p.colors.toList.map (fun c => (c.r, c.g, c.b)), indices.toList)

/-- GIF に書ける最大の幅と高さ。 -/
def maxSide : Nat := 65535

/-- RGB のフレーム（`[h, w, 3]`）を GIF にする。幅か高さが 16 ビットに収まらなければ `none`。 -/
def encode (f : Frame) : Option ByteArray :=
  if f.width > maxSide || f.height > maxSide then none
  else
    let (colors, indices) := palette f
    let sizeBits := ((List.range 8).find? (fun k => colors.length ≤ Nat.pow 2 (k + 1))).getD 7
    let entries := Nat.pow 2 (sizeBits + 1)
    let table := (colors ++ List.replicate (entries - colors.length) (0, 0, 0)).foldl
      (fun (acc : ByteArray) (c : Nat × Nat × Nat) =>
        acc.push c.1.toUInt8 |>.push c.2.1.toUInt8 |>.push c.2.2.toUInt8) ByteArray.empty
    let minSize := max 2 (sizeBits + 1)
    let le (v : Nat) : List UInt8 := [(v % 256).toUInt8, (v / 256 % 256).toUInt8]
    let head : List UInt8 := [71, 73, 70, 56, 57, 97] ++ le f.width ++ le f.height ++ [0, 0, 0] ++
      [0x2C] ++ le 0 ++ le 0 ++ le f.width ++ le f.height ++ [(0x80 + sizeBits).toUInt8]
    some (⟨head.toArray⟩ ++ table ++ (ByteArray.empty.push minSize.toUInt8) ++
      chunked (packLzw minSize (indices.map Nat.toUInt8)) |>.push 0x3B)

end DropletVision.Gif
