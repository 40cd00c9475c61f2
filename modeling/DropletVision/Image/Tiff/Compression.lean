import DropletVision.Error

/-!
# TIFF の区画の圧縮

ストリップやタイルの圧縮を戻す。どれも壊れたところの手前までの出力を返し、
足りるかどうかは呼び出し側が決める。

* PackBits — 先頭のバイト `n` が 0〜127 なら続く `n + 1` バイトをそのまま、129〜255 なら
  続く一バイトを `257 - n` 回、128 なら何もしない。
* LZW — 上位のビットから読む 9〜12 ビットの符号。256 は表を空に戻し、257 は終わり。
  表の大きさが 511・1023・2047 に達した時点で符号の幅を一つ広げる（TIFF の早い切り替え）。

## 停止性

PackBits は読む位置が一回ごとに進み、LZW は読むビットの位置が進む。どちらも入力の長さを燃料にする。
-/

namespace DropletVision.Tiff

/-- PackBits を展開する。 -/
def unpackBits (b : ByteArray) : ByteArray := go b.size 0 .empty
where
  /-- 位置 `i` から読み進める。 -/
  go : Nat → Nat → ByteArray → ByteArray
    | 0, _, out => out
    | fuel + 1, i, out =>
      match b[i]? with
      | none => out
      | some n =>
        let n := n.toNat
        if n < 128 then go fuel (i + 2 + n) (out ++ b.extract (i + 1) (i + 2 + n))
        else if n == 128 then go fuel (i + 1) out
        else
          match b[i + 1]? with
          | some v => go fuel (i + 2) (out ++ ⟨Array.replicate (257 - n) v⟩)
          | none => out

/-- LZW の符号を上位のビットから `width` ビット読む。 -/
def readCode (b : ByteArray) (pos width : Nat) : Option Nat :=
  if pos + width > b.size * 8 then none
  else some ((List.range width).foldl (fun acc k =>
    let p := pos + k
    acc * 2 + ((b[p / 8]?.getD 0).toNat >>> (7 - p % 8)) % 2) 0)

/-- LZW を展開する。表の大きさが 511・1023・2047 に達した時点で符号の幅を一つ広げる。 -/
def unpackLzw (b : ByteArray) : ByteArray :=
  go (b.size * 8 + 1) 0 9 #[] none .empty
where
  /-- 表は 258 番から。`prev` は直前の文字列。 -/
  go : Nat → Nat → Nat → Array ByteArray → Option ByteArray → ByteArray → ByteArray
    | 0, _, _, _, _, out => out
    | fuel + 1, pos, width, table, prev, out =>
      match readCode b pos width with
      | none => out
      | some code =>
        let pos := pos + width
        if code == 257 then out
        else if code == 256 then go fuel pos 9 #[] none out
        else
          let entry? : Option ByteArray :=
            if code < 256 then some (ByteArray.empty.push code.toUInt8)
            else if code - 258 < table.size then table[code - 258]?
            else if code - 258 == table.size then prev.map (fun p => p.push (p[0]?.getD 0))
            else none
          match entry? with
          | none => out
          | some entry =>
            let table := match prev with
              | some p => table.push (p.push (entry[0]?.getD 0))
              | none => table
            let next := table.size + 258
            let width := if next + 1 ≥ Nat.pow 2 width && width < 12 then width + 1 else width
            go fuel pos width table (some entry) (out ++ entry)

end DropletVision.Tiff
