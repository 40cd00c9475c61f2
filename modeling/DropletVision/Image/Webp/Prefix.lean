import DropletVision.Codec.Inflate
import DropletVision.Error

/-!
# WebP の可逆圧縮の前置符号

VP8L（WebP の可逆圧縮）のビット列から、前置符号（正規ハフマン符号）を読む。

* ビットは各バイトの下位から読み、数は下位のビットから。符号は上位のビットから一ビットずつ
  （DEFLATE と同じ正規ハフマン符号）。
* 前置符号は二通りで書かれる。
  - 簡単な符号：記号一つか二つ。最初の記号は 1 ビットか 8 ビット、二つ目は 8 ビットで、どちらも
    記号の数より小さい。一つなら読むビットは無く、二つなら一ビットで、0 が先に書かれた記号、
    1 が後の記号（書かれた順で、記号の大小によらない）。
  - 普通の符号：まず符号長の符号（19 記号、長さは 3 ビットずつ、決まった順で先頭から
    `4 + 4 ビット` 個）を読み、それで記号ごとの符号長を読む。16 は直前の 0 でない長さ
    （初めは 8）を 3〜6 回、17 は 0 を 3〜10 回、18 は 0 を 11〜138 回。
    読む符号長の記号の数に上限を付けることもできる。
* 長さが 0 でない記号が無ければ誤り、一つだけならその記号を 0 ビットで表す。二つ以上なら
  符号は過不足なく埋まっていなければならない。

## 停止性

符号長の読み取りは一回ごとに符号長が一つ以上増え、記号の数を燃料にする。
-/

namespace DropletVision.Webp

open Codec

/-- 誤りの文言に使う形式の名前。 -/
def formatName : String := "WebP"

/-- 形式の誤り。 -/
def formatError (detail : String) : ImageError := .decoding formatName detail

/-- ビットが足りない。 -/
def truncated : ImageError := formatError "unexpected end of bit stream"

/-- `n` ビットを読む。足りなければ誤り。 -/
def readBits (s : BitStream) (n : Nat) : Except ImageError (Nat × BitStream) :=
  match s.bits? n with
  | some r => .ok r
  | none => .error truncated

/-- 前置符号。 -/
inductive PrefixCode where
  /-- 記号一つ。読むビットは無い。 -/
  | single (symbol : Nat)
  /-- 簡単な符号の記号二つ。一ビット読み、0 なら先に書かれた記号、1 なら後の記号（同じ記号でもよい）。 -/
  | pair (first second : Nat)
  /-- 二つ以上の記号の正規ハフマン符号。 -/
  | tree (code : Huffman)

instance : Inhabited PrefixCode := ⟨.single 0⟩

/-- 符号長が符号の空間をちょうど埋めるか。 -/
def complete (lengths : Array Nat) : Bool :=
  lengths.foldl (fun acc l => if l == 0 then acc else acc + Nat.pow 2 (maxCodeLength - l)) 0 ==
    Nat.pow 2 maxCodeLength

/-- 記号ごとの符号長から前置符号を作る。 -/
def PrefixCode.ofLengths (lengths : Array Nat) : Except ImageError PrefixCode :=
  match (List.range lengths.size).filter (fun i => lengths[i]?.getD 0 != 0) with
  | [] => .error (formatError "prefix code without symbols")
  | [s] => .ok (.single s)
  | _ =>
    if !complete lengths then .error (formatError "incomplete prefix code")
    else match Huffman.build lengths with
      | some h => .ok (.tree h)
      | none => .error (formatError "invalid prefix code")

/-- 記号を一つ読む。 -/
def PrefixCode.read (c : PrefixCode) (s : BitStream) : Except ImageError (Nat × BitStream) :=
  match c with
  | .single symbol => .ok (symbol, s)
  | .pair first second => do
    let (bit, s) ← readBits s 1
    pure (if bit == 0 then first else second, s)
  | .tree h =>
    match h.decode? s with
    | some r => .ok r
    | none => .error (formatError "invalid prefix code")

/-- 符号長の符号の記号が書かれる順。 -/
def codeLengthOrder : List Nat := [17, 18, 0, 1, 2, 3, 4, 5, 16, 6, 7, 8, 9, 10, 11, 12, 13, 14, 15]

/-- 符号長を読む。`left` は読める符号長の記号の残り、`prev` は直前の 0 でない長さ。 -/
def readLengths (lengthCode : PrefixCode) (alphabet : Nat) :
    Nat → Nat → Nat → Array Nat → BitStream → Except ImageError (Array Nat × BitStream)
  | 0, _, _, acc, s => .ok (acc, s)
  | fuel + 1, left, prev, acc, s =>
    if acc.size ≥ alphabet || left == 0 then .ok (acc, s)
    else do
      let (sym, s) ← lengthCode.read s
      if sym < 16 then
        readLengths lengthCode alphabet fuel (left - 1) (if sym != 0 then sym else prev) (acc.push sym) s
      else
        let (extra, offset) := if sym == 16 then (2, 3) else if sym == 17 then (3, 3) else (7, 11)
        let (n, s) ← readBits s extra
        let times := n + offset
        if acc.size + times > alphabet then throw (formatError "too many code lengths")
        let value := if sym == 16 then prev else 0
        readLengths lengthCode alphabet fuel (left - 1) prev (acc ++ Array.replicate times value) s

/-- 記号 `alphabet` 個の前置符号を読む。 -/
def readPrefixCode (alphabet : Nat) (s : BitStream) : Except ImageError (PrefixCode × BitStream) := do
  let (simple, s) ← readBits s 1
  if simple == 1 then
    let (count, s) ← readBits s 1
    let (wide, s) ← readBits s 1
    let (first, s) ← readBits s (if wide == 1 then 8 else 1)
    if first ≥ alphabet then throw (formatError "symbol outside the alphabet")
    if count == 0 then return (.single first, s)
    let (second, s) ← readBits s 8
    if second ≥ alphabet then throw (formatError "symbol outside the alphabet")
    pure (.pair first second, s)
  else
    let (n, s) ← readBits s 4
    let (lens, s) ← (codeLengthOrder.take (n + 4)).foldlM
      (fun (st : Array Nat × BitStream) sym => do
        let (l, s) ← readBits st.2 3
        pure (st.1.setIfInBounds sym l, s)) (Array.replicate 19 0, s)
    let lengthCode ← PrefixCode.ofLengths lens
    let (limited, s) ← readBits s 1
    let (maxSymbol, s) ← if limited == 1 then do
        let (k, s) ← readBits s 3
        let (m, s) ← readBits s (2 + 2 * k)
        if m + 2 > alphabet then throw (formatError "too many code lengths")
        pure (m + 2, s)
      else pure (alphabet, s)
    let (lengths, s) ← readLengths lengthCode alphabet (alphabet + 1) maxSymbol 8 #[] s
    let code ← PrefixCode.ofLengths (lengths ++ Array.replicate (alphabet - lengths.size) 0)
    pure (code, s)

end DropletVision.Webp
