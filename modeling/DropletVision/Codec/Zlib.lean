import DropletVision.Codec.Checksum
import DropletVision.Codec.Inflate

/-!
# zlib の包み

DEFLATE のデータを、二バイトの見出しと Adler-32 の検査和で包んだもの。

* `unwrap` — 見出し（圧縮方式 8、窓 32 KiB 以下、`(CMF · 256 + FLG)` が 31 の倍数、
  辞書なし）を確かめて展開する。検査和は確かめない。
* `unwrapPartial` — 壊れたところの手前まで展開し、揃った検査和が合わないことも知らせる。
* `wrapStored` — 圧縮せず、65535 バイトずつの「そのまま」のブロックで包む。
-/

namespace DropletVision.Codec

/-- 見出しの二バイトが正しいか。 -/
def validHeader (b : ByteArray) : Bool :=
  let cmf := (b[0]?.getD 0).toNat
  let flg := (b[1]?.getD 0).toNat
  b.size ≥ 2 && cmf % 16 == 8 && cmf / 16 ≤ 7 && (cmf * 256 + flg) % 31 == 0 && flg &&& 0x20 == 0

/-- zlib のデータを展開する。 -/
def unwrap (b : ByteArray) : Option ByteArray := do
  if !validHeader b then none
  let (out, _) ← inflate b 2
  pure out

/-- 壊れたところの手前まで展開した結果。 -/
structure Unwrapped where
  output : ByteArray
  /-- 最後のブロックの後に検査和が四バイト揃っていて、出力と合わない。 -/
  badChecksum : Bool

/-- zlib のデータを壊れたところの手前まで展開する。見出しが正しくなければ `none`。 -/
def unwrapPartial (b : ByteArray) : Option Unwrapped :=
  if !validHeader b then none
  else
    let r := inflatePartial b 2
    match r.finish with
    | some stop =>
      let bad := stop + 4 ≤ b.size &&
        (List.range 4).foldl (fun acc k => acc * 256 + (b[stop + k]?.getD 0).toNat) 0 !=
          (adler32 r.output).toNat
      some ⟨r.output, bad⟩
    | none => some ⟨r.output, false⟩

/-- 32 ビットの値の大きい桁からの四バイト。 -/
def bigEndian32 (v : Nat) : ByteArray :=
  ⟨#[(v / 16777216 % 256).toUInt8, (v / 65536 % 256).toUInt8, (v / 256 % 256).toUInt8,
    (v % 256).toUInt8]⟩

/-- そのままのブロックの最大の長さ。 -/
def storedBlockLimit : Nat := 65535

/-- 圧縮せずに zlib の形で包む。 -/
def wrapStored (data : ByteArray) : ByteArray :=
  let count := max 1 ((data.size + storedBlockLimit - 1) / storedBlockLimit)
  let blocks := (List.range count).foldl (fun out k =>
    let start := k * storedBlockLimit
    let len := min storedBlockLimit (data.size - start)
    let last : UInt8 := if k + 1 == count then 1 else 0
    (out.push last |>.push (len % 256).toUInt8 |>.push (len / 256).toUInt8
      |>.push ((65535 - len) % 256).toUInt8 |>.push ((65535 - len) / 256).toUInt8)
      ++ data.extract start (start + len)) (ByteArray.empty.push 0x78 |>.push 0x01)
  blocks ++ bigEndian32 (adler32 data).toNat

end DropletVision.Codec
