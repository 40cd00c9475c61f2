/-!
# 検査和

* `crc32` — 多項式 `0xEDB88320`（反転表現）の CRC-32。初期値と最後の反転は `0xFFFFFFFF`。
* `adler32` — 二つの和（法 65521）を上下に並べた Adler-32。

## 仕組み

CRC-32 はバイトごとに 256 項目の表を引く。表は多項式から一度だけ作る。
-/

namespace DropletVision.Codec

/-- 一バイト分の CRC の表の項目。 -/
def crcEntry (n : Nat) : UInt32 :=
  (List.range 8).foldl (fun (c : UInt32) _ =>
    if c &&& 1 == 1 then (0xEDB88320 : UInt32) ^^^ (c >>> 1) else c >>> 1) n.toUInt32

/-- CRC-32 の表。 -/
def crcTable : Array UInt32 := (Array.range 256).map crcEntry

/-- 途中の値 `c` にバイト列を足し込む（反転は呼び出し側）。 -/
def crcUpdate (c : UInt32) (b : ByteArray) : UInt32 :=
  b.foldl (fun c x => (crcTable[((c ^^^ x.toUInt32) &&& 0xFF).toNat]?).getD 0 ^^^ (c >>> 8)) c

/-- CRC-32。 -/
def crc32 (b : ByteArray) : UInt32 := crcUpdate 0xFFFFFFFF b ^^^ 0xFFFFFFFF

/-- Adler-32 の法。 -/
def adlerModulus : Nat := 65521

/-- Adler-32。 -/
def adler32 (b : ByteArray) : UInt32 :=
  let (a, s) := b.foldl (fun (a, s) x =>
    let a := (a + x.toNat) % adlerModulus
    (a, (s + a) % adlerModulus)) (1, 0)
  (s * 65536 + a).toUInt32

end DropletVision.Codec
