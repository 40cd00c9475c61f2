import DropletVision.Frame

/-!
# farbfeld

farbfeld のファイルを RGB のフレーム `[h, w, 3]` に復号する。

* 先頭の 8 バイトは `farbfeld`、続いて幅と高さ（32 ビット、大きい桁から）。
* 画素は赤・緑・青・透明度の 16 ビット（大きい桁から）。8 ビットには `(v + 128) / 257` で丸め、
  透明度は捨てる。
* 書き出しは 16 ビットの RGBA だけが対象なので、白黒と RGB のフレームは書けない。
-/

namespace DropletVision.Farbfeld

/-- 誤りの文言に使う形式の名前。 -/
def formatName : String := "Farbfeld"

/-- 大きい桁からの `n` バイト。 -/
def be (b : ByteArray) (i n : Nat) : Nat :=
  (List.range n).foldl (fun acc k => acc * 256 + (b[i + k]?.getD 0).toNat) 0

/-- 復号に使える大きさの上限（バイト）。 -/
def memoryLimit : Nat := 512 * 1024 * 1024

/-- farbfeld のバイト列を復号する。 -/
def decode (b : ByteArray) : Except ImageError Frame := do
  if b.size < 8 then throw (.decoding formatName "failed to fill whole buffer")
  if b.extract 0 8 != "farbfeld".toUTF8 then throw (.decoding formatName "Invalid magic")
  if b.size < 16 then throw (.decoding formatName "failed to fill whole buffer")
  let w := be b 8 4
  let h := be b 12 4
  if w * h * 8 > memoryLimit then throw .memoryLimit
  if b.size < 16 + w * h * 8 then throw (.io (.other "failed to fill whole buffer"))
  let out := (Array.range (w * h * 3)).map (fun j =>
    let v := be b (16 + (j / 3) * 8 + (j % 3) * 2) 2
    ((v + 128) / 257).toUInt8)
  pure ⟨[h, w, 3], ⟨out⟩, 0, none⟩

end DropletVision.Farbfeld
