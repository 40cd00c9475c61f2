import DropletVision.Ser.Header
import DropletVision.Frame

/-!
# SER の書き出し

8 ビットの画像を SER の記録として書く。

* 最初に枚数 0 の見出しを書き、画像を書くたびにデータを足す。
* 画像の形は白黒・ベイヤーなら `(高さ, 幅)`、RGB・BGR なら `(高さ, 幅, 3)` でなければならない。
  BGR は各画素の標本を逆順に書く。
* 閉じるとき、すべての画像に時刻があれば 8 バイトずつ書き足し、見出しの枚数を書き直す。
-/

namespace DropletVision

/-- 書きかけの SER の記録。 -/
structure SerWriter where
  header : SerHeader
  /-- 見出しの後に書いたバイト列。 -/
  body : ByteArray
  timestamps : Array Nat

namespace SerWriter

/-- 新しい記録を始める。 -/
def create (width height : Nat) (color : SerColor) : SerWriter :=
  ⟨SerHeader.new8bit width height color 0, .empty, #[]⟩

/-- 書いた枚数。 -/
def framesWritten (w : SerWriter) : Nat := w.header.frameCount

/-- 形が合わない画像を断る文言。 -/
def shapeMismatch (expected got : List Nat) : String :=
  let want := Frame.showShape expected
  let got := Frame.showShape got
  s!"expected shape {want} for this recording, got {got}"

/-- 一枚の画像として書くバイト列。BGR は各画素の標本を逆順に並べる。 -/
def frameBytes (color : SerColor) (f : Frame) : ByteArray :=
  if color == .bgr then
    ByteArray.mk ((Array.range f.data.size).map (fun i =>
      let ch := i % 3
      f.byte (i - ch + (2 - ch))))
  else f.data

/-- 画像を一枚書く。 -/
def writeFrame (w : SerWriter) (f : Frame) : Outcome SerWriter := do
  let h := w.header
  if f.shape != h.frameShape then throw (.invalidFrame (shapeMismatch h.frameShape f.shape))
  pure { header := { h with frameCount := h.frameCount + 1 },
         body := w.body ++ frameBytes h.color f,
         timestamps := match f.timestampUs with
           | some ts => w.timestamps.push ts
           | none => w.timestamps }

/-- データの後の時刻の並び。すべての画像に時刻があるときだけ、8 バイトずつ書く。 -/
def trailer (w : SerWriter) : ByteArray :=
  if !w.timestamps.isEmpty && w.timestamps.size == w.header.frameCount then
    w.timestamps.foldl (fun acc (ts : Nat) => acc ++ leBytes ts 8) ByteArray.empty
  else .empty

/-- 閉じて記録のバイト列を返す。 -/
def finalize (w : SerWriter) : ByteArray :=
  w.header.toBytes ++ w.body ++ w.trailer

end SerWriter

end DropletVision
