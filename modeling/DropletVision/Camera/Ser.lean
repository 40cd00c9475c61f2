import DropletVision.Ser.Reader
import DropletVision.Roi
import DropletVision.FileTree
import DropletVision.Config.Basic
import DropletVision.Diagnostic

/-!
# SER の記録を流すカメラ

SER の記録を先頭から一枚ずつ取り込む。

* 記録が尽きたら、繰り返しの指定があれば先頭に戻り、なければ取り込みは終わる
  （枚数 0 の記録は繰り返しでも終わる）。
* 繰り返すときは枚数を持たない。
* 開くときはファイルを読んで見出しを確かめる。ディレクトリは対応する装置の無い誤り。
-/

namespace DropletVision

/-- SER の記録のカメラ。`cursor` は次に読む番号。 -/
structure SerCamera where
  path : String
  reader : SerReader
  roi : Option Roi := none
  calibration : Option Calibration := none
  cursor : Nat := 0
  looping : Bool := false

namespace SerCamera

/-- ファイルの木の上の記録を開く。開いたことの記録も返す。 -/
def load (t : FileTree) (path : String) : Outcome (SerCamera × Diagnostic) := do
  let reader ← SerReader.load t path
  let note : Diagnostic := ⟨.debug, "droplet_core::camera::ser", "Opened SER recording",
    [("path", path), ("frames", toString reader.frameCount), ("width", toString reader.width),
      ("height", toString reader.height)]⟩
  pure ({ path, reader }, note)

/-- 先頭に戻す。 -/
def rewind (c : SerCamera) : SerCamera := { c with cursor := 0 }

/-- 次の一枚。尽きていれば `none`。 -/
def capture (c : SerCamera) : Outcome (Option Frame) × SerCamera :=
  let total := c.reader.frameCount
  let c := if c.cursor ≥ total && c.looping && total != 0 then c.rewind else c
  if c.cursor ≥ total then (.ok none, c)
  else
    match c.reader.readFrame c.cursor with
    | .ok f => (.ok (some f), { c with cursor := c.cursor + 1 })
    | .error e => (.error e, c)

/-- 枚数（繰り返すときは無い）。 -/
def frameCount (c : SerCamera) : Option Nat := if c.looping then none else some c.reader.frameCount

end SerCamera

end DropletVision
