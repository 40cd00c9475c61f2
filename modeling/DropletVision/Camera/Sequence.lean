import DropletVision.Image.File
import DropletVision.Roi
import DropletVision.Config.Basic
import DropletVision.Diagnostic

/-!
# 画像の並びのカメラ

ディレクトリの中の画像ファイルを、ファイル名の順に一枚ずつ取り込む。

* 開くときは直下のファイルのうち画像の拡張子を持つものを名前の順に並べ、最初の画像を読んで
  センサーの大きさ（幅・高さ）を決める。画像が一つも無ければフレームの誤り。
* 取り込むたびにその番号のファイルを読む。読めなければ誤り（番号は進む）。
  大きさが最初の画像と違えば警告を残す。
-/

namespace DropletVision

/-- 画像の並びのカメラ。`source` は画像を読むファイルの木。 -/
structure ImageSequenceCamera where
  files : List String
  sensor : Nat × Nat
  source : FileTree
  roi : Option Roi := none
  calibration : Option Calibration := none
  cursor : Nat := 0

namespace ImageSequenceCamera

/-- 記録の出どころ。 -/
def target : String := "droplet_core::camera::image_seq"

/-- ファイルの列から作る。開いたことの記録も返す。 -/
def ofFiles (t : FileTree) (files : List String) : Outcome (ImageSequenceCamera × Diagnostic) := do
  let first ← match files.head? with
    | some f => pure f
    | none => throw (.invalidFrame "image sequence contains no images")
  let img ← loadImage t first
  let sensor := (img.width, img.height)
  let note : Diagnostic := ⟨.debug, target, "Opened image sequence",
    [("images", toString files.length), ("width", toString sensor.1), ("height", toString sensor.2)]⟩
  pure ({ files, sensor, source := t }, note)

/-- ディレクトリの画像から作る。 -/
def openDir (t : FileTree) (dir : String) : Outcome (ImageSequenceCamera × Diagnostic) := do
  let names ← (t.readDir dir).mapError .io
  let paths := names.map (FileTree.join dir)
  ofFiles t (paths.filter (fun p => t.isFile p && hasImageExtension p))

/-- 次の一枚と、大きさが違うときの警告。 -/
def capture (c : ImageSequenceCamera) :
    Outcome (Option Frame) × ImageSequenceCamera × List Diagnostic :=
  match c.files[c.cursor]? with
  | none => (.ok none, c, [])
  | some path =>
    let index := c.cursor
    let c := { c with cursor := c.cursor + 1 }
    match loadImage c.source path with
    | .error e => (.error e, c, [])
    | .ok img =>
      let frame := { img with index }
      let notes := if (frame.width, frame.height) != c.sensor then
          [⟨.warn, target, "Image size differs from the first image in the sequence",
            [("path", path), ("width", toString frame.width), ("height", toString frame.height)]⟩]
        else []
      (.ok (some frame), c, notes)

end ImageSequenceCamera

end DropletVision
