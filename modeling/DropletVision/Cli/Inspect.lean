import DropletVision.Cli.Console
import DropletVision.Cli.Invocation
import DropletVision.Ser.Reader
import DropletVision.Decimal.Text
import DropletVision.Numeric

/-!
# SER の記録の説明（`info`）

記録を開いて、ファイル名・枚数・大きさ・深さ・色の形式と、空でなければ観測者・望遠鏡・
装置を一行ずつ書く。続いてデータの大きさ（`一枚のバイト数 × 枚数` を MiB で小数点以下一桁）。

二枚以上あれば、最初と最後の画像の時刻（マイクロ秒）から長さ（秒、二桁）と
毎秒の枚数（`(枚数 - 1) / 長さ`、一桁）を書く。長さが 0 なら倍精度の最小の差で割る。
どちらかの時刻が無ければ書かない。

開けなければ `Failed to open パス` で失敗する。
-/

namespace DropletVision.Cli

open CliM

/-- `info` を実行する。 -/
def describeRecording (a : InfoArgs) : CliM Unit := do
  let r ← checkIn ("Failed to open " ++ a.file) (SerReader.load (← files) a.file)
  let h := r.header
  say ("File:        " ++ a.file)
  say ("Frames:      " ++ toString r.frameCount)
  say ("Dimensions:  " ++ toString h.width ++ "x" ++ toString h.height)
  say ("Bit depth:   " ++ toString h.pixelDepth)
  say ("Color mode:  " ++ h.color.label)
  unless h.observer.isEmpty do say ("Observer:    " ++ h.observer)
  unless h.telescope.isEmpty do say ("Telescope:   " ++ h.telescope)
  unless h.instrument.isEmpty do say ("Instrument:  " ++ h.instrument)
  let total := (h.frameByteSize.getD 0 * r.frameCount).toFloat / (1024.0 * 1024.0)
  say ("Data size:   " ++ Decimal.fixedDouble 1 total ++ " MB")
  if r.frameCount > 1 then
    let first ← check (r.readFrame 0)
    let last ← check (r.readFrame (r.frameCount - 1))
    match first.timestampUs, last.timestampUs with
    | some t0, some t1 =>
      let span := (t1 - t0).toFloat / 1e6
      let fps := (r.frameCount - 1).toFloat / Float.maxNum span 2.220446049250313e-16
      say ("Duration:    " ++ Decimal.fixedDouble 2 span ++ " s (" ++ Decimal.fixedDouble 1 fps ++ " fps)")
    | _, _ => pure ()

end DropletVision.Cli
