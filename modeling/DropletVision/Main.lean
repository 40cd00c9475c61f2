import DropletVision.Cli.Execute
import DropletVision.Cli.Clock
import Std.Time.DateTime.Timestamp

/-!
# `droplet` のコマンドライン

作業ディレクトリの下のファイルを木に読み込み、`execute` で実行し、変わったファイルを書き戻して、
標準出力と標準エラーに書く。時刻と処理速度はここで時計を読んで決める。
-/

namespace DropletVision.Cli

/-- 作業ディレクトリの下（`rel` の中、深さ `depth` まで）を木に読み込む。 -/
partial def gatherTree (rel : String) (depth : Nat) (t : FileTree) : IO FileTree := do
  let here := (← IO.currentDir) / rel
  let mut t := t
  for e in ← here.readDir do
    let name := if rel.isEmpty then e.fileName else rel ++ "/" ++ e.fileName
    if ← e.path.isDir then
      t := (t.createDirAll name).toOption.getD t
      if depth > 0 then t ← gatherTree name (depth - 1) t
    else
      try
        let bytes ← IO.FS.readBinFile e.path
        t := (t.writeFile name bytes).toOption.getD t
      catch _ => pure ()
  return t

/-- 実行で作られたか変わったファイルとディレクトリを書き戻す。 -/
def writeBack (before after : FileTree) : IO Unit := do
  for (p, n) in after.nodes do
    let path := "/".intercalate p
    match n, before.node? p with
    | .dir, some .dir => pure ()
    | .dir, _ => IO.FS.createDirAll path
    | .file b, some (.file old) => unless old.data == b.data do IO.FS.writeBinFile path b
    | .file b, _ => IO.FS.writeBinFile path b

end DropletVision.Cli

open DropletVision.Cli in
/-- コマンドラインの入口。 -/
def main (args : List String) : IO UInt32 := do
  let before ← gatherTree "" 16 {}
  let started ← IO.monoNanosNow
  let (r, after) := execute args before
  let elapsed := (← IO.monoNanosNow) - started
  writeBack before after
  let now ← Std.Time.Timestamp.now
  let stamp := utcStamp now.toNanosecondsSinceUnixEpoch.val
  (← IO.getStdout).putStr (r.stdoutText (OutputLine.render stamp (elapsed.toFloat / 1e9)))
  (← IO.getStderr).putStr r.stderr
  return r.code.toUInt32
