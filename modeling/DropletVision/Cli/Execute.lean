import DropletVision.Cli.Detect
import DropletVision.Cli.Inspect
import DropletVision.Cli.Render
import DropletVision.Cli.Preset

/-!
# `droplet` の一回の実行

引数の列とファイルの木から、標準出力の行・標準エラーの文・終了コードと、実行後のファイルの木を決める。

* ヘルプと版は標準出力に書いて 0。
* 引数が一つも無ければヘルプを標準エラーに書いて 2。使い方の誤りも標準エラーに書いて 2。
* コマンドが失敗すれば、それまでの出力とファイルを残し、失敗の報告を標準エラーに書いて 1。
* 記録の行は、`-v` があれば `debug` まで、無ければ `warn` まで書く。
-/

namespace DropletVision.Cli

/-- 一回の実行の結果。 -/
structure Transcript where
  stdout : List OutputLine := []
  stderr : String := ""
  code : Nat := 0

/-- 標準出力の全文。`render` が一行ずつ文字にする。 -/
def Transcript.stdoutText (t : Transcript) (render : OutputLine → String) : String :=
  String.join (t.stdout.map (fun l => render l ++ "\n"))

/-- サブコマンドを実行する。 -/
def Command.perform : Command → CliM Unit
  | .run a => detectDroplets a
  | .config a => showPreset a
  | .info a => describeRecording a
  | .simulate a => simulateRecording a

/-- 引数の列（プログラム名を除く）でコマンドを実行する。 -/
def execute (args : List String) (t : FileTree) : Transcript × FileTree :=
  match Invocation.parse args with
  | .error (.help c) => ({ stdout := [.text c.helpBody] }, t)
  | .error .version => ({ stdout := [.text versionLine] }, t)
  | .error (.bareHelp c) => ({ stderr := c.helpBody ++ "\n", code := 2 }, t)
  | .error (.error e) => ({ stderr := e.render, code := 2 }, t)
  | .ok inv =>
    let start : Console := { files := t, level := if inv.verbose then .debug else .warn }
    let (r, c) := (inv.command.perform.run).run start
    match r with
    | .ok () => ({ stdout := c.lines.toList }, c.files)
    | .error f => ({ stdout := c.lines.toList, stderr := f.render, code := 1 }, c.files)

end DropletVision.Cli
