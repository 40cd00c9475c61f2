import DropletVision.FileTree
import DropletVision.Diagnostic
import DropletVision.Log.Timing

/-!
# コンソールと失敗

コマンドの実行は、ファイルの木を読み書きしながら標準出力へ行を書き、
失敗すればそこで止まる。

* 標準出力の行は、ふつうの文・記録の行・処理速度の行・段階の所要時間の行のどれか。
  時刻と所要時間は実行のたびに違うので、文字にするのは外側の層に任せる。
* 記録の行は、重さが表示の下限（ふつうは `warn`、`-v` なら `debug`）以上のものだけを書く。
* 失敗は一行目の文と原因の列。標準エラーには `Error: 文` と書き、原因があれば空行の後に
  `Caused by:` と、一つなら字下げ 4 で、二つ以上なら `0: …`、`1: …` と番号を付けて並べる。
-/

namespace DropletVision.Cli

/-- 標準出力の一行。 -/
inductive OutputLine where
  /-- ふつうの文（改行を含んでもよい）。 -/
  | text (s : String)
  /-- 記録の行（時刻は外側が付ける）。 -/
  | log (d : Diagnostic)
  /-- 処理した枚数からの処理速度の行。 -/
  | throughput (frames : Nat)
  /-- 段階の所要時間の行。 -/
  | stageTiming (stage : String) (s : StageSummary)

/-- 幅 5 に右寄せするための空白。 -/
def spacesBefore (n : String) : String := String.ofList (List.replicate (5 - n.length) ' ')

/-- 失敗：文と原因の列。 -/
structure Failure where
  message : String
  causes : List String := []

namespace Failure

/-- 検出の誤りそのもの。 -/
def ofError (e : DetectorError) : Failure := ⟨e.message, e.causes⟩

/-- 文脈の文を添えた検出の誤り。 -/
def withContext (context : String) (e : DetectorError) : Failure := ⟨context, e.message :: e.causes⟩

/-- 原因の文の字下げ。一行目は `head` の後に、二行目からは `indent` の後に書く。 -/
def indentCause (head indent : String) (c : String) : String :=
  head ++ ("\n" ++ indent).intercalate (c.splitOn "\n")

/-- 標準エラーへの報告（改行で終わる）。原因が複数行なら、続きの行も同じ幅だけ字下げする。 -/
def render (f : Failure) : String :=
  "Error: " ++ f.message ++
    (match f.causes with
      | [] => ""
      | [c] => "\n\nCaused by:\n" ++ indentCause "    " "    " c
      | cs => "\n\nCaused by:" ++ String.join (cs.zipIdx.map (fun (c, i) =>
          let n := toString i
          "\n" ++ indentCause (spacesBefore n ++ n ++ ": ") "       " c))) ++ "\n"

end Failure

/-- 実行中のコンソール：ファイルの木、書いた行、記録の表示の下限。 -/
structure Console where
  files : FileTree
  lines : Array OutputLine := #[]
  level : Severity := .warn

/-- コマンドの実行。失敗しても、それまでに書いた行とファイルは残る。 -/
abbrev CliM := ExceptT Failure (StateM Console)

namespace CliM

/-- 一行書く。 -/
def say (s : String) : CliM Unit :=
  modify fun c => { c with lines := c.lines.push (.text s) }

/-- 行を書く。 -/
def emit (l : OutputLine) : CliM Unit :=
  modify fun c => { c with lines := c.lines.push l }

/-- 記録を書く（表示の下限より軽いものは捨てる）。 -/
def note (ds : List Diagnostic) : CliM Unit :=
  modify fun c => { c with lines := c.lines ++ (ds.filter (·.shownAt c.level)).toArray.map .log }

/-- ファイルの木。 -/
def files : CliM FileTree := do pure (← get).files

/-- ファイルの木を置き換える。 -/
def setFiles (t : FileTree) : CliM Unit :=
  modify fun c => { c with files := t }

/-- 失敗する。 -/
def fail {α : Type} (f : Failure) : CliM α := throw f

/-- 検出の結果を取り出す。誤りならそのまま失敗する。 -/
def check {α : Type} (o : Outcome α) : CliM α :=
  match o with
  | .ok a => pure a
  | .error e => throw (.ofError e)

/-- 検出の結果を取り出す。誤りなら文脈の文を添えて失敗する。 -/
def checkIn {α : Type} (context : String) (o : Outcome α) : CliM α :=
  match o with
  | .ok a => pure a
  | .error e => throw (.withContext context e)

end CliM

end DropletVision.Cli
