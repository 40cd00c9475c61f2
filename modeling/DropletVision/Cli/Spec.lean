/-!
# コマンドラインの宣言

`droplet` の四つのサブコマンド（`run`、`config`、`info`、`simulate`）と、それぞれのオプション・
位置引数の宣言、そこから作る使い方とヘルプの文。

* オプションは長い名前（`--frames`）と、あれば短い名前（`-o`）を持つ。値をとるものは値の名前
  （`<FRAMES>`、フィールド名の大文字）を添えて書く。値をとらないものは旗。
* `-v, --verbose` はどのサブコマンドにも付き、`-h, --help` は最後に付く。
  `-V, --version` は一番上のコマンドだけ。
* 表示の順は宣言の順。同じ順位のものは、短い名前があれば「小文字の文字 + 大文字なら `1`、小文字なら `0`」、
  無ければ長い名前で並べる（`--verbose` は順位 0 で `v0`）。
* ヘルプは「説明、空行、`Usage: …`、空行、`Arguments:` の節、空行、`Options:` の節」。
  各節は名前の列の幅をそろえ、二つの空白をあけて説明を書く。
  ただし節の中に、列の幅 + 4 が 100 の 4 割を超え、説明（既定値の注記を含む）が残りの幅に
  収まらない行が一つでもあれば、その節は説明を次の行に字下げ 10 で書く。長い説明は折り返さない。

## 仕組み

使い方は二通り。ふつうは「`droplet <サブコマンド> [OPTIONS]` と位置引数」。誤りの報告では、
使われた引数と必須の引数だけを並べた短い使い方も使う。
-/

namespace DropletVision.Cli

/-- オプションの値の読み方。 -/
inductive ValueKind where
  /-- 非負の整数。 -/
  | count
  /-- 0 から 255 の整数。 -/
  | byte
  /-- 64 ビットの非負の整数。 -/
  | seed
  /-- 倍精度の数。 -/
  | real
  /-- 任意の文字列。 -/
  | text
  /-- 空でないパス。 -/
  | path
  /-- 関心領域 `x,y,width,height`。 -/
  | region
  deriving BEq, Inhabited

/-- オプションの宣言。`value` が無ければ値をとらない旗。 -/
structure OptionSpec where
  id : String
  long : String
  short : Option Char := none
  value : Option ValueKind := none
  doc : String
  default : Option String := none
  /-- 表示の順位。 -/
  order : Nat
  deriving Inhabited

/-- 位置引数の宣言。 -/
structure PositionalSpec where
  id : String
  required : Bool
  doc : String
  deriving Inhabited

/-- コマンドの宣言。`name` は使い方に出す名前（`droplet run` など）。 -/
structure CommandSpec where
  name : String
  about : String
  options : List OptionSpec
  positionals : List PositionalSpec := []
  /-- サブコマンドの名前と説明。 -/
  subcommands : List (String × String) := []
  /-- コマンド自身が宣言する引数の名前（宣言の順）。全体に付くものとヘルプ・版は含まない。 -/
  members : List String := []
  deriving Inhabited

namespace OptionSpec

/-- 値の名前（フィールド名の大文字）。 -/
def valueName (o : OptionSpec) : String := o.id.toUpper

/-- 引数としての表示（`--frames <FRAMES>`、`--json`）。 -/
def display (o : OptionSpec) : String :=
  "--" ++ o.long ++ (if o.value.isSome then " <" ++ o.valueName ++ ">" else "")

/-- 並べるときの鍵。 -/
def sortKey (o : OptionSpec) : String :=
  match o.short with
  | some c => String.ofList [c.toLower, if c.isLower then '0' else '1']
  | none => o.long

/-- 表示の順で前にあるか。 -/
def before (a b : OptionSpec) : Bool :=
  a.order < b.order || (a.order == b.order && decide (a.sortKey ≤ b.sortKey))

/-- 既定値の注記。 -/
def note (o : OptionSpec) : String :=
  match o.default with
  | some d => "[default: " ++ d ++ "]"
  | none => ""

end OptionSpec

/-- 位置引数の表示（必須なら `<FILE>`、省けるなら `[INPUT]`）。 -/
def PositionalSpec.display (p : PositionalSpec) : String :=
  if p.required then "<" ++ p.id.toUpper ++ ">" else "[" ++ p.id.toUpper ++ "]"

/-- 全体に付くオプション。 -/
def verboseOption : OptionSpec :=
  { id := "verbose", long := "verbose", short := some 'v', doc := "Enable verbose output", order := 0 }

/-- ヘルプのオプション（最後に並ぶ）。 -/
def helpOption : OptionSpec :=
  { id := "help", long := "help", short := some 'h', doc := "Print help", order := 1000 }

/-- 版のオプション。 -/
def versionOption : OptionSpec :=
  { id := "version", long := "version", short := some 'V', doc := "Print version", order := 1001 }

/-- 版の表示。 -/
def versionLine : String := "droplet 0.1.0"

/-- 宣言の順に順位を振る。 -/
def numbered (os : List OptionSpec) : List OptionSpec :=
  (os.zip (List.range os.length)).map (fun (o, i) => { o with order := i })

/-- `run` の宣言。 -/
def runSpec : CommandSpec where
  name := "droplet run"
  about := "Detect droplets from a synthetic, SER or image-sequence source"
  positionals := [⟨"input", false, "SER file or image directory; a synthetic channel when omitted"⟩]
  options := numbered [
    { id := "profile", long := "profile", value := some .path, order := 0,
      doc := "Detection profile (JSON or TOML, flat or nested)" },
    { id := "preset", long := "preset", value := some .text, default := some "default", order := 0,
      doc := "Built-in preset, used when no profile is given" },
    { id := "frames", long := "frames", value := some .count, default := some "300", order := 0,
      doc := "Number of frames to process" },
    { id := "roi", long := "roi", value := some .region, order := 0,
      doc := "Region of interest as x,y,width,height (defaults: channel for the synthetic source, full sensor otherwise)" },
    { id := "looping", long := "loop", order := 0,
      doc := "Replay a SER file from the start when it runs out" },
    { id := "um_per_px", long := "um-per-px", value := some .real, order := 0,
      doc := "Micrometres per pixel" },
    { id := "radius_offset", long := "radius-offset", value := some .real, order := 0,
      doc := "Radius correction in pixels added to every droplet" },
    { id := "accept_entering", long := "accept-entering", order := 0,
      doc := "Also count droplets entering the view while others are tracked" },
    { id := "realtime", long := "realtime", order := 0,
      doc := "Push frames at source speed; the queue drops the oldest when the detector falls behind" },
    { id := "export", long := "export", value := some .path, order := 0,
      doc := "Export raw measurements (format from the extension: .csv or .txt)" },
    { id := "save_profile", long := "save-profile", value := some .path, order := 0,
      doc := "Save the active profile after the run" },
    { id := "nested", long := "nested", order := 0,
      doc := "Save the profile in the nested `droplet_detection` layout" },
    { id := "json", long := "json", order := 0,
      doc := "Print statistics as JSON instead of the summary" }] ++ [verboseOption, helpOption]
  members := ["input", "profile", "preset", "frames", "roi", "looping", "um_per_px", "radius_offset",
    "accept_entering", "realtime", "export", "save_profile", "nested", "json"]

/-- `config` の宣言。 -/
def configSpec : CommandSpec where
  name := "droplet config"
  about := "Print or save a detection profile"
  options := numbered [
    { id := "preset", long := "preset", value := some .text, default := some "default", order := 0,
      doc := "Built-in preset: default, small_droplets, large_droplets, high_density" },
    { id := "nested", long := "nested", order := 0,
      doc := "Write the nested `droplet_detection` layout" },
    { id := "toml", long := "toml", order := 0,
      doc := "Print TOML instead of JSON (files follow their extension)" },
    { id := "output", long := "output", short := some 'o', value := some .path, order := 0,
      doc := "Write profile to a file instead of stdout" }] ++ [verboseOption, helpOption]
  members := ["preset", "nested", "toml", "output"]

/-- `info` の宣言。 -/
def infoSpec : CommandSpec where
  name := "droplet info"
  about := "Show SER file metadata"
  positionals := [⟨"file", true, "Input SER file"⟩]
  options := [verboseOption, helpOption]
  members := ["file"]

/-- `simulate` の宣言。 -/
def simulateSpec : CommandSpec where
  name := "droplet simulate"
  about := "Render a synthetic droplet recording"
  positionals := [⟨"output", true, "Output SER file, or a directory with --png"⟩]
  options := numbered [
    { id := "frames", long := "frames", value := some .count, default := some "300", order := 0,
      doc := "Number of frames to render" },
    { id := "width", long := "width", value := some .count, default := some "640", order := 0,
      doc := "Sensor width in pixels" },
    { id := "height", long := "height", value := some .count, default := some "240", order := 0,
      doc := "Sensor height in pixels" },
    { id := "speed", long := "speed", value := some .real, default := some "6", order := 0,
      doc := "Flow speed in pixels per frame" },
    { id := "spacing", long := "spacing", value := some .real, default := some "140", order := 0,
      doc := "Distance between droplets in pixels" },
    { id := "droplet", long := "droplet", value := some .text, default := some "20,12", order := 0,
      doc := "Droplet semi-axes along and across the flow, e.g. \"20,12\"" },
    { id := "noise", long := "noise", value := some .byte, default := some "0", order := 0,
      doc := "Uniform noise amplitude in 8-bit units" },
    { id := "debris", long := "debris", value := some .count, default := some "0", order := 0,
      doc := "Number of static debris specks in the channel" },
    { id := "seed", long := "seed", value := some .seed, default := some "7", order := 0,
      doc := "Random seed" },
    { id := "png", long := "png", order := 0,
      doc := "Write a PNG sequence instead of a SER file" }] ++ [verboseOption, helpOption]
  members := ["output", "frames", "width", "height", "speed", "spacing", "droplet", "noise", "debris",
    "seed", "png"]

/-- サブコマンドの一覧の説明。 -/
def helpAbout : String := "Print this message or the help of the given subcommand(s)"

/-- 一番上のコマンドの宣言。 -/
def mainSpec : CommandSpec where
  name := "droplet"
  about := "Droplet detection for microfluidic channels"
  options := [verboseOption, { helpOption with order := 1 }, { versionOption with order := 2 }]
  subcommands := [("run", runSpec.about), ("config", configSpec.about), ("info", infoSpec.about),
    ("simulate", simulateSpec.about), ("help", helpAbout)]
  members := ["verbose"]

/-- `help` サブコマンドの宣言。 -/
def helpSpec : CommandSpec where
  name := "droplet help"
  about := helpAbout
  options := []

/-- サブコマンドの宣言。 -/
def subcommandSpec? : String → Option CommandSpec
  | "run" => some runSpec
  | "config" => some configSpec
  | "info" => some infoSpec
  | "simulate" => some simulateSpec
  | _ => none

/-- 空白 `n` 個。 -/
def spaces (n : Nat) : String := String.ofList (List.replicate n ' ')

/-- 表示の順に並べたオプション。 -/
def CommandSpec.sortedOptions (c : CommandSpec) : List OptionSpec :=
  c.options.mergeSort OptionSpec.before

/-- ふつうの使い方。 -/
def CommandSpec.usage (c : CommandSpec) : String :=
  if c.name == "droplet help" then "droplet help [COMMAND]..."
  else
    c.name ++ (if c.options.isEmpty then "" else " [OPTIONS]") ++
      String.join (c.positionals.map (" " ++ ·.display)) ++
      (if c.subcommands.isEmpty then "" else " <COMMAND>")

/-- 使い方に並べるもの：一つの引数か、コマンド自身の引数の組。 -/
inductive Mention where
  /-- 名前 `id` の引数。 -/
  | arg (id : String)
  /-- コマンド自身の引数の組。 -/
  | group
  deriving BEq, Inhabited

/-- 引数の名前（組なら無し）。 -/
def Mention.id? : Mention → Option String
  | .arg i => some i
  | .group => none

/-- コマンド自身の引数の組の表示（`<INPUT|--profile <PROFILE>|…>`）。位置引数は値の名前、
オプションは長い名前と値の名前。 -/
def CommandSpec.groupDisplay (c : CommandSpec) : String :=
  let shown := c.members.filterMap (fun m =>
    match c.positionals.find? (·.id == m) with
    | some p => some p.id.toUpper
    | none => (c.options.find? (·.id == m)).map (·.display))
  "<" ++ "|".intercalate shown ++ ">"

/-- 使われたものと必須の位置引数だけを並べた使い方。

オプションは現れた順（組に含まれるものは組の表示にまとめる）、次に組、最後に組に含まれない
位置引数を番号の順に並べる。位置引数は使われたか必須なら `<X>`、そうでなければ `[X]`。 -/
def CommandSpec.shortUsage (c : CommandSpec) (used : List Mention) : String :=
  let all := (c.positionals.filter (·.required)).map (fun p => Mention.arg p.id) ++ used
  let grouped := all.contains .group
  let inGroup (i : String) : Bool := grouped && c.members.contains i
  let ids := all.filterMap Mention.id?
  let opts := (ids.filter (fun i => !inGroup i)).eraseDups.filterMap (fun u => c.options.find? (·.id == u))
  let pos := c.positionals.filter (fun p => !inGroup p.id)
  c.name ++ String.join (opts.map (" " ++ ·.display)) ++
    (if grouped then " " ++ c.groupDisplay else "") ++
    String.join (pos.map (fun p =>
      if ids.contains p.id then " <" ++ p.id.toUpper ++ ">" else " [" ++ p.id.toUpper ++ "]")) ++
    (if c.subcommands.isEmpty then "" else " <COMMAND>")

/-- 右を空白で埋める。 -/
def padRight (s : String) (width : Nat) : String := s ++ spaces (width - s.length)

/-- ヘルプの一行：名前の列、説明、既定値の注記。 -/
structure HelpRow where
  name : String
  doc : String
  note : String := ""

/-- 説明と注記をつないだ文。 -/
def HelpRow.text (r : HelpRow) : String :=
  if r.note.isEmpty then r.doc else if r.doc.isEmpty then r.note else r.doc ++ " " ++ r.note

/-- 一つの節：名前の列と説明の列。名前の列の幅 + 4 が幅 100 の 4 割を超え、
残りの幅に収まらない説明（注記を含む、間の空白は数えない）が一つでもあれば、説明を次の行に書く。 -/
def helpSection (rows : List HelpRow) : String :=
  let longest := rows.foldl (fun m r => max m r.name.length) 2
  let taken := longest + 4
  let nextLine := rows.any (fun r =>
    taken ≤ 100 && taken * 10 > 400 && r.doc.length + r.note.length > 100 - taken)
  "\n".intercalate (rows.map (fun r =>
    if nextLine then "  " ++ r.name ++ "\n" ++ spaces 10 ++ r.text
    else "  " ++ padRight r.name longest ++ "  " ++ r.text))

/-- オプションの行。 -/
def optionRow (o : OptionSpec) : HelpRow :=
  let name := (match o.short with
    | some c => "-" ++ String.singleton c ++ ", "
    | none => "    ") ++ o.display
  ⟨name, o.doc, o.note⟩

/-- ヘルプの文（最後の改行は含まない）。 -/
def CommandSpec.helpBody (c : CommandSpec) : String :=
  let args := if c.name == "droplet help" then
      ["Arguments:\n" ++ helpSection [⟨"[COMMAND]...", "Print help for the subcommand(s)", ""⟩]]
    else if c.positionals.isEmpty then []
    else ["Arguments:\n" ++ helpSection (c.positionals.map (fun p => ⟨p.display, p.doc, ""⟩))]
  let cmds := if c.subcommands.isEmpty then [] else ["Commands:\n" ++ helpSection (c.subcommands.map (fun (n, d) => ⟨n, d, ""⟩))]
  let opts := if c.options.isEmpty then [] else ["Options:\n" ++ helpSection (c.sortedOptions.map optionRow)]
  c.about ++ "\n\nUsage: " ++ c.usage ++ "\n\n" ++ "\n\n".intercalate (cmds ++ args ++ opts)

end DropletVision.Cli
