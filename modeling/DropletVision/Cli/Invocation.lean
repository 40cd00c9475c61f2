import DropletVision.Cli.Parse

/-!
# 呼び出し

読み取った引数を、サブコマンドごとの設定の構造にまとめる。

* `run` — 入力（無ければ合成の流路）、プロファイルかプリセット、枚数、関心領域、
  繰り返し、換算と半径の補正、入ってくる液滴も数えるか、書き出し先、プロファイルの保存先、
  保存の形、JSON で示すか。
* `config` — プリセット、保存の形、TOML で示すか、書き出し先。
* `info` — SER ファイル。
* `simulate` — 書き出し先、枚数、センサーの大きさ、流れの速さと液滴の間隔、液滴の半軸、
  雑音、ごみの数、乱数の種、PNG の並びにするか。
* `-v` はどこに書いても全体に効く。
-/

namespace DropletVision.Cli

/-- `run` の設定。 -/
structure RunArgs where
  input : Option String
  profile : Option String
  preset : String
  frames : Nat
  roi : Option Roi
  looping : Bool
  umPerPx : Option Float
  radiusOffset : Option Float
  acceptEntering : Bool
  realtime : Bool
  exportPath : Option String
  saveProfile : Option String
  nested : Bool
  json : Bool

/-- `config` の設定。 -/
structure ConfigArgs where
  preset : String
  nested : Bool
  toml : Bool
  output : Option String

/-- `info` の設定。 -/
structure InfoArgs where
  file : String

/-- `simulate` の設定。 -/
structure SimulateArgs where
  output : String
  frames : Nat
  width : Nat
  height : Nat
  speed : Float
  spacing : Float
  droplet : String
  noise : Nat
  debris : Nat
  seed : Nat
  png : Bool

/-- サブコマンド。 -/
inductive Command where
  | run (a : RunArgs)
  | config (a : ConfigArgs)
  | info (a : InfoArgs)
  | simulate (a : SimulateArgs)

/-- 呼び出し。 -/
structure Invocation where
  verbose : Bool
  command : Command

namespace ArgTable

/-- `run` の設定を取り出す。 -/
def toRunArgs (t : ArgTable) : RunArgs where
  input := t.text? "input"
  profile := t.text? "profile"
  preset := (t.text? "preset").getD "default"
  frames := t.count "frames"
  roi := t.region? "roi"
  looping := t.flag "looping"
  umPerPx := t.real? "um_per_px"
  radiusOffset := t.real? "radius_offset"
  acceptEntering := t.flag "accept_entering"
  realtime := t.flag "realtime"
  exportPath := t.text? "export"
  saveProfile := t.text? "save_profile"
  nested := t.flag "nested"
  json := t.flag "json"

/-- `config` の設定を取り出す。 -/
def toConfigArgs (t : ArgTable) : ConfigArgs where
  preset := (t.text? "preset").getD "default"
  nested := t.flag "nested"
  toml := t.flag "toml"
  output := t.text? "output"

/-- `simulate` の設定を取り出す。 -/
def toSimulateArgs (t : ArgTable) : SimulateArgs where
  output := (t.text? "output").getD ""
  frames := t.count "frames"
  width := t.count "width"
  height := t.count "height"
  speed := (t.real? "speed").getD 0
  spacing := (t.real? "spacing").getD 0
  droplet := (t.text? "droplet").getD ""
  noise := t.count "noise"
  debris := t.count "debris"
  seed := t.count "seed"
  png := t.flag "png"

end ArgTable

/-- サブコマンドの表から呼び出しの中身を作る。 -/
def Command.ofTable (name : String) (t : ArgTable) : Option Command :=
  match name with
  | "run" => some (.run t.toRunArgs)
  | "config" => some (.config t.toConfigArgs)
  | "info" => some (.info ⟨(t.text? "file").getD ""⟩)
  | "simulate" => some (.simulate t.toSimulateArgs)
  | _ => none

/-- 引数の列（プログラム名を除く）を読む。 -/
def Invocation.parse (args : List String) : Except Stop Invocation := do
  let (top, sub) ← parseArgs mainSpec {} args
  match sub with
  | none => throw (.bareHelp mainSpec)
  | some (name, rest) =>
    match subcommandSpec? name with
    | none => throw (.error (.unrecognizedSubcommand name [] mainSpec.usage))
    | some spec =>
      let (st, _) ← parseArgs spec {} rest
      let t := withDefaults spec st.matched
      match Command.ofTable name t with
      | some cmd => pure ⟨top.matched.any (·.1 == "verbose") || t.flag "verbose", cmd⟩
      | none => throw (.error (.unrecognizedSubcommand name [] mainSpec.usage))

end DropletVision.Cli
