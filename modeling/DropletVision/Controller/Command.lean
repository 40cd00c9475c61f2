import DropletVision.Controller.Basic
import DropletVision.Config.ProfileFile
import DropletVision.Json.Read

/-!
# 制御への命令

外から受け取る命令と、その答え。

* 命令は `command` の欄で種類を表すオブジェクト（例：`{"command": "export", "format": "csv"}`）。
  種類の名前は `start`、`stop`、`reset`、`status`、`histogram`、`statistics`、`performance`、
  `export`（`format`）、`update_config`（`config`：設定の更新）、`load_profile`（`path`）、
  `save_profile`（`path` と、省けば `flat` の `layout`）。
  ほかの欄は無視する。配列なら最初の要素が種類の名前で、残りは欄を順に並べたもの。
  読めない命令は命令の誤り。
* 答えは `{"type": 種類, "data": 中身}`。種類は `ack`（`message`）、`status`、`histogram`、
  `statistics`、`performance`、`export`（小文字にした `format` と `body`）、`config`。
* 書き出す記録が無ければ「記録が無い」の誤り。
-/

namespace DropletVision

open Json

/-- 制御への命令。 -/
inductive ControllerCommand where
  | start
  | stop
  | reset
  | status
  | histogram
  | statistics
  | performance
  | exportLog (format : String)
  | updateConfig (patch : ConfigPatch)
  | loadProfile (path : String)
  | saveProfile (path : String) (layout : ProfileLayout)

/-- 種類の名前の後の中身：名前つきの欄か、順に並べた値。 -/
inductive CommandBody where
  | fields (fs : List (String × Json))
  | items (xs : List Json)

namespace CommandBody

/-- 欄 `name`（配列なら `pos` 番目）の値。 -/
def get? (b : CommandBody) (name : String) (pos : Nat) : Read (Option Json) :=
  match b with
  | .fields fs =>
    match fs.filter (·.1 == name) with
    | [] => .ok none
    | [(_, v)] => .ok (some v)
    | _ => .error s!"duplicate field `{name}`"
  | .items xs => .ok xs[pos]?

/-- 配列の長さが欄の数を超えないこと。 -/
def checkLength (b : CommandBody) (count : Nat) : Read Unit :=
  match b with
  | .items xs =>
    if xs.length > count then .error s!"invalid length {xs.length}, expected fewer elements in sequence"
    else .ok ()
  | .fields _ => .ok ()

/-- 無ければ誤りの欄。 -/
def require (b : CommandBody) (name : String) (pos : Nat) : Read Json := do
  match ← b.get? name pos with
  | some v => pure v
  | none => .error s!"missing field `{name}`"

end CommandBody

namespace ControllerCommand

/-- 種類の名前。 -/
def names : List String :=
  ["start", "stop", "reset", "status", "histogram", "statistics", "performance", "export",
   "update_config", "load_profile", "save_profile"]

/-- 文字列の欄。 -/
def readText (j : Json) : Read String :=
  match j with
  | .str s => .ok s
  | _ => .error (invalidType j "a string")

/-- 保存の形。 -/
def readLayout (j : Json) : Read ProfileLayout :=
  match j with
  | .str "flat" => .ok .flat
  | .str "nested" => .ok .nested
  | .str s => .error s!"unknown variant `{s}`, expected `flat` or `nested`"
  | _ => .error (invalidType j "enum ProfileLayout")

/-- 種類の名前と中身に分ける。 -/
def splitTag (j : Json) : Read (String × CommandBody) :=
  let tagOf (v : Json) : Read String :=
    match v with
    | .str s => .ok s
    | _ => .error (invalidType v "variant identifier")
  match j with
  | .obj fs =>
    match fs.filter (·.1 == "command") with
    | [] => .error "missing field `command`"
    | [(_, v)] => do pure (← tagOf v, .fields (fs.filter (·.1 != "command")))
    | _ => .error "duplicate field `command`"
  | .arr [] => .error "missing field `command`"
  | .arr (v :: rest) => do pure (← tagOf v, .items rest)
  | _ => .error (invalidType j "internally tagged enum ControllerCommand")

/-- 中身から命令を作る。 -/
def ofBody (tag : String) (b : CommandBody) : Read ControllerCommand :=
  match tag with
  | "start" => do b.checkLength 0; pure .start
  | "stop" => do b.checkLength 0; pure .stop
  | "reset" => do b.checkLength 0; pure .reset
  | "status" => do b.checkLength 0; pure .status
  | "histogram" => do b.checkLength 0; pure .histogram
  | "statistics" => do b.checkLength 0; pure .statistics
  | "performance" => do b.checkLength 0; pure .performance
  | "export" => do
    let f ← readText (← b.require "format" 0)
    b.checkLength 1
    pure (.exportLog f)
  | "update_config" => do
    let p ← readDocument .patch (← b.require "config" 0)
    b.checkLength 1
    pure (.updateConfig p)
  | "load_profile" => do
    let p ← readText (← b.require "path" 0)
    b.checkLength 1
    pure (.loadProfile p)
  | "save_profile" => do
    let p ← readText (← b.require "path" 0)
    let layout ← match ← b.get? "layout" 1 with
      | some v => readLayout v
      | none => pure .flat
    b.checkLength 2
    pure (.saveProfile p layout)
  | other =>
    let expected := expectedVariants names
    .error s!"unknown variant `{other}`, expected {expected}"

/-- JSON の値から命令を読む。読めなければ命令の誤り。 -/
def ofJson (j : Json) : Outcome ControllerCommand :=
  (splitTag j >>= fun (tag, b) => ofBody tag b).mapError .invalidCommand

end ControllerCommand

/-- 命令の答え。 -/
inductive CommandResponse where
  | ack (message : String)
  | status (s : ControllerStatus)
  | histogram (h : DropletHistogram)
  | statistics (s : ControllerStatistics)
  | performance (p : List (String × StageSummary))
  | exported (format body : String)
  | config (c : DetectionConfig)

/-- 答えの JSON の値。 -/
def CommandResponse.toJson (r : CommandResponse) : Json :=
  let tagged (ty : String) (data : Json) : Json := .obj [("type", .str ty), ("data", data)]
  match r with
  | .ack m => tagged "ack" (.obj [("message", .str m)])
  | .status s => tagged "status" s.toJson
  | .histogram h => tagged "histogram" h.toJson
  | .statistics s => tagged "statistics" s.toJson
  | .performance p => tagged "performance" (.obj (p.map (fun (k, s) => (k, s.toJson))))
  | .exported f b => tagged "export" (.obj [("format", .str f), ("body", .str b)])
  | .config c => tagged "config" c.toJson

/-- 命令を実行した後：答え、制御の状態、ファイルの木。 -/
structure Dispatched where
  response : CommandResponse
  controller : DetectionController
  files : FileTree

namespace DetectionController

/-- 命令を実行する。`cam` は開始に使うカメラ、`t` はプロファイルを読み書きするファイルの木。 -/
def dispatch (k : DetectionController) (cmd : ControllerCommand) (cam : Camera) (t : FileTree) :
    Outcome Dispatched :=
  match cmd with
  | .start => do pure ⟨.ack "detection started", ← k.start cam, t⟩
  | .stop => pure ⟨.ack "detection stopped", k.stop, t⟩
  | .reset => pure ⟨.ack "detector reset", k.reset, t⟩
  | .status => pure ⟨.status k.status, k, t⟩
  | .histogram => pure ⟨.histogram k.measurements.histogram, k, t⟩
  | .statistics => pure ⟨.statistics k.statistics, k, t⟩
  | .performance => pure ⟨.performance k.performance, k, t⟩
  | .exportLog f => do
    match ← k.exportMeasurements f with
    | some body => pure ⟨.exported (f.map Char.toLower) body, k, t⟩
    | none => throw .noExportData
  | .updateConfig p => do
    let k ← k.updateConfig p
    pure ⟨.config k.config, k, t⟩
  | .loadProfile path => do
    let k := k.loadConfig (← (loadProfile t path).1)
    pure ⟨.config k.config, k, t⟩
  | .saveProfile path layout => do
    let (t, _) ← saveProfile t k.config path layout
    pure ⟨.ack "profile saved", k, t⟩

end DetectionController

end DropletVision
