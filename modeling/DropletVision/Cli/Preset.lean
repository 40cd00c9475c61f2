import DropletVision.Cli.Console
import DropletVision.Cli.Invocation
import DropletVision.Config.ProfileFile

/-!
# プリセットの表示と保存（`config`）

名前のプリセットの設定を、平らな形か `droplet_detection` の節に入れた形で示す。

* 書き出し先があれば、その拡張子の形式（`.toml` なら TOML、ほかは JSON）で保存し、
  `Profile '名前' saved to パス` と書く。保存できなければ `Failed to write profile to パス`。
* 無ければ JSON（`--toml` なら TOML）を標準出力に書く。
* 知らないプリセットは、使える名前を並べて失敗する。
-/

namespace DropletVision.Cli

open CliM

/-- 知らないプリセットの失敗。 -/
def unknownPreset (name : String) : Failure :=
  ⟨"Unknown preset '" ++ name ++ "'. Available: " ++ ", ".intercalate DetectionConfig.presetNames, []⟩

/-- 名前のプリセット。 -/
def presetConfig (name : String) : CliM DetectionConfig :=
  match DetectionConfig.preset name with
  | some c => pure c
  | none => fail (unknownPreset name)

/-- プロファイルをファイルに保存し、記録を書く。`context` は失敗の文。 -/
def storeProfile (c : DetectionConfig) (path : String) (layout : ProfileLayout) (context : String) :
    CliM Unit := do
  match saveProfile (← files) c path layout with
  | .ok (t, notes) =>
    note notes
    setFiles t
  | .error e => fail (.withContext context e)

/-- `config` を実行する。 -/
def showPreset (a : ConfigArgs) : CliM Unit := do
  let c ← presetConfig a.preset
  let layout : ProfileLayout := if a.nested then .nested else .flat
  match a.output with
  | some path =>
    storeProfile c path layout ("Failed to write profile to " ++ path)
    say ("Profile '" ++ a.preset ++ "' saved to " ++ path)
  | none =>
    say (renderProfile c layout (if a.toml then .toml else .json))

end DropletVision.Cli
