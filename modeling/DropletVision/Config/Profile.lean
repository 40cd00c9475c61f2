import DropletVision.Config.Document
import DropletVision.Json.Parse
import DropletVision.Json.Write
import DropletVision.Toml.Parse
import DropletVision.Toml.Write
import DropletVision.FileTree

/-!
# 検出のプロファイル

設定を保存する文書。二つの形を同じ意味に読む。

* 平らな形 — 設定の欄がそのまま根に並ぶ（`modules` の表があっても無視する）。
* 入れ子の形 — 欄は `droplet_detection` の表の中。根には `modules.droplet_analysis = true` も書く。

拡張子が `.toml`（大文字小文字を問わない）のファイルは TOML、ほかは JSON。

## 仕組み

読むときは文書を JSON の値にしてから `configOfDocument` に渡す。TOML の値は
`Toml.parse` が JSON の値へ移す。書くときは `DetectionConfig.toJson` の値を整形する。
-/

namespace DropletVision

open Json

/-- 保存するプロファイルの形。 -/
inductive ProfileLayout where
  | flat
  | nested
  deriving BEq, Repr, Inhabited

/-- プロファイルのファイル形式。 -/
inductive ProfileFormat where
  | json
  | toml
  deriving BEq, Repr, Inhabited

/-- 入れ子の形で欄を入れる表の名前。 -/
def nestedSection : String := "droplet_detection"

/-- 今も読む古いキーの綴り。 -/
def keyAliases : List String := ["pixel_ratio", "gaussian_blur_kernel", "adaptive_C"]

/-- パスの拡張子から形式を決める：大文字小文字を問わず `toml` なら TOML、ほかは JSON。 -/
def ProfileFormat.ofPath (path : String) : ProfileFormat :=
  match FileTree.extension? path with
  | some e => if e.toLower == "toml" then .toml else .json
  | none => .json

/-- 文書から設定の欄の組を取り出す。 -/
def extractSection (doc : Json) : Outcome (List (String × Json)) :=
  match doc with
  | .obj root =>
    match root.find? (·.1 == nestedSection) with
    | some (_, .obj sec) => .ok sec
    | some _ => .error (.invalidConfig [s!"'{nestedSection}' must be an object"])
    | none => .ok (eraseField root "modules")
  | _ => .error (.invalidConfig ["profile must be a JSON object"])

/-- 知らないキー（欄の名前でも `channel_band` でも古い綴りでもないもの）。 -/
def unknownKeys (sec : List (String × Json)) : List String :=
  let known : List String := match DetectionConfig.toJson ({} : DetectionConfig) with
    | .obj fs => fs.map (fun (p : String × Json) => p.1)
    | _ => []
  (sec.map (·.1)).filter (fun k => !(known.contains k || k == "channel_band" || keyAliases.contains k))

/-- 取り出した欄を設定として読み、検査する。 -/
def configOfSection (sec : List (String × Json)) : Outcome DetectionConfig := do
  let config ← (DetectionConfig.ofJson (.obj sec)).mapError
    (fun e => DetectorError.invalidConfig [s!"malformed profile: {e}"])
  config.validate
  pure config

/-- 平らな形か入れ子の形の文書から設定を作る。 -/
def configOfDocument (doc : Json) : Outcome DetectionConfig := do
  configOfSection (← extractSection doc)

/-- プロファイルの文字列を JSON の値として読む。 -/
def profileDocument (text : String) (format : ProfileFormat) : Outcome Json :=
  match format with
  | .json => (Json.parse text).mapError (fun e => .json e.message)
  | .toml => (Toml.parse text).mapError .tomlParse

/-- プロファイルの文字列を読む。 -/
def parseProfile (text : String) (format : ProfileFormat) : Outcome DetectionConfig := do
  configOfDocument (← profileDocument text format)

/-- 入れ子の形の文書。 -/
def nestedDocument (c : DetectionConfig) : List (String × Json) :=
  [("modules", .obj [("droplet_analysis", .bool true)]), (nestedSection, c.toJson)]

/-- 形 `layout` のプロファイルの文書。 -/
def ProfileLayout.document (layout : ProfileLayout) (c : DetectionConfig) : Json :=
  match layout with
  | .flat => c.toJson
  | .nested => .obj (nestedDocument c)

/-- プロファイルを書く。JSON は字下げつき、TOML は表ごとに見出しを付ける。 -/
def renderProfile (c : DetectionConfig) (layout : ProfileLayout) (format : ProfileFormat) :
    String :=
  let doc := layout.document c
  match format with
  | .json => Json.pretty doc
  | .toml =>
    match doc with
    | .obj fields => Toml.render fields
    | _ => ""

end DropletVision
