import DropletVision.Config.Profile
import DropletVision.FileTree
import DropletVision.Diagnostic

/-!
# プロファイルのファイル

ファイルの木からプロファイルを読み、ファイルの木へ書く。

* 読む — 中身は UTF-8 の文字列でなければならない。形式は拡張子で決める（`ProfileFormat.ofPath`）。
  設定の欄を取り出せたら、知らないキーごとに（名前の順に）警告を残してから設定として読む。
* 書く — 設定を検査し、形と拡張子の形式で文字列にし、親のディレクトリを作ってから書く。

どちらも成否にかかわらず、起きたことを診断の記録として返す。
-/

namespace DropletVision

open Json

/-- プロファイルの記録の出どころ。 -/
def profileTarget : String := "droplet_core::profile"

/-- 形の名前（記録に使う）。 -/
def ProfileLayout.label : ProfileLayout → String
  | .flat => "Flat"
  | .nested => "Nested"

/-- 知らないキーの警告（キーの名前の順）。 -/
def unknownKeyNotes (sec : List (String × Json)) : List Diagnostic :=
  let keys := (unknownKeys sec).mergeSort (fun a b => decide (a ≤ b))
  keys.map (fun k => ⟨.warn, profileTarget, "Ignoring unsupported profile key", [("key", k)]⟩)

/-- 文書から設定を作る。知らないキーの警告も返す。 -/
def configOfDocumentNoted (doc : Json) : Outcome DetectionConfig × List Diagnostic :=
  match extractSection doc with
  | .error e => (.error e, [])
  | .ok sec => (configOfSection sec, unknownKeyNotes sec)

/-- ファイルの中身を文字列として読む。 -/
def readText (t : FileTree) (path : String) : Outcome String := do
  let bytes ← (t.readFile path).mapError .io
  match String.fromUTF8? bytes with
  | some s => pure s
  | none => throw (.io .invalidUtf8)

/-- プロファイルのファイルを読む。 -/
def loadProfile (t : FileTree) (path : String) : Outcome DetectionConfig × List Diagnostic :=
  match readText t path >>= (profileDocument · (ProfileFormat.ofPath path)) with
  | .error e => (.error e, [])
  | .ok doc =>
    match configOfDocumentNoted doc with
    | (.ok c, notes) =>
      (.ok c, notes ++ [⟨.info, profileTarget, "Loaded detection profile", [("path", path)]⟩])
    | r => r

/-- プロファイルをファイルに書く。 -/
def saveProfile (t : FileTree) (c : DetectionConfig) (path : String) (layout : ProfileLayout) :
    Outcome (FileTree × List Diagnostic) := do
  c.validate
  let text := renderProfile c layout (ProfileFormat.ofPath path)
  let t ← match FileTree.parentPath? path with
    | some parent => if parent.isEmpty then pure t else (t.createDirAll parent).mapError .io
    | none => pure t
  let t ← (t.writeFile path text.toUTF8).mapError .io
  pure (t, [⟨.info, profileTarget, "Saved detection profile",
    [("path", path), ("layout", layout.label)]⟩])

end DropletVision
