import DropletVision.Json.Raster
import DropletVision.Camera.Source

/-!
# 誤りと取り込みの JSON 表現

* 誤り — 種類の名前、文言、分類、HTTP の状態番号。文言が OS や文書の読み取りから来る誤り
  （ファイル操作・JSON・TOML・画像・コマンド）は `null`。設定の誤りの項目のうち、直列化の文言が
  続くもの（`malformed config update`、`malformed profile`）はその前置きだけを残す。
* 打ち切り — `Panic` と理由の文だけ。打ち切りは処理全体を止めるので、答えのどこかに現れれば
  答え全体がそれになる（`Json.panic?` で探す）。
* 取り込み — フレーム（番号と時刻つき）、尽きていれば `null`、誤りならその JSON。
* カメラ — 名前、センサーの大きさ、枚数（無限なら `null`）、取り込んだフレーム、関心領域。

## 停止性

`Json.panic?` は値の木の構造に沿う。
-/

namespace DropletVision

/-- 設定の誤りの項目。直列化の文言が続く項目はその前置きだけにする。 -/
def cutEntry (s : String) : String :=
  if s.startsWith "malformed config update" then "malformed config update"
  else if s.startsWith "malformed profile" then "malformed profile" else s

/-- 誤りの JSON。 -/
def DetectorError.toJson : DetectorError → Json
  | .abort m => .obj [("error", .str "Panic"), ("message", .str m)]
  | e =>
    let msg : Json := match e with
      | .io _ | .json _ | .tomlParse _ | .tomlWrite _ | .image _ | .invalidCommand _ => .null
      | .invalidConfig es => .str ("Invalid configuration: " ++ "; ".intercalate (es.map cutEntry))
      | e => .str e.message
    .obj [("error", .str e.name), ("message", msg), ("kind", .str e.kind.name),
      ("status", .ofNat e.httpStatus)]

mutual

/-- 値の中の打ち切りの報告（`"error": "Panic"` の組）。最初に見つかったもの。 -/
def Json.panic? : Json → Option Json
  | .obj fs =>
    match fs.lookup "error" with
    | some (.str "Panic") => some (.obj fs)
    | _ => Json.panicInFields fs
  | .arr xs => Json.panicInItems xs
  | _ => none

/-- 配列の要素の中の打ち切りの報告。 -/
def Json.panicInItems : List Json → Option Json
  | [] => none
  | x :: rest =>
    match Json.panic? x with
    | some p => some p
    | none => Json.panicInItems rest

/-- オブジェクトの欄の中の打ち切りの報告。 -/
def Json.panicInFields : List (String × Json) → Option Json
  | [] => none
  | (_, x) :: rest =>
    match Json.panic? x with
    | some p => some p
    | none => Json.panicInFields rest

end

/-- 結果を JSON にする。誤りなら誤りの JSON。 -/
def Outcome.toJsonWith {α : Type} (o : Outcome α) (f : α → Json) : Json :=
  match o with
  | .ok a => f a
  | .error e => e.toJson

/-- 取り込みの JSON。 -/
def Capture.toJson (c : Capture) : Json :=
  match c.frame with
  | .ok (some f) => f.toJsonWithMetadata
  | .ok none => .null
  | .error e => e.toJson

/-- カメラの JSON。`frames` は取り込んだフレーム、`extra` は添える欄。 -/
def Camera.toJsonWith (cam : Camera) (frames : List Json) (extra : List (String × Json)) : Json :=
  .obj ([("name", .str cam.name),
    ("sensor", .arr [.ofNat cam.sensorSize.1, .ofNat cam.sensorSize.2]),
    ("frame_count", (cam.frameCount.map Json.ofNat).getD .null), ("frames", .arr frames),
    ("roi", (cam.roi.map Roi.toJson).getD .null)] ++ extra)

end DropletVision
