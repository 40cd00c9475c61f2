/-!
# 誤り

検出処理のすべての段階が返す誤り `DetectorError` と、その分類。

* `DetectorError.message` — 利用者に見せる一行の文言。
* `DetectorError.cause` — 文言の下にある原因の文言（ファイル操作や文書の読み取りの誤り）。
* `DetectorError.kind` と `DetectorError.httpStatus` — 呼び出し側が扱いを決めるための分類。
  設定や引数の誤りは `validation`、一枚のフレームだけの誤りは `transientFrame`、
  検出の状態と合わない操作は `resourceState`、それ以外は `internal`。
-/

namespace DropletVision

/-- ファイル操作の誤り。 -/
inductive IoError where
  /-- OS の誤り番号。 -/
  | os (code : Nat)
  /-- 読み終える前に終わった。 -/
  | unexpectedEof
  /-- 文字列として読んだ中身が UTF-8 ではない。 -/
  | invalidUtf8
  /-- その他の文言つきの誤り。 -/
  | other (text : String)
  deriving BEq, Repr

/-- OS の誤り番号の説明。 -/
def IoError.osText : Nat → String
  | 2 => "No such file or directory"
  | 13 => "Permission denied"
  | 17 => "File exists"
  | 19 => "No such device"
  | 20 => "Not a directory"
  | 21 => "Is a directory"
  | 22 => "Invalid argument"
  | 36 => "File name too long"
  | 39 => "Directory not empty"
  | _ => "Unknown error"

/-- ファイル操作の誤りの文言。 -/
def IoError.message : IoError → String
  | .os code => s!"{IoError.osText code} (os error {code})"
  | .unexpectedEof => "unexpected end of file"
  | .invalidUtf8 => "stream did not contain valid UTF-8"
  | .other text => text

/-- よく使う OS の誤り。 -/
def IoError.notFound : IoError := .os 2
/-- 同名のものがある。 -/
def IoError.alreadyExists : IoError := .os 17
/-- ディレクトリではない。 -/
def IoError.notADirectory : IoError := .os 20
/-- ディレクトリである。 -/
def IoError.isADirectory : IoError := .os 21

/-- 画像の読み書きの誤り。 -/
inductive ImageError where
  /-- ファイル操作の誤り（読み終える前に終わった場合も含む）。 -/
  | io (e : IoError)
  /-- 形式 `format` の中身が壊れている。`detail` はその理由。 -/
  | decoding (format : String) (detail : String)
  /-- 拡張子から形式が決まらない。 -/
  | unknownExtension (ext : String)
  /-- 拡張子が無く、形式が決まらない。 -/
  | unknownFormat
  /-- 形式 `format` では扱えない中身。 -/
  | unsupported (format : String) (detail : String)
  /-- 復号に要る大きさが上限（512 MiB）を超える。 -/
  | memoryLimit
  /-- 復号器が前提の破れで止まった。画像の誤りではなく、処理全体の打ち切りになる。 -/
  | abort (message : String)
  deriving BEq, Repr

/-- 画像の誤りの文言。 -/
def ImageError.message : ImageError → String
  | .io e => e.message
  | .decoding f d => s!"Format error decoding {f}: {d}"
  | .unknownExtension ext =>
    "The file extension `.\"" ++ ext ++ "\"` was not recognized as an image format"
  | .unknownFormat => "The image format could not be determined"
  | .unsupported f d => s!"The decoder for {f} does not support the format features {d}"
  | .memoryLimit => "Memory limit exceeded"
  | .abort m => m

/-- 文言の下にある原因。 -/
def ImageError.causes : ImageError → List String
  | .decoding _ d => [d]
  | _ => []

/-- 誤りの分類。 -/
inductive ErrorKind where
  | validation
  | transientFrame
  | resourceState
  | internal
  deriving BEq, Repr

/-- 検出処理の誤り。 -/
inductive DetectorError where
  | io (e : IoError)
  /-- JSON 文書の読み書きの誤り（文言は位置つき）。 -/
  | json (text : String)
  /-- TOML 文書の読み取りの誤り。 -/
  | tomlParse (text : String)
  /-- TOML 文書の書き出しの誤り。 -/
  | tomlWrite (text : String)
  /-- 画像の符号化・復号の誤り。 -/
  | image (e : ImageError)
  /-- 設定の誤り。規則ごとの文言の列。 -/
  | invalidConfig (entries : List String)
  | unsupportedExportFormat (format : String)
  | invalidRoi (x y width height : Int) (reason : String)
  | unknownMetric (name : String)
  | invalidCommand (text : String)
  | invalidFrame (text : String)
  /-- 面積 0 の輪郭からは重心が決まらない。 -/
  | moments
  | roiNotConfigured
  | alreadyRunning
  | notRunning
  | noExportData
  | unsupported (what : String)
  | invalidSer (text : String)
  | frameIndexOutOfRange (index total : Nat)
  | threadSpawn (text : String)
  /-- 前提の破れで処理そのものが打ち切られた（回復できない）。 -/
  | abort (message : String)
  deriving BEq, Repr

namespace DetectorError

/-- 利用者に見せる文言。 -/
def message : DetectorError → String
  | .io e => "I/O error: " ++ e.message
  | .json t => "JSON error: " ++ t
  | .tomlParse t => "TOML parse error: " ++ t
  | .tomlWrite t => "TOML write error: " ++ t
  | .image e => "Image format error: " ++ e.message
  | .invalidConfig es => "Invalid configuration: " ++ "; ".intercalate es
  | .unsupportedExportFormat f => s!"Unsupported export format '{f}'. Accepted formats: csv, txt"
  | .invalidRoi x y w h reason => s!"Invalid ROI ({x}, {y}, {w}x{h}): {reason}"
  | .unknownMetric n => s!"Unknown metric '{n}'. Use 'width', 'height', 'diameter' or 'area'"
  | .invalidCommand t => "Invalid command: " ++ t
  | .invalidFrame t => "Invalid frame: " ++ t
  | .moments => "Degenerate contour moments (zero area)"
  | .roiNotConfigured =>
    "ROI is not configured on the camera; set a region of interest before starting detection"
  | .alreadyRunning => "Detection is already running; stop it before starting again"
  | .notRunning => "Detection is not running"
  | .noExportData => "No measurements recorded yet; nothing to export"
  | .unsupported what => s!"Operation not supported by {what}"
  | .invalidSer t => "Invalid SER file: " ++ t
  | .frameIndexOutOfRange i t => s!"Frame index {i} out of range (total: {t})"
  | .threadSpawn t => "Failed to spawn processing thread: " ++ t
  | .abort m => m

/-- 文言の下にある原因の連なり（外側から順に）。 -/
def causes : DetectorError → List String
  | .io e => [e.message]
  | .json t => [t]
  | .tomlParse t => [t]
  | .tomlWrite t => [t]
  | .image e => e.message :: e.causes
  | _ => []

/-- 分類。 -/
def kind : DetectorError → ErrorKind
  | .invalidConfig _ | .unsupportedExportFormat _ | .invalidRoi .. | .unknownMetric _
  | .invalidCommand _ => .validation
  | .invalidFrame _ | .moments => .transientFrame
  | .roiNotConfigured | .alreadyRunning | .notRunning | .noExportData | .unsupported _ =>
    .resourceState
  | _ => .internal

/-- 分類に対応する HTTP の状態番号。記録が無いときだけ 404。 -/
def httpStatus (e : DetectorError) : Nat :=
  match e with
  | .noExportData => 404
  | _ =>
    match e.kind with
    | .validation => 400
    | .resourceState => 409
    | _ => 500

/-- 誤りの種類の名前。 -/
def name : DetectorError → String
  | .io _ => "Io" | .json _ => "Json" | .tomlParse _ => "TomlDe" | .tomlWrite _ => "TomlSer"
  | .image _ => "Image" | .invalidConfig _ => "InvalidConfig"
  | .unsupportedExportFormat _ => "UnsupportedExportFormat" | .invalidRoi .. => "InvalidRoi"
  | .unknownMetric _ => "UnknownMetric" | .invalidCommand _ => "InvalidCommand"
  | .invalidFrame _ => "InvalidFrame" | .moments => "Moments"
  | .roiNotConfigured => "RoiNotConfigured" | .alreadyRunning => "AlreadyRunning"
  | .notRunning => "NotRunning" | .noExportData => "NoExportData"
  | .unsupported _ => "Unsupported" | .invalidSer _ => "InvalidSer"
  | .frameIndexOutOfRange .. => "FrameIndexOutOfRange" | .threadSpawn _ => "ThreadSpawn"
  | .abort _ => "Panic"

end DetectorError

/-- 分類の名前。 -/
def ErrorKind.name : ErrorKind → String
  | .validation => "Validation"
  | .transientFrame => "TransientFrame"
  | .resourceState => "ResourceState"
  | .internal => "Internal"

/-- 検出処理の結果。 -/
abbrev Outcome (α : Type) := Except DetectorError α

end DropletVision
