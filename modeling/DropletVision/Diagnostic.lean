/-!
# 診断の記録

処理の途中で起きたことを、重さ・出どころ・文言・値の組として残す。
表示する側は重さで選び、一行ずつ書く。

* 重さは重い順に `error`, `warn`, `info`, `debug`。
* 一行は「右に寄せた五文字の重さ・空白・出どころ・`: `・文言」のあとに、
  値の組を `名前=値` として空白で区切って並べたもの。
-/

namespace DropletVision

/-- 記録の重さ。 -/
inductive Severity where
  | error
  | warn
  | info
  | debug
  deriving BEq, Repr, Inhabited

/-- 重さの順位（小さいほど重い）。 -/
def Severity.rank : Severity → Nat
  | .error => 0
  | .warn => 1
  | .info => 2
  | .debug => 3

/-- 重さの名前（五文字に右寄せ）。 -/
def Severity.label : Severity → String
  | .error => "ERROR"
  | .warn => " WARN"
  | .info => " INFO"
  | .debug => "DEBUG"

/-- 一つの記録。 -/
structure Diagnostic where
  severity : Severity
  target : String
  message : String
  fields : List (String × String) := []
  deriving Repr, Inhabited

/-- 一行の表示（時刻は含まない）。 -/
def Diagnostic.render (d : Diagnostic) : String :=
  let fields := String.join (d.fields.map (fun (k, v) => " " ++ k ++ "=" ++ v))
  d.severity.label ++ " " ++ d.target ++ ": " ++ d.message ++ fields

/-- `limit` 以上に重い記録か。 -/
def Diagnostic.shownAt (d : Diagnostic) (limit : Severity) : Bool :=
  d.severity.rank ≤ limit.rank

end DropletVision
