/-!
# 記録の時刻

記録の行の先頭に付ける時刻 `YYYY-MM-DDTHH:MM:SS.ffffffZ`（協定世界時、マイクロ秒まで）。

## 仕組み

1970-01-01 からの日数を、400 年（146097 日）の周期に分けて、3 月始まりの年の中の日から
月と日を決める。3 月始まりにすると閏日が年の最後に来るので、月の長さの表が要らない。
-/

namespace DropletVision.Cli

/-- 0 で埋めた `width` 桁の十進。 -/
def zeroPad (width n : Nat) : String :=
  let ds := toString n
  String.ofList (List.replicate (width - ds.length) '0') ++ ds

/-- 1970-01-01 からの日数から年・月・日。 -/
def civilDate (days : Int) : Int × Nat × Nat :=
  let z := days + 719468
  let era := (if z ≥ 0 then z else z - 146096) / 146097
  let doe := (z - era * 146097).toNat
  let yoe := (doe - doe / 1460 + doe / 36524 - doe / 146096) / 365
  let doy := doe - (365 * yoe + yoe / 4 - yoe / 100)
  let mp := (5 * doy + 2) / 153
  let d := doy - (153 * mp + 2) / 5 + 1
  let m := if mp < 10 then mp + 3 else mp - 9
  let y := (yoe : Int) + era * 400 + (if m ≤ 2 then 1 else 0)
  (y, m, d)

/-- 1970-01-01T00:00:00Z からのナノ秒を時刻の文字にする。 -/
def utcStamp (nanos : Int) : String :=
  let secs := nanos / 1000000000
  let micros := ((nanos % 1000000000) / 1000).toNat
  let days := secs / 86400
  let rest := (secs % 86400).toNat
  let (y, m, d) := civilDate days
  zeroPad 4 y.toNat ++ "-" ++ zeroPad 2 m ++ "-" ++ zeroPad 2 d ++ "T" ++
    zeroPad 2 (rest / 3600) ++ ":" ++ zeroPad 2 (rest / 60 % 60) ++ ":" ++ zeroPad 2 (rest % 60) ++
    "." ++ zeroPad 6 micros ++ "Z"

end DropletVision.Cli
