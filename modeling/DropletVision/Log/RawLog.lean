import DropletVision.Buffer.Ring
import DropletVision.Detection.Measure
import DropletVision.Decimal.Text
import DropletVision.Error
import DropletVision.Unicode

/-!
# 計測値の記録

液滴ごとの計測値を、時刻と画像の番号とともに容量つきの列に記録し、区切り文字つきの表として書き出す。

* 記録する値は小数点以下二桁に丸める（`round(v · 100) / 100`）。
* 書き出しは見出しの行と記録ごとの一行（古い順）、各行は改行で終わる。数は小数点以下ちょうど二桁。
  記録が無ければ書き出さない。
* 形式の名前は前後の（Unicode の）空白を除き、ASCII の大文字小文字を問わず `csv`（カンマ）か `txt`（タブ）。
* 容量を変えると、新しい方から新しい容量の数だけ残す。
-/

namespace DropletVision

/-- 表の列の名前。 -/
def rawColumns : List String :=
  ["timestamp_ms", "frame_id", "radius_px", "radius_um", "area_px", "area_um2", "x_center_px",
   "y_center_px", "major_axis_px", "major_axis_um", "equivalent_diameter_px", "equivalent_diameter_um"]

/-- 書き出しの形式。 -/
inductive ExportFormat where
  | csv
  | txt
  deriving BEq, Repr, Inhabited

namespace ExportFormat

/-- 区切り文字。 -/
def delimiter : ExportFormat → Char
  | .csv => ','
  | .txt => '\t'

/-- 拡張子。 -/
def extension : ExportFormat → String
  | .csv => "csv"
  | .txt => "txt"

/-- 名前から読む。 -/
def ofString (s : String) : Outcome ExportFormat :=
  match (Unicode.trim s).map Char.toLower with
  | "csv" => .ok .csv
  | "txt" => .ok .txt
  | _ => .error (.unsupportedExportFormat s)

end ExportFormat

/-- 小数点以下二桁に丸める。 -/
def round2 (v : Float) : Float := (v * 100).round / 100

/-- 一つの記録。 -/
structure RawRecord where
  timestampMs : Nat
  frameId : Nat
  radiusPx : Float
  radiusUm : Float
  areaPx : Float
  areaUm2 : Float
  xCenterPx : Float
  yCenterPx : Float
  majorAxisPx : Float
  majorAxisUm : Float
  equivalentDiameterPx : Float
  equivalentDiameterUm : Float
  deriving Repr, Inhabited

namespace RawRecord

/-- 計測値から作る。 -/
def ofMetrics (m : DropletMetrics) (timestampMs frameId : Nat) : RawRecord :=
  ⟨timestampMs, frameId, round2 m.radiusPx, round2 m.radiusUm, round2 m.areaPx, round2 m.areaUm2,
   round2 m.centroid.1, round2 m.centroid.2, round2 m.majorAxisPx, round2 m.majorAxisUm,
   round2 m.equivalentDiameterPx, round2 m.equivalentDiameterUm⟩

/-- 小数の欄（列の順）。 -/
def floats (r : RawRecord) : List Float :=
  [r.radiusPx, r.radiusUm, r.areaPx, r.areaUm2, r.xCenterPx, r.yCenterPx, r.majorAxisPx,
   r.majorAxisUm, r.equivalentDiameterPx, r.equivalentDiameterUm]

/-- 表の一行（改行つき）。 -/
def row (r : RawRecord) (d : Char) : String :=
  let ds := String.singleton d
  toString r.timestampMs ++ ds ++ toString r.frameId ++
    String.join (r.floats.map (fun v => ds ++ Decimal.fixedDouble 2 v)) ++ "\n"

/-- JSON の値。 -/
def toJson (r : RawRecord) : Json :=
  .obj ([("timestamp_ms", .ofNat r.timestampMs), ("frame_id", .ofNat r.frameId)] ++
    ((rawColumns.drop 2).zip (r.floats.map Json.ofFloat)))

end RawRecord

/-- 計測値の記録。 -/
structure RawMeasurementLog where
  records : RingBuffer RawRecord

namespace RawMeasurementLog

/-- 容量 `capacity` の空の記録。 -/
def new (capacity : Nat) : RawMeasurementLog := ⟨.new capacity⟩

/-- 容量。 -/
def capacity (l : RawMeasurementLog) : Nat := l.records.capacity

/-- 記録の数。 -/
def len (l : RawMeasurementLog) : Nat := l.records.len

/-- 一つ記録する。 -/
def push (l : RawMeasurementLog) (r : RawRecord) : RawMeasurementLog := ⟨(l.records.push r).1⟩

/-- 計測値をまとめて記録する。 -/
def extendFromMetrics (l : RawMeasurementLog) (ms : List DropletMetrics) (ts frame : Nat) :
    RawMeasurementLog :=
  ⟨l.records.extend (ms.map (RawRecord.ofMetrics · ts frame))⟩

/-- 容量を変える。新しい方から残す。 -/
def setCapacity (l : RawMeasurementLog) (capacity : Nat) : RawMeasurementLog :=
  if capacity == l.capacity then l else ⟨(RingBuffer.new capacity).extend l.records.toList⟩

/-- 空にする。 -/
def clear (l : RawMeasurementLog) : RawMeasurementLog := ⟨l.records.clear⟩

/-- 古い順の記録。 -/
def toList (l : RawMeasurementLog) : List RawRecord := l.records.toList

/-- 最も古い記録。 -/
def oldest (l : RawMeasurementLog) : Option RawRecord := l.records.front

/-- 最も新しい記録。 -/
def newest (l : RawMeasurementLog) : Option RawRecord := l.records.back

/-- 表として書き出す。記録が無ければ `none`。 -/
def exportTable (l : RawMeasurementLog) (f : ExportFormat) : Option String :=
  if l.records.isEmpty then none
  else
    let d := f.delimiter
    some ((String.singleton d).intercalate rawColumns ++ "\n" ++
      String.join (l.toList.map (·.row d)))

end RawMeasurementLog

end DropletVision
