import DropletVision.Json.Geometry
import DropletVision.Log.RawLog
import DropletVision.Ser.Header

/-!
# 計測値と記録の JSON 表現

* 液滴の計測値 — 欄は `DropletMetrics.toJson` と同じ名前。無い欄は 0（重心は `[0, 0]`）。
  外接矩形の `x`、`y` は 32 ビットの符号つき整数、`width`、`height` は 32 ビットの符号なし整数。
* 記録 — 十二の欄がすべて要る。
* SER の見出し — 色の番号と名前、バイト順、大きさ、深さ、枚数、文字の欄、日時と、
  そこから決まる一画素・一平面のバイト数、平面の数、一枚のバイト数（決まらなければ 0）。
-/

namespace DropletVision

open Json

/-- 計測値を読む。 -/
def DropletMetrics.ofJson (j : Json) : Read DropletMetrics := do
  let f (k : String) : Read Float := memberOr j k readNumber 0
  let b := (member? j "bounding_box").getD (.obj [])
  let u32 (k : String) : Read Nat :=
    match member? b k with
    | some (.num (.nat n)) =>
      if n < Nat.pow 2 32 then .ok n else .error s!"metrics: invalid value: integer `{n}`, expected u32"
    | some (.num (.neg n)) => .error s!"metrics: invalid value: integer `{n}`, expected u32"
    | some _ => .error "metrics: bad bounding box"
    | none => .ok 0
  let i32 (k : String) : Read Int := memberOr b k (readI32 k) 0
  let c ← match member? j "centroid" with
    | some c => do
      match ← readArray c with
      | [x, y] => pure (← readNumber x, ← readNumber y)
      | _ => .error "metrics: bad centroid"
    | none => pure (0, 0)
  pure ⟨← f "area_px", ← f "area_um2", ⟨← i32 "x", ← i32 "y", ← u32 "width", ← u32 "height"⟩, c,
    ← f "aspect_ratio", ← f "major_axis_px", ← f "major_axis_um", ← f "equivalent_diameter_px",
    ← f "equivalent_diameter_um"⟩

/-- 記録を読む。 -/
def RawRecord.ofJson (j : Json) : Read RawRecord := do
  let f (k : String) : Read Json :=
    match j.field? k with
    | some v => .ok v
    | none => .error s!"record: missing field `{k}`"
  pure ⟨← readNat (← f "timestamp_ms"), ← readNat (← f "frame_id"), ← readNumber (← f "radius_px"),
    ← readNumber (← f "radius_um"), ← readNumber (← f "area_px"), ← readNumber (← f "area_um2"),
    ← readNumber (← f "x_center_px"), ← readNumber (← f "y_center_px"),
    ← readNumber (← f "major_axis_px"), ← readNumber (← f "major_axis_um"),
    ← readNumber (← f "equivalent_diameter_px"), ← readNumber (← f "equivalent_diameter_um")⟩

/-- SER の見出しの JSON の値。 -/
def SerHeader.toJson (h : SerHeader) : Json :=
  .obj [("color_id", .ofInt h.colorId), ("color", .str h.color.label),
    ("little_endian", .bool h.littleEndian), ("width", .ofNat h.width), ("height", .ofNat h.height),
    ("pixel_depth", .ofNat h.pixelDepth), ("frame_count", .ofNat h.frameCount),
    ("observer", .str h.observer), ("instrument", .str h.instrument), ("telescope", .str h.telescope),
    ("date_time", .ofNat h.dateTime), ("date_time_utc", .ofNat h.dateTimeUtc),
    ("bytes_per_pixel_plane", .ofNat h.bytesPerPixelPlane), ("planes_per_pixel", .ofNat h.planesPerPixel),
    ("frame_byte_size", .ofNat (h.frameByteSize.getD 0))]

end DropletVision
