import DropletVision.Json.Read
import DropletVision.Json.Write
import DropletVision.Frame
import DropletVision.Mask
import DropletVision.Roi
import DropletVision.Synthetic.Ellipse

/-!
# 画素の並びの JSON 表現

フレーム・明るさの平面・二値の平面・関心領域・バイト列を JSON の値と行き来させる。

* フレーム — 入れ子の配列（`[[v, …], …]` は白黒、`[[[c0, c1, …], …], …]` は色つき、
  `[]` は形 `[0, 0]`）、`shape` と `data`（平らな値の列）・`hex`・`fill` のオブジェクト、
  または情景の記述（`h`, `w`, `bg`, `rects`, `ellipses`, `pixels`, `channels`, `tint`）。
  書くときは `shape` と小文字の十六進の `hex`。
* 明るさの平面 — 数の入れ子の配列か、`h`, `w`, `fill`, `rects`, `pixels` の記述。
  書くときは入れ子の配列。
* 二値の平面 — 行ごとの文字列（`#` か `1` が立っている）か、`h`, `w`, `rects`, `ellipses`,
  `pixels`, `clear` の記述。書くときは `#` と `.` の文字列。
* バイト列 — 十六進の文字列か、部分の列（十六進・一バイトの数・`ascii`・`i32`・`u16`・`u64`・
  `u16be`・`repeat` と `count`）をつなげたもの。

数を読むところでは文字列 `"inf"`, `"-inf"`, `"nan"` も受ける。`null` の欄は無いものとみなす。

## 仕組み

情景は書いた順に描く：背景で埋め、矩形（画像の外は切る）、楕円、一画素ずつの値
（画像の外は捨てる）。`channels` があれば白黒の値に `tint` の係数を掛けて丸め、
0 から 255 に収めたチャネルを作る（係数が足りなければ 1）。
-/

namespace DropletVision.Json

/-- 欄の値。`null` は無いものとみなす。 -/
def member? (j : Json) (k : String) : Option Json :=
  match j.field? k with
  | some .null => none
  | x => x

/-- 無くてはならない欄。 -/
def member (j : Json) (k : String) : Read Json :=
  match member? j k with
  | some v => .ok v
  | none => .error s!"missing field {k}"

/-- 欄があれば `f` で読み、無ければ `d`。 -/
def memberOr {α : Type} (j : Json) (k : String) (f : Json → Read α) (d : α) : Read α :=
  match member? j k with
  | some v => f v
  | none => .ok d

/-- 数。非有限の値は文字列でも書ける。 -/
def readNumber : Json → Read Float
  | .num n => .ok n.toFloat
  | .str "inf" => .ok (1.0 / 0.0)
  | .str "-inf" => .ok (-1.0 / 0.0)
  | .str "nan" => .ok (0.0 / 0.0)
  | _ => .error "expected number"

/-- 単精度の数。倍精度で読んで丸める。 -/
def readSingle (j : Json) : Read Float32 := do
  pure (← readNumber j).toFloat32

/-- 整数。 -/
def readInt : Json → Read Int
  | .num (.nat n) => .ok n
  | .num (.neg n) => .ok n
  | _ => .error "expected integer"

/-- 非負の整数。 -/
def readNat (j : Json) : Read Nat := do
  let i ← readInt j
  if i < 0 then .error "expected non-negative integer" else pure i.toNat

/-- 配列。 -/
def readArray : Json → Read (List Json)
  | .arr xs => .ok xs
  | _ => .error "expected array"

/-- 文字列。 -/
def readString : Json → Read String
  | .str s => .ok s
  | _ => .error "expected string"

/-- 零に向けて切り捨てた整数。整数の字面はそのまま。 -/
def readTruncated (j : Json) : Read Int := do
  match j with
  | .num (.nat n) => pure n
  | .num (.neg n) => pure n
  | _ =>
    let x ← readNumber j
    let t := x.abs.floor
    let n : Int := if t.isNaN then 0 else t.toUInt64.toNat
    pure (if x < 0 then -n else n)

/-- 8 ビットの画素値。 -/
def readPixel (j : Json) : Read UInt8 := do
  let n ← readInt j
  if n < 0 || n > 255 then .error "pixel: pixel out of range" else pure n.toNat.toUInt8

/-- 十六進の一桁。 -/
def hexDigitValue (c : Char) : Read Nat :=
  if c.isDigit then .ok (c.toNat - 48)
  else if 'a' ≤ c && c ≤ 'f' then .ok (c.toNat - 87)
  else if 'A' ≤ c && c ≤ 'F' then .ok (c.toNat - 55)
  else .error "bad hex"

/-- 十六進の文字列をバイト列にする。 -/
def readHex (s : String) : Read ByteArray :=
  go s.toList .empty
where
  /-- 二桁ずつ読む。 -/
  go : List Char → ByteArray → Read ByteArray
    | a :: b :: rest, acc => do go rest (acc.push ((← hexDigitValue a) * 16 + (← hexDigitValue b)).toUInt8)
    | [], acc => .ok acc
    | _, _ => .error "odd hex"

/-- バイト列の小文字の十六進。 -/
def hexText (b : ByteArray) : String :=
  String.join (b.toList.map (fun x =>
    String.ofList [hexDigit (x.toNat / 16), hexDigit (x.toNat % 16)]))

/-- 整数 `v` の下位 `n` バイト（小さい桁から）。 -/
def littleEndian (v : Int) (n : Nat) : ByteArray :=
  let u := (v % Int.pow 2 (8 * n)).toNat
  ⟨(List.range n).toArray.map (fun k => (u / Nat.pow 256 k % 256).toUInt8)⟩

/-- バイト列の一つの部分。 -/
def readBytePart (j : Json) : Read ByteArray := do
  match j with
  | .str s => readHex s
  | .num _ => pure (ByteArray.empty.push (← readNat j).toUInt8)
  | _ =>
    if let some s := member? j "ascii" then pure (← readString s).toUTF8
    else if let some n := member? j "i32" then pure (littleEndian (← readInt n) 4)
    else if let some n := member? j "u16" then pure (littleEndian (← readInt n) 2)
    else if let some n := member? j "u64" then pure (littleEndian (← readInt n) 8)
    else if let some n := member? j "u16be" then pure ⟨(littleEndian (← readInt n) 2).data.reverse⟩
    else if let some b := member? j "repeat" then
      pure ⟨Array.replicate (← memberOr j "count" readNat 0) (← readNat b).toUInt8⟩
    else .error "bad bytes part"

/-- バイト列：十六進の文字列か、部分の列。 -/
def readBytes (j : Json) : Read ByteArray := do
  match j with
  | .str s => readHex s
  | .arr parts => parts.foldlM (fun acc p => do pure (acc ++ (← readBytePart p))) .empty
  | _ => .error "bad bytes"

/-- 矩形 `[x, y, w, h]` のうち画像（`height × width`）の中にある画素。 -/
def clippedRect (x y w h : Int) (height width : Nat) : List (Nat × Nat) :=
  let r0 := (max y 0).toNat
  let r1 := min (y + h) height
  let c0 := (max x 0).toNat
  let c1 := min (x + w) width
  (List.range (r1.toNat - r0)).flatMap (fun i =>
    (List.range (c1.toNat - c0)).map (fun k => (r0 + i, c0 + k)))

/-- 欄 `k` の配列の各要素を読む。無ければ空。 -/
def listOf {α : Type} (j : Json) (k : String) (f : Json → Read α) : Read (List α) := do
  (← memberOr j k readArray []).mapM f

/-- 長さの決まった数の組。 -/
def tupleOf {α : Type} (n : Nat) (what : String) (f : Json → Read α) (j : Json) :
    Read (List α) := do
  let xs ← readArray j
  if xs.length != n then .error s!"bad {what}" else xs.mapM f

/-- 値を `0 .. 255` に丸めて収める。 -/
def toLevel (v : Float) : UInt8 :=
  let v := v.round
  if v < 0 then 0 else if v > 255 then 255 else v.toUInt8

/-- 情景の記述からフレームを描く。 -/
def readScene (j : Json) : Read Frame := do
  let h ← readNat (← member j "h")
  let w ← readNat (← member j "w")
  let mut d : ByteArray := ⟨Array.replicate (h * w) (← memberOr j "bg" readPixel 0)⟩
  for r in ← listOf j "rects" readArray do
    match r with
    | [x, y, rw, rh, v] =>
      let v ← readPixel v
      for (a, b) in clippedRect (← readInt x) (← readInt y) (← readInt rw) (← readInt rh) h w do
        d := d.set! (a * w + b) v
    | _ => .error "bad rect"
  for e in ← listOf j "ellipses" (tupleOf 5 "ellipse" readNumber) do
    match e with
    | [cx, cy, a, b, v] => d := drawEllipse h w d cx cy a b v.toUInt8
    | _ => .error "bad ellipse"
  for p in ← listOf j "pixels" readArray do
    match p with
    | [r, c, v] =>
      let r ← readInt r
      let c ← readInt c
      let v ← readPixel v
      if 0 ≤ r && r < h && 0 ≤ c && c < w then d := d.set! (r.toNat * w + c.toNat) v
    | _ => .error "bad pixel"
  match member? j "channels" with
  | none => pure (Frame.mono h w d)
  | some c =>
    let c ← readNat c
    let tint ← listOf j "tint" readNumber
    let out := (List.range (h * w)).foldl (fun o i =>
      (List.range c).foldl (fun o k =>
        o.push (toLevel (Float.ofNat ((d[i]?).getD 0).toNat * (tint[k]?).getD 1.0))) o)
      (ByteArray.emptyWithCapacity (h * w * c))
    pure ⟨[h, w, c], out, 0, none⟩

/-- 入れ子の配列で書いたフレーム。 -/
def readNestedFrame (rows : List Json) : Read Frame := do
  let rows ← rows.mapM readArray
  let w := (rows.head?.map List.length).getD 0
  if rows.any (·.length != w) then .error "ragged frame" else
  match rows.head?.bind List.head? with
  | some (.arr px) =>
    let c := px.length
    let mut d := ByteArray.empty
    for row in rows do
      for p in row do
        let p ← readArray p
        if p.length != c then .error "ragged frame"
        for v in p do d := d.push (← readPixel v)
    pure ⟨[rows.length, w, c], d, 0, none⟩
  | _ =>
    let mut d := ByteArray.empty
    for row in rows do
      for v in row do d := d.push (← readPixel v)
    pure (Frame.mono rows.length w d)

/-- 形と中身で書いたフレーム。 -/
def readShapedFrame (j : Json) (s : Json) : Read Frame := do
  let shape ← (← readArray s).mapM readNat
  let n := shape.foldl (· * ·) 1
  let d ← match member? j "data", member? j "hex" with
    | some d, _ => do
      let vs ← (← readArray d).mapM readPixel
      pure ⟨vs.toArray⟩
    | none, some hx => readHex (← readString hx)
    | none, none => pure ⟨Array.replicate n (← memberOr j "fill" readPixel 0)⟩
  if d.size != n then .error "data length does not match shape" else pure ⟨shape, d, 0, none⟩

end DropletVision.Json

namespace DropletVision

open Json

/-- JSON の値からフレームを読む。`index` と `timestamp_us` があれば添える。 -/
def Frame.ofJson (j : Json) : Read Frame := do
  let f ← match j with
    | .arr [] => pure (Frame.mono 0 0 .empty)
    | .arr rows => readNestedFrame rows
    | .obj _ =>
      match member? j "shape" with
      | some s => readShapedFrame j s
      | none => readScene j
    | _ => .error "bad frame"
  let ts ← match member? j "timestamp_us" with
    | some t => some <$> readNat t
    | none => pure none
  pure { f with index := ← memberOr j "index" readNat 0, timestampUs := ts }

/-- 形と十六進の中身。 -/
def Frame.toJson (f : Frame) : Json :=
  .obj [("shape", .arr (f.shape.map Json.ofNat)), ("hex", .str (hexText f.data))]

/-- 番号と時刻も添えた形。 -/
def Frame.toJsonWithMetadata (f : Frame) : Json :=
  .obj [("hex", .str (hexText f.data)), ("index", .ofNat f.index), ("shape", .arr (f.shape.map Json.ofNat)),
    ("timestamp_us", (f.timestampUs.map Json.ofNat).getD .null)]

/-- 倍精度の値。非有限の値は文字列。 -/
def Json.ofNumber (x : Float) : Json :=
  if x.isNaN then .str "nan" else if x.isInf then .str (if x > 0 then "inf" else "-inf")
  else .ofFloat x

/-- 単精度の値。非有限の値は文字列。 -/
def Json.ofSingle (x : Float32) : Json := Json.ofNumber x.toFloat

/-- JSON の値から明るさの平面を読む。 -/
def Plane.ofJson (j : Json) : Read Plane := do
  match j with
  | .arr rows =>
    let rows ← rows.mapM readArray
    let w := (rows.head?.map List.length).getD 0
    if rows.any (·.length != w) then .error "ragged matrix" else
    let vals ← rows.flatten.mapM readSingle
    pure (Plane.ofFlat rows.length w vals.toArray)
  | .obj _ =>
    let h ← readNat (← member j "h")
    let w ← readNat (← member j "w")
    let mut d : Array Float32 := Array.replicate (h * w) (← memberOr j "fill" readSingle 0)
    for r in ← listOf j "rects" readArray do
      match r with
      | [x, y, rw, rh, v] =>
        let v ← readSingle v
        for (a, b) in clippedRect (← readTruncated x) (← readTruncated y) (← readTruncated rw)
            (← readTruncated rh) h w do
          d := d.set! (a * w + b) v
      | _ => .error "bad rect"
    for p in ← listOf j "pixels" readArray do
      match p with
      | [r, c, v] =>
        let r ← readInt r
        let c ← readInt c
        let v ← readSingle v
        if 0 ≤ r && r < h && 0 ≤ c && c < w then d := d.set! (r.toNat * w + c.toNat) v
      | _ => .error "bad pixel"
    pure (Plane.ofFlat h w d)
  | _ => .error "bad matrix"

/-- 入れ子の配列。 -/
def Plane.toJson (p : Plane) : Json :=
  .arr (p.rows.map (fun r => .arr (r.map Json.ofSingle)))

/-- JSON の値から二値の平面を読む。 -/
def Mask.ofJson (j : Json) : Read Mask := do
  match j with
  | .arr rows =>
    let rows ← rows.mapM readString
    let w := (rows.head?.map String.length).getD 0
    if rows.any (·.length != w) then .error "ragged mask" else
    let cells := rows.map (fun r => r.toList.map (fun c => c == '#' || c == '1'))
    pure (Mask.ofFn rows.length w (fun r c => (cells.getD r []).getD c false))
  | .obj _ =>
    let h ← readNat (← member j "h")
    let w ← readNat (← member j "w")
    let mut d : ByteArray := ⟨Array.replicate (h * w) 0⟩
    for r in ← listOf j "rects" (tupleOf 4 "rect" readInt) do
      match r with
      | [x, y, rw, rh] =>
        for (a, b) in clippedRect x y rw rh h w do
          d := d.set! (a * w + b) 1
      | _ => .error "bad rect"
    for e in ← listOf j "ellipses" (tupleOf 4 "ellipse" readNumber) do
      match e with
      | [cx, cy, a, b] => d := drawEllipse h w d cx cy a b 1
      | _ => .error "bad ellipse"
    let mut m : Mask := ⟨h, w, d⟩
    for p in ← listOf j "pixels" (tupleOf 2 "pixel" readNat) do
      match p with
      | [r, c] => m := m.set r c true
      | _ => .error "bad pixel"
    for p in ← listOf j "clear" (tupleOf 2 "pixel" readNat) do
      match p with
      | [r, c] => m := m.set r c false
      | _ => .error "bad pixel"
    pure m
  | _ => .error "bad mask"

/-- 行ごとの `#` と `.` の文字列。 -/
def Mask.toJson (m : Mask) : Json :=
  .arr (m.rows.map (fun r => .str (String.ofList (r.map (fun b => if b then '#' else '.')))))

/-- `[x, y, width, height]` か、同じ名前の欄のオブジェクトから読む。各値は 32 ビット。 -/
def Roi.ofJson (j : Json) : Read Roi := do
  let u32 (v : Json) : Read Nat := do
    let n ← readNat v
    if n ≥ Nat.pow 2 32 then .error "roi value out of range" else pure n
  match j with
  | .arr [x, y, w, h] => pure ⟨← u32 x, ← u32 y, ← u32 w, ← u32 h⟩
  | .obj _ =>
    pure ⟨← u32 (← member j "x"), ← u32 (← member j "y"), ← u32 (← member j "width"),
      ← u32 (← member j "height")⟩
  | _ => .error "bad roi"

/-- `[x, y, width, height]`。 -/
def Roi.toJson (r : Roi) : Json := .arr ([r.x, r.y, r.width, r.height].map Json.ofNat)

end DropletVision
