import DropletVision.Frame
import DropletVision.Numeric

/-!
# PNM（PBM・PGM・PPM・PAM）

PNM のファイルを 8 ビットのフレームに復号し、白黒か RGB のフレームを PAM にする。

* 先頭の二文字 `P1`〜`P7` で種類が決まる。`P1`・`P4` は白黒の二値、`P2`・`P5` は灰色、
  `P3`・`P6` は RGB、`P7` は PAM。`P1`〜`P3` の標本は十進の文字、ほかはバイト。
* `P1`〜`P6` の見出しは空白で区切った語（幅・高さ、二値でなければ最大値）。`#` から行末までは注釈で、
  語の途中にあっても読み飛ばす。語の後の空白は一つだけ読む。見出しの数も十進の文字の標本も
  数字だけで書く（符号は付けられない）。
* `P7` の見出しは `P7` の直後の改行と、`ENDHDR` までの行（`WIDTH`・`HEIGHT`・`DEPTH`・`MAXVAL` は
  一度ずつ欠かせず、値の先頭には `+` を付けてよい。`TUPLTYPE` は重ねると空白でつなぐ）。
  `TUPLTYPE` があれば `DEPTH` はその標本の数と等しい。
* 最大値が 255 以下なら 8 ビット、65535 以下なら 16 ビットの標本（大きい桁から）。
  最大値が 255・65535 でなければ、単精度で `v · (255 / 最大値)`（16 ビットは 65535）を丸めて広げる。
* 二値の 1 は黒（0）、0 は白（255）。PAM の `BLACKANDWHITE` は 0 が黒、1 が白。
* 結果は灰色（透明度つきも）なら白黒 `[h, w]`、RGB（透明度つきも）なら `[h, w, 3]`。16 ビットは
  `(v + 128) / 257` で 8 ビットにする。
* 書くときは PAM（`GRAYSCALE` か `RGB`、最大値 255）。

## 停止性

見出しの語と行、文字の標本の読み取りは、読む位置が一回ごとに進み、残りのバイト数を燃料にする。
-/

namespace DropletVision.Pnm

/-- 誤りの文言に使う形式の名前。 -/
def formatName : String := "Pnm"

/-- 形式の誤り。 -/
def formatError (detail : String) : ImageError := .decoding formatName detail

/-- 扱えない中身。 -/
def unsupported (feature : String) : ImageError := .unsupported formatName feature

/-- 標本が足りない。 -/
def tooShort : ImageError := formatError "Not enough data was provided to the Decoder to decode the image"

/-- 区切りの空白（タブ・改行・垂直タブ・改ページ・復帰・空白）。 -/
def isSeparator (c : Nat) : Bool := (9 ≤ c && c ≤ 13) || c == 32

/-- 十進の符号なし整数。`plus` なら先頭の `+` を許す。`limit` 以上は読めない。 -/
def parseUnsigned (s : String) (limit : Nat) (plus : Bool) : Option Nat :=
  let cs := match plus, s.toList with
    | true, '+' :: rest => rest
    | _, rest => rest
  if cs.isEmpty || !cs.all Char.isDigit then none
  else
    let v := cs.foldl (fun acc c => acc * 10 + (c.toNat - 48)) 0
    if v < limit then some v else none

/-- 語を読み終える：空なら終わりに行き着いた誤り。 -/
def finishToken (p : Nat) (acc : List Char) : Except ImageError (String × Nat) :=
  if acc.isEmpty then .error (.io .unexpectedEof) else .ok (String.ofList acc.reverse, p)

/-- 見出しの語を一つ読む。`live` は注釈の外にいるか。 -/
def tokenFrom (b : ByteArray) : Nat → Nat → Bool → List Char → Except ImageError (String × Nat)
  | 0, p, _, acc => finishToken p acc
  | fuel + 1, p, live, acc =>
    match b[p]? with
    | none => finishToken p acc
    | some byte =>
      let c := byte.toNat
      let enabled := live && c != 35
      let live := enabled || c == 10 || c == 13
      if !enabled then tokenFrom b fuel (p + 1) live acc
      else if isSeparator c then
        if acc.isEmpty then tokenFrom b fuel (p + 1) live acc
        else .ok (String.ofList acc.reverse, p + 1)
      else if c ≥ 128 then .error (formatError s!"Non ASCII character {c} in header")
      else tokenFrom b fuel (p + 1) live (Char.ofNat c :: acc)

/-- 見出しの 32 ビットの整数を一つ読む。 -/
def headerNumber (b : ByteArray) (pos : Nat) : Except ImageError (Nat × Nat) := do
  let (s, p) ← tokenFrom b (b.size - pos + 1) pos true []
  match parseUnsigned s (Nat.pow 2 32) false with
  | some v => pure (v, p)
  | none => throw (formatError s!"Error parsing {s} as a number in the preamble")

/-! ## 標本の種類 -/

/-- 標本の並び方。`wide` は 16 ビット。 -/
inductive Tuple where
  /-- `P1`・`P4` の二値（1 が黒）。 -/
  | pbmBit
  /-- PAM の `BLACKANDWHITE`（1 が白）。 -/
  | bwBit
  | gray (wide : Bool)
  | grayAlpha (wide : Bool)
  | rgb (wide : Bool)
  | rgbAlpha (wide : Bool)

/-- 一画素の標本の数。 -/
def Tuple.components : Tuple → Nat
  | .pbmBit | .bwBit | .gray _ => 1
  | .grayAlpha _ => 2
  | .rgb _ => 3
  | .rgbAlpha _ => 4

/-- 16 ビットの標本か。 -/
def Tuple.wide : Tuple → Bool
  | .gray w | .grayAlpha w | .rgb w | .rgbAlpha w => w
  | _ => false

/-- 結果が白黒か。 -/
def Tuple.isGray : Tuple → Bool
  | .rgb _ | .rgbAlpha _ => false
  | _ => true

/-- 最大値から灰色か RGB の標本の種類を決める。 -/
def byMaxval (maxval : Nat) (rgb : Bool) : Except ImageError Tuple :=
  if maxval == 0 then .error (formatError "The image's maximum sample value is zero")
  else if maxval ≤ 0xFF then .ok (if rgb then .rgb false else .gray false)
  else if maxval ≤ 0xFFFF then .ok (if rgb then .rgb true else .gray true)
  else .error (formatError s!"The image's maximum sample value {maxval} is too large")

/-- 読み取った見出し。 -/
structure Header where
  width : Nat
  height : Nat
  /-- 標本の最大値（二値は 1）。 -/
  maxval : Nat
  tuple : Tuple
  /-- 標本が十進の文字か。 -/
  ascii : Bool
  /-- 標本の始まり。 -/
  dataStart : Nat

/-! ## PAM の見出し -/

/-- 改行か終わりまでの一行（改行は読むが含めない）。UTF-8 でなければ誤り。 -/
def lineFrom (b : ByteArray) (pos : Nat) : Except ImageError (String × Nat) :=
  let rest := (b.extract pos b.size).toList
  let body := rest.takeWhile (· != 10)
  let next := pos + body.length + (if body.length < rest.length then 1 else 0)
  match String.fromUTF8? ⟨body.toArray⟩ with
  | some s => .ok (s, next)
  | none => .error (formatError "invalid utf-8 in header line")

/-- 前後の区切りの空白を取り除く。 -/
def trimSeparators (s : String) : String :=
  let sep (c : Char) : Bool := isSeparator c.toNat
  String.ofList ((s.toList.dropWhile sep).reverse.dropWhile sep).reverse

/-- PAM の見出しの値の行。 -/
structure PamFields where
  height : Option Nat := none
  width : Option Nat := none
  depth : Option Nat := none
  maxval : Option Nat := none
  tupltype : Option String := none

/-- 一つの値の行を読む。二度目は誤り。 -/
def singleValue (old : Option Nat) (rest name : String) : Except ImageError (Option Nat) :=
  match old with
  | some _ => .error (formatError s!"Duplicate header line {name}")
  | none =>
    match parseUnsigned (trimSeparators rest) (Nat.pow 2 32) true with
    | some v => .ok (some v)
    | none => .error (formatError s!"Error parsing {rest} as a number in line {name}")

/-- `ENDHDR` までの行を読む。 -/
def pamLines (b : ByteArray) : Nat → Nat → PamFields → Except ImageError (PamFields × Nat)
  | 0, _, _ => .error (formatError "Unexpected end of PNM header")
  | fuel + 1, pos, f => do
    let read : String × Nat ← lineFrom b pos
    let line := read.1
    let next := read.2
    if line.isEmpty then throw (formatError "Unexpected end of PNM header")
    if line.startsWith "#" then pamLines b fuel next f else
    if !line.toList.all (fun c => c.toNat < 128) then throw (formatError "Non ASCII line in PAM header")
    let cs := line.toList
    let cut := (cs.findIdx? (fun c => isSeparator c.toNat)).getD cs.length
    let trimmed := cs.dropWhile (fun c => isSeparator c.toNat)
    let ident := String.ofList (trimmed.take cut)
    let rest := String.ofList (trimmed.drop cut)
    match ident with
    | "ENDHDR" => pure (f, next)
    | "HEIGHT" => pamLines b fuel next { f with height := ← singleValue f.height rest "HEIGHT" }
    | "WIDTH" => pamLines b fuel next { f with width := ← singleValue f.width rest "WIDTH" }
    | "DEPTH" => pamLines b fuel next { f with depth := ← singleValue f.depth rest "DEPTH" }
    | "MAXVAL" => pamLines b fuel next { f with maxval := ← singleValue f.maxval rest "MAXVAL" }
    | "TUPLTYPE" =>
      let t := trimSeparators rest
      pamLines b fuel next { f with tupltype := some (match f.tupltype with
        | some old => old ++ " " ++ t
        | none => t) }
    | _ => throw (formatError s!"Unknown header line {ident}")

/-- PAM の標本の種類。 -/
def pamTuple (depth maxval : Nat) (tupltype : Option String) : Except ImageError Tuple :=
  let invalid : Except ImageError Tuple :=
    .error (formatError s!"Invalid depth ({depth}) or maxval ({maxval}) for tuple type")
  if maxval == 0 then .error (formatError "The image's maximum sample value is zero")
  else
    match tupltype with
    | none =>
      if depth == 1 then .ok (.gray false)
      else if depth == 2 then .ok (.grayAlpha false)
      else if depth == 3 then .ok (.rgb false)
      else if depth == 4 then .ok (.rgbAlpha false)
      else .error (formatError "Tuple type not recognized")
    | some "BLACKANDWHITE" => if maxval == 1 && depth == 1 then .ok .bwBit else invalid
    | some "GRAYSCALE" =>
      if depth == 1 && maxval ≤ 0xFF then .ok (.gray false)
      else if depth == 1 && maxval ≤ 0xFFFF then .ok (.gray true) else invalid
    | some "GRAYSCALE_ALPHA" =>
      if depth == 2 && maxval ≤ 0xFF then .ok (.grayAlpha false)
      else if depth == 2 && maxval ≤ 0xFFFF then .ok (.grayAlpha true) else invalid
    | some "RGB" =>
      if depth == 3 && maxval ≤ 0xFF then .ok (.rgb false)
      else if depth == 3 && maxval ≤ 0xFFFF then .ok (.rgb true) else invalid
    | some "RGB_ALPHA" =>
      if depth == 4 && maxval ≤ 0xFF then .ok (.rgbAlpha false)
      else if depth == 4 && maxval ≤ 0xFFFF then .ok (.rgbAlpha true) else invalid
    | some "BLACKANDWHITE_ALPHA" => .error (unsupported "Color type BLACKANDWHITE_ALPHA")
    | some other => .error (unsupported s!"Tuple type {other}")

/-- PAM の見出し。`pos` は `P7` の直後。 -/
def pamHeader (b : ByteArray) (pos : Nat) : Except ImageError Header := do
  match b[pos]? with
  | none => throw (.io .unexpectedEof)
  | some 10 => pure ()
  | some c => throw (formatError s!"Expected newline after P7 magic, got {c}")
  let (f, start) ← pamLines b (b.size + 1) (pos + 1) {}
  match f.height, f.width, f.depth, f.maxval with
  | some h, some w, some d, some m => pure ⟨w, h, m, ← pamTuple d m f.tupltype, false, start⟩
  | _, _, _, _ => throw (formatError "Missing header line in PAM header")

/-- 見出しを読む。 -/
def readHeader (b : ByteArray) : Except ImageError Header := do
  if b.size < 2 then throw (.io (.other "failed to fill whole buffer"))
  let kind := (b[1]?.getD 0).toNat
  if (b[0]?.getD 0) != 80 || kind < 49 || kind > 55 then
    throw (formatError "Invalid magic constant")
  if kind == 55 then return ← pamHeader b 2
  let (w, p) ← headerNumber b 2
  let (h, p) ← headerNumber b p
  if kind == 49 || kind == 52 then return ⟨w, h, 1, .pbmBit, kind == 49, p⟩
  let (m, p) ← headerNumber b p
  pure ⟨w, h, m, ← byMaxval m (kind == 51 || kind == 54), kind ≤ 51, p⟩

/-! ## 標本 -/

/-- 文字の標本を一つ読む：区切りを飛ばし、次の区切りまでの語（区切りも読む）。 -/
def asciiWord (b : ByteArray) (pos : Nat) : List Nat × Nat :=
  let rest := (b.extract pos b.size).toList.map UInt8.toNat
  let skipped := rest.takeWhile isSeparator
  let after := rest.drop skipped.length
  let word := after.takeWhile (fun c => !isSeparator c)
  let used := skipped.length + word.length + (if word.length < after.length then 1 else 0)
  (word, pos + used)

/-- 十進の文字の標本を `count` 個読む。`limit` 以上の値は誤り。 -/
def asciiSamples (b : ByteArray) (limit : Nat) : Nat → Nat → Array Nat → Except ImageError (Array Nat)
  | 0, _, acc => .ok acc
  | n + 1, pos, acc =>
    let (word, next) := asciiWord b pos
    if word.any (· ≥ 128) then .error (formatError "Non ASCII sample")
    else
      let s := String.ofList (word.map Char.ofNat)
      match parseUnsigned s limit false with
      | some v => asciiSamples b limit n next (acc.push v)
      | none => .error (formatError s!"Error parsing {s} as a number in a sample")

/-- `P1` の標本を `count` 個読む（空白は飛ばす）。0 は白、1 は黒。 -/
def asciiBits (b : ByteArray) : Nat → Nat → Nat → Array Nat → Except ImageError (Array Nat)
  | 0, _, _, acc => .ok acc
  | _ + 1, 0, _, _ => .error tooShort
  | n + 1, fuel + 1, pos, acc =>
    match b[pos]? with
    | none => .error tooShort
    | some c =>
      if isSeparator c.toNat then asciiBits b (n + 1) fuel (pos + 1) acc
      else if c == 48 then asciiBits b n fuel (pos + 1) (acc.push 255)
      else if c == 49 then asciiBits b n fuel (pos + 1) (acc.push 0)
      else .error (formatError s!"Unexpected character {c} in raster")

/-- 標本を読む（広げる前の値）。 -/
def rawSamples (h : Header) (b : ByteArray) : Except ImageError (Array Nat) := do
  let count := h.width * h.height * h.tuple.components
  if h.ascii then
    match h.tuple with
    | .pbmBit => asciiBits b count (b.size + 1) h.dataStart #[]
    | t => asciiSamples b (if t.wide then 65536 else 256) count h.dataStart #[]
  else
    match h.tuple with
    | .pbmBit =>
      let rowBytes := (h.width + 7) / 8
      if b.size < h.dataStart + rowBytes * h.height then throw tooShort
      pure ((Array.range count).map (fun i =>
        let (y, x) := (i / h.width, i % h.width)
        let byte := (b[h.dataStart + y * rowBytes + x / 8]?.getD 0).toNat
        if (byte >>> (7 - x % 8)) % 2 == 1 then 0 else 255))
    | t =>
      let size := if t.wide then 2 else 1
      if b.size < h.dataStart + count * size then throw tooShort
      let vs := (Array.range count).map (fun i =>
        if t.wide then
          (b[h.dataStart + 2 * i]?.getD 0).toNat * 256 + (b[h.dataStart + 2 * i + 1]?.getD 0).toNat
        else (b[h.dataStart + i]?.getD 0).toNat)
      match t with
      | .bwBit =>
        match vs.find? (· > 1) with
        | some v => throw (formatError s!"Sample value {v} outside of bounds")
        | none => pure vs
      | _ => pure vs

/-- 最大値に合わせて広げる：単精度で `v · (目標 / 最大値)` を丸め、型の上限で止める。 -/
def scale (maxval target v : Nat) : Nat :=
  if maxval == target then v
  else
    let x := (Float32.ofNat v * (Float32.ofNat target / Float32.ofNat maxval)).round
    if target == 255 then x.toUInt8.toNat else x.toUInt16.toNat

/-- 復号に使える大きさの上限（バイト）。 -/
def memoryLimit : Nat := 512 * 1024 * 1024

/-- PNM のバイト列を復号する。 -/
def decode (b : ByteArray) : Except ImageError Frame := do
  let h ← readHeader b
  let t := h.tuple
  let pixelBytes := t.components * (if t.wide then 2 else 1)
  if h.width * h.height * pixelBytes > memoryLimit then throw .memoryLimit
  let target := if t.wide then 65535 else 255
  let vs := (← rawSamples h b).map (scale h.maxval target)
  let eight (v : Nat) : UInt8 := if t.wide then ((v + 128) / 257).toUInt8 else v.toUInt8
  let c := t.components
  let n := h.width * h.height
  if t.isGray then
    pure ⟨[h.height, h.width], ⟨(Array.range n).map (fun i => eight (vs[i * c]?.getD 0))⟩, 0, none⟩
  else
    pure ⟨[h.height, h.width, 3],
      ⟨(Array.range (n * 3)).map (fun j => eight (vs[j / 3 * c + j % 3]?.getD 0))⟩, 0, none⟩

/-- 白黒（`[h, w]`）か RGB（`[h, w, 3]`）のフレームを PAM にする。 -/
def encode (f : Frame) : ByteArray :=
  let gray := f.shape.length == 2
  let depth := if gray then 1 else 3
  let tuple := if gray then "GRAYSCALE" else "RGB"
  let header := s!"P7\nWIDTH {f.width}\nHEIGHT {f.height}\nDEPTH {depth}\n" ++
    s!"MAXVAL 255\nTUPLTYPE {tuple}\nENDHDR\n"
  header.toUTF8 ++ f.data

end DropletVision.Pnm
