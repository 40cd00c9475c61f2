import DropletVision.Error

/-!
# TIFF のファイルの見出しと IFD

TIFF のファイルの見出しと最初の IFD（画像の欄の表）を読み、欄の値を取り出す。

* 見出しはバイト順（`II` か `MM`）、番号 42（IFD の位置は 4 バイト）か 43（BigTIFF：
  続く二つの値が 8 と 0 で、位置は 8 バイト）、最初の IFD の位置。
* IFD は欄の数、欄の並び（番号・型・個数・値か位置）、次の IFD の位置。知らない型の欄は
  8 バイト読み飛ばす。同じ番号の欄が二つあれば後のものが残る。次の IFD が自分自身を指せば誤り。
* 欄の値は使うときに初めて読む。値が値の欄に収まらなければ、値の欄は値の位置。
  使わない欄が壊れていても誤りにならない。
* 値を整数として読むときは、型ごとに許されるものが違う（`Value.toU16`、`Value.toU32`、
  `Value.toList`）。

## 停止性

欄の並びは欄の数を燃料に、一つずつ読む。足りないバイトに行き着いたところで止まる。
-/

namespace DropletVision.Tiff

/-- 誤りの文言に使う形式の名前。 -/
def formatName : String := "Tiff"

/-- 形式の誤り。 -/
def formatError (detail : String) : ImageError := .decoding formatName detail

/-- 扱えない中身。 -/
def unsupported (feature : String) : ImageError := .unsupported formatName feature

/-- 足りないバイトの誤り。 -/
def truncated : ImageError := .io (.other "failed to fill whole buffer")

/-- 整数が型に収まらない。 -/
def intSizeError : ImageError := formatError "Platform or format size limits reached"

/-- バイト順。 -/
structure ByteOrder where
  little : Bool

/-- 位置 `i` からの `n` バイトの符号なし整数。 -/
def ByteOrder.read (o : ByteOrder) (b : ByteArray) (i n : Nat) : Nat :=
  let ks := List.range n
  let ks := if o.little then ks.reverse else ks
  ks.foldl (fun acc k => acc * 256 + (b[i + k]?.getD 0).toNat) 0

/-- 位置 `i` からの `n` バイトがあれば読む。 -/
def ByteOrder.read? (o : ByteOrder) (b : ByteArray) (i n : Nat) : Except ImageError Nat :=
  if i + n ≤ b.size then .ok (o.read b i n) else .error truncated

/-- 欄：型の番号、個数、値か位置の欄の生のバイト（4 か 8 バイト）。 -/
structure Entry where
  type : Nat
  count : Nat
  field : ByteArray

/-- 知られた型か。 -/
def knownType (t : Nat) : Bool := (1 ≤ t && t ≤ 13) || (16 ≤ t && t ≤ 18)

/-- 型ごとの一つの値のバイト数。 -/
def typeSize : Nat → Nat
  | 1 | 2 | 6 | 7 => 1
  | 3 | 8 => 2
  | 4 | 9 | 11 | 13 => 4
  | _ => 8

/-- 見出しと最初の IFD。 -/
structure Directory where
  order : ByteOrder
  big : Bool
  /-- 欄の番号と欄。後に読んだものほど前にある。 -/
  entries : List (Nat × Entry)

/-- 番号の欄。 -/
def Directory.find? (d : Directory) (tag : Nat) : Option Entry :=
  (d.entries.find? (·.1 == tag)).map (·.2)

/-- 番号の欄があるか。 -/
def Directory.has (d : Directory) (tag : Nat) : Bool := (d.find? tag).isSome

/-- 欄の並びを読む。`pos` は次の欄の位置。 -/
def readEntries (o : ByteOrder) (big : Bool) (b : ByteArray) :
    Nat → Nat → List (Nat × Entry) → Except ImageError (Nat × List (Nat × Entry))
  | 0, pos, acc => .ok (pos, acc)
  | left + 1, pos, acc => do
    let tag ← o.read? b pos 2
    let type ← o.read? b (pos + 2) 2
    if !knownType type then
      let _ ← o.read? b (pos + 4) 8
      readEntries o big b left (pos + 12) acc
    else
      let (count, fieldAt, fieldSize) := if big then (o.read b (pos + 4) 8, pos + 12, 8)
        else (o.read b (pos + 4) 4, pos + 8, 4)
      if fieldAt + fieldSize > b.size then throw truncated
      let e : Entry := ⟨type, count, b.extract fieldAt (fieldAt + fieldSize)⟩
      readEntries o big b left (fieldAt + fieldSize) ((tag, e) :: acc)

/-- 見出しと最初の IFD を読む。 -/
def readDirectory (b : ByteArray) : Except ImageError Directory := do
  let o : ByteOrder ← match (b[0]?.map UInt8.toNat), (b[1]?.map UInt8.toNat) with
    | some 73, some 73 => pure ⟨true⟩
    | some 77, some 77 => pure ⟨false⟩
    | _, _ => throw (formatError "TIFF signature not found")
  let magic ← o.read? b 2 2
  let (big, ifdAt) ← if magic == 42 then pure (false, ← o.read? b 4 4)
    else if magic == 43 then do
      if (← o.read? b 4 2) != 8 then throw (formatError "TIFF signature not found")
      if (← o.read? b 6 2) != 0 then throw (formatError "TIFF signature not found")
      pure (true, ← o.read? b 8 8)
    else throw (formatError "TIFF signature invalid")
  let count ← if big then o.read? b ifdAt 8 else o.read? b ifdAt 2
  let (pos, entries) ← readEntries o big b count (ifdAt + if big then 8 else 2) []
  let next ← if big then o.read? b pos 8 else o.read? b pos 4
  if next != 0 && next == ifdAt then throw (formatError "File contained a cycle in the list of IFDs")
  pure ⟨o, big, entries⟩

/-! ## 欄の値 -/

/-- 欄の値。整数として使わない型（符号つき・浮動小数）はまとめて `other`。 -/
inductive Value where
  /-- 型 UNDEFINED の一バイト。 -/
  | byte (v : Nat)
  /-- 並びの中の SHORT。 -/
  | short (v : Nat)
  /-- 符号なしの整数（BYTE・SHORT・LONG・LONG8 の一つの値、並びの中の LONG など）。 -/
  | unsigned (v : Nat)
  /-- IFD の位置。 -/
  | ifd (v : Nat)
  | rational (num den : Nat)
  | ascii (s : String)
  | list (items : List Value)
  | other

/-- 位置 `at_` から `count` 個の値を読む。 -/
def valuesAt (o : ByteOrder) (b : ByteArray) (type count at_ : Nat) : Except ImageError Value :=
  let size := typeSize type
  if at_ + count * size > b.size then .error truncated
  else
    .ok (.list ((List.range count).map (fun k =>
      let p := at_ + k * size
      match type with
      | 1 | 3 | 4 | 16 => .unsigned (o.read b p size)
      | 7 => .byte (o.read b p 1)
      | 13 | 18 => .ifd (o.read b p size)
      | 5 => .rational (o.read b p 4) (o.read b (p + 4) 4)
      | _ => .other)))

/-- 文字列の値（位置にあるもの）：最初の 0 の手前まで。UTF-8 でなければ誤り。 -/
def asciiAt (b : ByteArray) (count at_ : Nat) : Except ImageError Value :=
  if at_ + count > b.size then .error truncated
  else
    let bytes := (b.extract at_ (at_ + count)).toList.takeWhile (· != 0)
    match String.fromUTF8? ⟨bytes.toArray⟩ with
    | some s => .ok (.ascii s)
    | none => .error (formatError "invalid utf-8 in tag")

/-- 欄の値を読む。 -/
def Entry.value (e : Entry) (o : ByteOrder) (big : Bool) (b : ByteArray) :
    Except ImageError Value := do
  if e.count == 0 then return .list []
  let total := e.count * typeSize e.type
  let inline (k n : Nat) : Nat := o.read e.field k n
  let byteAt (k : Nat) : Nat := (e.field[k]?.getD 0).toNat
  if e.count == 1 then
    if big && total > 4 && total ≤ 8 then
      return match e.type with
        | 16 => .unsigned (inline 0 8)
        | 5 => .rational (inline 0 4) (inline 4 4)
        | 18 => .ifd (inline 0 8)
        | _ => .other
    match e.type with
    | 1 => return .unsigned (byteAt 0)
    | 7 => return .byte (byteAt 0)
    | 3 => return .unsigned (inline 0 2)
    | 4 => return .unsigned (inline 0 4)
    | 13 => return .ifd (inline 0 4)
    | 2 => if byteAt 0 == 0 then return .ascii "" else throw (formatError "Invalid tag value")
    | 16 => return .unsigned (← o.read? b (inline 0 4) 8)
    | 18 => return .ifd (← o.read? b (inline 0 4) 8)
    | 5 => return .rational (← o.read? b (inline 0 4) 4) (← o.read? b (inline 0 4 + 4) 4)
    | 10 | 12 | 17 => do let _ ← o.read? b (inline 0 4) 8; return .other
    | _ => return .other
  if total ≤ 4 || (big && total ≤ 8) then
    match e.type with
    | 1 | 7 => return .list ((List.range e.count).map (fun k => .byte (byteAt k)))
    | 3 => return .list ((List.range e.count).map (fun k => .short (inline (2 * k) 2)))
    | 4 => return .list ((List.range e.count).map (fun k => .unsigned (inline (4 * k) 4)))
    | 13 => return .list ((List.range e.count).map (fun k => .ifd (inline (4 * k) 4)))
    | 2 =>
      let bytes := (e.field.extract 0 e.count).toList
      if bytes.all (· < 128) && bytes.getLast? == some 0 then
        let text := (bytes.map (fun c => Char.ofNat c.toNat)).dropWhile (· == '\x00')
        return .ascii (String.ofList (text.reverse.dropWhile (· == '\x00')).reverse)
      else throw (formatError "Invalid tag value")
    | _ => return .list (List.replicate e.count .other)
  let at_ := if big then inline 0 8 else inline 0 4
  if e.type == 2 then asciiAt b e.count at_ else valuesAt o b e.type e.count at_

/-- 符号なしの整数が期待されたのに違う値。 -/
def expectedUnsigned : ImageError := formatError "Expected unsigned integer"

/-- 16 ビットの符号なし整数として読む。 -/
def Value.toU16 : Value → Except ImageError Nat
  | .short v => .ok v
  | .unsigned v => if v < 65536 then .ok v else .error intSizeError
  | _ => .error expectedUnsigned

/-- 32 ビットの符号なし整数として読む。 -/
def Value.toU32 : Value → Except ImageError Nat
  | .short v | .byte v => .ok v
  | .unsigned v | .ifd v => if v < Nat.pow 2 32 then .ok v else .error intSizeError
  | _ => .error expectedUnsigned

/-- 並びの要素を 64 ビットの符号なし整数として読む。 -/
def Value.toU64 : Value → Except ImageError Nat
  | .short v | .byte v | .unsigned v | .ifd v => .ok v
  | _ => .error expectedUnsigned

/-- 符号なしの整数の並びとして読む。 -/
def Value.toList : Value → Except ImageError (List Nat)
  | .list vs => vs.mapM Value.toU64
  | .unsigned v | .ifd v => .ok [v]
  | .rational n d => .ok [n, d]
  | .ascii s => .ok (s.toList.map Char.toNat)
  | _ => .error expectedUnsigned

/-- 欄の値（無ければ `none`）。 -/
def Directory.value? (d : Directory) (b : ByteArray) (tag : Nat) : Except ImageError (Option Value) :=
  match d.find? tag with
  | some e => (e.value d.order d.big b).map some
  | none => .ok none

/-- 欠かせない欄の値。 -/
def Directory.require (d : Directory) (b : ByteArray) (tag : Nat) (name : String) :
    Except ImageError Value := do
  match ← d.value? b tag with
  | some v => pure v
  | none => throw (formatError s!"Required tag {name} not found.")

end DropletVision.Tiff
