import DropletVision.Cli.Spec
import DropletVision.Roi
import DropletVision.Unicode
import DropletVision.Decimal.Read

/-!
# オプションの値の読み方

コマンドラインの文字列を、宣言された種類（`ValueKind`）の値にする。

* 整数 — 先頭に `+` を一つ許す（符号つきなら `-` も）。左から一桁ずつ読み、数字でない字が
  あれば「数字でない」、上限を超えた時点で「大きすぎる」（負の側は「小さすぎる」）。
  空なら「空」。符号だけでも「数字でない」。
* `count`・`seed` — 64 ビットの符号なし整数。
* `byte` — 64 ビットの符号つき整数として読み、0 から 255 に入らなければ
  「`値` is not in 0..=255」。このとき誤りに示す値は読んだ数を十進で書き直したもの。
* `real` — 十進の字面か `inf`・`infinity`・`nan`。空と、それ以外の読めない字面を区別する。
* `path` — 空でない文字列。空なら「値が無い」。
* `region` — `,` で区切った四つの符号つき整数（各部分の両端の空白は除く）。
  読めない部分があれば `invalid ROI '…': 理由`、数が四つでなければ
  `ROI needs x,y,width,height, got '…'`、四つ組が領域にならなければその理由。
-/

namespace DropletVision.Cli

/-- 整数の読み取りの誤り。 -/
inductive IntegerError where
  | empty
  | invalidDigit
  | tooLarge
  | tooSmall
  deriving BEq, Repr

/-- 誤りの文。 -/
def IntegerError.message : IntegerError → String
  | .empty => "cannot parse integer from empty string"
  | .invalidDigit => "invalid digit found in string"
  | .tooLarge => "number too large to fit in target type"
  | .tooSmall => "number too small to fit in target type"

/-- 数字を左から積む。`limit` を超えたら `overflow`。数字の検査が先。 -/
def accumulateDigits (limit : Nat) (overflow : IntegerError) : List Char → Nat → Except IntegerError Nat
  | [], acc => .ok acc
  | c :: cs, acc =>
    if c.isDigit then
      let next := acc * 10 + (c.toNat - 48)
      if next > limit then .error overflow else accumulateDigits limit overflow cs next
    else .error .invalidDigit

/-- `bits` ビットの整数を読む。`signed` なら負の数も読む。 -/
def readInteger (s : String) (signed : Bool) (bits : Nat) : Except IntegerError Int :=
  let posLimit := if signed then Nat.pow 2 (bits - 1) - 1 else Nat.pow 2 bits - 1
  match s.toList with
  | [] => .error .empty
  | ['+'] | ['-'] => .error .invalidDigit
  | '+' :: cs => (accumulateDigits posLimit .tooLarge cs 0).map Int.ofNat
  | '-' :: cs =>
    if signed then (accumulateDigits (Nat.pow 2 (bits - 1)) .tooSmall cs 0).map (fun n => -(n : Int))
    else .error .invalidDigit
  | cs => (accumulateDigits posLimit .tooLarge cs 0).map Int.ofNat

/-- 64 ビットの符号なし整数を読む。 -/
def readUnsigned64 (s : String) : Except IntegerError Nat :=
  (readInteger s false 64).map Int.toNat

/-- 倍精度の数を読む。誤りは文で返す。 -/
def readReal (s : String) : Except String Float :=
  if s.isEmpty then .error "cannot parse float from empty string"
  else
    match Decimal.readFloat s with
    | some x => .ok x
    | none => .error "invalid float literal"

/-- `x,y,width,height` の関心領域を読む。 -/
def readRegion (s : String) : Except String Roi := do
  let parts := s.splitOn ","
  let values ← parts.mapM (fun v =>
    match readInteger (Unicode.trim v) true 64 with
    | .ok n => .ok n
    | .error e =>
      let reason := e.message
      .error s!"invalid ROI '{s}': {reason}")
  match values with
  | [x, y, w, h] =>
    match Roi.ofSigned x y w h with
    | .ok r => .ok r
    | .error e => .error e.message
  | _ => .error s!"ROI needs x,y,width,height, got '{s}'"

/-- 読んだ値。 -/
inductive ArgValue where
  /-- 値をとらない旗。 -/
  | flag
  | count (n : Nat)
  | real (x : Float)
  | text (s : String)
  | region (r : Roi)
  deriving Inhabited

/-- 値の読み取りの誤り。 -/
inductive ValueError where
  /-- 値が無い（空）。 -/
  | empty
  /-- 読めない。`shown` は誤りに示す値、`reason` は理由。 -/
  | invalid (shown reason : String)

/-- 種類にしたがって値を読む。 -/
def ValueKind.read (k : ValueKind) (raw : String) : Except ValueError ArgValue :=
  let invalid (reason : String) : Except ValueError ArgValue := .error (.invalid raw reason)
  match k with
  | .count | .seed =>
    match readUnsigned64 raw with
    | .ok n => .ok (.count n)
    | .error e => invalid e.message
  | .byte =>
    match readInteger raw true 64 with
    | .ok n =>
      if 0 ≤ n && n ≤ 255 then .ok (.count n.toNat)
      else
        let shown := toString n
        .error (.invalid shown s!"{shown} is not in 0..=255")
    | .error e => invalid e.message
  | .real =>
    match readReal raw with
    | .ok x => .ok (.real x)
    | .error e => invalid e
  | .text => .ok (.text raw)
  | .path => if raw.isEmpty then .error .empty else .ok (.text raw)
  | .region =>
    match readRegion raw with
    | .ok r => .ok (.region r)
    | .error e => invalid e

end DropletVision.Cli
