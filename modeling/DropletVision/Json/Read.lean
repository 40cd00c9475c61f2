import DropletVision.Json.Value
import DropletVision.Decimal.Text

/-!
# JSON の値から型つきの値を読む

設定の各欄を JSON の値から読む規則と、読めなかったときの文言。

* 個数（64 ビット）と 32 ビットの値は整数の字面だけを受ける。負の整数と範囲外は値の誤り、
  小数や文字列は型の誤り。
* 倍精度の値はどの数からも読む。単精度の値は整数なら整数から、小数なら倍精度から
  最近接に丸める。
* 真偽値は真偽値だけ。
* 名前の選択肢は文字列か、その名前をただ一つのキーに持ち値が `null` のオブジェクト。
* 二つ組は長さ 2 の配列だけ。

文言は「invalid type: 実際の値, expected 期待したもの」の形。
-/

namespace DropletVision.Json

/-- 文字列の引用つき表示（`"x"`）。 -/
def debugString (s : String) : String :=
  "\"" ++ String.join (s.toList.map (fun c =>
    match c with
    | '"' => "\\\""
    | '\\' => "\\\\"
    | '\n' => "\\n"
    | '\r' => "\\r"
    | '\t' => "\\t"
    | c => String.singleton c)) ++ "\""

/-- 小数の表示（小数点が無ければ `.0` を足す）。 -/
def floatWithPoint (x : Float) : String :=
  let s := Decimal.showDouble x
  if s.any (fun c => c == '.' || c == 'e' || c == 'N' || c == 'i') then s else s ++ ".0"

/-- 誤りの文言に使う「実際の値」の表示。 -/
def unexpected : Json → String
  | .null => "unit value"
  | .bool b => s!"boolean `{b}`"
  | .num (.nat n) => s!"integer `{n}`"
  | .num (.neg n) => s!"integer `{n}`"
  | .num (.float x) => "floating point `" ++ floatWithPoint x ++ "`"
  | .num (.single x) => "floating point `" ++ floatWithPoint x.toFloat ++ "`"
  | .str s => s!"string {debugString s}"
  | .arr _ => "sequence"
  | .obj _ => "map"

/-- 型の誤り。 -/
def invalidType (j : Json) (expected : String) : String :=
  s!"invalid type: {unexpected j}, expected {expected}"

/-- 値の誤り。 -/
def invalidValue (j : Json) (expected : String) : String :=
  s!"invalid value: {unexpected j}, expected {expected}"

/-- 読み取りの結果。誤りは文言。 -/
abbrev Read (α : Type) := Except String α

/-- 上限 `limit` 未満の非負整数。 -/
def readBounded (limit : Nat) (name : String) (j : Json) : Read Nat :=
  match j with
  | .num (.nat n) => if n < limit then .ok n else .error (invalidValue j name)
  | .num (.neg _) => .error (invalidValue j name)
  | _ => .error (invalidType j name)

/-- 個数（64 ビット符号なし）。 -/
def readUsize : Json → Read Nat := readBounded (Nat.pow 2 64) "usize"

/-- 32 ビット符号なしの値。 -/
def readU32 : Json → Read Nat := readBounded (Nat.pow 2 32) "u32"

/-- 倍精度の値。 -/
def readF64 (j : Json) : Read Float :=
  match j with
  | .num n => .ok n.toFloat
  | _ => .error (invalidType j "f64")

/-- 単精度の値。整数は直接、小数は倍精度から丸める。 -/
def readF32 (j : Json) : Read Float32 :=
  match j with
  | .num (.nat n) => .ok n.toUInt64.toFloat32
  | .num (.neg n) => .ok (-(n.natAbs.toUInt64.toFloat32))
  | .num (.float x) => .ok x.toFloat32
  | .num (.single x) => .ok x
  | _ => .error (invalidType j "f32")

/-- 真偽値。 -/
def readBool (j : Json) : Read Bool :=
  match j with
  | .bool b => .ok b
  | _ => .error (invalidType j "a boolean")

/-- 選択肢の一覧の文言（二つなら「a or b」、それ以上は「one of a, b, c」）。 -/
def expectedVariants (names : List String) : String :=
  match names with
  | [a, b] => s!"`{a}` or `{b}`"
  | _ => "one of " ++ ", ".intercalate (names.map (fun n => s!"`{n}`"))

/-- 名前の選択肢。返すのは `names` の中の番号。 -/
def readVariant (names : List String) (j : Json) : Read Nat :=
  let byName (s : String) : Read Nat :=
    match names.findIdx? (· == s) with
    | some i => .ok i
    | none => .error s!"unknown variant `{s}`, expected {expectedVariants names}"
  match j with
  | .str s => byName s
  | .obj [(k, v)] =>
    match byName k with
    | .ok i => if v.isNull then .ok i else .error (invalidType v "unit variant")
    | .error e => .error e
  | .obj _ => .error (invalidValue j "map with a single key")
  | _ => .error (invalidType j "string or map")

/-- 32 ビット符号なしの二つ組。 -/
def readPairU32 (j : Json) : Read (Nat × Nat) :=
  match j with
  | .arr [a, b] => do pure (← readU32 a, ← readU32 b)
  | .arr [] => .error "invalid length 0, expected a tuple of size 2"
  | .arr [a] => do
    let _ ← readU32 a
    .error "invalid length 1, expected a tuple of size 2"
  | .arr (a :: b :: rest) => do
    let _ ← readU32 a
    let _ ← readU32 b
    .error s!"invalid length {rest.length + 2}, expected fewer elements in array"
  | _ => .error (invalidType j "a tuple of size 2")

end DropletVision.Json
