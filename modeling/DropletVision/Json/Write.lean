import DropletVision.Json.Value
import DropletVision.Decimal.Text

/-!
# JSON の書き出し

一行の詰めた形（`compact`）と、二字下げで要素ごとに改行する形（`pretty`）。

* 文字列は `"` と `\` と制御文字だけを逃がす。`\b \t \n \f \r` は短い形、
  残りの制御文字は小文字十六進の `\u00XX`。非 ASCII はそのまま。
* 数は `numberStyle` に従う。倍精度は読み戻せる最短の桁で、整数値にも `.0` を付け、
  `1e-5 ≤ |x| < 1e16` の外は指数表記（`1e-7`、`1e+21`）。非有限は `null`。
* 単精度の値を書くときは単精度として最短の桁を使う（`Written.single`）。
-/

namespace DropletVision.Json

/-- JSON の数の書式。 -/
def numberStyle : Decimal.Style := ⟨some (-5, 16), true, true⟩

/-- 倍精度の数の字面。非有限は `null`。 -/
def doubleText (x : Float) : String :=
  (Decimal.renderFinite .double numberStyle (Decimal.decodeDouble x)).getD "null"

/-- 単精度の数の字面。非有限は `null`。 -/
def singleText (x : Float32) : String :=
  (Decimal.renderFinite .single numberStyle (Decimal.decodeSingle x)).getD "null"

/-- 十六進の一桁（小文字）。 -/
def hexDigit (n : Nat) : Char :=
  if n < 10 then Char.ofNat (0x30 + n) else Char.ofNat (0x61 + n - 10)

/-- 文字列の中の一文字の書き方。 -/
def escapeChar (c : Char) : String :=
  match c with
  | '"' => "\\\""
  | '\\' => "\\\\"
  | '\n' => "\\n"
  | '\r' => "\\r"
  | '\t' => "\\t"
  | c =>
    if c.toNat == 8 then "\\b"
    else if c.toNat == 12 then "\\f"
    else if c.toNat < 0x20 then
      "\\u00" ++ String.singleton (hexDigit (c.toNat / 16)) ++ String.singleton (hexDigit (c.toNat % 16))
    else String.singleton c

/-- 引用符で囲んだ文字列。 -/
def quote (s : String) : String :=
  "\"" ++ String.join (s.toList.map escapeChar) ++ "\""

/-- 数の字面。 -/
def Number.text : Number → String
  | .nat n => toString n
  | .neg n => toString n
  | .float x => doubleText x
  | .single x => singleText x

mutual

/-- 詰めた形。 -/
def compact : Json → String
  | .null => "null"
  | .bool b => if b then "true" else "false"
  | .num n => n.text
  | .str s => quote s
  | .arr items => "[" ++ compactItems items ++ "]"
  | .obj fields => "\x7b" ++ compactFields fields ++ "\x7d"

/-- 配列の要素をカンマで繋ぐ。 -/
def compactItems : List Json → String
  | [] => ""
  | [x] => compact x
  | x :: rest => compact x ++ "," ++ compactItems rest

/-- オブジェクトの組をカンマで繋ぐ。 -/
def compactFields : List (String × Json) → String
  | [] => ""
  | [(k, v)] => quote k ++ ":" ++ compact v
  | (k, v) :: rest => quote k ++ ":" ++ compact v ++ "," ++ compactFields rest

end

/-- 字下げ。 -/
def indent (n : Nat) : String := Decimal.replicateChar (2 * n) ' '

mutual

/-- 字下げ `depth` 段の位置から書く整形形。空の配列・オブジェクトは `[]`、`{}`。 -/
def prettyAt (depth : Nat) : Json → String
  | .arr [] => "[]"
  | .obj [] => "\x7b\x7d"
  | .arr items => "[\n" ++ prettyItems (depth + 1) items ++ "\n" ++ indent depth ++ "]"
  | .obj fields => "\x7b\n" ++ prettyFields (depth + 1) fields ++ "\n" ++ indent depth ++ "\x7d"
  | v => compact v

/-- 配列の要素を一行ずつ。 -/
def prettyItems (depth : Nat) : List Json → String
  | [] => ""
  | [x] => indent depth ++ prettyAt depth x
  | x :: rest => indent depth ++ prettyAt depth x ++ ",\n" ++ prettyItems depth rest

/-- オブジェクトの組を一行ずつ。 -/
def prettyFields (depth : Nat) : List (String × Json) → String
  | [] => ""
  | [(k, v)] => indent depth ++ quote k ++ ": " ++ prettyAt depth v
  | (k, v) :: rest =>
    indent depth ++ quote k ++ ": " ++ prettyAt depth v ++ ",\n" ++ prettyFields depth rest

end

/-- 整形形。 -/
def pretty (v : Json) : String := prettyAt 0 v

end DropletVision.Json
