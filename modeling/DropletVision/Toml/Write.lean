import DropletVision.Json.Write

/-!
# TOML の書き出し

JSON の値（オブジェクト）を読みやすい TOML の文書にする。

* 表の中では、表でない値を先に `key = value` で一行ずつ書き、表はそのあと `[a.b]` の見出しで書く。
  見出しの前には、文書の先頭でなければ空行を一つ置く。
* 配列は一要素一行、四つの空白で字下げし、最後の要素にもカンマを付ける。空の配列は `[]`。
  配列の中のオブジェクトは `{ k = v }` のインラインの表。
* 倍精度の小数は指数を使わない最短表示で、整数値なら `.0` を付ける（`-0.0`、`nan`、`inf`）。
  単精度の値も単精度としての最短表示。
* `null` の組は書かない。

## 停止性

値の入れ子に沿った構造的な再帰。
-/

namespace DropletVision.Toml

open Json

/-- 小数の表示の規則：指数を使わず、整数値には `.0`。 -/
def floatStyle : Decimal.Style := ⟨none, true, false⟩

/-- 非有限の綴り。 -/
def floatSpelling : Decimal.SpecialSpelling := ⟨"nan", "inf", "-inf"⟩

/-- 数の字面。 -/
def numberText : Json.Number → String
  | .nat n => toString n
  | .neg n => toString n
  | .float x => Decimal.renderDecoded .double floatStyle floatSpelling (Decimal.decodeDouble x)
  | .single x => Decimal.renderDecoded .single floatStyle floatSpelling (Decimal.decodeSingle x)

/-- 素のキーに使える文字だけか。 -/
def isBareKey (k : String) : Bool :=
  !k.isEmpty && k.all (fun c => (c.isAlphanum && c.toNat < 0x80) || c == '_' || c == '-')

/-- 基本文字列。 -/
def quotedString (s : String) : String :=
  "\"" ++ String.join (s.toList.map (fun c =>
    match c with
    | '"' => "\\\""
    | '\\' => "\\\\"
    | '\n' => "\\n"
    | '\r' => "\\r"
    | '\t' => "\\t"
    | c =>
      if c.toNat < 0x20 || c.toNat == 0x7F then
        "\\u" ++ String.ofList ((List.range 4).reverse.map (fun i =>
          Json.hexDigit ((c.toNat / Nat.pow 16 i) % 16)))
      else String.singleton c)) ++ "\""

/-- キーの字面。 -/
def keyText (k : String) : String := if isBareKey k then k else quotedString k

mutual

/-- 一行に収まる値の字面。 -/
def inlineText : Json → String
  | .null => ""
  | .bool b => toString b
  | .num n => numberText n
  | .str s => quotedString s
  | .arr items => "[" ++ ", ".intercalate (inlineItems items) ++ "]"
  | .obj fields =>
    match inlineFields fields with
    | [] => "\x7b\x7d"
    | parts => "\x7b " ++ ", ".intercalate parts ++ " \x7d"

/-- 配列の要素の字面。 -/
def inlineItems : List Json → List String
  | [] => []
  | v :: rest => inlineText v :: inlineItems rest

/-- インラインの表の組の字面。 -/
def inlineFields : List (String × Json) → List String
  | [] => []
  | (k, v) :: rest =>
    if v.isNull then inlineFields rest else (keyText k ++ " = " ++ inlineText v) :: inlineFields rest

end

/-- 組の右辺。配列は一要素一行。 -/
def valueText : Json → String
  | .arr [] => "[]"
  | .arr items => "[\n" ++ String.join ((inlineItems items).map (fun t => "    " ++ t ++ ",\n")) ++ "]"
  | v => inlineText v

/-- 表として書く値か。 -/
def isTable : Json → Bool
  | .obj _ => true
  | _ => false

/-- 表の中身を書く。`path` は見出しのキーの列、`started` はすでに何か書いたか。 -/
def tableText (path : List String) (fields : List (String × Json)) (started : Bool) :
    String × Bool :=
  let plain := fields.filter (fun kv => !isTable kv.2 && !kv.2.isNull)
  let header :=
    if path.isEmpty then ""
    else (if started then "\n" else "") ++ "[" ++ ".".intercalate (path.map keyText) ++ "]\n"
  let body := String.join (plain.map (fun kv => keyText kv.1 ++ " = " ++ valueText kv.2 ++ "\n"))
  let started := started || !path.isEmpty || !plain.isEmpty
  subTables path fields (header ++ body) started
where
  /-- 表の値の組を順に見出しつきで書く。 -/
  subTables (path : List String) : List (String × Json) → String → Bool → String × Bool
    | [], acc, started => (acc, started)
    | (k, .obj inner) :: rest, acc, started =>
      let (t, started) := tableText (path ++ [k]) inner started
      subTables path rest (acc ++ t) started
    | _ :: rest, acc, started => subTables path rest acc started

/-- オブジェクトを TOML の文書にする。 -/
def render (fields : List (String × Json)) : String :=
  (tableText [] fields false).1

end DropletVision.Toml
