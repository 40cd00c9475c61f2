/-!
# JSON の値

設定文書・プロファイル・統計の受け渡しに使う JSON の値。

数は四種類に分けて持つ。整数の字面は 64 ビットに収まる限り整数のまま
（非負なら `nat`、負なら `neg`）、それ以外は倍精度の `float` になる。
この区別は設定を読むときに効く（`5` は個数として読めるが `5.0` は読めない）。
単精度の設定値は `single` として持ち、文字列に書くときは単精度の最短の桁を使う。
値として受け渡すとき（`widen`）は倍精度へ正確に広げる。

オブジェクトはキーと値の組の列で、キーは重複しない。
-/

namespace DropletVision

/-- JSON の数。`nat n` は `n < 2^64`、`neg n` は `-2^63 ≤ n < 0`。 -/
inductive Json.Number where
  | nat (n : Nat)
  | neg (n : Int)
  | float (x : Float)
  | single (x : Float32)

/-- JSON の値。 -/
inductive Json where
  | null
  | bool (b : Bool)
  | num (n : Json.Number)
  | str (s : String)
  | arr (items : List Json)
  | obj (fields : List (String × Json))

namespace Json

instance : Inhabited Json := ⟨.null⟩

/-- 倍精度の値。非有限は書き出すときに `null` になる。 -/
def ofFloat (x : Float) : Json := .num (.float x)

/-- 非負整数。 -/
def ofNat (n : Nat) : Json := .num (.nat n)

/-- 整数。 -/
def ofInt (n : Int) : Json := if n < 0 then .num (.neg n) else .num (.nat n.toNat)

/-- 単精度の値。 -/
def ofFloat32 (x : Float32) : Json := .num (.single x)

/-- キーの値。 -/
def field? (j : Json) (key : String) : Option Json :=
  match j with
  | .obj fields => fields.lookup key
  | _ => none

/-- 値が `null` か、キーが無い。 -/
def isNull : Json → Bool
  | .null => true
  | _ => false

/-- 数を倍精度として読む。 -/
def Number.toFloat : Number → Float
  | .nat n => Float.ofNat n
  | .neg n => Float.ofInt n
  | .float x => x
  | .single x => x.toFloat

mutual

/-- 単精度の数を倍精度へ正確に広げる。値として受け渡すときの形。 -/
def widen : Json → Json
  | .num (.single x) => .num (.float x.toFloat)
  | .arr items => .arr (widenItems items)
  | .obj fields => .obj (widenFields fields)
  | v => v

/-- 配列の各要素を広げる。 -/
def widenItems : List Json → List Json
  | [] => []
  | v :: rest => widen v :: widenItems rest

/-- オブジェクトの各値を広げる。 -/
def widenFields : List (String × Json) → List (String × Json)
  | [] => []
  | (k, v) :: rest => (k, widen v) :: widenFields rest

end

/-- 数としての値。 -/
def asFloat? : Json → Option Float
  | .num n => some n.toFloat
  | _ => none

/-- 非負整数としての値（`float` は読まない）。 -/
def asNat? : Json → Option Nat
  | .num (.nat n) => some n
  | _ => none

/-- 整数としての値（`float` は読まない）。 -/
def asInt? : Json → Option Int
  | .num (.nat n) => some n
  | .num (.neg n) => some n
  | _ => none

/-- 文字列としての値。 -/
def asString? : Json → Option String
  | .str s => some s
  | _ => none

/-- 真偽値としての値。 -/
def asBool? : Json → Option Bool
  | .bool b => some b
  | _ => none

/-- 配列としての値。 -/
def asArray? : Json → Option (List Json)
  | .arr xs => some xs
  | _ => none

/-- オブジェクトとしての値。 -/
def asObject? : Json → Option (List (String × Json))
  | .obj fs => some fs
  | _ => none

/-- キーを置き換えるか末尾に足す。 -/
def setField (fields : List (String × Json)) (key : String) (v : Json) :
    List (String × Json) :=
  if fields.any (fun p => p.1 == key) then
    fields.map (fun p => if p.1 == key then (key, v) else p)
  else
    fields ++ [(key, v)]

/-- キーの辞書順を保って入れる。同じキーがあれば値を置き換える。 -/
def insertSorted (key : String) (v : Json) : List (String × Json) → List (String × Json)
  | [] => [(key, v)]
  | (k, w) :: rest =>
    if key < k then (key, v) :: (k, w) :: rest
    else if key == k then (key, v) :: rest
    else (k, w) :: insertSorted key v rest

/-- キーを取り除く。 -/
def eraseField (fields : List (String × Json)) (key : String) : List (String × Json) :=
  fields.filter (fun p => p.1 != key)

end Json

end DropletVision
