import DropletVision.Json.Value

/-!
# TOML の表の木

TOML 文書を読んだ結果の値と、見出し・点つきのキーによる表の木の更新。

* 表の見出し `[a.b]` は一度だけ定義できる。途中の表は暗黙に作られ、後から見出しで定義してよい。
* 表の配列 `[[a]]` は見出しごとに要素を一つ足し、以降のキーはその要素に入る。
* 点つきのキー `a.b = 1` は途中の表を作るか、たどる。たどれるのは、点つきのキーで作った表と、
  見出しの途中で暗黙に作られた表だけ。
* インラインの表 `{ … }` は閉じた後に足せない。
* 同じキーを二度定義すると誤り。

経路に沿う再帰は経路（キーの列）の構造に沿う。
-/

namespace DropletVision.Toml

/-- 表の作られ方。 -/
inductive Origin where
  /-- 見出しの途中で暗黙に作られた。 -/
  | implicit
  /-- 見出しで定義された。 -/
  | header
  /-- 点つきのキーで作られた。 -/
  | dotted
  /-- インラインの表。 -/
  | inline
  deriving BEq

/-- TOML の値。 -/
inductive Value where
  | str (s : String)
  | int (i : Int)
  | float (x : Float)
  | bool (b : Bool)
  | datetime (text : String)
  | arr (items : List Value)
  | table (origin : Origin) (entries : List (String × Value))
  /-- 見出し `[[…]]` で作った表の配列。要素は表。 -/
  | tableArray (items : List (List (String × Value)))

/-- 読み取りの誤り：文と、分かっていれば文書の中の範囲（文字の位置の始まりと終わりの次）。 -/
structure Problem where
  message : String
  span : Option (Nat × Nat) := none

/-- 読み取りの結果。 -/
abbrev Result (α : Type) := Except Problem α

/-- 位置 `start` から `stop` の手前までの誤り。 -/
def Problem.at (message : String) (start stop : Nat) : Problem := ⟨message, some (start, stop)⟩

/-- 範囲の無い誤りに範囲を付ける。 -/
def Problem.within (p : Problem) (start stop : Nat) : Problem :=
  match p.span with
  | some _ => p
  | none => { p with span := some (start, stop) }

/-! ## 表の木の操作 -/

/-- 組の列のキーの値を置き換える（無ければ末尾に足す）。 -/
def putEntry (es : List (String × Value)) (k : String) (v : Value) : List (String × Value) :=
  if es.any (·.1 == k) then es.map (fun p => if p.1 == k then (k, v) else p) else es ++ [(k, v)]

/-- 見出しの経路の途中を下りながら、最後の表の組の列を `g` で変える。
途中の表が無ければ暗黙に作る。表の配列は最後の要素に下りる。 -/
def descend (g : List (String × Value) → Result (List (String × Value))) :
    List (String × Value) → List String → Result (List (String × Value))
  | es, [] => g es
  | es, k :: rest =>
    match es.lookup k with
    | none => do
      let sub ← descend g [] rest
      pure (putEntry es k (.table .implicit sub))
    | some (.table o sub) =>
      if o == .inline then .error ⟨s!"cannot extend inline table `{k}`", none⟩
      else do
        let sub ← descend g sub rest
        pure (putEntry es k (.table o sub))
    | some (.tableArray items) =>
      match items.reverse with
      | last :: earlier => do
        let sub ← descend g last rest
        pure (putEntry es k (.tableArray ((sub :: earlier).reverse)))
      | [] => .error ⟨s!"empty table array `{k}`", none⟩
    | some _ => .error ⟨s!"key `{k}` is not a table", none⟩

/-- 見出し `[path]` で表を定義する。 -/
def defineTable (root : List (String × Value)) (path : List String) :
    Result (List (String × Value)) :=
  match path.reverse with
  | [] => .error ⟨"empty table header", none⟩
  | last :: revInit =>
    descend (fun es =>
      match es.lookup last with
      | none => pure (putEntry es last (.table .header []))
      | some (.table .implicit sub) => pure (putEntry es last (.table .header sub))
      | some _ => .error ⟨s!"duplicate table `{last}`", none⟩) root revInit.reverse

/-- 見出し `[[path]]` で表の配列に要素を足す。 -/
def appendTable (root : List (String × Value)) (path : List String) :
    Result (List (String × Value)) :=
  match path.reverse with
  | [] => .error ⟨"empty table header", none⟩
  | last :: revInit =>
    descend (fun es =>
      match es.lookup last with
      | none => pure (putEntry es last (.tableArray [[]]))
      | some (.tableArray items) => pure (putEntry es last (.tableArray (items ++ [[]])))
      | some _ => .error ⟨s!"duplicate key `{last}`", none⟩) root revInit.reverse

/-- 点つきのキー `key` に値を入れる。途中の表は、無ければ点つきの表として作る。 -/
def insertDotted (v : Value) : List (String × Value) → List String → Result (List (String × Value))
  | _, [] => .error ⟨"empty key", none⟩
  | es, [k] =>
    match es.lookup k with
    | none => pure (es ++ [(k, v)])
    | some _ => .error ⟨s!"duplicate key `{k}`", none⟩
  | es, k :: rest =>
    match es.lookup k with
    | none => do
      let sub ← insertDotted v [] rest
      pure (putEntry es k (.table .dotted sub))
    | some (.table .dotted sub) => do
      let sub ← insertDotted v sub rest
      pure (putEntry es k (.table .dotted sub))
    | some (.table .implicit sub) => do
      let sub ← insertDotted v sub rest
      pure (putEntry es k (.table .implicit sub))
    | some _ => .error ⟨s!"duplicate key `{k}`", none⟩

end DropletVision.Toml
