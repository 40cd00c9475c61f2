import DropletVision.Error

/-!
# ファイルの木

作業ディレクトリの下のファイルとディレクトリを、パスから中身への対応として持つ。
コマンドの処理はこの木を読み書きするだけで、実際のファイル操作は外側の層が受け持つ。

* パスは `/` で区切った成分の列。左から一つずつたどる。空の成分と `.` はその場にとどまり、
  `..` は一つ上に戻る。途中の成分がファイルなら「ディレクトリではない」、無ければ「無い」。
  空のパスは「無い」。
* `/` で終わるパスと、`.` か `..` で終わるパスはディレクトリを指す。ファイルなら
  「ディレクトリではない」。
* `readFile` — ディレクトリなら「ディレクトリである」。
* `writeFile` — 作るか上書きする。ディレクトリを指すパスには書けない（「ディレクトリである」）。
* `makeDir` — 一つ作る。すでに何かあれば「すでにある」。
* `createDirAll` — 作ってみて、親が無ければ親から作り直す。失敗してもそれがディレクトリなら成功。
* `readDir` — 直下の名前の列（名前の順）。

## 仕組み

木は「正規の成分の列・節」の組の列で、どの節についても親のディレクトリの節がある。
たどる再帰はパスの成分の列に沿う。`createDirAll` は親へ上るたびに成分が一つ減る。
-/

namespace DropletVision

/-- 木の節。 -/
inductive FileNode where
  | file (bytes : ByteArray)
  | dir

/-- ファイルの木。根（空のパス）は暗にディレクトリ。 -/
structure FileTree where
  nodes : List (List String × FileNode) := []

namespace FileTree

/-- 正規の成分の列の節。 -/
def node? (t : FileTree) (p : List String) : Option FileNode :=
  if p.isEmpty then some .dir else (t.nodes.find? (·.1 == p)).map (·.2)

/-- パスの成分（空の成分を除く）。 -/
def parts (path : String) : List String := (path.splitOn "/").filter (!·.isEmpty)

/-- ディレクトリを指すパスか（`/` で終わるか、最後の成分が `.` か `..`）。 -/
def namesDir (path : String) : Bool :=
  path.endsWith "/" || (match (parts path).getLast? with
    | some "." | some ".." => true
    | _ => false)

/-- ディレクトリ `cur` から成分の列をたどる。最後の成分の正規の列とその節（無ければ `none`）。 -/
def walkFrom (t : FileTree) : List String → List String → Except IoError (List String × Option FileNode)
  | cur, [] => .ok (cur, some .dir)
  | cur, [c] =>
    if c == "." then .ok (cur, some .dir)
    else if c == ".." then .ok (cur.dropLast, some .dir)
    else .ok (cur ++ [c], t.node? (cur ++ [c]))
  | cur, c :: rest =>
    if c == "." then walkFrom t cur rest
    else if c == ".." then walkFrom t cur.dropLast rest
    else
      match t.node? (cur ++ [c]) with
      | some .dir => walkFrom t (cur ++ [c]) rest
      | some (.file _) => .error .notADirectory
      | none => .error .notFound

/-- パスをたどる。 -/
def walk (t : FileTree) (path : String) : Except IoError (List String × Option FileNode) :=
  if path.isEmpty then .error .notFound else t.walkFrom [] (parts path)

/-- パスの指すもの。 -/
def stat (t : FileTree) (path : String) : Except IoError FileNode := do
  match ← t.walk path with
  | (_, none) => throw .notFound
  | (_, some (.file b)) => if namesDir path then throw .notADirectory else pure (.file b)
  | (_, some .dir) => pure .dir

/-- パスの正規の成分の列（作業ディレクトリの中のものだけ）。 -/
def components (path : String) : List String :=
  (parts path).foldl (fun acc c => if c == "." then acc else if c == ".." then acc.dropLast else acc ++ [c]) []

/-- パスの節。 -/
def find? (t : FileTree) (path : String) : Option FileNode := (t.stat path).toOption

/-- ディレクトリか。 -/
def isDir (t : FileTree) (path : String) : Bool :=
  match t.find? path with
  | some .dir => true
  | _ => false

/-- ファイルか。 -/
def isFile (t : FileTree) (path : String) : Bool :=
  match t.find? path with
  | some (.file _) => true
  | _ => false

/-- 何かがあるか。 -/
def exists? (t : FileTree) (path : String) : Bool := (t.find? path).isSome

/-- ファイルを読む。 -/
def readFile (t : FileTree) (path : String) : Except IoError ByteArray := do
  match ← t.stat path with
  | .file b => pure b
  | .dir => throw .isADirectory

/-- ファイルの中身（ファイルでなければ `none`）。 -/
def contents? (t : FileTree) (path : String) : Option ByteArray :=
  match t.find? path with
  | some (.file b) => some b
  | _ => none

/-- 節を置き換えるか加える。 -/
def put (t : FileTree) (p : List String) (n : FileNode) : FileTree :=
  if t.nodes.any (·.1 == p) then
    ⟨t.nodes.map (fun e => if e.1 == p then (p, n) else e)⟩
  else ⟨t.nodes ++ [(p, n)]⟩

/-- ファイルを書く（無ければ作り、あれば置き換える）。 -/
def writeFile (t : FileTree) (path : String) (bytes : ByteArray) : Except IoError FileTree := do
  let (p, n) ← t.walk path
  match n with
  | some .dir => throw .isADirectory
  | some (.file _) => if namesDir path then throw .notADirectory else pure (t.put p (.file bytes))
  | none => if namesDir path then throw .isADirectory else pure (t.put p (.file bytes))

/-- ディレクトリを一つ作る。 -/
def makeDir (t : FileTree) (path : String) : Except IoError FileTree := do
  let (p, n) ← t.walk path
  match n with
  | some _ => throw .alreadyExists
  | none => pure (t.put p .dir)

/-- パスの親（最後の成分を除いたもの）。成分が無ければ無い。先頭以外の `.` は数えない。 -/
def parentPath? (path : String) : Option String :=
  let cs := (path.splitOn "/").zipIdx.filterMap (fun (c, i) =>
    if c.isEmpty || (c == "." && i != 0) then none else some c)
  match cs with
  | [] => none
  | _ => some ("/".intercalate cs.dropLast)

/-- ディレクトリを途中もまとめて作る。`fuel` はパスの長さより大きい数。 -/
def createDirAllWith (fuel : Nat) (t : FileTree) (path : String) : Except IoError FileTree :=
  if path.isEmpty then .ok t
  else
    match fuel with
    | 0 => .error .notFound
    | fuel + 1 =>
      match t.makeDir path with
      | .ok t' => .ok t'
      | .error e =>
        if e == .notFound then
          match parentPath? path with
          | some parent => do
            let t ← createDirAllWith fuel t parent
            match t.makeDir path with
            | .ok t' => pure t'
            | .error e => if t.isDir path then pure t else throw e
          | none => .error e
        else if t.isDir path then .ok t else .error e

/-- ディレクトリを途中もまとめて作る。 -/
def createDirAll (t : FileTree) (path : String) : Except IoError FileTree :=
  createDirAllWith (path.length + 1) t path

/-- ディレクトリの直下の名前。 -/
def readDir (t : FileTree) (path : String) : Except IoError (List String) := do
  let (p, _) ← t.walk path
  match ← t.stat path with
  | .dir =>
    let names := t.nodes.filterMap (fun e =>
      if e.1.length == p.length + 1 && e.1.take p.length == p then e.1.getLast? else none)
    pure (names.mergeSort (fun a b => decide (a ≤ b)))
  | .file _ => throw .notADirectory

/-- パスの最後の成分（ファイル名）。`..` で終わるパスには無い。 -/
def fileName? (path : String) : Option String :=
  match ((path.splitOn "/").filter (fun c => !c.isEmpty && c != ".")).getLast? with
  | some ".." => none
  | x => x

/-- 拡張子：ファイル名の最後の `.` より後。`.` が無いか、先頭の一つだけなら無い。 -/
def extension? (path : String) : Option String := do
  let name ← fileName? path
  let parts := name.splitOn "."
  if parts.length < 2 || (parts.length == 2 && parts.head? == some "") then none
  else parts.getLast?

/-- 親のディレクトリのパス（作業ディレクトリなら空）。 -/
def parent (path : String) : String := "/".intercalate (components path).dropLast

/-- ディレクトリとパスをつなぐ。 -/
def join (dir name : String) : String :=
  if dir.isEmpty || dir == "." then name
  else if dir.endsWith "/" then dir ++ name else dir ++ "/" ++ name

/-- 木の中のすべてのパス。ディレクトリには `/` を付け、名前の順に並べる。 -/
def listing (t : FileTree) : List String :=
  let paths := t.nodes.map (fun e =>
    "/".intercalate e.1 ++ match e.2 with
      | .dir => "/"
      | .file _ => "")
  paths.mergeSort (fun a b => decide (a ≤ b))

end FileTree

end DropletVision
