import DropletVision.Toml.Scan
import DropletVision.Decimal.Read

/-!
# TOML の読み取り

TOML 1.1 の文書を表の木（`Toml.Value`）にし、JSON の値へ移す。

* 整数は 64 ビット符号つき（`0x`、`0o`、`0b` は符号なしで書く）。数字の間の `_` は一つずつ。
  十進の整数は先頭に余分な 0 を書けない。
* 小数は整数部と、小数部か指数部（または両方）。`inf`、`nan` は符号つきでもよい。
* 整数が 64 ビットに収まらないか、小数が倍精度で有限に表せなければ誤り（`inf` と書いたものは除く）。
* 日時は `YYYY-MM-DD`、`HH:MM(:SS(.小数))`、その組（区切りは `T` か空白）と時差（`Z` か `±HH:MM`）。
* 配列とインラインの表は改行と注釈を挟んでよく、最後のカンマも許す。
* 誤りには文書の中の範囲が付き、`Problem.render` が行と桁、その行と印を添えた文にする。
* JSON へ移すとき、有限でない小数は `null`、日時は `$__toml_private_datetime` を唯一のキーに
  持つオブジェクト。表のキーは辞書順。

## 停止性

* 字面の走査 — 残りの文字数が減る。
* 配列・インラインの表の入れ子 — 入れ子の残り段数 `depth` が減る。
* 要素と文書の行の繰り返し — 一回ごとに 1 文字以上読むので、文字数を上限とする回数 `fuel` が減る。
-/

namespace DropletVision.Toml

section Values

variable (cs : Array Char)

/-- 一つのキー（素・基本文字列・リテラル文字列）。 -/
def simpleKey (pos : Nat) : Result (String × Nat) :=
  match charAt? cs pos with
  | some '"' => basicString cs (pos + 1) []
  | some '\'' => literalString cs (pos + 1) []
  | _ =>
    let (k, p) := bareKey cs pos []
    if k.isEmpty then .error (Problem.at "expected a key" pos (pos + 1)) else .ok (String.ofList k, p)

/-- 点で繋いだキー。 -/
def dottedKey (fuel pos : Nat) (acc : List String) : Result (List String × Nat) :=
  match fuel with
  | 0 => .error (Problem.at "key too long" pos (pos + 1))
  | fuel + 1 => do
    let (k, p) ← simpleKey cs (skipBlank cs pos)
    let q := skipBlank cs p
    if charAt? cs q == some '.' then dottedKey fuel (q + 1) (k :: acc)
    else pure ((k :: acc).reverse, q)

/-- 数・日時の字面に使う文字。 -/
def tokenChar (c : Char) : Bool :=
  c.isAlphanum && c.toNat < 0x80 || c == '_' || c == '+' || c == '-' || c == '.' || c == ':'

/-- 字面を切り出す。 -/
def token (pos : Nat) (acc : List Char) : List Char × Nat :=
  if h : pos < cs.size then
    if tokenChar cs[pos] then token (pos + 1) (cs[pos] :: acc) else (acc.reverse, pos)
  else (acc.reverse, pos)
termination_by cs.size - pos

end Values

/-! ## 数 -/

/-- 区切りの `_` を除いた数字の列。`_` は数字と数字の間にだけ書ける。 -/
def digitsWithSeparators (isDigit : Char → Bool) (cs : List Char) : Option (List Char) :=
  let rec go : List Char → Bool → List Char → Option (List Char)
    | [], _, acc => if acc.isEmpty then none else some acc.reverse
    | '_' :: rest, prevDigit, acc =>
      match rest with
      | c :: _ => if prevDigit && isDigit c then go rest false acc else none
      | [] => none
    | c :: rest, _, acc => if isDigit c then go rest true (c :: acc) else none
  go cs false []

/-- 基数 `base` の数字の値。 -/
def radixValue (base : Nat) (ds : List Char) : Nat :=
  ds.foldl (fun acc c => acc * base + ((hexDigitValue c).getD 0)) 0

/-- 十進の整数部（先頭の余分な 0 は不可）。 -/
def decimalInteger (cs : List Char) : Option (List Char) := do
  let ds ← digitsWithSeparators Char.isDigit cs
  if ds.length > 1 && ds.head? == some '0' then none else some ds

/-- 64 ビット符号つきの範囲。 -/
def fitsI64 (i : Int) : Bool := -Int.pow 2 63 ≤ i && i < Int.pow 2 63

/-- 数の字面を値にする。 -/
def numberValue (tok : List Char) : Result Value :=
  let (neg, signed, body) := match tok with
    | '-' :: r => (true, true, r)
    | '+' :: r => (false, true, r)
    | r => (false, false, r)
  let sign (x : Float) : Float := if neg then -x else x
  let bad : Result Value := .error ⟨s!"invalid number `{String.ofList tok}`", none⟩
  let overflow : Result Value := .error ⟨"integer number overflowed", none⟩
  let real (x : Float) : Result Value :=
    if x.isInf then .error ⟨"floating-point number overflowed", none⟩ else .ok (.float (sign x))
  match body with
  | ['i', 'n', 'f'] => .ok (.float (sign (1.0 / 0.0)))
  | ['n', 'a', 'n'] => .ok (.float (sign (0.0 / 0.0)))
  | '0' :: 'x' :: ds | '0' :: 'o' :: ds | '0' :: 'b' :: ds =>
    let (base, ok) : Nat × (Char → Bool) :=
      match body with
      | _ :: 'x' :: _ => (16, fun c => (hexDigitValue c).isSome)
      | _ :: 'o' :: _ => (8, fun c => '0' ≤ c && c ≤ '7')
      | _ => (2, fun c => c == '0' || c == '1')
    if signed then bad
    else
      match digitsWithSeparators ok ds with
      | some d => let v := radixValue base d; if v < Nat.pow 2 63 then .ok (.int v) else overflow
      | none => bad
  | _ =>
    -- 整数部・小数部・指数部に分ける。
    let intPart := body.takeWhile (fun c => c != '.' && c != 'e' && c != 'E')
    let rest := body.drop intPart.length
    match decimalInteger intPart with
    | none => bad
    | some ids =>
      if rest.isEmpty then
        let v : Int := radixValue 10 ids
        let v := if neg then -v else v
        if fitsI64 v then .ok (.int v) else overflow
      else
        let (frac, rest) :=
          match rest with
          | '.' :: r =>
            let f := r.takeWhile (fun c => c != 'e' && c != 'E')
            (some f, r.drop f.length)
          | r => (none, r)
        let fracDigits := frac.map (digitsWithSeparators Char.isDigit)
        let expPart : Option (Option (List Char)) :=
          match rest with
          | [] => some none
          | e :: r =>
            if e == 'e' || e == 'E' then
              let (sgn, r) := match r with
                | '+' :: r' => (['+'], r')
                | '-' :: r' => (['-'], r')
                | r' => ([], r')
              (digitsWithSeparators Char.isDigit r).map (fun d => some (sgn ++ d))
            else none
        match fracDigits, expPart with
        | some none, _ => bad
        | _, none => bad
        | _, some none =>
          if frac.isNone then bad
          else
            let text := ids ++ ['.'] ++ ((fracDigits.bind id).getD [])
            match Decimal.readFloat (String.ofList text) with
            | some x => real x
            | none => bad
        | _, some (some ex) =>
          let text := ids ++ (match fracDigits.bind id with
            | some f => ['.'] ++ f
            | none => []) ++ ['e'] ++ ex
          match Decimal.readFloat (String.ofList text) with
          | some x => real x
          | none => bad

/-! ## 日時 -/

/-- 二桁・四桁の数字。 -/
def fixedDigits (cs : List Char) : Option Nat :=
  if cs.all Char.isDigit && !cs.isEmpty then some (radixValue 10 cs) else none

/-- 閏年。 -/
def leapYear (y : Nat) : Bool := y % 4 == 0 && (y % 100 != 0 || y % 400 == 0)

/-- 月の日数。 -/
def daysInMonth (y m : Nat) : Nat :=
  match m with
  | 2 => if leapYear y then 29 else 28
  | 4 | 6 | 9 | 11 => 30
  | _ => 31

/-- `YYYY-MM-DD`。 -/
def dateText (cs : List Char) : Option String := do
  match cs with
  | [y1, y2, y3, y4, '-', m1, m2, '-', d1, d2] =>
    let y ← fixedDigits [y1, y2, y3, y4]
    let m ← fixedDigits [m1, m2]
    let d ← fixedDigits [d1, d2]
    if 1 ≤ m && m ≤ 12 && 1 ≤ d && d ≤ daysInMonth y m then some (String.ofList cs) else none
  | _ => none

/-- `HH:MM:SS(.小数)`。小数は九桁までで、末尾の 0 を落として書く。 -/
def clockText (cs : List Char) : Option String := do
  match cs with
  | h1 :: h2 :: ':' :: m1 :: m2 :: ':' :: s1 :: s2 :: rest =>
    let h ← fixedDigits [h1, h2]
    let m ← fixedDigits [m1, m2]
    let s ← fixedDigits [s1, s2]
    if h > 23 || m > 59 || s > 60 then none
    let base := String.ofList [h1, h2, ':', m1, m2, ':', s1, s2]
    match rest with
    | [] => some base
    | '.' :: frac =>
      if frac.isEmpty || !frac.all Char.isDigit then none
      else
        let nine := (frac.take 9) ++ List.replicate (9 - min 9 frac.length) '0'
        let trimmed := (nine.reverse.dropWhile (· == '0')).reverse
        some (if trimmed.isEmpty then base else base ++ "." ++ String.ofList trimmed)
    | _ => none
  | _ => none

/-- `HH:MM(:SS(.小数))`。秒を省けば 0 秒。 -/
def timeText (cs : List Char) : Option String :=
  match cs with
  | [h1, h2, ':', m1, m2] => clockText [h1, h2, ':', m1, m2, ':', '0', '0']
  | _ => clockText cs

/-- 時差つきの時刻。 -/
def timeWithOffset (cs : List Char) : Option String :=
  let n := cs.length
  match cs.getLast? with
  | some 'Z' | some 'z' => (timeText (cs.take (n - 1))).map (· ++ "Z")
  | _ =>
    if n ≥ 6 then
      match cs.drop (n - 6) with
      | [sg, h1, h2, ':', m1, m2] =>
        if sg == '+' || sg == '-' then
          match fixedDigits [h1, h2], fixedDigits [m1, m2] with
          | some h, some m =>
            if h ≤ 23 && m ≤ 59 then
              (timeText (cs.take (n - 6))).map (· ++ String.ofList [sg, h1, h2, ':', m1, m2])
            else none
          | _, _ => none
        else timeText cs
      | _ => timeText cs
    else timeText cs

/-- 日時の字面を値にする。 -/
def datetimeValue (tok : List Char) : Result Value :=
  let bad : Result Value := .error ⟨s!"invalid datetime `{String.ofList tok}`", none⟩
  if tok.length ≥ 3 && tok[2]? == some ':' then
    match timeText tok with
    | some t => .ok (.datetime t)
    | none => bad
  else
    match dateText (tok.take 10) with
    | none => bad
    | some d =>
      match tok.drop 10 with
      | [] => .ok (.datetime d)
      | sep :: rest =>
        if sep == 'T' || sep == 't' || sep == ' ' then
          match timeWithOffset rest with
          | some t => .ok (.datetime (d ++ "T" ++ t))
          | none => bad
        else bad

/-- 日時らしい字面か（`YYYY-` か `HH:`）。 -/
def looksLikeDatetime (tok : List Char) : Bool :=
  (tok.length ≥ 5 && (tok.take 4).all Char.isDigit && tok[4]? == some '-') ||
  (tok.length ≥ 3 && (tok.take 2).all Char.isDigit && tok[2]? == some ':')

section Document

variable (cs : Array Char)

/-- 数か日時。日付の後に空白と時刻が続けば一つの日時として読む。 -/
def scalarValue (pos : Nat) : Result (Value × Nat) := do
  let (tok, p) := token cs pos []
  if tok.isEmpty then .error (Problem.at "expected a value" pos (pos + 1))
  if looksLikeDatetime tok then
    -- `1979-05-27 07:32:00` のように空白で区切った時刻を繋ぐ。
    if tok.length == 10 && charAt? cs p == some ' ' &&
        ((charAt? cs (p + 1)).map Char.isDigit).getD false &&
        ((charAt? cs (p + 2)).map Char.isDigit).getD false && charAt? cs (p + 3) == some ':' then
      let (tok2, p2) := token cs (p + 1) []
      let v ← (datetimeValue (tok ++ [' '] ++ tok2)).mapError (·.within pos p2)
      pure (v, p2)
    else
      let v ← (datetimeValue tok).mapError (·.within pos p)
      pure (v, p)
  else if tok == ['t', 'r', 'u', 'e'] then pure (.bool true, p)
  else if tok == ['f', 'a', 'l', 's', 'e'] then pure (.bool false, p)
  else
    let v ← (numberValue tok).mapError (·.within pos p)
    pure (v, p)

/-- 文字列の値。 -/
def stringValue (pos : Nat) : Result (Value × Nat) := do
  if charAt? cs pos == some '"' then
    if charAt? cs (pos + 1) == some '"' && charAt? cs (pos + 2) == some '"' then
      let start := (newline? cs (pos + 3)).getD (pos + 3)
      let (s, p) ← multilineString cs '"' true start []
      pure (.str s, p)
    else
      let (s, p) ← basicString cs (pos + 1) []
      pure (.str s, p)
  else
    if charAt? cs (pos + 1) == some '\'' && charAt? cs (pos + 2) == some '\'' then
      let start := (newline? cs (pos + 3)).getD (pos + 3)
      let (s, p) ← multilineString cs '\'' false start []
      pure (.str s, p)
    else
      let (s, p) ← literalString cs (pos + 1) []
      pure (.str s, p)

mutual

/-- 値を一つ読む。`depth` は入れ子の残り段数。 -/
def value (depth : Nat) (pos : Nat) : Result (Value × Nat) :=
  match charAt? cs pos with
  | some '"' | some '\'' => stringValue cs pos
  | some '[' =>
    match depth with
    | d + 1 => arrayItems d (cs.size + 1) (pos + 1) []
    | 0 => .error (Problem.at "nesting too deep" pos (pos + 1))
  | some '{' =>
    match depth with
    | d + 1 => inlineTable d (cs.size + 1) (pos + 1) []
    | 0 => .error (Problem.at "nesting too deep" pos (pos + 1))
  | some _ => scalarValue cs pos
  | none => .error (Problem.at "expected a value" pos (pos + 1))
termination_by (depth, 0)

/-- 配列の要素を `]` まで読む。 -/
def arrayItems (depth fuel pos : Nat) (acc : List Value) : Result (Value × Nat) :=
  match fuel with
  | 0 => .error (Problem.at "array too long" pos (pos + 1))
  | fuel + 1 => do
    let p ← skipBlankLines cs pos
    if charAt? cs p == some ']' then pure (.arr acc.reverse, p + 1)
    else
      let (v, q) ← value depth p
      let q ← skipBlankLines cs q
      match charAt? cs q with
      | some ',' => arrayItems depth fuel (q + 1) (v :: acc)
      | some ']' => pure (.arr (v :: acc).reverse, q + 1)
      | _ => .error (Problem.at "expected `,` or `]` in array" q (q + 1))
termination_by (depth, fuel + 1)

/-- インラインの表の組を `}` まで読む。組の間には改行と注釈を挟んでよく、最後のカンマも許す。 -/
def inlineTable (depth fuel pos : Nat) (acc : List (String × Value)) : Result (Value × Nat) :=
  match fuel with
  | 0 => .error (Problem.at "table too long" pos (pos + 1))
  | fuel + 1 => do
    let p ← skipBlankLines cs pos
    if charAt? cs p == some '}' then pure (.table .inline acc, p + 1)
    else
      let (key, q) ← dottedKey cs (cs.size + 1) p []
      if charAt? cs q != some '=' then .error (Problem.at "expected `=`" q (q + 1))
      let (v, r) ← value depth (skipBlank cs (q + 1))
      let acc ← (insertDotted v acc key).mapError (·.within p q)
      let r ← skipBlankLines cs r
      match charAt? cs r with
      | some ',' => inlineTable depth fuel (r + 1) acc
      | some '}' => pure (.table .inline acc, r + 1)
      | _ => .error (Problem.at "expected `,` or `\x7d` in inline table" r (r + 1))
termination_by (depth, fuel + 1)

end

/-- 文書を読む途中の状態：根の表と、いまキーを入れる表の経路。 -/
structure DocState where
  root : List (String × Value)
  current : List String

/-- 行の終わり（空白・注釈のあとに改行か終わり）。 -/
def lineEnd (pos : Nat) : Result Nat := do
  let p := skipBlank cs pos
  let p ← if charAt? cs p == some '#' then skipComment cs (p + 1) else pure p
  match charAt? cs p with
  | none => pure p
  | some _ =>
    match newline? cs p with
    | some q => pure q
    | none => .error (Problem.at "expected a newline" p (p + 1))

/-- 文書の行を順に読む。 -/
def lines (fuel pos : Nat) (st : DocState) : Result DocState :=
  match fuel with
  | 0 => .error (Problem.at "document too long" pos (pos + 1))
  | fuel + 1 =>
    let p := skipBlank cs pos
    match charAt? cs p with
    | none => .ok st
    | some '#' => do
      let q ← lineEnd cs p
      if p < q then lines fuel q st else .ok st
    | some '\n' => lines fuel (p + 1) st
    | some '\r' =>
      match newline? cs p with
      | some q => lines fuel q st
      | none => .error (Problem.at "bare carriage return" p (p + 1))
    | some '[' => do
      let isArray := charAt? cs (p + 1) == some '['
      let (path, q) ← dottedKey cs (cs.size + 1) (if isArray then p + 2 else p + 1) []
      let q ← if isArray then
          if charAt? cs q == some ']' && charAt? cs (q + 1) == some ']' then pure (q + 2)
          else .error (Problem.at "expected `]]`" q (q + 1))
        else if charAt? cs q == some ']' then pure (q + 1) else .error (Problem.at "expected `]`" q (q + 1))
      let root ← (if isArray then appendTable st.root path else defineTable st.root path).mapError
        (·.within p q)
      let r ← lineEnd cs q
      lines fuel r ⟨root, path⟩
    | some _ => do
      let (key, q) ← dottedKey cs (cs.size + 1) p []
      if charAt? cs q != some '=' then .error (Problem.at "expected `=`" q (q + 1))
      let (v, r) ← value cs 128 (skipBlank cs (q + 1))
      let root ← (descend (fun es => insertDotted v es key) st.root st.current).mapError (·.within p q)
      let r ← lineEnd cs r
      lines fuel r ⟨root, st.current⟩

end Document

/-- 文書を読んで根の表を返す。先頭のバイト順マーク（U+FEFF）は読み飛ばす。 -/
def parseDocument (text : String) : Result (List (String × Value)) :=
  let cs := text.toList.toArray
  let start := if cs[0]? == some '\uFEFF' then 1 else 0
  (lines cs (cs.size + 1) start ⟨[], []⟩).map (·.root)

/-- 組の列をキーの辞書順に並べる。 -/
def sortEntries {α : Type} (es : List (String × α)) : List (String × α) :=
  es.mergeSort (fun a b => decide (a.1 ≤ b.1))

mutual

/-- JSON の値へ。 -/
def Value.toJson : Value → Json
  | .str s => .str s
  | .int i => .ofInt i
  | .float x => if x.isNaN || x.isInf then .null else .ofFloat x
  | .bool b => .bool b
  | .datetime t => .obj [("$__toml_private_datetime", .str t)]
  | .arr items => .arr (itemsToJson items)
  | .table _ es => .obj (sortEntries (entriesToJson es))
  | .tableArray ts => .arr (tablesToJson ts)

/-- 配列の要素を JSON へ。 -/
def itemsToJson : List Value → List Json
  | [] => []
  | v :: rest => v.toJson :: itemsToJson rest

/-- 表の組を JSON へ。 -/
def entriesToJson : List (String × Value) → List (String × Json)
  | [] => []
  | (k, v) :: rest => (k, v.toJson) :: entriesToJson rest

/-- 表の配列を JSON へ。 -/
def tablesToJson : List (List (String × Value)) → List Json
  | [] => []
  | t :: rest => .obj (sortEntries (entriesToJson t)) :: tablesToJson rest

end

/-! ## 誤りの文 -/

/-- 文字の位置をバイトの位置へ。 -/
def byteOffset (text : String) (pos : Nat) : Nat :=
  (text.toList.take pos).foldl (fun acc c => acc + c.utf8Size) 0

/-- 文書のバイト列の中の位置の行と桁（どちらも 0 から）。桁は行頭からの文字数で、
位置が終わりを越えれば越えた分を足す。 -/
def lineColumn (bytes : ByteArray) (index : Nat) : Nat × Nat :=
  if bytes.size = 0 then (0, index)
  else
    let safe := min index (bytes.size - 1)
    let before := (bytes.extract 0 safe).toList
    let lineStart := match (before.zipIdx.filter (·.1 == 10)).getLast? with
      | some (_, i) => i + 1
      | none => 0
    let line := ((before.take lineStart).filter (· == 10)).length
    let column := match String.fromUTF8? (bytes.extract lineStart (safe + 1)) with
      | some t => t.length - 1
      | none => safe - lineStart
    (line, column + (index - safe))

/-- 誤りを、行と桁、その行、範囲の下の印、文の順に書く。範囲が無ければ文だけ。 -/
def Problem.render (p : Problem) (text : String) : String :=
  match p.span with
  | none => p.message ++ "\n"
  | some (start, stop) =>
    let b0 := byteOffset text start
    let b1 := byteOffset text stop
    let (line, column) := lineColumn text.toUTF8 b0
    let lineNum := toString (line + 1)
    let pad := String.ofList (List.replicate (lineNum.length + 1) ' ')
    let content := ((text.splitOn "\n")[line]?).getD ""
    let width := min (b1 - b0) (content.utf8ByteSize - column)
    s!"TOML parse error at line {lineNum}, column {column + 1}\n" ++
      pad ++ "|\n" ++ lineNum ++ " | " ++ content ++ "\n" ++
      pad ++ "|" ++ String.ofList (List.replicate (column + 1) ' ') ++
      String.ofList (List.replicate (max width 1) '^') ++ "\n" ++ p.message ++ "\n"

/-- TOML の文書を JSON の値として読む。誤りは `Problem.render` の文。 -/
def parse (text : String) : Except String Json :=
  match parseDocument text with
  | .ok es => .ok (.obj (sortEntries (entriesToJson es)))
  | .error p => .error (p.render text)

end DropletVision.Toml
