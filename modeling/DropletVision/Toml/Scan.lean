import DropletVision.Toml.Tree

/-!
# TOML の字句

空白・改行・注釈・キー・文字列の読み取り。

* 空白は空白とタブ、改行は `\n` か `\r\n`。注釈と文字列にはタブ以外の制御文字を書けない。
* 素のキーは ASCII の英数字と `_`、`-` だけ。
* 基本文字列のエスケープは `\b \t \n \f \r \e \" \\ \xXX \uXXXX \UXXXXXXXX`。
* 複数行の文字列は開きの直後の改行を捨て、基本文字列では行末の `\` で次の空白でない文字まで飛ばす。

走査はどれも残りの文字数 `size - pos` が減る。
-/

namespace DropletVision.Toml


section Scan

variable (cs : Array Char)

/-- `pos` の文字。 -/
def charAt? (pos : Nat) : Option Char := cs[pos]?

/-- 空白（空白とタブ）を読み飛ばす。 -/
def skipBlank (pos : Nat) : Nat :=
  if h : pos < cs.size then
    if cs[pos] == ' ' || cs[pos] == '\t' then skipBlank (pos + 1) else pos
  else pos
termination_by cs.size - pos

/-- 注釈に許される文字（タブ以外の制御文字は不可）。 -/
def commentChar (c : Char) : Bool :=
  c == '\t' || (c.toNat ≥ 0x20 && c.toNat != 0x7F)

/-- 行末まで注釈を読む。`pos` は `#` の直後。 -/
def skipComment (pos : Nat) : Result Nat :=
  if h : pos < cs.size then
    let c := cs[pos]
    if c == '\n' then .ok pos
    else if c == '\r' then .ok pos
    else if commentChar c then skipComment (pos + 1)
    else .error (Problem.at "invalid character in comment" pos (pos + 1))
  else .ok pos
termination_by cs.size - pos

/-- 改行（`\n` か `\r\n`）を一つ読む。 -/
def newline? (pos : Nat) : Option Nat :=
  match charAt? cs pos with
  | some '\n' => some (pos + 1)
  | some '\r' => if charAt? cs (pos + 1) == some '\n' then some (pos + 2) else none
  | _ => none

/-- 空白・改行・注釈を読み飛ばす（配列の中で使う）。 -/
def skipBlankLines (pos : Nat) : Result Nat :=
  if h : pos < cs.size then
    let c := cs[pos]
    if c == ' ' || c == '\t' || c == '\n' then skipBlankLines (pos + 1)
    else if c == '\r' then
      if charAt? cs (pos + 1) == some '\n' then skipBlankLines (pos + 1)
      else .error (Problem.at "bare carriage return" pos (pos + 1))
    else if c == '#' then
      match skipComment cs (pos + 1) with
      | .ok p => if pos < p then skipBlankLines p else .ok p
      | .error e => .error e
    else .ok pos
  else .ok pos
termination_by cs.size - pos

/-- 素のキーの文字。 -/
def bareKeyChar (c : Char) : Bool :=
  c.isAlphanum && c.toNat < 0x80 || c == '_' || c == '-'

/-- 素のキーを読む。 -/
def bareKey (pos : Nat) (acc : List Char) : List Char × Nat :=
  if h : pos < cs.size then
    if bareKeyChar cs[pos] then bareKey (pos + 1) (cs[pos] :: acc) else (acc.reverse, pos)
  else (acc.reverse, pos)
termination_by cs.size - pos

/-- 十六進の値。 -/
def hexDigitValue (c : Char) : Option Nat :=
  if c.isDigit then some (c.toNat - 48)
  else if 'a' ≤ c && c ≤ 'f' then some (c.toNat - 87)
  else if 'A' ≤ c && c ≤ 'F' then some (c.toNat - 55)
  else none

/-- `n` 桁の十六進で書いた文字。 -/
def unicodeEscape (pos n : Nat) : Result (Char × Nat) :=
  let digits := (List.range n).map (fun i => (charAt? cs (pos + i)).bind hexDigitValue)
  if digits.all Option.isSome then
    let v := digits.foldl (fun acc d => acc * 16 + d.getD 0) 0
    if v < 0xD800 || (0xDFFF < v && v ≤ 0x10FFFF) then .ok (Char.ofNat v, pos + n)
    else .error (Problem.at "invalid unicode escape" pos (pos + 1))
  else .error (Problem.at "invalid unicode escape" pos (pos + 1))

/-- 基本文字列で許される文字（制御文字はタブだけ）。 -/
def plainStringChar (c : Char) : Bool :=
  c == '\t' || (c.toNat ≥ 0x20 && c.toNat != 0x7F)

/-- エスケープを一つ読む。`pos` は `\` の直後。 -/
def escape (pos : Nat) : Result (Char × Nat) :=
  match charAt? cs pos with
  | some 'b' => .ok ('\x08', pos + 1)
  | some 't' => .ok ('\t', pos + 1)
  | some 'n' => .ok ('\n', pos + 1)
  | some 'f' => .ok ('\x0c', pos + 1)
  | some 'r' => .ok ('\r', pos + 1)
  | some '"' => .ok ('"', pos + 1)
  | some '\\' => .ok ('\\', pos + 1)
  | some 'e' => .ok ('\x1b', pos + 1)
  | some 'x' => unicodeEscape cs (pos + 1) 2
  | some 'u' => unicodeEscape cs (pos + 1) 4
  | some 'U' => unicodeEscape cs (pos + 1) 8
  | _ => .error (Problem.at "invalid escape" pos (pos + 1))

/-- 一行の基本文字列の中身。`pos` は開き引用符の直後。 -/
def basicString (pos : Nat) (acc : List Char) : Result (String × Nat) :=
  if h : pos < cs.size then
    let c := cs[pos]
    if c == '"' then .ok (String.ofList acc.reverse, pos + 1)
    else if c == '\\' then
      match escape cs (pos + 1) with
      | .ok (e, p) => if pos < p then basicString p (e :: acc) else .error (Problem.at "invalid escape" pos (pos + 1))
      | .error e => .error e
    else if plainStringChar c then basicString (pos + 1) (c :: acc)
    else .error (Problem.at "invalid character in string" pos (pos + 1))
  else .error (Problem.at "unterminated string" pos (pos + 1))
termination_by cs.size - pos

/-- 一行のリテラル文字列の中身。 -/
def literalString (pos : Nat) (acc : List Char) : Result (String × Nat) :=
  if h : pos < cs.size then
    let c := cs[pos]
    if c == '\'' then .ok (String.ofList acc.reverse, pos + 1)
    else if plainStringChar c then literalString (pos + 1) (c :: acc)
    else .error (Problem.at "invalid character in string" pos (pos + 1))
  else .error (Problem.at "unterminated string" pos (pos + 1))
termination_by cs.size - pos

/-- 行末の `\` の後の空白と改行を読み飛ばす。 -/
def skipLineContinuation (pos : Nat) : Nat :=
  if h : pos < cs.size then
    let c := cs[pos]
    if c == ' ' || c == '\t' || c == '\n' then skipLineContinuation (pos + 1)
    else if c == '\r' && charAt? cs (pos + 1) == some '\n' then skipLineContinuation (pos + 1)
    else pos
  else pos
termination_by cs.size - pos

/-- 複数行の文字列の中身。`quote` は区切りの文字、`basic` はエスケープを読むか。 -/
def multilineString (quote : Char) (basic : Bool) (pos : Nat) (acc : List Char) :
    Result (String × Nat) :=
  if h : pos < cs.size then
    let c := cs[pos]
    if c == quote && charAt? cs (pos + 1) == some quote && charAt? cs (pos + 2) == some quote then
      -- 閉じの三つの後にさらに一つか二つ続けば、それは中身の引用符。
      if charAt? cs (pos + 3) == some quote then
        if charAt? cs (pos + 4) == some quote then
          .ok (String.ofList (quote :: quote :: acc).reverse, pos + 5)
        else .ok (String.ofList (quote :: acc).reverse, pos + 4)
      else .ok (String.ofList acc.reverse, pos + 3)
    else if basic && c == '\\' then
      -- 行末の `\`：後ろの空白だけの部分と改行を捨てる。
      match newline? cs (skipBlank cs (pos + 1)) with
      | some _ =>
        if pos < skipLineContinuation cs (skipBlank cs (pos + 1)) then
          multilineString quote basic (skipLineContinuation cs (skipBlank cs (pos + 1))) acc
        else .error (Problem.at "invalid escape" pos (pos + 1))
      | none =>
        match escape cs (pos + 1) with
        | .ok (e, p) => if pos < p then multilineString quote basic p (e :: acc) else .error (Problem.at "invalid escape" pos (pos + 1))
        | .error e => .error e
    else if c == '\n' then multilineString quote basic (pos + 1) ('\n' :: acc)
    else if c == '\r' then
      if charAt? cs (pos + 1) == some '\n' then multilineString quote basic (pos + 2) ('\n' :: '\r' :: acc)
      else .error (Problem.at "bare carriage return" pos (pos + 1))
    else if plainStringChar c then multilineString quote basic (pos + 1) (c :: acc)
    else .error (Problem.at "invalid character in string" pos (pos + 1))
  else .error (Problem.at "unterminated string" pos (pos + 1))
termination_by cs.size - pos

end Scan

end DropletVision.Toml
