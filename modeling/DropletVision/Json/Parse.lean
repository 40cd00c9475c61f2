import DropletVision.Json.Value

/-!
# JSON の読み取り

UTF-8 のバイト列を左から一度だけ読む再帰下降の読み取り。

## 規則

* 空白は空白・タブ・改行・復帰の四つ。値の後に空白以外が残れば誤り。
* 整数の字面は 64 ビットに収まれば整数、収まらなければ倍精度。
  `-0` は倍精度の `-0.0`。
* 小数・指数つきの字面は、十進の仮数を倍精度にしてから 10 の冪（1e0 から 1e308 の表）で
  一度だけ掛ける（または割る）。したがって 17 桁を超える仮数の末尾は捨てられ、
  結果は最近接への丸めと 1 ulp ずれることがある。上に溢れる字面は誤り。
* 入れ子は 127 段まで。
* 同じキーが二度あれば後の値が残る。
* 誤りは種類と位置（行と桁、桁はバイトで数える）を持つ。

## 停止性

* 空白・数字・文字列の走査 — 残りのバイト数 `size - pos` が減る。
* 値の再帰 — 入れ子の残り段数 `depth` が減る。
* 配列とオブジェクトの要素の繰り返し — 要素ごとに 1 バイト以上読むので、
  残りバイト数を上限とする回数 `fuel` が減る。
-/

namespace DropletVision.Json

/-- 読み取りの誤りの種類。 -/
inductive ErrorCode where
  | eofWhileParsingList
  | eofWhileParsingObject
  | eofWhileParsingString
  | eofWhileParsingValue
  | expectedColon
  | expectedListCommaOrEnd
  | expectedObjectCommaOrEnd
  | expectedSomeIdent
  | expectedSomeValue
  | invalidEscape
  | invalidNumber
  | numberOutOfRange
  | controlCharacter
  | keyMustBeAString
  | loneLeadingSurrogate
  | trailingComma
  | trailingCharacters
  | unexpectedEndOfHexEscape
  | recursionLimitExceeded
  deriving BEq, Repr

/-- 誤りの種類の文言。 -/
def ErrorCode.text : ErrorCode → String
  | .eofWhileParsingList => "EOF while parsing a list"
  | .eofWhileParsingObject => "EOF while parsing an object"
  | .eofWhileParsingString => "EOF while parsing a string"
  | .eofWhileParsingValue => "EOF while parsing a value"
  | .expectedColon => "expected `:`"
  | .expectedListCommaOrEnd => "expected `,` or `]`"
  | .expectedObjectCommaOrEnd => "expected `,` or `\x7d`"
  | .expectedSomeIdent => "expected ident"
  | .expectedSomeValue => "expected value"
  | .invalidEscape => "invalid escape"
  | .invalidNumber => "invalid number"
  | .numberOutOfRange => "number out of range"
  | .controlCharacter => "control character (\\u0000-\\u001F) found while parsing a string"
  | .keyMustBeAString => "key must be a string"
  | .loneLeadingSurrogate => "lone leading surrogate in hex escape"
  | .trailingComma => "trailing comma"
  | .trailingCharacters => "trailing characters"
  | .unexpectedEndOfHexEscape => "unexpected end of hex escape"
  | .recursionLimitExceeded => "recursion limit exceeded"

/-- 読み取りの誤り。`line` は 1 から、`column` は行頭からのバイト数。 -/
structure ParseError where
  code : ErrorCode
  line : Nat
  column : Nat

/-- 誤りの文言（位置つき）。 -/
def ParseError.message (e : ParseError) : String :=
  s!"{e.code.text} at line {e.line} column {e.column}"

/-- 読み取りの途中結果：値と次に読む位置。 -/
abbrev Step (α : Type) := Except ParseError (α × Nat)

section Reader

variable (b : ByteArray)

/-- `i` バイト目の直後を指す誤り。行は `i` までの改行の数、桁は最後の改行からの距離。 -/
def errorAt (code : ErrorCode) (i : Nat) : ParseError :=
  let pre := (b.extract 0 i).toList
  let lines := pre.count 10
  let lastNl := (pre.zipIdx.filter (fun p => p.1 == 10)).getLast?.map (·.2)
  let startOfLine := match lastNl with
    | some k => k + 1
    | none => 0
  ⟨code, 1 + lines, i - startOfLine⟩

/-- すでに読んだ位置での誤り。 -/
def fail {α : Type} (code : ErrorCode) (pos : Nat) : Except ParseError α :=
  .error (errorAt b code pos)

/-- 次の一文字を指す誤り（入力の末尾を越えない）。 -/
def failPeek {α : Type} (code : ErrorCode) (pos : Nat) : Except ParseError α :=
  .error (errorAt b code (min b.size (pos + 1)))

/-- `pos` のバイト。 -/
def byteAt? (pos : Nat) : Option UInt8 := b[pos]?

/-- 空白を読み飛ばす。 -/
def skipWs (pos : Nat) : Nat :=
  if h : pos < b.size then
    let c := b[pos]
    if c == 0x20 || c == 0x0A || c == 0x09 || c == 0x0D then skipWs (pos + 1) else pos
  else pos
termination_by b.size - pos

/-- 数字を読み飛ばす。 -/
def skipDigits (pos : Nat) : Nat :=
  if h : pos < b.size then
    let c := b[pos]
    if 0x30 ≤ c && c ≤ 0x39 then skipDigits (pos + 1) else pos
  else pos
termination_by b.size - pos

end Reader

/-- バイトが数字か。 -/
def isDigit (c : UInt8) : Bool := 0x30 ≤ c && c ≤ 0x39

/-- 数字の値。 -/
def digitValue (c : UInt8) : Nat := (c - 0x30).toNat

/-- `2^64 - 1`。 -/
def u64Max : Nat := Nat.pow 2 64 - 1

/-- `2^31 - 1`。 -/
def i32Max : Int := Int.pow 2 31 - 1

/-- 32 ビット符号付きの範囲に飽和させる。 -/
def saturateI32 (x : Int) : Int := max (-Int.pow 2 31) (min i32Max x)

/-- `acc * 10 + d` が `limit` を超えるか。 -/
def overflows (acc d limit : Nat) : Bool :=
  acc ≥ limit / 10 && (acc > limit / 10 || d > limit % 10)

/-- `10^0` から `10^308` までの倍精度の表（各項は最近接に丸めた値）。 -/
def powersOfTen : Array Float :=
  (List.range 309).toArray.map (fun k => Float.ofScientific 1 false k)

section Numbers

variable (b : ByteArray)

/-- 仮数と十進指数から倍精度を作る：仮数を倍精度にしてから表の冪で一度掛けるか割る。
指数が表を外れる負の値なら `1e308` で割りながら表に入るまで進める。 -/
def floatFromParts (positive : Bool) (sig : Nat) (exponent : Int) (pos : Nat) :
    Except ParseError Float :=
  let f := Float.ofNat sig
  let r : Except ParseError Float :=
    if 0 ≤ exponent then
      match powersOfTen[exponent.toNat]? with
      | some p =>
        let g := f * p
        if g.isInf then fail b .numberOutOfRange pos else .ok g
      | none => if f == 0 then .ok f else fail b .numberOutOfRange pos
    else
      .ok (divideDown f (-exponent).toNat ((-exponent).toNat / 308 + 1))
  r.map (fun x => if positive then x else -x)
where
  /-- 負の指数 `-n` の分だけ割る。第三引数は繰り返しの上限。 -/
  divideDown (f : Float) (n : Nat) : Nat → Float
    | 0 => f
    | fuel + 1 =>
      match powersOfTen[n]? with
      | some p => f / p
      | none => if f == 0 then f else divideDown (f / (powersOfTen[308]?).getD 1) (n - 308) fuel

/-- 指数部の数字が 32 ビットを溢れたときの扱い：仮数が 0 でなく正の指数なら誤り、
それ以外は残りの数字を読み飛ばして `±0`。 -/
def exponentOverflow (positive zeroSig positiveExp : Bool) (pos : Nat) :
    Except ParseError (Float × Nat) :=
  if !zeroSig && positiveExp then fail b .numberOutOfRange pos
  else .ok (if positive then 0.0 else -0.0, skipDigits b pos)

/-- 指数部の数字を読む。`pos` は最初の数字の直後。 -/
def exponentDigits (exp : Nat) (pos : Nat) : Option Nat × Nat :=
  if h : pos < b.size then
    let c := b[pos]
    if isDigit c then
      if overflows exp (digitValue c) i32Max.toNat then (none, pos)
      else exponentDigits (exp * 10 + digitValue c) (pos + 1)
    else (some exp, pos)
  else (some exp, pos)
termination_by b.size - pos

/-- `e` の位置から指数部を読む。 -/
def parseExponent (positive : Bool) (sig : Nat) (startExp : Int) (pos : Nat) :
    Except ParseError (Float × Nat) :=
  let pos := pos + 1
  let (positiveExp, pos) :=
    match byteAt? b pos with
    | some 0x2B => (true, pos + 1)
    | some 0x2D => (false, pos + 1)
    | _ => (true, pos)
  match byteAt? b pos with
  | none => fail b .eofWhileParsingValue pos
  | some c =>
    if !isDigit c then fail b .invalidNumber (pos + 1)
    else
      match exponentDigits b (digitValue c) (pos + 1) with
      | (none, p) => exponentOverflow b positive (sig == 0) positiveExp p
      | (some e, p) =>
        let finalExp := if positiveExp then saturateI32 (startExp + e) else saturateI32 (startExp - e)
        (floatFromParts b positive sig finalExp p).map (fun x => (x, p))

/-- 小数部の数字を読む。仮数が溢れたら残りの数字は捨てる。 -/
def fractionDigits (sig : Nat) (count : Nat) (pos : Nat) : Nat × Nat × Nat × Bool :=
  if h : pos < b.size then
    let c := b[pos]
    if isDigit c then
      if overflows sig (digitValue c) u64Max then (sig, count, skipDigits b pos, true)
      else fractionDigits (sig * 10 + digitValue c) (count + 1) (pos + 1)
    else (sig, count, pos, false)
  else (sig, count, pos, false)
termination_by b.size - pos

/-- 小数点の位置から小数部（と指数部）を読む。 -/
def parseDecimal (positive : Bool) (sig : Nat) (expBefore : Int) (pos : Nat) :
    Except ParseError (Float × Nat) :=
  let start := pos + 1
  let (sig', count, p, overflowed) := fractionDigits b sig 0 start
  if count == 0 && !overflowed then
    match byteAt? b p with
    | some _ => failPeek b .invalidNumber p
    | none => failPeek b .eofWhileParsingValue p
  else
    let exponent := expBefore - count
    match byteAt? b p with
    | some 0x65 | some 0x45 => parseExponent b positive sig' exponent p
    | _ => (floatFromParts b positive sig' exponent p).map (fun x => (x, p))

/-- 仮数が 64 ビットを溢れた整数部の残りを読む。溢れた桁は指数に回す。 -/
def longIntegerDigits (count : Nat) (pos : Nat) : Nat × Nat :=
  if h : pos < b.size then
    if isDigit b[pos] then longIntegerDigits (count + 1) (pos + 1) else (count, pos)
  else (count, pos)
termination_by b.size - pos

/-- 溢れた整数の続き（小数部・指数部があればそれも）を読む。 -/
def parseLongInteger (positive : Bool) (sig : Nat) (pos : Nat) :
    Except ParseError (Float × Nat) :=
  let (extra, p) := longIntegerDigits b 0 pos
  match byteAt? b p with
  | some 0x2E => parseDecimal b positive sig extra p
  | some 0x65 | some 0x45 => parseExponent b positive sig extra p
  | _ => (floatFromParts b positive sig extra p).map (fun x => (x, p))

/-- 整数部の後：小数点・指数・終わりで分かれる。 -/
def parseNumberTail (positive : Bool) (sig : Nat) (pos : Nat) : Step Number :=
  match byteAt? b pos with
  | some 0x2E => (parseDecimal b positive sig 0 pos).map (fun (x, p) => (.float x, p))
  | some 0x65 | some 0x45 => (parseExponent b positive sig 0 pos).map (fun (x, p) => (.float x, p))
  | _ =>
    if positive then .ok (.nat sig, pos)
    else if sig == 0 || sig > Nat.pow 2 63 then .ok (.float (-(Float.ofNat sig)), pos)
    else .ok (.neg (-(sig : Int)), pos)

/-- 整数部の数字を読む。 -/
def integerDigits (positive : Bool) (sig : Nat) (pos : Nat) : Step Number :=
  if h : pos < b.size then
    let c := b[pos]
    if isDigit c then
      if overflows sig (digitValue c) u64Max then
        (parseLongInteger b positive sig pos).map (fun (x, p) => (.float x, p))
      else integerDigits positive (sig * 10 + digitValue c) (pos + 1)
    else parseNumberTail b positive sig pos
  else parseNumberTail b positive sig pos
termination_by b.size - pos

/-- 数を読む。`pos` は最初の数字（符号の後）。 -/
def parseNumber (positive : Bool) (pos : Nat) : Step Number :=
  match byteAt? b pos with
  | none => fail b .eofWhileParsingValue pos
  | some 0x30 =>
    match byteAt? b (pos + 1) with
    | some c => if isDigit c then failPeek b .invalidNumber (pos + 1)
                else parseNumberTail b positive 0 (pos + 1)
    | none => parseNumberTail b positive 0 (pos + 1)
  | some c =>
    if isDigit c then integerDigits b positive (digitValue c) (pos + 1)
    else fail b .invalidNumber (pos + 1)

end Numbers

section Strings

variable (b : ByteArray)

/-- 十六進の一桁。 -/
def hexValue (c : UInt8) : Option Nat :=
  if 0x30 ≤ c && c ≤ 0x39 then some (c - 0x30).toNat
  else if 0x61 ≤ c && c ≤ 0x66 then some ((c - 0x61).toNat + 10)
  else if 0x41 ≤ c && c ≤ 0x46 then some ((c - 0x41).toNat + 10)
  else none

/-- `\u` の後の四桁を読む。 -/
def hexEscape (pos : Nat) : Step Nat :=
  if pos + 4 ≤ b.size then
    let ds := [pos, pos + 1, pos + 2, pos + 3].map (fun i => (b[i]?).bind hexValue)
    match ds with
    | [some a, some c, some d, some e] => .ok (((a * 16 + c) * 16 + d) * 16 + e, pos + 4)
    | _ => fail b .invalidEscape (pos + 4)
  else fail b .eofWhileParsingString b.size

/-- 符号位置を UTF-8 で足す。 -/
def pushCodePoint (acc : ByteArray) (n : Nat) : ByteArray :=
  if n < 0x80 then acc.push n.toUInt8
  else if n < 0x800 then
    (acc.push (0xC0 + n / 64).toUInt8).push (0x80 + n % 64).toUInt8
  else if n < 0x10000 then
    ((acc.push (0xE0 + n / 4096).toUInt8).push (0x80 + n / 64 % 64).toUInt8).push
      (0x80 + n % 64).toUInt8
  else
    (((acc.push (0xF0 + n / 262144).toUInt8).push (0x80 + n / 4096 % 64).toUInt8).push
      (0x80 + n / 64 % 64).toUInt8).push (0x80 + n % 64).toUInt8

/-- `\u` エスケープ（サロゲートの組を含む）を読む。`pos` は `u` の直後。 -/
def unicodeEscape (acc : ByteArray) (pos : Nat) : Except ParseError (ByteArray × Nat) := do
  let (n, p) ← hexEscape b pos
  if 0xDC00 ≤ n && n ≤ 0xDFFF then fail b .loneLeadingSurrogate p
  else if n < 0xD800 || n > 0xDBFF then .ok (pushCodePoint acc n, p)
  else
    match byteAt? b p with
    | none => fail b .eofWhileParsingString p
    | some 0x5C =>
      match byteAt? b (p + 1) with
      | none => fail b .eofWhileParsingString (p + 1)
      | some 0x75 =>
        let (n2, p2) ← hexEscape b (p + 2)
        if n2 < 0xDC00 || n2 > 0xDFFF then fail b .loneLeadingSurrogate p2
        else .ok (pushCodePoint acc (((n - 0xD800) * 1024 + (n2 - 0xDC00)) + 0x10000), p2)
      | some _ => fail b .unexpectedEndOfHexEscape (p + 2)
    | some _ => fail b .unexpectedEndOfHexEscape (p + 1)

/-- 文字列の中身を閉じ引用符まで読む。`pos` は開き引用符の直後。 -/
def stringBody (acc : ByteArray) (pos : Nat) : Step String :=
  if h : pos < b.size then
    let c := b[pos]
    if c == 0x22 then .ok ((String.fromUTF8? acc).getD "", pos + 1)
    else if c == 0x5C then
      match byteAt? b (pos + 1) with
      | none => fail b .eofWhileParsingString b.size
      | some e =>
        let simple : Option UInt8 :=
          match e with
          | 0x22 => some 0x22 | 0x5C => some 0x5C | 0x2F => some 0x2F
          | 0x62 => some 0x08 | 0x66 => some 0x0C | 0x6E => some 0x0A
          | 0x72 => some 0x0D | 0x74 => some 0x09
          | _ => none
        match simple with
        | some x => stringBody (acc.push x) (pos + 2)
        | none =>
          if e == 0x75 then
            match unicodeEscape b acc (pos + 2) with
            | .ok (acc', p) => if pos < p then stringBody acc' p else .ok ("", p)
            | .error err => .error err
          else fail b .invalidEscape (pos + 2)
    else if c < 0x20 then fail b .controlCharacter (pos + 1)
    else stringBody (acc.push c) (pos + 1)
  else fail b .eofWhileParsingString b.size
termination_by b.size - pos

end Strings

section Values

variable (b : ByteArray)

/-- 綴りの残り（`ull`、`rue`、`alse`）を確かめる。 -/
def expectIdent : List UInt8 → Nat → Except ParseError Nat
  | [], pos => .ok pos
  | c :: rest, pos =>
    match byteAt? b pos with
    | none => fail b .eofWhileParsingValue pos
    | some d => if c == d then expectIdent rest (pos + 1) else fail b .expectedSomeIdent (pos + 1)

mutual

/-- 値を一つ読む。`depth` は残りの入れ子の段数。 -/
def parseValue (depth : Nat) (pos : Nat) : Step Json :=
  let pos := skipWs b pos
  match byteAt? b pos with
  | none => failPeek b .eofWhileParsingValue pos
  | some 0x6E => (expectIdent b [0x75, 0x6C, 0x6C] (pos + 1)).map (fun p => (.null, p))
  | some 0x74 => (expectIdent b [0x72, 0x75, 0x65] (pos + 1)).map (fun p => (.bool true, p))
  | some 0x66 =>
    (expectIdent b [0x61, 0x6C, 0x73, 0x65] (pos + 1)).map (fun p => (.bool false, p))
  | some 0x2D => (parseNumber b false (pos + 1)).map (fun (n, p) => (.num n, p))
  | some 0x22 => (stringBody b .empty (pos + 1)).map (fun (s, p) => (.str s, p))
  | some 0x5B =>
    match depth with
    | d + 2 => parseItems (d + 1) (b.size + 1) (pos + 1) true []
    | _ => failPeek b .recursionLimitExceeded pos
  | some 0x7B =>
    match depth with
    | d + 2 => parseFields (d + 1) (b.size + 1) (pos + 1) true []
    | _ => failPeek b .recursionLimitExceeded pos
  | some c =>
    if isDigit c then (parseNumber b true pos).map (fun (n, p) => (.num n, p))
    else failPeek b .expectedSomeValue pos
termination_by (depth, 0)

/-- 配列の要素を `]` まで読む。 -/
def parseItems (depth : Nat) (fuel : Nat) (pos : Nat) (first : Bool) (acc : List Json) :
    Step Json :=
  match fuel with
  | 0 => failPeek b .eofWhileParsingList pos
  | fuel + 1 =>
    let pos := skipWs b pos
    match byteAt? b pos with
    | none => failPeek b .eofWhileParsingList pos
    | some 0x5D => .ok (.arr acc.reverse, pos + 1)
    | some c =>
      if first then
        match parseValue depth pos with
        | .ok (v, p) => parseItems depth fuel p false (v :: acc)
        | .error e => .error e
      else if c == 0x2C then
        let q := skipWs b (pos + 1)
        match byteAt? b q with
        | some 0x5D => failPeek b .trailingComma q
        | none => failPeek b .eofWhileParsingValue q
        | some _ =>
          match parseValue depth q with
          | .ok (v, p) => parseItems depth fuel p false (v :: acc)
          | .error e => .error e
      else failPeek b .expectedListCommaOrEnd pos
termination_by (depth, fuel + 1)

/-- オブジェクトの組を `}` まで読む。キーは辞書順に並べ、同じキーは後の値で置き換える。 -/
def parseFields (depth : Nat) (fuel : Nat) (pos : Nat) (first : Bool)
    (acc : List (String × Json)) : Step Json :=
  match fuel with
  | 0 => failPeek b .eofWhileParsingObject pos
  | fuel + 1 =>
    let pos := skipWs b pos
    let keyStart : Except ParseError (Option Nat) :=
      match byteAt? b pos with
      | none => failPeek b .eofWhileParsingObject pos
      | some 0x7D => .ok none
      | some c =>
        if c == 0x2C && !first then .ok (some (skipWs b (pos + 1)))
        else if first then .ok (some pos)
        else failPeek b .expectedObjectCommaOrEnd pos
    match keyStart with
    | .error e => .error e
    | .ok none => .ok (.obj acc, pos + 1)
    | .ok (some k) =>
      match byteAt? b k with
      | some 0x22 =>
        match stringBody b .empty (k + 1) with
        | .error e => .error e
        | .ok (key, p) =>
          let p := skipWs b p
          match byteAt? b p with
          | some 0x3A =>
            match parseValue depth (p + 1) with
            | .ok (v, q) => parseFields depth fuel q false (insertSorted key v acc)
            | .error e => .error e
          | some _ => failPeek b .expectedColon p
          | none => failPeek b .eofWhileParsingObject p
      | some 0x7D => failPeek b .trailingComma k
      | some _ => failPeek b .keyMustBeAString k
      | none => failPeek b .eofWhileParsingValue k
termination_by (depth, fuel + 1)

end

end Values

/-- テキスト全体を一つの値として読む。値の後には空白しか残してはいけない。 -/
def parse (text : String) : Except ParseError Json := do
  let b := text.toUTF8
  let (v, p) ← parseValue b 128 0
  let q := skipWs b p
  if q < b.size then failPeek b .trailingCharacters q else pure v

end DropletVision.Json
