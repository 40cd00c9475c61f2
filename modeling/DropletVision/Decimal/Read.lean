/-!
# 十進の字面から倍精度へ

`[+-]? 数字* (. 数字*)? ((e|E) [+-]? 数字+)?`（仮数部に数字が一つ以上）か、
大文字小文字を問わない `inf`、`infinity`、`nan` を読み、最近接（等距離なら偶数）に丸める。
大きすぎれば無限大、小さすぎれば 0（符号は保つ）。
-/

namespace DropletVision.Decimal

/-- 仮数の数字・小数点以下の桁数・指数を読んだ途中結果。 -/
structure DecimalParts where
  mantissa : Nat
  digits : Nat
  fracDigits : Nat
  exponent : Int

/-- 数字の列を読む。 -/
def takeDigits : List Char → Nat → Nat → Nat × Nat × List Char
  | c :: rest, acc, n =>
    if c.isDigit then takeDigits rest (acc * 10 + (c.toNat - 48)) (n + 1) else (acc, n, c :: rest)
  | [], acc, n => (acc, n, [])

/-- 符号のない数の字面を読む。 -/
def readUnsigned (cs : List Char) : Option DecimalParts :=
  let (intPart, intDigits, rest) := takeDigits cs 0 0
  let (mant, fracDigits, rest) :=
    match rest with
    | '.' :: r =>
      let (m, n, r') := takeDigits r intPart 0
      (m, n, r')
    | r => (intPart, 0, r)
  if intDigits + fracDigits == 0 then none
  else
    match rest with
    | [] => some ⟨mant, intDigits + fracDigits, fracDigits, 0⟩
    | e :: r =>
      if e == 'e' || e == 'E' then
        let (neg, r) := match r with
          | '+' :: r => (false, r)
          | '-' :: r => (true, r)
          | r => (false, r)
        let (ev, en, r) := takeDigits r 0 0
        if en == 0 || !r.isEmpty then none
        else some ⟨mant, intDigits + fracDigits, fracDigits, if neg then -(ev : Int) else ev⟩
      else none

/-- 値 `m · 10^e` を最近接の倍精度へ。桁が極端なら先に無限大か 0 に決める。 -/
def scaled (m : Nat) (e : Int) : Float :=
  if m == 0 then 0
  else
    let magnitude := ((Nat.toDigits 10 m).length : Int) + e
    if magnitude > 310 then 1.0 / 0.0
    else if magnitude < -330 then 0
    else if e < 0 then Float.ofScientific m true (-e).toNat
    else Float.ofScientific m false e.toNat

/-- 十進の字面を読む。読めなければ `none`。 -/
def readFloat (s : String) : Option Float :=
  let cs := s.toList
  let (neg, body) := match cs with
    | '-' :: r => (true, r)
    | '+' :: r => (false, r)
    | r => (false, r)
  let lower := String.ofList (body.map Char.toLower)
  let sign (x : Float) : Float := if neg then -x else x
  if lower == "inf" || lower == "infinity" then some (sign (1.0 / 0.0))
  else if lower == "nan" then some (sign (0.0 / 0.0))
  else
    (readUnsigned body).map (fun p => sign (scaled p.mantissa (p.exponent - p.fracDigits)))

end DropletVision.Decimal
