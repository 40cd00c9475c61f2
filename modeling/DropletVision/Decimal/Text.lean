import DropletVision.Decimal.Shortest

/-!
# 十進の文字列

最短表示 `Scientific` を文字列にする規則と、桁数を固定した丸め表示。

* `Style` — 固定小数点と指数表記の境目、整数値の `.0`、正の指数の `+`。
  出力形式ごとの値は、その形式を書くモジュールが持つ（`Json.numberStyle` など）。
* `Style.plain` — 指数表記を使わない通常の表示（整数値は `5000`）。
* `fixed` — 小数点以下 `n` 桁。正確な値を偶数丸めする。
-/

namespace DropletVision.Decimal

/-- 最短表示を文字列にする規則。 -/
structure Style where
  /-- 固定小数点で書く小数点位置 `kk`（値 `= 0.d₁d₂… × 10^kk`）の範囲 `lo < kk ≤ hi`。
  `none` なら常に固定小数点。 -/
  fixedRange : Option (Int × Int)
  /-- 固定小数点の整数値に `.0` を付ける。 -/
  pointZero : Bool
  /-- 正の指数に `+` を付ける。 -/
  plusExponent : Bool

/-- 指数表記を使わず、整数値にも小数点を付けない表示。 -/
def Style.plain : Style := ⟨none, false, false⟩

/-- `c` を `n` 個並べた文字列。 -/
def replicateChar (n : Nat) (c : Char) : String := String.ofList (List.replicate n c)

/-- 正の数（または 0）の最短表示を `style` で書く。 -/
def Scientific.render (style : Style) (s : Scientific) : String :=
  let ds := String.ofList (Nat.toDigits 10 s.digits)
  let len : Int := ds.length
  let kk := len + s.exp
  let fixed :=
    match style.fixedRange with
    | none => true
    | some (lo, hi) => lo < kk && kk ≤ hi
  if s.digits = 0 then
    if style.pointZero then "0.0" else "0"
  else if fixed then
    if 0 ≤ s.exp then
      ds ++ replicateChar s.exp.toNat '0' ++ (if style.pointZero then ".0" else "")
    else if 0 < kk then
      String.ofList (ds.toList.take kk.toNat) ++ "." ++ String.ofList (ds.toList.drop kk.toNat)
    else
      "0." ++ replicateChar (-kk).toNat '0' ++ ds
  else
    let e := kk - 1
    let mant :=
      match ds.toList with
      | [d] => String.singleton d
      | d :: rest => String.singleton d ++ "." ++ String.ofList rest
      | [] => "0"
    let sign := if e < 0 then "-" else if style.plusExponent then "+" else ""
    mant ++ "e" ++ sign ++ toString e.natAbs

/-- 倍精度の数の分類。 -/
def decodeDouble (x : Float) : Decoded :=
  BinaryFormat.double.decode x.toBits.toNat

/-- 単精度の数の分類。 -/
def decodeSingle (x : Float32) : Decoded :=
  BinaryFormat.single.decode x.toBits.toNat

/-- 有限の数を `style` で書く。非有限なら `none`。 -/
def renderFinite (f : BinaryFormat) (style : Style) : Decoded → Option String
  | .finite neg m e b =>
    let body := (shortest f m e b).render style
    some (if neg then "-" ++ body else body)
  | _ => none

/-- 非有限の値に使う綴り。 -/
structure SpecialSpelling where
  nan : String
  inf : String
  negInf : String

/-- 通常の表示での綴り（`NaN`、`inf`、`-inf`）。 -/
def SpecialSpelling.plain : SpecialSpelling := ⟨"NaN", "inf", "-inf"⟩

/-- 分類済みの値を、非有限の綴りも含めて書く。 -/
def renderDecoded (f : BinaryFormat) (style : Style) (sp : SpecialSpelling) (d : Decoded) :
    String :=
  match d with
  | .nan => sp.nan
  | .infinite true => sp.negInf
  | .infinite false => sp.inf
  | .finite .. => (renderFinite f style d).getD ""

/-- 倍精度の通常の表示（`0.1`、`5000`、`1000000000000000000000`、`NaN`）。 -/
def showDouble (x : Float) : String :=
  renderDecoded .double .plain .plain (decodeDouble x)

/-- 単精度の通常の表示。 -/
def showSingle (x : Float32) : String :=
  renderDecoded .single .plain .plain (decodeSingle x)

/-- `num / den` を最も近い整数に丸める。ちょうど半分なら偶数へ。 -/
def roundHalfEven (num den : Nat) : Nat :=
  let q := num / den
  let r := num % den
  if 2 * r < den then q
  else if 2 * r > den then q + 1
  else if q % 2 == 0 then q else q + 1

/-- 小数点以下ちょうど `places` 桁の表示。値は正確に扱い、半分は偶数へ丸める。
負の数（負の 0 を含む）には `-` が付く。 -/
def fixedDecoded (places : Nat) (sp : SpecialSpelling) : Decoded → String
  | .nan => sp.nan
  | .infinite true => sp.negInf
  | .infinite false => sp.inf
  | .finite neg m e _ =>
    let scaled :=
      if 0 ≤ e then m * Nat.pow 2 e.toNat * Nat.pow 10 places
      else roundHalfEven (m * Nat.pow 10 places) (Nat.pow 2 (-e).toNat)
    let ds := Nat.toDigits 10 scaled
    let ds := List.replicate (places + 1 - ds.length) '0' ++ ds
    let intPart := ds.take (ds.length - places)
    let fracPart := ds.drop (ds.length - places)
    let body :=
      if places = 0 then String.ofList intPart
      else String.ofList intPart ++ "." ++ String.ofList fracPart
    if neg then "-" ++ body else body

/-- 倍精度の小数点以下 `places` 桁の表示。 -/
def fixedDouble (places : Nat) (x : Float) : String :=
  fixedDecoded places .plain (decodeDouble x)

end DropletVision.Decimal
