/-!
# Unicode の空白

Unicode の White_Space 属性を持つ文字と、それを両端から除く `trim`。
-/

namespace DropletVision.Unicode

/-- White_Space 属性を持つ文字か。 -/
def isWhiteSpace (c : Char) : Bool :=
  let n := c.toNat
  (0x09 ≤ n && n ≤ 0x0D) || n == 0x20 || n == 0x85 || n == 0xA0 || n == 0x1680 ||
  (0x2000 ≤ n && n ≤ 0x200A) || n == 0x2028 || n == 0x2029 || n == 0x202F || n == 0x205F ||
  n == 0x3000

/-- 両端の空白を除く。 -/
def trim (s : String) : String :=
  String.ofList (((s.toList.dropWhile isWhiteSpace).reverse.dropWhile isWhiteSpace).reverse)

end DropletVision.Unicode

namespace DropletVision.Unicode

/-- 継続のバイト（`10xxxxxx`）か。 -/
def isContinuation (b : UInt8) : Bool := b &&& 0xC0 == 0x80

/-- 先頭のバイト `b0` の後に続きうる二バイト目の範囲。 -/
def secondByteOk (b0 b1 : UInt8) : Bool :=
  if b0 == 0xE0 then 0xA0 ≤ b1 && b1 ≤ 0xBF
  else if b0 == 0xED then 0x80 ≤ b1 && b1 ≤ 0x9F
  else if b0 == 0xF0 then 0x90 ≤ b1 && b1 ≤ 0xBF
  else if b0 == 0xF4 then 0x80 ≤ b1 && b1 ≤ 0x8F
  else isContinuation b1

/-- 先頭のバイトが表す列の長さ（不正なら 0）。 -/
def sequenceLength (b0 : UInt8) : Nat :=
  if b0 < 0x80 then 1
  else if 0xC2 ≤ b0 && b0 ≤ 0xDF then 2
  else if 0xE0 ≤ b0 && b0 ≤ 0xEF then 3
  else if 0xF0 ≤ b0 && b0 ≤ 0xF4 then 4
  else 0

/-- 位置 `i` から始まる正しい列の長さ、または不正な部分の長さ（`Sum.inr`）。 -/
def scanSequence (b : ByteArray) (i : Nat) : Nat ⊕ Nat :=
  let at_ (k : Nat) : Option UInt8 := b[i + k]?
  match at_ 0 with
  | none => .inr 1
  | some b0 =>
    let n := sequenceLength b0
    if n == 1 then .inl 1
    else if n == 0 then .inr 1
    else
      match at_ 1 with
      | some b1 =>
        if !secondByteOk b0 b1 then .inr 1
        else if n == 2 then .inl 2
        else
          match at_ 2 with
          | some b2 =>
            if !isContinuation b2 then .inr 2
            else if n == 3 then .inl 3
            else
              match at_ 3 with
              | some b3 => if isContinuation b3 then .inl 4 else .inr 3
              | none => .inr 3
          | none => .inr 2
      | none => .inr 1

/-- 正しい列の文字。 -/
def decodeSequence (b : ByteArray) (i n : Nat) : Char :=
  let at_ (k : Nat) : Nat := ((b[i + k]?).getD 0).toNat
  match n with
  | 1 => Char.ofNat (at_ 0)
  | 2 => Char.ofNat ((at_ 0 % 32) * 64 + at_ 1 % 64)
  | 3 => Char.ofNat ((at_ 0 % 16) * 4096 + (at_ 1 % 64) * 64 + at_ 2 % 64)
  | _ => Char.ofNat ((at_ 0 % 8) * 262144 + (at_ 1 % 64) * 4096 + (at_ 2 % 64) * 64 + at_ 3 % 64)

/-- UTF-8 として読む。不正な部分はその最長の正しい接頭辺ごとに置換文字（U+FFFD）一つにする。 -/
def decodeLossy (b : ByteArray) : String :=
  let rec go (fuel i : Nat) (acc : List Char) : List Char :=
    match fuel with
    | 0 => acc.reverse
    | fuel + 1 =>
      if i < b.size then
        match scanSequence b i with
        | .inl n => go fuel (i + n) (decodeSequence b i n :: acc)
        | .inr n => go fuel (i + n) ('�' :: acc)
      else acc.reverse
  String.ofList (go b.size 0 [])

end DropletVision.Unicode
