import Mathlib.Tactic.NormNum
import Mathlib.Tactic.Positivity
import DropletVision.Ser.Header

/-!
# SER の見出しの往復

書いた 178 バイトの見出しを読むと、書いた欄がそのまま戻る。

## 三段に分かれる

* **バイト列の添字**。連結と切り出しの上で `b[i]?` がどちらの側を見るか。
* **リトルエンディアンの整数**。`readLE` は `b[i]?` にしか依らないので、連結の片側だけを
  読む（`readLE_append_left`, `readLE_append_right`）。`leBytes v n` を読むと
  `v` を `2^(8n)` で割った余りになる（`readLE_leBytes`）。
* **見出しの配置**。`toBytes` の各欄の位置と長さから、`parse` が書いた値を読み戻す。
  幅と高さと枚数は 32 ビット符号つきで書くので、`2^31` 以上の値は負の数として読まれる
  （`parse_toBytes_of_negative_count`）。
-/

namespace ByteArray

@[simp] theorem size_mk (a : Array UInt8) : (ByteArray.mk a).size = a.size := rfl

@[simp] theorem getElem?_mk (a : Array UInt8) (k : Nat) : (ByteArray.mk a)[k]? = a[k]? := by
  by_cases hk : k < a.size
  · rw [getElem?_pos (ByteArray.mk a) k hk, getElem?_pos a k hk]; rfl
  · rw [getElem?_neg (ByteArray.mk a) k hk, getElem?_neg a k hk]

theorem getElem?_append_left {a b : ByteArray} {i : Nat} (h : i < a.size) :
    (a ++ b)[i]? = a[i]? := by
  rw [getElem?_pos (a ++ b) i (by rw [size_append]; omega), getElem?_pos a i h,
    getElem_append_left h]

theorem getElem?_append_right {a b : ByteArray} {i : Nat} (h : a.size ≤ i) :
    (a ++ b)[i]? = b[i - a.size]? := by
  by_cases hi : i - a.size < b.size
  · rw [getElem?_pos (a ++ b) i (by rw [size_append]; omega), getElem?_pos b _ hi,
      getElem_append_right h]
  · rw [getElem?_neg (a ++ b) i (by rw [size_append]; omega), getElem?_neg b _ hi]

theorem getElem?_extract {a : ByteArray} {start stop i : Nat} (h : start + i < stop) :
    (a.extract start stop)[i]? = a[start + i]? := by
  by_cases hi : start + i < a.size
  · rw [getElem?_pos (a.extract start stop) i (by rw [size_extract]; omega), getElem?_pos a _ hi,
      getElem_extract]
  · rw [getElem?_neg (a.extract start stop) i (by rw [size_extract]; omega), getElem?_neg a _ hi]

/-- 左側に収まる範囲の切り出しは、右側を見ない。 -/
theorem extract_append_of_le {a b : ByteArray} {i j : Nat} (h : j ≤ a.size) :
    (a ++ b).extract i j = a.extract i j := by
  apply ext_getElem
  · simp only [size_extract, size_append]; omega
  · intro k h1 h2
    rw [getElem_extract, getElem_extract,
      getElem_append_left (by simp only [size_extract] at h1; omega)]

end ByteArray

namespace DropletVision

open ByteArray

/-! ## リトルエンディアンの整数 -/

/-- 最下位のバイトを外すと、残りは一つ先から読んだ値になる。 -/
theorem readLE_succ (b : ByteArray) (i n : Nat) :
    readLE b i (n + 1) = ((b[i]?).getD 0).toNat + 256 * readLE b (i + 1) n := by
  simp only [readLE, List.range_succ_eq_map, List.foldr_cons, List.foldr_map, Nat.add_zero,
    Nat.succ_eq_add_one, ← Nat.add_assoc, Nat.add_right_comm i _ 1]
  omega

/-- `readLE` は読む `n` バイトにしか依らない。 -/
theorem readLE_congr {a b : ByteArray} {i j n : Nat} (h : ∀ k < n, a[i + k]? = b[j + k]?) :
    readLE a i n = readLE b j n := by
  induction n generalizing i j with
  | zero => rfl
  | succ n ih =>
    have h0 : a[i]? = b[j]? := by simpa using h 0 (by omega)
    have hrest : readLE a (i + 1) n = readLE b (j + 1) n :=
      ih fun k hk => by simpa [Nat.add_assoc, Nat.add_comm 1 k] using h (k + 1) (by omega)
    rw [readLE_succ, readLE_succ, h0, hrest]

theorem readLE_append_left {a b : ByteArray} {i n : Nat} (h : i + n ≤ a.size) :
    readLE (a ++ b) i n = readLE a i n :=
  readLE_congr fun _ _ => getElem?_append_left (by omega)

theorem readLE_append_right {a b : ByteArray} {i n : Nat} (h : a.size ≤ i) :
    readLE (a ++ b) i n = readLE b (i - a.size) n :=
  readLE_congr fun k _ => by rw [getElem?_append_right (by omega), Nat.sub_add_comm h]

/-- 各バイトが `u` の 256 進の桁なら、読んだ値は `u` の下 `n` 桁。 -/
theorem readLE_of_digits {b : ByteArray} {i u n : Nat}
    (h : ∀ k < n, b[i + k]? = some ((u / 256 ^ k % 256).toUInt8)) :
    readLE b i n = u % 256 ^ n := by
  induction n generalizing i u with
  | zero => rw [Nat.pow_zero, Nat.mod_one]; rfl
  | succ n ih =>
    have h0 : b[i]? = some ((u % 256).toUInt8) := by simpa using h 0 (by omega)
    -- 一つ先からの桁は `u / 256` の桁
    have hrest : ∀ k < n, b[i + 1 + k]? = some ((u / 256 / 256 ^ k % 256).toUInt8) := by
      intro k hk
      rw [Nat.div_div_eq_div_mul, ← Nat.pow_succ', Nat.add_assoc, Nat.add_comm 1 k]
      exact h (k + 1) (by omega)
    rw [readLE_succ, ih hrest, h0, Nat.pow_succ', Nat.mod_mul]
    simp

@[simp] theorem size_leBytes (v : Int) (n : Nat) : (leBytes v n).size = n := by
  simp [leBytes]

theorem leBytes_getElem? (v : Int) {n k : Nat} (hk : k < n) :
    (leBytes v n)[k]? = some (((v % 2 ^ (8 * n)).toNat / 256 ^ k % 256).toUInt8) := by
  rw [leBytes, getElem?_mk]
  simp [hk]

/-- `n` バイトに書いた整数を読むと、`2^(8n)` で割った余りが戻る。 -/
theorem readLE_leBytes (v : Int) (n : Nat) :
    readLE (leBytes v n) 0 n = (v % 2 ^ (8 * n)).toNat := by
  rw [readLE_of_digits (u := (v % 2 ^ (8 * n)).toNat)
    (fun k hk => by rw [Nat.zero_add, leBytes_getElem? v hk])]
  have hpos : (0 : Int) < 2 ^ (8 * n) := by positivity
  have hlt := Int.emod_lt_of_pos v hpos
  have hnn := Int.emod_nonneg v hpos.ne'
  have hpow : ((256 ^ n : Nat) : Int) = 2 ^ (8 * n) := by push_cast; rw [pow_mul]; norm_num
  apply Nat.mod_eq_of_lt
  omega

/-- 32 ビット符号つきの読み取りは、`2^31` 以上を負の数に折り返す。 -/
theorem readI32LE_of_readLE {b : ByteArray} {i u : Nat} (h : readLE b i 4 = u) :
    readI32LE b i = if 2 ^ 31 ≤ u then (u : Int) - 2 ^ 32 else (u : Int) := by
  simp [readI32LE, h]

/-- `-2^31` 以上 `2^31` 未満の整数は、4 バイトに書いて符号つきで読むとそのまま戻る。 -/
theorem readI32LE_of_readLE_eq {b : ByteArray} {i : Nat} {v : Int}
    (h : readLE b i 4 = (v % 2 ^ 32).toNat) (hlo : -2 ^ 31 ≤ v) (hhi : v < 2 ^ 31) :
    readI32LE b i = v := by
  rw [readI32LE_of_readLE h]
  split <;> omega

/-! ## 見出しの配置 -/

namespace SerHeader

theorem size_fixedBytes (s : String) (n : Nat) : (fixedBytes s n).size = n := by
  simp only [fixedBytes, size_append, size_extract, size_mk, Array.size_replicate]
  omega

theorem size_serMagic : serMagic.size = 14 := by decide

theorem size_toBytes (h : SerHeader) : h.toBytes.size = serHeaderSize := by
  simp [toBytes, size_fixedBytes, size_serMagic, serHeaderSize]

/-- 書いた見出しは印で始まる。 -/
theorem extract_toBytes_magic (h : SerHeader) (rest : ByteArray) :
    (h.toBytes ++ rest).extract 0 14 = serMagic := by
  simp (disch := simp [size_fixedBytes, size_serMagic]) only [toBytes, extract_append_of_le]
  rw [← size_serMagic, extract_zero_size]

/-- 書いた見出しは印の検査を通る。 -/
theorem magic_toBytes (h : SerHeader) (rest : ByteArray) :
    ((h.toBytes ++ rest).extract 0 14 != serMagic) = false := by
  rw [extract_toBytes_magic]
  decide

/-- 見出しの各欄は、書いた位置から読める。 -/
theorem readLE_toBytes (h : SerHeader) (rest : ByteArray) :
    readLE (h.toBytes ++ rest) 18 4 = (h.colorId % 2 ^ 32).toNat ∧
    readLE (h.toBytes ++ rest) 22 4 = ((if h.littleEndian then 0 else 1 : Int) % 2 ^ 32).toNat ∧
    readLE (h.toBytes ++ rest) 26 4 = ((h.width : Int) % 2 ^ 32).toNat ∧
    readLE (h.toBytes ++ rest) 30 4 = ((h.height : Int) % 2 ^ 32).toNat ∧
    readLE (h.toBytes ++ rest) 34 4 = ((h.pixelDepth : Int) % 2 ^ 32).toNat ∧
    readLE (h.toBytes ++ rest) 38 4 = ((h.frameCount : Int) % 2 ^ 32).toNat ∧
    readLE (h.toBytes ++ rest) 162 8 = ((h.dateTime : Int) % 2 ^ 64).toNat ∧
    readLE (h.toBytes ++ rest) 170 8 = ((h.dateTimeUtc : Int) % 2 ^ 64).toNat := by
  refine ⟨?_, ?_, ?_, ?_, ?_, ?_, ?_, ?_⟩ <;>
  · simp (disch := simp [size_fixedBytes, size_serMagic]) only [toBytes, readLE_append_left,
      readLE_append_right]
    simp [size_serMagic, size_fixedBytes, readLE_leBytes]

/-- 名前の欄は見出しの中から読む。 -/
theorem fixedString_toBytes_append (h : SerHeader) (rest : ByteArray) {i : Nat}
    (hi : i + 40 ≤ serHeaderSize) :
    fixedString (h.toBytes ++ rest) i 40 = fixedString h.toBytes i 40 := by
  rw [fixedString, fixedString, extract_append_of_le (by rw [size_toBytes]; exact hi)]

/-- 枚数のほかの欄が、32 ビット符号つきで書けて読み取りの検査を通る範囲にあること。 -/
structure Storable (h : SerHeader) : Prop where
  colorId : -2 ^ 31 ≤ h.colorId ∧ h.colorId < 2 ^ 31
  width : 0 < h.width ∧ h.width < 2 ^ 31
  height : 0 < h.height ∧ h.height < 2 ^ 31
  pixelDepth : 1 ≤ h.pixelDepth ∧ h.pixelDepth ≤ 16
  dateTime : h.dateTime < 2 ^ 64
  dateTimeUtc : h.dateTimeUtc < 2 ^ 64

/-- 書いた見出しを読み戻したもの。名前の欄だけは、見出しのバイトから読み直した文字列になる。 -/
def readBack (h : SerHeader) : SerHeader :=
  { h with observer := fixedString h.toBytes 42 40, instrument := fixedString h.toBytes 82 40,
           telescope := fixedString h.toBytes 122 40 }

@[simp] theorem readBack_width (h : SerHeader) : h.readBack.width = h.width := by
  unfold readBack; rfl
@[simp] theorem readBack_height (h : SerHeader) : h.readBack.height = h.height := by
  unfold readBack; rfl
@[simp] theorem readBack_frameCount (h : SerHeader) : h.readBack.frameCount = h.frameCount := by
  unfold readBack; rfl
@[simp] theorem readBack_pixelDepth (h : SerHeader) : h.readBack.pixelDepth = h.pixelDepth := by
  unfold readBack; rfl
@[simp] theorem readBack_colorId (h : SerHeader) : h.readBack.colorId = h.colorId := by
  unfold readBack; rfl

@[simp] theorem readBack_color (h : SerHeader) : h.readBack.color = h.color := by
  simp only [color, readBack_colorId]

@[simp] theorem readBack_planesPerPixel (h : SerHeader) :
    h.readBack.planesPerPixel = h.planesPerPixel := by
  rw [planesPerPixel, planesPerPixel, readBack_color]

@[simp] theorem readBack_frameShape (h : SerHeader) : h.readBack.frameShape = h.frameShape := by
  rw [frameShape, frameShape, readBack_planesPerPixel, readBack_width, readBack_height]

@[simp] theorem readBack_bytesPerPixelPlane (h : SerHeader) :
    h.readBack.bytesPerPixelPlane = h.bytesPerPixelPlane := by
  rw [bytesPerPixelPlane, bytesPerPixelPlane, readBack_pixelDepth]

@[simp] theorem readBack_frameByteSize (h : SerHeader) :
    h.readBack.frameByteSize = h.frameByteSize := by
  rw [frameByteSize, frameByteSize, readBack_bytesPerPixelPlane, readBack_planesPerPixel,
    readBack_width, readBack_height]

/-- 幅と高さと画素の深さは、書いた値のまま読め、読み取りの検査を通る。 -/
theorem Storable.geometry {h : SerHeader} (hs : h.Storable) (rest : ByteArray) :
    readI32LE (h.toBytes ++ rest) 26 = h.width ∧ readI32LE (h.toBytes ++ rest) 30 = h.height ∧
      readI32LE (h.toBytes ++ rest) 34 = h.pixelDepth ∧
      h.width ≠ 0 ∧ h.height ≠ 0 ∧ h.pixelDepth ≠ 0 ∧ ¬16 < h.pixelDepth := by
  obtain ⟨-, -, rw, rh, rd, -, -, -⟩ := readLE_toBytes h rest
  have ⟨hw0, hw⟩ := hs.width
  have ⟨hh0, hh⟩ := hs.height
  have ⟨hd0, hd⟩ := hs.pixelDepth
  exact ⟨readI32LE_of_readLE_eq rw (by omega) (by omega),
    readI32LE_of_readLE_eq rh (by omega) (by omega),
    readI32LE_of_readLE_eq rd (by omega) (by omega), by omega, by omega, by omega, by omega⟩

/-- **書いた見出しを読むと、書いた欄が戻る。** -/
theorem parse_toBytes {h : SerHeader} (hs : h.Storable) (hc : h.frameCount < 2 ^ 31)
    (rest : ByteArray) : parse (h.toBytes ++ rest) = .ok h.readBack := by
  obtain ⟨rc, rl, -, -, -, rn, rt, ru⟩ := readLE_toBytes h rest
  obtain ⟨iw, ih, id, hw, hh, hd0, hd16⟩ := hs.geometry rest
  have ic := readI32LE_of_readLE_eq rc hs.colorId.1 hs.colorId.2
  have il := readI32LE_of_readLE_eq rl (by split <;> omega) (by split <;> omega)
  have i_n := readI32LE_of_readLE_eq rn (by omega) (by omega)
  have hn : ¬(h.frameCount : Int) < 0 := by omega
  have ht : readLE (h.toBytes ++ rest) 162 8 = h.dateTime := by
    have := hs.dateTime; rw [rt]; omega
  have hu : readLE (h.toBytes ++ rest) 170 8 = h.dateTimeUtc := by
    have := hs.dateTimeUtc; rw [ru]; omega
  have hle : ((if h.littleEndian = true then (0 : Int) else 1) != 1) = h.littleEndian := by
    cases h.littleEndian <;> rfl
  simp [parse, ic, il, iw, ih, id, i_n, ht, hu, hw, hh, hd0, hd16, hn, hle,
    fixedString_toBytes_append h rest (i := 42) (by decide),
    fixedString_toBytes_append h rest (i := 82) (by decide),
    fixedString_toBytes_append h rest (i := 122) (by decide)]
  rfl

/-- 枚数を 32 ビット符号つきで書くと負になるなら、読み取りはその負の値を挙げて断る。 -/
theorem parse_toBytes_of_count_wraps {h : SerHeader} (hs : h.Storable)
    (hc : 2 ^ 31 ≤ h.frameCount % 2 ^ 32) (rest : ByteArray) :
    parse (h.toBytes ++ rest) = .error (.invalidSer
      ("Negative frame count " ++ toString (((h.frameCount % 2 ^ 32 : Nat) : Int) - 2 ^ 32))) := by
  obtain ⟨-, -, -, -, -, rn, -, -⟩ := readLE_toBytes h rest
  obtain ⟨iw, ih, id, hw, hh, hd0, hd16⟩ := hs.geometry rest
  have i_n : readI32LE (h.toBytes ++ rest) 38 = ((h.frameCount % 2 ^ 32 : Nat) : Int) - 2 ^ 32 := by
    rw [readI32LE_of_readLE (u := h.frameCount % 2 ^ 32) (by rw [rn]; omega), if_pos hc]
  -- `simp` は `2 ^ 32` を数字に直すので、負になることもその形で渡す
  have hn : (h.frameCount : Int) % 4294967296 < 4294967296 := by omega
  simp [parse, iw, ih, id, i_n, hw, hh, hd0, hd16, hn]
  rfl

end SerHeader

end DropletVision
