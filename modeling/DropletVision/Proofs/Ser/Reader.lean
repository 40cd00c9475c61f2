import Mathlib.Tactic.Ring
import DropletVision.Ser.Reader
import DropletVision.Proofs.Ser.RoundTrip
import DropletVision.Proofs.Components.Connectivity

/-!
# SER の記録を開く条件と、一枚の読み方

どんなバイト列についても、`SerReader.ofBytes` が開くのはどんな列か、開いた記録から
`readFrame` が何を返すかを、列の位置で言う。

* `SerHeader.fields` — 見出しの欄を検査せずに読んだもの。`parse` は欄を検査し、通れば
  これを返す（`SerHeader.parse_eq_ok_iff`）。
* `SerReader.WellFormed` — 開ける列の条件：見出しの長さ、先頭の印、幅・高さ・深さ・枚数の範囲、
  一枚のバイト数と本体の終わりが 64 ビットに収まること、本体が列に収まること。
* `SerReader.ofBytes_eq_ok_iff` — 開けるのはちょうどこの条件を満たす列で、開いた記録は
  その列と、見出しの欄と、一枚のバイト数を持つ。
* `SerHeader.decodeSample` — 列の位置から読む一つの標本の 8 ビットの値。
* `SerReader.readFrame_sample` — 開いた記録の `i` 番目の画像の各標本は、列の
  `178 + i × 一枚のバイト数 + (画素の番号 × 面の数 + 面) × 標本のバイト数` から読んだもので、
  その標本のバイトはどれも列の中にある。
-/

namespace ByteArray

/-- バイト列の `!=` は値の違い。 -/
theorem bne_false_iff_eq {a b : ByteArray} : (a != b) = false ↔ a = b := by
  rw [bne, Bool.not_eq_false']
  show (a.data == b.data) = true ↔ a = b
  rw [beq_iff_eq]
  exact ⟨ByteArray.ext, fun h => h ▸ rfl⟩

end ByteArray

namespace DropletVision

open ByteArray

namespace SerHeader

/-- 見出しの欄を、検査せずに読んだもの。 -/
def fields (b : ByteArray) : SerHeader :=
  ⟨readI32LE b 18, readI32LE b 22 != 1, (readI32LE b 26).toNat, (readI32LE b 30).toNat,
    (readI32LE b 34).toNat, (readI32LE b 38).toNat, fixedString b 42 40, fixedString b 82 40,
    fixedString b 122 40, readLE b 162 8, readLE b 170 8⟩

/-- 一枚のバイト数：幅 × 高さ × 標本のバイト数 × 面の数（64 ビットに収まるかは見ない）。 -/
def frameBytes (h : SerHeader) : Nat :=
  h.width * h.height * (h.bytesPerPixelPlane * h.planesPerPixel)

/-- 見出し `h` の記録で、列 `b` の `off` バイト目から始まる一つの標本の 8 ビットの値。
1 バイトの標本はそのまま。2 バイトの標本は、見出しのバイト順の 16 ビット語を、画素の深さを
8〜16 に収めて 8 を引いたビット数だけ右にずらし、255 で止める。 -/
def decodeSample (h : SerHeader) (b : ByteArray) (off : Nat) : UInt8 :=
  let byte (j : Nat) : Nat := ((b[j]?).getD 0).toNat
  if h.pixelDepth ≤ 8 then (b[off]?).getD 0
  else
    let word := if h.littleEndian then byte off + 256 * byte (off + 1)
      else 256 * byte off + byte (off + 1)
    (min (word >>> (min (max h.pixelDepth 8) 16 - 8)) 255).toUInt8

theorem bytesPerPixelPlane_pos (h : SerHeader) : 0 < h.bytesPerPixelPlane := by
  unfold bytesPerPixelPlane
  split <;> decide

theorem planesPerPixel_pos (h : SerHeader) : 0 < h.planesPerPixel := by
  unfold planesPerPixel
  split <;> decide

/-- 画像の色の面 `ch` は、記録の画素の中のどれかの標本から読む（BGR では逆順）。 -/
theorem storedPlane_lt (h : SerHeader) {ch : Nat} (hch : ch < h.planesPerPixel) :
    (if h.color == .bgr then 2 - ch else ch) < h.planesPerPixel := by
  unfold planesPerPixel at *
  revert hch
  cases h.color
  case bgr => intro hch; show 2 - ch < 3; omega
  all_goals exact id

/-- 桁あふれの検査は、一枚のバイト数が `2^64` より小さいかだけ（幅 × 高さはそれ以下なので）。 -/
theorem frameByteSize_eq (h : SerHeader) :
    h.frameByteSize = if h.frameBytes < 2 ^ 64 then some h.frameBytes else none := by
  have hk : 1 ≤ h.bytesPerPixelPlane * h.planesPerPixel :=
    Nat.mul_pos h.bytesPerPixelPlane_pos h.planesPerPixel_pos
  have hwh : h.width * h.height ≤ h.frameBytes := Nat.le_mul_of_pos_right _ hk
  show (if (decide (h.width * h.height < Nat.pow 2 64) && decide (h.frameBytes < Nat.pow 2 64)) = true
    then some h.frameBytes else none) = _
  simp only [Bool.and_eq_true, decide_eq_true_eq, Nat.pow_eq]
  by_cases hf : h.frameBytes < 2 ^ 64
  · rw [if_pos ⟨by omega, hf⟩, if_pos hf]
  · rw [if_neg (fun hc => hf hc.2), if_neg hf]

/-- 見出しを読めるのは、幅と高さが正、深さが 1〜16、枚数が負でないときで、読んだ見出しは
検査せずに読んだ欄そのもの。 -/
theorem parse_eq_ok_iff {b : ByteArray} {h : SerHeader} :
    parse b = .ok h ↔
      (0 < readI32LE b 26 ∧ 0 < readI32LE b 30 ∧ 1 ≤ readI32LE b 34 ∧ readI32LE b 34 ≤ 16 ∧
        0 ≤ readI32LE b 38) ∧ h = fields b := by
  unfold parse
  simp only [bind, Except.bind, throw, throwThe, MonadExceptOf.throw, pure, Except.pure]
  split_ifs with c1 c2 c3
  · -- 幅か高さが正でない
    refine ⟨False.elim, fun ⟨⟨hw, hh, _⟩, _⟩ => ?_⟩
    simp only [Bool.or_eq_true, decide_eq_true_eq] at c1
    omega
  · -- 深さが 1〜16 にない
    refine ⟨False.elim, fun ⟨⟨_, _, hd1, hd16, _⟩, _⟩ => ?_⟩
    simp only [Bool.not_eq_true', Bool.and_eq_false_iff, decide_eq_false_iff_not] at c2
    omega
  · -- 枚数が負
    exact ⟨False.elim, fun ⟨⟨_, _, _, _, hn⟩, _⟩ => absurd hn (by omega)⟩
  · simp only [Bool.or_eq_true, decide_eq_true_eq, Bool.not_eq_true', Bool.and_eq_false_iff,
      decide_eq_false_iff_not, not_or, not_le, not_lt] at c1 c2 c3
    simp only [Except.ok.injEq]
    exact ⟨fun e => ⟨⟨c1.1, c1.2, c2.1, c2.2, c3⟩, e.symm⟩, fun ⟨_, e⟩ => e.symm⟩

end SerHeader

namespace SerReader

/-- 開ける SER の列の条件。 -/
structure WellFormed (b : ByteArray) : Prop where
  header_le : serHeaderSize ≤ b.size
  magic : b.extract 0 14 = serMagic
  width_pos : 0 < readI32LE b 26
  height_pos : 0 < readI32LE b 30
  depth_pos : 1 ≤ readI32LE b 34
  depth_le : readI32LE b 34 ≤ 16
  count_nonneg : 0 ≤ readI32LE b 38
  /-- 一枚のバイト数が 64 ビットに収まる。 -/
  frame_lt : (SerHeader.fields b).frameBytes < 2 ^ 64
  /-- 本体の終わりの位置が 64 ビットに収まる。 -/
  end_lt : serHeaderSize + (SerHeader.fields b).frameCount * (SerHeader.fields b).frameBytes < 2 ^ 64
  /-- 枚数分の本体が列に収まる。 -/
  end_le : serHeaderSize + (SerHeader.fields b).frameCount * (SerHeader.fields b).frameBytes ≤ b.size

variable {b : ByteArray} {r : SerReader}

/-- 開けた列は条件を満たし、開いた記録はその列と見出しの欄と一枚のバイト数を持つ。 -/
theorem wellFormed_of_ofBytes (h : ofBytes b = .ok r) :
    WellFormed b ∧ r = ⟨b, (SerHeader.fields b).frameBytes, SerHeader.fields b⟩ := by
  unfold ofBytes at h
  simp only [bind, Except.bind, throw, throwThe, MonadExceptOf.throw, pure, Except.pure] at h
  -- 検査を一つずつ外す。断る枝では誤りが返るので `h` と食い違う
  split at h
  · cases h
  next hs =>
  split at h
  · cases h
  next hm =>
  split at h
  · cases h
  next hd hp =>
  obtain ⟨⟨hw, hh, hd1, hd16, hn⟩, rfl⟩ := SerHeader.parse_eq_ok_iff.1 hp
  by_cases hf : (SerHeader.fields b).frameBytes < 2 ^ 64
  swap
  · rw [SerHeader.frameByteSize_eq, if_neg hf] at h
    cases h
  rw [SerHeader.frameByteSize_eq, if_pos hf] at h
  dsimp only at h
  split at h
  · cases h
  next hover =>
  split at h
  · cases h
  next hend =>
  cases h
  rw [dataOverflows_iff] at hover
  have hcomm := Nat.mul_comm (SerHeader.fields b).frameBytes (SerHeader.fields b).frameCount
  exact ⟨⟨by omega, bne_false_iff_eq.1 (by simpa using hm), hw, hh, hd1, hd16, hn, hf, by omega,
    by omega⟩, rfl⟩

/-- 条件を満たす列は開ける。 -/
theorem ofBytes_of_wellFormed (hw : WellFormed b) :
    ofBytes b = .ok ⟨b, (SerHeader.fields b).frameBytes, SerHeader.fields b⟩ := by
  have hp : SerHeader.parse b = .ok (SerHeader.fields b) := SerHeader.parse_eq_ok_iff.2
    ⟨⟨hw.width_pos, hw.height_pos, hw.depth_pos, hw.depth_le, hw.count_nonneg⟩, rfl⟩
  have hcomm := Nat.mul_comm (SerHeader.fields b).frameBytes (SerHeader.fields b).frameCount
  have hend := hw.end_le
  simp only [ofBytes, hp, SerHeader.frameByteSize_eq, if_pos hw.frame_lt, bind, Except.bind, pure,
    Except.pure]
  rw [if_neg (by have := hw.header_le; omega), if_neg (by rw [bne_false_iff_eq.2 hw.magic]; decide),
    if_neg (mt (dataOverflows_iff _ _).1 (by have := hw.end_lt; omega)), if_neg (by omega)]

/-- **開ける列。** 開けるのはちょうど条件を満たす列で、開いた記録はその列と見出しの欄と
一枚のバイト数を持つ。 -/
theorem ofBytes_eq_ok_iff :
    ofBytes b = .ok r ↔ WellFormed b ∧ r = ⟨b, (SerHeader.fields b).frameBytes, SerHeader.fields b⟩ :=
  ⟨wellFormed_of_ofBytes, fun ⟨hw, hr⟩ => hr ▸ ofBytes_of_wellFormed hw⟩

/-! ## 一枚を読む -/

theorem readFrame_of_ge {i : Nat} (hi : r.frameCount ≤ i) :
    r.readFrame i = .error (.frameIndexOutOfRange i r.frameCount) := by
  simp [readFrame, frameRaw, hi, bind, Except.bind]

/-- 切り出した一枚の `k` 番目の標本は、もとの列の `s + k × 標本のバイト数` から読んだ標本。
標本のバイトが切り出しの中にあることだけが要る。 -/
theorem sample_extract (h : SerHeader) (b : ByteArray) {s e k : Nat}
    (hk : s + (k + 1) * h.bytesPerPixelPlane ≤ e) :
    sample h (b.extract s e) k = h.decodeSample b (s + k * h.bytesPerPixelPlane) := by
  by_cases hd : h.pixelDepth ≤ 8
  · have hb : h.bytesPerPixelPlane = 1 := if_pos hd
    rw [hb] at hk
    simp only [sample, SerHeader.decodeSample, hb, if_pos hd, beq_self_eq_true, if_true,
      Nat.mul_one, getElem?_extract (show s + k < e by omega)]
  · have hb : h.bytesPerPixelPlane = 2 := if_neg hd
    rw [hb] at hk
    have h21 : ((2 : Nat) == 1) = false := rfl
    simp only [sample, SerHeader.decodeSample, hb, if_neg hd, h21, Bool.false_eq_true,
      if_false, getElem?_extract (show s + k * 2 < e by omega),
      getElem?_extract (show s + (k * 2 + 1) < e by omega), Nat.add_assoc]

/-- 番号が枚数より小さい画像は読め、形は見出しの形、画素 `k` の面 `ch` は、切り出した一枚の
`k × 面の数 + 面` 番目の標本（BGR では面の順を逆にする）。 -/
theorem readFrame_of_lt {i : Nat} (hi : i < r.frameCount) :
    ∃ f, r.readFrame i = .ok f ∧ f.shape = r.header.frameShape ∧ f.index = i ∧
      f.timestampUs = r.timestamp i ∧
      f.data.size = r.height * r.width * r.header.planesPerPixel ∧
      ∀ k < r.height * r.width, ∀ ch < r.header.planesPerPixel,
        f.data[k * r.header.planesPerPixel + ch]? =
          some (sample r.header (r.bytes.extract (serHeaderSize + i * r.frameSize)
            (serHeaderSize + i * r.frameSize + r.frameSize))
            (k * r.header.planesPerPixel + if r.header.color == .bgr then 2 - ch else ch)) := by
  simp only [readFrame, frameRaw_of_lt hi, bind, Except.bind]
  cases hc : r.header.color
  case rgb | bgr =>
    -- 色の画像は一つの画素が三つの標本
    have hp : r.header.planesPerPixel = 3 := by simp [SerHeader.planesPerPixel, hc]
    refine ⟨_, rfl, by simp [SerHeader.frameShape, hp, height, width], rfl, rfl, by simp [hp], ?_⟩
    intro k hk ch hch
    rw [hp] at hch ⊢
    have hj : k * 3 + ch < r.height * r.width * 3 := by omega
    have hmod : (k * 3 + ch) % 3 = ch := by omega
    simp only [getElem?_mk, Array.getElem?_map, Array.getElem?_range, if_pos hj, Option.map_some,
      hmod, Nat.add_sub_cancel]
  all_goals
    -- 白黒とベイヤーは一つの画素が一つの標本
    have hp : r.header.planesPerPixel = 1 := by simp [SerHeader.planesPerPixel, hc]
    refine ⟨_, rfl, by simp [SerHeader.frameShape, hp, height, width], rfl, rfl, by simp [hp], ?_⟩
    intro k hk ch hch
    rw [hp] at hch ⊢
    obtain rfl : ch = 0 := by omega
    simp only [getElem?_mk, Array.getElem?_map, Array.getElem?_range, Nat.mul_one, Nat.add_zero,
      if_pos hk, Option.map_some]
    rfl

/-- **一枚の標本の位置。** 一枚のバイト数が見出しのとおりで、枚数分の本体が列に収まる記録では、
番号が枚数より小さい画像の画素 `(row, col)` の面 `ch` は、列の
`178 + i × 一枚 + ((row × 幅 + col) × 面の数 + 面) × 標本のバイト数` から読んだ標本で、
その標本のバイトは列の中にある。 -/
theorem readFrame_sample {i : Nat} (hfs : r.frameSize = r.header.frameBytes)
    (hend : serHeaderSize + r.frameCount * r.frameSize ≤ r.bytes.size) (hi : i < r.frameCount) :
    ∃ f, r.readFrame i = .ok f ∧ f.shape = r.header.frameShape ∧ f.index = i ∧
      f.timestampUs = r.timestamp i ∧
      f.data.size = r.height * r.width * r.header.planesPerPixel ∧
      ∀ row < r.height, ∀ col < r.width, ∀ ch < r.header.planesPerPixel,
        serHeaderSize + i * r.frameSize + ((row * r.width + col) * r.header.planesPerPixel +
            (if r.header.color == .bgr then 2 - ch else ch) + 1) * r.header.bytesPerPixelPlane ≤
          r.bytes.size ∧
        f.data[(row * r.width + col) * r.header.planesPerPixel + ch]? =
          some (r.header.decodeSample r.bytes (serHeaderSize + i * r.frameSize +
            ((row * r.width + col) * r.header.planesPerPixel +
              (if r.header.color == .bgr then 2 - ch else ch)) * r.header.bytesPerPixelPlane)) := by
  obtain ⟨f, hf, hshape, hidx, hts, hsize, hdata⟩ := readFrame_of_lt hi
  refine ⟨f, hf, hshape, hidx, hts, hsize, fun row hrow col hcol ch hch => ?_⟩
  have hk : row * r.width + col < r.height * r.width := raster_lt_mul hrow hcol
  have hj := raster_lt_mul hk (r.header.storedPlane_lt hch)
  -- 標本のバイトは一枚の中にあり、番号が枚数より小さい一枚は本体の中にある
  have hin : ((row * r.width + col) * r.header.planesPerPixel +
      (if r.header.color == .bgr then 2 - ch else ch) + 1) * r.header.bytesPerPixelPlane ≤
        r.frameSize := by
    calc _ ≤ r.height * r.width * r.header.planesPerPixel * r.header.bytesPerPixelPlane :=
          Nat.mul_le_mul_right _ hj
      _ = r.frameSize := by rw [hfs, SerHeader.frameBytes, height, width]; ring
  have hframe : serHeaderSize + i * r.frameSize + r.frameSize ≤ r.bytes.size :=
    calc _ = serHeaderSize + (i + 1) * r.frameSize := by rw [Nat.succ_mul, Nat.add_assoc]
      _ ≤ serHeaderSize + r.frameCount * r.frameSize :=
          Nat.add_le_add_left (Nat.mul_le_mul_right _ hi) _
      _ ≤ r.bytes.size := hend
  refine ⟨by rw [Nat.add_mul, Nat.one_mul] at hin ⊢; omega, ?_⟩
  rw [hdata _ hk _ hch, sample_extract _ _ (by omega)]

/-- **SER の読み取り。** 列 `B` を開けるのは、`B` が開ける列の条件を満たすときに限る。開いた記録は
`B` と、見出しの欄と、一枚のバイト数 `幅 × 高さ × 標本のバイト数 × 面の数` を持つ。
枚数以上の番号の画像は範囲外の誤りで、枚数より小さい番号 `i` の画像は見出しの形を持ち、
画素 `(row, col)` の面 `ch` は `B` の `178 + i × 一枚 + ((row × 幅 + col) × 面の数 + 面) ×
標本のバイト数` から読んだ標本（面は BGR なら `2 - ch`、他は `ch`）で、その標本のバイトは `B` の
中にある。時刻は、本体の後の `i` 番目の 8 バイトが `B` にあればそのリトルエンディアンの値、
無ければ無し。 -/
theorem accepts_iff_wellFormed_and_reads_in_bounds (B : ByteArray) :
    ((∃ r, ofBytes B = .ok r) ↔ WellFormed B) ∧
      ∀ r, ofBytes B = .ok r →
        r.bytes = B ∧ r.header = SerHeader.fields B ∧
          r.frameSize = (SerHeader.fields B).frameBytes ∧
          (∀ i, r.frameCount ≤ i → r.readFrame i = .error (.frameIndexOutOfRange i r.frameCount)) ∧
          ∀ i < r.frameCount, ∃ f, r.readFrame i = .ok f ∧ f.shape = r.header.frameShape ∧
            f.index = i ∧ f.data.size = r.height * r.width * r.header.planesPerPixel ∧
            (∀ row < r.height, ∀ col < r.width, ∀ ch < r.header.planesPerPixel,
              serHeaderSize + i * r.frameSize + ((row * r.width + col) * r.header.planesPerPixel +
                  (if r.header.color == .bgr then 2 - ch else ch) + 1) *
                    r.header.bytesPerPixelPlane ≤ B.size ∧
              f.data[(row * r.width + col) * r.header.planesPerPixel + ch]? =
                some (r.header.decodeSample B (serHeaderSize + i * r.frameSize +
                  ((row * r.width + col) * r.header.planesPerPixel +
                    (if r.header.color == .bgr then 2 - ch else ch)) *
                      r.header.bytesPerPixelPlane))) ∧
            f.timestampUs =
              if serHeaderSize + r.frameSize * r.frameCount + i * 8 + 8 ≤ B.size then
                some (readLE B (serHeaderSize + r.frameSize * r.frameCount + i * 8) 8)
              else none := by
  refine ⟨⟨fun ⟨r, h⟩ => (wellFormed_of_ofBytes h).1, fun hw => ⟨_, ofBytes_of_wellFormed hw⟩⟩,
    fun r h => ?_⟩
  obtain ⟨hw, rfl⟩ := wellFormed_of_ofBytes h
  refine ⟨rfl, rfl, rfl, fun i hi => readFrame_of_ge hi, fun i hi => ?_⟩
  obtain ⟨f, hf, hshape, hidx, hts, hsize, hdata⟩ := readFrame_sample
    (r := ⟨B, (SerHeader.fields B).frameBytes, SerHeader.fields B⟩) rfl hw.end_le hi
  exact ⟨f, hf, hshape, hidx, hsize, hdata, hts⟩

/-- 1 × 1 の BGR の画像一枚の後に時刻 42 を置いた記録での
`accepts_iff_wellFormed_and_reads_in_bounds`。 -/
theorem accepts_iff_wellFormed_and_reads_in_bounds_bgr_pixel :
    let B := (SerHeader.new8bit 1 1 .bgr 1).toBytes ++ ⟨#[1, 2, 3]⟩ ++ leBytes 42 8
    WellFormed B ∧ ((∃ r, ofBytes B = .ok r) ↔ WellFormed B) ∧
      ∀ r, ofBytes B = .ok r →
        r.bytes = B ∧ r.header = SerHeader.fields B ∧
          r.frameSize = (SerHeader.fields B).frameBytes ∧
          (∀ i, r.frameCount ≤ i → r.readFrame i = .error (.frameIndexOutOfRange i r.frameCount)) ∧
          ∀ i < r.frameCount, ∃ f, r.readFrame i = .ok f ∧ f.shape = r.header.frameShape ∧
            f.index = i ∧ f.data.size = r.height * r.width * r.header.planesPerPixel ∧
            (∀ row < r.height, ∀ col < r.width, ∀ ch < r.header.planesPerPixel,
              serHeaderSize + i * r.frameSize + ((row * r.width + col) * r.header.planesPerPixel +
                  (if r.header.color == .bgr then 2 - ch else ch) + 1) *
                    r.header.bytesPerPixelPlane ≤ B.size ∧
              f.data[(row * r.width + col) * r.header.planesPerPixel + ch]? =
                some (r.header.decodeSample B (serHeaderSize + i * r.frameSize +
                  ((row * r.width + col) * r.header.planesPerPixel +
                    (if r.header.color == .bgr then 2 - ch else ch)) *
                      r.header.bytesPerPixelPlane))) ∧
            f.timestampUs =
              if serHeaderSize + r.frameSize * r.frameCount + i * 8 + 8 ≤ B.size then
                some (readLE B (serHeaderSize + r.frameSize * r.frameCount + i * 8) 8)
              else none := by
  intro B
  have hs := SerHeader.storable_new8bit (show 0 < 1 ∧ 1 < 2 ^ 31 by decide)
    (show 0 < 1 ∧ 1 < 2 ^ 31 by decide) .bgr 1
  have hbody : (⟨#[1, 2, 3]⟩ : ByteArray).size =
      (SerHeader.new8bit 1 1 .bgr 1).frameCount * (SerHeader.new8bit 1 1 .bgr 1).frameShape.prod := by
    decide
  have ho : ofBytes B = .ok _ := ofBytes_toBytes_append hs (by decide) (by decide) hbody (by decide)
  exact ⟨(wellFormed_of_ofBytes ho).1, accepts_iff_wellFormed_and_reads_in_bounds B⟩

end SerReader

end DropletVision
