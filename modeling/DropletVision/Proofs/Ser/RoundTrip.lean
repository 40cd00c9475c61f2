import DropletVision.Proofs.Ser.Header
import DropletVision.Ser.Writer
import DropletVision.Ser.Reader

/-!
# SER の記録の往復

8 ビットの記録に画像を書いて閉じ、そのバイト列を開いて読むと、書いた画像が戻る
（`read_back_written_frames`）。

## 三段に分かれる

* **書き出し**。記録の形の画像は必ず書け、本体は各画像のバイト列を順につないだものになる
  （`SerWriter.foldlM_writeFrame_create`）。形が違えば断る（`SerWriter.writeFrame_of_shape_ne`）。
* **開く**。書いた見出しで始まり本体の揃った列は開ける（`SerReader.ofBytes_toBytes_append`）。
  枚数は 32 ビット符号つき、本体の大きさは 64 ビットで数えるので、枚数が `2^31` に達するか
  本体が `2^64` バイトを超えると開けない（`written_recording_unreadable_past_limits`）。
* **読む**。本体の `i` 番目の塊は `i` 番目の画像のバイト列（`getElem?_toBytes_append_blocks`）。
  BGR は書くときと読むときに同じ画素の中で標本の順を二度逆にするので元に戻る
  （`SerReader.readFrame_of_frameBytes`）。時刻は全部か無しか（`SerReader.timestamp_finalize`）。
-/

namespace DropletVision

open ByteArray

/-! ## 同じ長さの塊の連結

本体も時刻の並びも、同じ長さのバイト列を左から足していった形をしている。 -/

section Blocks

variable {α : Type} (g : α → ByteArray) {s : Nat}

theorem size_foldl_append (xs : List α) (hg : ∀ x ∈ xs, (g x).size = s) (acc : ByteArray) :
    (xs.foldl (fun b x => b ++ g x) acc).size = acc.size + xs.length * s := by
  induction xs generalizing acc with
  | nil => simp
  | cons x xs ih =>
    rw [List.foldl_cons, ih (fun y hy => hg y (List.mem_cons_of_mem x hy)), size_append,
      hg x List.mem_cons_self, List.length_cons, Nat.succ_mul]
    omega

/-- 足していく前の部分は変わらない。 -/
theorem getElem?_foldl_append_of_lt (xs : List α) {acc : ByteArray} {j : Nat} (hj : j < acc.size) :
    (xs.foldl (fun b x => b ++ g x) acc)[j]? = acc[j]? := by
  induction xs generalizing acc with
  | nil => rfl
  | cons x xs ih =>
    rw [List.foldl_cons, ih (by rw [size_append]; omega), getElem?_append_left hj]

/-- `i` 番目の塊は `acc.size + i * s` から始まる。 -/
theorem getElem?_foldl_append (xs : List α) (hg : ∀ x ∈ xs, (g x).size = s) (acc : ByteArray)
    {i k : Nat} (hi : i < xs.length) (hk : k < s) :
    (xs.foldl (fun b x => b ++ g x) acc)[acc.size + i * s + k]? = (g xs[i])[k]? := by
  induction xs generalizing acc i with
  | nil => simp at hi
  | cons x xs ih =>
    have hx := hg x List.mem_cons_self
    rw [List.foldl_cons]
    cases i with
    | zero =>
      have hlt : acc.size + k < (acc ++ g x).size := by rw [size_append, hx]; omega
      rw [Nat.zero_mul, Nat.add_zero, getElem?_foldl_append_of_lt g xs hlt,
        getElem?_append_right (by omega), Nat.add_sub_cancel_left]
      rfl
    | succ i =>
      have hpos : acc.size + (i + 1) * s + k = (acc ++ g x).size + i * s + k := by
        rw [size_append, hx, Nat.succ_mul]; omega
      rw [hpos, ih (fun y hy => hg y (List.mem_cons_of_mem x hy)) (acc ++ g x)
        (by simpa using hi)]
      rfl

end Blocks

/-! ## 書き出し -/

namespace SerHeader

/-- 枚数を書き換えても、色の並びと画像の形は変わらない。 -/
@[simp] theorem color_withCount (h : SerHeader) (n : Nat) :
    ({ h with frameCount := n } : SerHeader).color = h.color := rfl

@[simp] theorem frameShape_withCount (h : SerHeader) (n : Nat) :
    ({ h with frameCount := n } : SerHeader).frameShape = h.frameShape := rfl

theorem color_new8bit {c : SerColor} (hc : c ≠ .bayer) (width height n : Nat) :
    (new8bit width height c n).color = c := by
  cases c <;> first | exact absurd rfl hc | rfl

/-- 白黒は `[高さ, 幅]`、RGB と BGR は `[高さ, 幅, 3]`。 -/
theorem frameShape_new8bit (c : SerColor) (width height n : Nat) :
    (new8bit width height c n).frameShape =
      match c with
      | .mono | .bayer => [height, width]
      | .rgb | .bgr => [height, width, 3] := by
  cases c <;> rfl

theorem storable_new8bit {width height : Nat} (hw : 0 < width ∧ width < 2 ^ 31)
    (hh : 0 < height ∧ height < 2 ^ 31) (c : SerColor) (n : Nat) :
    (new8bit width height c n).Storable where
  colorId := by cases c <;> simp [new8bit]
  width := hw
  height := hh
  pixelDepth := by simp [new8bit]
  dateTime := by simp [new8bit]
  dateTimeUtc := by simp [new8bit]

/-- 8 ビットで幅と高さが `2^31` 未満なら、一枚のバイト数は画像の形の積。 -/
theorem frameByteSize_eq_prod {h : SerHeader} (hw : h.width < 2 ^ 31) (hh : h.height < 2 ^ 31)
    (hd : h.pixelDepth ≤ 8) : h.frameByteSize = some h.frameShape.prod := by
  have hwh : h.width * h.height < 2 ^ 31 * 2 ^ 31 := Nat.mul_lt_mul'' hw hh
  have hp : h.planesPerPixel = 1 ∨ h.planesPerPixel = 3 := by
    unfold planesPerPixel; split <;> simp
  have hprod2 : [h.height, h.width].prod = h.width * h.height := by
    simp [Nat.mul_comm]
  have hprod3 : [h.height, h.width, 3].prod = h.width * h.height * 3 := by
    simp only [List.prod_cons, List.prod_nil, Nat.mul_one]
    rw [← Nat.mul_assoc, Nat.mul_comm h.height]
  simp only [frameByteSize, frameShape, bytesPerPixelPlane, if_pos hd, Nat.one_mul]
  rcases hp with hp | hp
  · rw [hp, if_pos (show (1 == 1) = true from rfl), hprod2, Nat.mul_one,
      if_pos (by simp only [Nat.pow_eq, Bool.and_eq_true, decide_eq_true_eq]; omega)]
  · rw [hp, if_neg (show ¬(3 == 1) = true from by decide), hprod3,
      if_pos (by simp only [Nat.pow_eq, Bool.and_eq_true, decide_eq_true_eq]; omega)]

end SerHeader

namespace SerWriter

theorem size_frameBytes (c : SerColor) (f : Frame) : (frameBytes c f).size = f.data.size := by
  unfold frameBytes
  split <;> simp

theorem frameBytes_of_ne_bgr {c : SerColor} (hc : c ≠ .bgr) (f : Frame) :
    frameBytes c f = f.data := by
  cases c <;> first | exact absurd rfl hc | rfl

/-- BGR の `j` バイト目は、同じ画素の標本を逆の順に取ったもの。 -/
theorem frameBytes_bgr_getElem? (f : Frame) {j : Nat} (hj : j < f.data.size) :
    (frameBytes .bgr f)[j]? = some (f.byte (j - j % 3 + (2 - j % 3))) := by
  have hbgr : (SerColor.bgr == SerColor.bgr) = true := rfl
  rw [frameBytes, if_pos hbgr, getElem?_mk]
  simp [hj]

/-- BGR で書いたバイト列を同じ画素の中で逆の順に読むと、元の画素に戻る。 -/
theorem frameBytes_bgr_swap (f : Frame) {k : Nat} (h3 : f.data.size % 3 = 0)
    (hk : k < f.data.size) :
    ((frameBytes .bgr f)[k - k % 3 + (2 - k % 3)]?).getD 0 = (f.data[k]?).getD 0 := by
  have hj : k - k % 3 + (2 - k % 3) < f.data.size := by omega
  have hback : k - k % 3 + (2 - k % 3) - (k - k % 3 + (2 - k % 3)) % 3 +
      (2 - (k - k % 3 + (2 - k % 3)) % 3) = k := by omega
  rw [frameBytes_bgr_getElem? f hj, hback]
  simp [Frame.byte, hk]

/-- 記録の形の画像を一枚書く。 -/
theorem writeFrame_of_shape {w : SerWriter} {f : Frame} (hf : f.shape = w.header.frameShape) :
    w.writeFrame f = .ok
      { header := { w.header with frameCount := w.header.frameCount + 1 },
        body := w.body ++ frameBytes w.header.color f,
        timestamps := match f.timestampUs with
          | some ts => w.timestamps.push ts
          | none => w.timestamps } := by
  simp [writeFrame, hf]
  rfl

/-- 形の違う画像は、期待した形と渡された形を挙げて断る。 -/
theorem writeFrame_of_shape_ne {w : SerWriter} {f : Frame} (hf : f.shape ≠ w.header.frameShape) :
    w.writeFrame f = .error (.invalidFrame (shapeMismatch w.header.frameShape f.shape)) := by
  simp [writeFrame, hf]
  rfl

/-- 記録の形の画像を順に書くと、どれも通り、枚数と本体と時刻がその分だけ伸びる。 -/
theorem foldlM_writeFrame {frames : List Frame} {w : SerWriter}
    (hf : ∀ f ∈ frames, f.shape = w.header.frameShape) :
    ∃ w', frames.foldlM writeFrame w = .ok w' ∧
      w'.header = { w.header with frameCount := w.header.frameCount + frames.length } ∧
      w'.body = frames.foldl (fun b f => b ++ frameBytes w.header.color f) w.body ∧
      w'.timestamps.toList = w.timestamps.toList ++ frames.filterMap (·.timestampUs) := by
  induction frames generalizing w with
  | nil => exact ⟨w, rfl, rfl, rfl, by simp⟩
  | cons f rest ih =>
    obtain ⟨w', hrun, hheader, hbody, hts⟩ :=
      ih (w := { header := { w.header with frameCount := w.header.frameCount + 1 },
                 body := w.body ++ frameBytes w.header.color f,
                 timestamps := match f.timestampUs with
                   | some ts => w.timestamps.push ts
                   | none => w.timestamps })
        (fun g hg => hf g (List.mem_cons_of_mem f hg))
    refine ⟨w', ?_, ?_, ?_, ?_⟩
    · rw [List.foldlM_cons, writeFrame_of_shape (hf f List.mem_cons_self)]
      exact hrun
    · rw [hheader, List.length_cons, Nat.add_assoc, Nat.add_comm 1]
    · rw [hbody, List.foldl_cons]
      rfl
    · rw [hts]
      cases ht : f.timestampUs <;> simp [ht]

/-- 作ったばかりの記録に記録の形の画像を順に書くと、見出しは書いた枚数を持ち、本体は各画像の
バイト列を順につないだもの、時刻は時刻のある画像の時刻を順に並べたものになる。 -/
theorem foldlM_writeFrame_create (width height : Nat) (color : SerColor) {frames : List Frame}
    (hf : ∀ f ∈ frames, f.shape = (SerHeader.new8bit width height color 0).frameShape) :
    ∃ w, frames.foldlM writeFrame (create width height color) = .ok w ∧
      w.header = SerHeader.new8bit width height color frames.length ∧
      w.body = frames.foldl
        (fun b f => b ++ frameBytes (SerHeader.new8bit width height color 0).color f) .empty ∧
      w.timestamps.toList = frames.filterMap (·.timestampUs) := by
  obtain ⟨w, hrun, hheader, hbody, hts⟩ := foldlM_writeFrame (w := create width height color) hf
  refine ⟨w, hrun, ?_, hbody, by rw [hts]; rfl⟩
  rw [hheader]
  simp [create, SerHeader.new8bit]

/-- 時刻の数が枚数と違えば、後ろには何も書かない。 -/
theorem trailer_of_size_ne {w : SerWriter} (h : w.timestamps.size ≠ w.header.frameCount) :
    w.trailer = .empty := by
  simp [trailer, h]

/-- すべての画像に時刻があれば、後ろに 8 バイトずつ並べる。 -/
theorem trailer_of_size_eq {w : SerWriter} (h : w.timestamps.size = w.header.frameCount)
    (hpos : 0 < w.timestamps.size) :
    w.trailer = w.timestamps.toList.foldl (fun acc (t : Nat) => acc ++ leBytes t 8) .empty := by
  have hne : w.timestamps.isEmpty = false := by
    rw [Array.isEmpty_eq_false_iff]; exact Array.ne_empty_of_size_pos hpos
  simp [trailer, h, hne, Array.foldl_toList]

end SerWriter

/-! ## 読み戻し -/

/-- 添字ごとに `d` と同じ値を返す関数で作った列は `d` そのもの。 -/
theorem mk_map_range_eq {d : ByteArray} {n : Nat} {g : Nat → UInt8} (hn : n = d.size)
    (hg : ∀ k < n, g k = (d[k]?).getD 0) : ByteArray.mk ((Array.range n).map g) = d := by
  apply ext_getElem
  · simp [hn]
  · intro k h1 h2
    have hk : k < n := by simpa using h1
    rw [← Option.some_inj, ← getElem?_pos, getElem?_mk, Array.getElem?_map, Array.getElem?_range,
      if_pos hk, Option.map_some, hg k hk, getElem?_pos d k h2]
    rfl

namespace SerReader

/-- 読み取りの本体の大きさの検査は、見出しと本体が `2^64` バイトに収まるかどうか。 -/
theorem dataOverflows_iff (n size : Nat) :
    (decide (size * n ≥ Nat.pow 2 64) || decide (size * n + serHeaderSize ≥ Nat.pow 2 64)) =
      true ↔ 2 ^ 64 ≤ serHeaderSize + n * size := by
  simp only [Bool.or_eq_true, decide_eq_true_eq, Nat.pow_eq, Nat.mul_comm size n]
  omega

/-- 見出しの後に、枚数分の本体と何かをつないだ列を開く。 -/
theorem ofBytes_toBytes_append {h : SerHeader} (hs : h.Storable) (hc : h.frameCount < 2 ^ 31)
    (hd : h.pixelDepth ≤ 8) {body rest : ByteArray}
    (hbody : body.size = h.frameCount * h.frameShape.prod)
    (hsize : serHeaderSize + h.frameCount * h.frameShape.prod < 2 ^ 64) :
    ofBytes (h.toBytes ++ body ++ rest) =
      .ok ⟨h.toBytes ++ body ++ rest, h.frameShape.prod, h.readBack⟩ := by
  have hparse := SerHeader.parse_toBytes hs hc (body ++ rest)
  have hfs := SerHeader.frameByteSize_eq_prod hs.width.2 hs.height.2 hd
  have hsz : (h.toBytes ++ (body ++ rest)).size =
      serHeaderSize + h.frameCount * h.frameShape.prod + rest.size := by
    rw [size_append, size_append, SerHeader.size_toBytes, hbody, Nat.add_assoc]
  have hcomm : h.frameShape.prod * h.frameCount = h.frameCount * h.frameShape.prod :=
    Nat.mul_comm _ _
  rw [append_assoc]
  simp only [ofBytes, SerHeader.magic_toBytes, hparse, bind, Except.bind,
    SerHeader.readBack_frameByteSize, hfs, SerHeader.readBack_frameCount, hsz, pure, Except.pure]
  rw [if_neg (by omega), if_neg Bool.false_ne_true,
    if_neg (mt (dataOverflows_iff _ _).1 (by omega)), if_neg (by omega)]

/-- 見出しの枚数が 32 ビット符号つきで負に読まれると、その値を挙げて開けない。 -/
theorem ofBytes_toBytes_append_of_count_wraps {h : SerHeader} (hs : h.Storable)
    (hc : 2 ^ 31 ≤ h.frameCount % 2 ^ 32) (rest : ByteArray) :
    ofBytes (h.toBytes ++ rest) = .error (.invalidSer
      ("Negative frame count " ++ toString (((h.frameCount % 2 ^ 32 : Nat) : Int) - 2 ^ 32))) := by
  simp only [ofBytes, SerHeader.magic_toBytes,
    SerHeader.parse_toBytes_of_count_wraps hs hc, bind, Except.bind]
  rw [if_neg (by rw [size_append, SerHeader.size_toBytes]; omega), if_neg Bool.false_ne_true]

/-- 本体の大きさが 64 ビットに収まらなければ開けない。 -/
theorem ofBytes_toBytes_append_of_overflow {h : SerHeader} (hs : h.Storable)
    (hc : h.frameCount < 2 ^ 31) (hd : h.pixelDepth ≤ 8)
    (hover : 2 ^ 64 ≤ serHeaderSize + h.frameCount * h.frameShape.prod) (rest : ByteArray) :
    ofBytes (h.toBytes ++ rest) = .error (.invalidSer "Data size overflows") := by
  simp only [ofBytes, SerHeader.magic_toBytes, SerHeader.parse_toBytes hs hc, bind,
    Except.bind, SerHeader.readBack_frameByteSize,
    SerHeader.frameByteSize_eq_prod hs.width.2 hs.height.2 hd, SerHeader.readBack_frameCount,
    pure, Except.pure]
  rw [if_neg (by rw [size_append, SerHeader.size_toBytes]; omega), if_neg Bool.false_ne_true,
    if_pos ((dataOverflows_iff _ _).2 hover)]
  rfl

theorem frameRaw_of_lt {r : SerReader} {i : Nat} (hi : i < r.frameCount) :
    r.frameRaw i = .ok (r.bytes.extract (serHeaderSize + i * r.frameSize)
      (serHeaderSize + i * r.frameSize + r.frameSize)) := by
  simp [frameRaw, Nat.not_le.2 hi]

theorem sample_of_bytesPerPixelPlane_one {h : SerHeader} (hb : h.bytesPerPixelPlane = 1)
    (raw : ByteArray) (k : Nat) : sample h raw k = (raw[k]?).getD 0 := by
  simp [sample, hb]

/-- 番号の画像のバイトが、画像 `f` を記録の色の並びで書いたものなら、読むと `f` の形と画素が戻る。
BGR では、書くときと読むときに同じ画素の中で標本の順を二度逆にするので元に戻る。 -/
theorem readFrame_of_frameBytes {r : SerReader} {i : Nat} {f : Frame} (hi : i < r.frameCount)
    (hb : r.header.bytesPerPixelPlane = 1) (hshape : f.shape = r.header.frameShape)
    (hdata : f.data.size = f.shape.prod) (hfs : r.frameSize = f.data.size)
    (hbytes : ∀ k < f.data.size, r.bytes[serHeaderSize + i * r.frameSize + k]? =
      (SerWriter.frameBytes r.header.color f)[k]?) :
    r.readFrame i = .ok ⟨f.shape, f.data, i, r.timestamp i⟩ := by
  -- 切り出した一枚の `k` 番目の標本は、書いたバイト列の `k` バイト目
  have hsample : ∀ k < f.data.size,
      sample r.header (r.bytes.extract (serHeaderSize + i * r.frameSize)
        (serHeaderSize + i * r.frameSize + r.frameSize)) k =
        ((SerWriter.frameBytes r.header.color f)[k]?).getD 0 := by
    intro k hk
    rw [sample_of_bytesPerPixelPlane_one hb, getElem?_extract (by omega), hbytes k hk]
  simp only [readFrame, frameRaw_of_lt hi, bind, Except.bind]
  cases hc : r.header.color
  case rgb =>
    have hshape' : f.shape = [r.height, r.width, 3] := by
      rw [hshape, SerHeader.frameShape, SerHeader.planesPerPixel, hc]; rfl
    have hn : r.height * r.width * 3 = f.data.size := by rw [hdata, hshape']; simp [Nat.mul_assoc]
    rw [hc, SerWriter.frameBytes_of_ne_bgr (by simp)] at hsample
    have hplane : (SerColor.rgb == SerColor.bgr) = false := rfl
    simp only [hplane, Bool.false_eq_true, if_false]
    rw [mk_map_range_eq hn (fun k hk => by
      rw [show k - k % 3 + k % 3 = k by omega]; exact hsample k (hn ▸ hk)), hshape']
    rfl
  case bgr =>
    have hshape' : f.shape = [r.height, r.width, 3] := by
      rw [hshape, SerHeader.frameShape, SerHeader.planesPerPixel, hc]; rfl
    have hn : r.height * r.width * 3 = f.data.size := by rw [hdata, hshape']; simp [Nat.mul_assoc]
    rw [hc] at hsample
    have hplane : (SerColor.bgr == SerColor.bgr) = true := rfl
    simp only [hplane, if_true]
    rw [mk_map_range_eq hn (fun k hk => by
      rw [hsample _ (by omega)]; exact SerWriter.frameBytes_bgr_swap f (by omega) (by omega)),
      hshape']
    rfl
  all_goals
    -- 白黒とベイヤーは一つの画素が一つの標本
    have hshape' : f.shape = [r.height, r.width] := by
      rw [hshape, SerHeader.frameShape, SerHeader.planesPerPixel, hc]; rfl
    have hn : r.height * r.width = f.data.size := by rw [hdata, hshape']; simp
    rw [hc, SerWriter.frameBytes_of_ne_bgr (by simp)] at hsample
    rw [mk_map_range_eq hn (fun k hk => hsample k (hn ▸ hk)), hshape']
    rfl

/-- 本体の直後で列が終われば、どの画像にも時刻は無い。 -/
theorem timestamp_of_size {r : SerReader}
    (hsize : r.bytes.size = serHeaderSize + r.frameSize * r.frameCount) (i : Nat) :
    r.timestamp i = none := by
  simp only [timestamp]
  rw [if_neg (by omega)]

/-- 本体の後ろに 8 バイトずつの時刻が並んでいれば、`i` 番目の画像の時刻はその `i` 番目。 -/
theorem timestamp_of_trailer {r : SerReader} (pre : ByteArray) (ts : List Nat)
    (hbytes : r.bytes = pre ++ ts.foldl (fun acc (t : Nat) => acc ++ leBytes t 8) .empty)
    (hpre : pre.size = serHeaderSize + r.frameSize * r.frameCount)
    {i : Nat} (hi : i < ts.length) (hts : ts[i] < 2 ^ 64) : r.timestamp i = some ts[i] := by
  have h8 : ∀ t ∈ ts, (leBytes (t : Int) 8).size = 8 := fun t _ => size_leBytes t 8
  have hsize : r.bytes.size = pre.size + ts.length * 8 := by
    rw [hbytes, size_append, size_foldl_append _ ts h8, size_empty, Nat.zero_add]
  -- `i` 番目の時刻の 8 バイトは、`i` 番目に足した `leBytes` の 8 バイト
  have hread : readLE r.bytes (serHeaderSize + r.frameSize * r.frameCount + i * 8) 8 =
      readLE (leBytes ts[i] 8) 0 8 := by
    rw [hbytes, readLE_append_right (by omega)]
    apply readLE_congr
    intro k hk
    have := getElem?_foldl_append _ ts h8 ByteArray.empty hi hk
    rw [size_empty, Nat.zero_add] at this
    rw [Nat.zero_add, hpre, Nat.add_sub_cancel_left, ← this]
  rw [timestamp, if_pos (by omega), hread, readLE_leBytes]
  congr 1
  omega

/-- **時刻は全部か無しか。** 時刻を画像の順に集めて閉じた記録では、`i` 番目の画像の時刻は、
すべての画像に時刻があればその画像の時刻で、そうでなければ無い。 -/
theorem timestamp_finalize {w : SerWriter} {frames : List Frame} {r : SerReader}
    (hts : w.timestamps.toList = frames.filterMap (·.timestampUs))
    (hcount : w.header.frameCount = frames.length)
    (hbound : ∀ f ∈ frames, ∀ t ∈ f.timestampUs, t < 2 ^ 64) (hbytes : r.bytes = w.finalize)
    (hpre : (w.header.toBytes ++ w.body).size = serHeaderSize + r.frameSize * r.frameCount)
    {i : Nat} (hi : i < frames.length) :
    r.timestamp i = if frames.all (·.timestampUs.isSome) then frames[i].timestampUs else none := by
  split
  case isTrue hall =>
    rw [List.all_eq_true] at hall
    -- どの画像にも時刻があるので、集めた時刻は画像ごとの時刻の列
    have hlist : w.timestamps.toList = frames.map (·.timestampUs.getD 0) := by
      rw [hts, List.filterMap_eq_map_iff_forall_eq_some]
      intro f hf
      obtain ⟨t, ht⟩ := Option.isSome_iff_exists.1 (by simpa using hall f hf)
      simp [ht]
    have hsz : w.timestamps.size = frames.length := by
      rw [← Array.length_toList, hlist, List.length_map]
    have htrailer : r.bytes = w.header.toBytes ++ w.body ++ (frames.map (·.timestampUs.getD 0)).foldl
        (fun acc (t : Nat) => acc ++ leBytes t 8) .empty := by
      rw [hbytes, SerWriter.finalize, SerWriter.trailer_of_size_eq (by rw [hsz, hcount]) (by omega),
        hlist]
    obtain ⟨t, ht⟩ := Option.isSome_iff_exists.1 (by simpa using hall _ (List.getElem_mem hi))
    rw [timestamp_of_trailer _ _ htrailer hpre (by simpa using hi)
      (by simpa [ht] using hbound _ (List.getElem_mem hi) t (by simp [ht]))]
    simp [ht]
  case isFalse hnot =>
    have hsz : w.timestamps.size ≠ w.header.frameCount := by
      rw [← Array.length_toList, hts, hcount]
      simpa [List.all_eq_true] using hnot
    apply timestamp_of_size
    rw [← hpre, hbytes, SerWriter.finalize, SerWriter.trailer_of_size_ne hsz, append_empty]

end SerReader

/-- 見出しの後に同じ長さの塊を並べた列の、`i` 番目の塊の `k` バイト目。 -/
theorem getElem?_toBytes_append_blocks {α : Type} (h : SerHeader) (g : α → ByteArray) {s : Nat}
    (xs : List α) (hg : ∀ x ∈ xs, (g x).size = s) (rest : ByteArray) {i k : Nat}
    (hi : i < xs.length) (hk : k < s) :
    (h.toBytes ++ xs.foldl (fun b x => b ++ g x) .empty ++ rest)[serHeaderSize + i * s + k]? =
      (g xs[i])[k]? := by
  have hlt : i * s + s ≤ xs.length * s := by
    rw [← Nat.succ_mul]; exact Nat.mul_le_mul_right _ hi
  have hsize : (xs.foldl (fun b x => b ++ g x) .empty).size = xs.length * s := by
    rw [size_foldl_append g xs hg, size_empty, Nat.zero_add]
  have hblock := getElem?_foldl_append g xs hg .empty hi hk
  rw [size_empty, Nat.zero_add] at hblock
  rw [getElem?_append_left (by rw [size_append, SerHeader.size_toBytes, hsize]; omega),
    getElem?_append_right (by rw [SerHeader.size_toBytes]; omega), SerHeader.size_toBytes,
    Nat.add_assoc, Nat.add_sub_cancel_left, hblock]

/-! ## 往復 -/

/-- **書いた画像は、そのまま読み戻せる。**

幅と高さが `1` 以上 `2^31` 未満、色の並びが白黒・RGB・BGR で、画像がどれも記録の形とその形の
画素数を持ち、枚数が `2^31` 未満、記録全体が `2^64` バイト未満なら、作って順に書いて閉じた
記録を開くと、枚数は書いた数で、`i` 番目の画像は書いた `i` 番目の画像の形と画素（BGR でも
RGB の順）を持ち、番号は `i`、時刻はすべての画像に時刻があったときだけ書いた時刻で、
そうでなければ無い。形の違う画像は、期待した形と渡された形を挙げて断られ、新しい記録を
返さないので、記録はそのまま残る。 -/
theorem read_back_written_frames {width height : Nat} {color : SerColor} {frames : List Frame}
    (hw : 0 < width ∧ width < 2 ^ 31) (hh : 0 < height ∧ height < 2 ^ 31)
    (hc : color ≠ .bayer)
    (hshape : ∀ f ∈ frames, f.shape = (SerHeader.new8bit width height color 0).frameShape)
    (hdata : ∀ f ∈ frames, f.data.size = f.shape.prod)
    (hts : ∀ f ∈ frames, ∀ t ∈ f.timestampUs, t < 2 ^ 64)
    (hn : frames.length < 2 ^ 31)
    (hsize : serHeaderSize + (frames.map (·.data.size)).sum < 2 ^ 64) :
    ∃ w, frames.foldlM SerWriter.writeFrame (.create width height color) = .ok w ∧
      (∀ f, f.shape ≠ w.header.frameShape → w.writeFrame f =
        .error (.invalidFrame (SerWriter.shapeMismatch w.header.frameShape f.shape))) ∧
      ∃ r, SerReader.ofBytes w.finalize = .ok r ∧ r.frameCount = frames.length ∧
        ∀ i (hi : i < frames.length), r.readFrame i =
          .ok ⟨frames[i].shape, frames[i].data, i,
            if frames.all (·.timestampUs.isSome) then frames[i].timestampUs else none⟩ := by
  obtain ⟨w, hrun, hW, hbody, htsl⟩ :=
    SerWriter.foldlM_writeFrame_create width height color hshape
  refine ⟨w, hrun, fun f hf => SerWriter.writeFrame_of_shape_ne hf, ?_⟩
  have hcount : w.header.frameCount = frames.length := by rw [hW]; rfl
  have hshapeW : w.header.frameShape = (SerHeader.new8bit width height color 0).frameShape := by
    rw [hW]; rfl
  have hcolor : (SerHeader.new8bit width height color 0).color = color :=
    SerHeader.color_new8bit hc _ _ _
  -- 書いた画像のバイト列は、どれも一枚のバイト数の長さ
  have hfs : ∀ f ∈ frames, (SerWriter.frameBytes color f).size = w.header.frameShape.prod := by
    intro f hf
    rw [SerWriter.size_frameBytes, hdata f hf, hshape f hf, hshapeW]
  have hbody_size : w.body.size = frames.length * w.header.frameShape.prod := by
    rw [hbody, hcolor, size_foldl_append _ frames hfs, size_empty, Nat.zero_add]
  have hsum : (frames.map (·.data.size)).sum = frames.length * w.header.frameShape.prod := by
    rw [List.map_congr_left (fun f hf => (SerWriter.size_frameBytes color f).symm.trans (hfs f hf)),
      List.map_const', List.sum_replicate_nat]
  set r : SerReader := ⟨w.finalize, w.header.frameShape.prod, w.header.readBack⟩ with hr
  have hopen : SerReader.ofBytes w.finalize = .ok r := SerReader.ofBytes_toBytes_append
    (by rw [hW]; exact SerHeader.storable_new8bit hw hh color _) (by rw [hW]; exact hn)
    (by rw [hW]; exact Nat.le_refl 8) (by rw [hbody_size, hcount])
    (by rw [hcount, ← hsum]; exact hsize)
  have hpre : (w.header.toBytes ++ w.body).size = serHeaderSize + r.frameSize * r.frameCount := by
    rw [size_append, SerHeader.size_toBytes, hbody_size, Nat.mul_comm]
    simp [hr, SerReader.frameCount, hcount]
  refine ⟨r, hopen, by rw [SerReader.frameCount, SerHeader.readBack_frameCount, hcount], ?_⟩
  intro i hi
  have hmem : frames[i] ∈ frames := List.getElem_mem hi
  have hprod : w.header.frameShape.prod = frames[i].data.size := by
    rw [hdata _ hmem, hshape _ hmem, hshapeW]
  rw [SerReader.readFrame_of_frameBytes (f := frames[i])
    (by rw [SerReader.frameCount, SerHeader.readBack_frameCount, hcount]; exact hi)
    (by rw [SerHeader.readBack_bytesPerPixelPlane, hW]; rfl)
    (by rw [SerHeader.readBack_frameShape, hshapeW]; exact hshape _ hmem)
    (hdata _ hmem) hprod ?bytes, SerReader.timestamp_finalize htsl hcount hts rfl hpre hi]
  case bytes =>
    -- `i` 番目の画像のバイトは、本体の `i` 番目の塊
    intro k hk
    rw [SerHeader.readBack_color, hW, SerHeader.color_new8bit hc]
    show (w.header.toBytes ++ w.body ++ w.trailer)[serHeaderSize +
      i * w.header.frameShape.prod + k]? = _
    rw [hbody, hcolor]
    exact getElem?_toBytes_append_blocks _ _ frames hfs _ hi (by rw [hprod]; exact hk)

/-- 二枚の BGR の画像を時刻つきで書くと、どちらもそのまま読み戻せる。 -/
theorem read_back_written_frames_bgr_pair :
    let frames : List Frame := [⟨[1, 2, 3], ⟨#[10, 20, 30, 40, 50, 60]⟩, 0, some 7⟩,
      ⟨[1, 2, 3], ⟨#[1, 2, 3, 4, 5, 6]⟩, 0, some 9⟩]
    (∀ f ∈ frames, f.shape = (SerHeader.new8bit 2 1 .bgr 0).frameShape) ∧
    (∀ f ∈ frames, f.data.size = f.shape.prod) ∧
    (∀ f ∈ frames, ∀ t ∈ f.timestampUs, t < 2 ^ 64) ∧
    serHeaderSize + (frames.map (·.data.size)).sum < 2 ^ 64 ∧
    ∃ w, frames.foldlM SerWriter.writeFrame (.create 2 1 .bgr) = .ok w ∧
      (∀ f, f.shape ≠ w.header.frameShape → w.writeFrame f =
        .error (.invalidFrame (SerWriter.shapeMismatch w.header.frameShape f.shape))) ∧
      ∃ r, SerReader.ofBytes w.finalize = .ok r ∧ r.frameCount = frames.length ∧
        ∀ i (hi : i < frames.length), r.readFrame i =
          .ok ⟨frames[i].shape, frames[i].data, i,
            if frames.all (·.timestampUs.isSome) then frames[i].timestampUs else none⟩ := by
  intro frames
  have hshape : ∀ f ∈ frames, f.shape = (SerHeader.new8bit 2 1 .bgr 0).frameShape := by decide
  have hdata : ∀ f ∈ frames, f.data.size = f.shape.prod := by decide
  have hts : ∀ f ∈ frames, ∀ t ∈ f.timestampUs, t < 2 ^ 64 := by simp [frames]
  have hsize : serHeaderSize + (frames.map (·.data.size)).sum < 2 ^ 64 := by decide
  exact ⟨hshape, hdata, hts, hsize, read_back_written_frames (by decide) (by decide) (by simp)
    hshape hdata hts (by decide) hsize⟩

/-- **枚数が `2^31` に達するか、本体が `2^64` バイトを超えると、書いた記録は開けない。**
枚数は 32 ビット符号つきで書くので `2^31` 枚目で負の数として読まれ、本体の大きさは 64 ビットで
数える。二つ目の例の一枚は `3 · 2^60` バイトで、一つの値として持てる `2^63 - 1` バイトに収まる。 -/
theorem written_recording_unreadable_past_limits :
    (∃ w, (List.replicate (2 ^ 31) (Frame.mono 1 1 ⟨#[0]⟩)).foldlM SerWriter.writeFrame
        (.create 1 1 .mono) = .ok w ∧
      SerReader.ofBytes w.finalize =
        .error (.invalidSer ("Negative frame count " ++ toString (-2147483648 : Int)))) ∧
    (∃ w, (List.replicate 6 (⟨[2 ^ 30, 2 ^ 30, 3], ⟨Array.replicate (2 ^ 30 * 2 ^ 30 * 3) 0⟩, 0,
        none⟩ : Frame)).foldlM SerWriter.writeFrame (.create (2 ^ 30) (2 ^ 30) .rgb) = .ok w ∧
      SerReader.ofBytes w.finalize = .error (.invalidSer "Data size overflows")) := by
  constructor
  · obtain ⟨w, hrun, hW, -, -⟩ := SerWriter.foldlM_writeFrame_create 1 1 .mono
      (fun f (hf : f ∈ List.replicate (2 ^ 31) (Frame.mono 1 1 ⟨#[0]⟩)) => by
        rw [List.eq_of_mem_replicate hf]; rfl)
    refine ⟨w, hrun, ?_⟩
    -- `simp` は `List.replicate` を並べてしまうので、長さだけを書き換える
    rw [List.length_replicate] at hW
    -- 枚数 `2^31` は 32 ビット符号つきで `-2^31` と読まれる
    have hneg : (((SerHeader.new8bit 1 1 .mono (2 ^ 31)).frameCount % 2 ^ 32 : Nat) : Int) -
        2 ^ 32 = -2147483648 := by decide
    rw [SerWriter.finalize, hW, append_assoc, SerReader.ofBytes_toBytes_append_of_count_wraps
      (SerHeader.storable_new8bit (by decide) (by decide) _ _) (by decide), hneg]
  · obtain ⟨w, hrun, hW, -, -⟩ :=
      SerWriter.foldlM_writeFrame_create (2 ^ 30) (2 ^ 30) .rgb
      (fun f (hf : f ∈ List.replicate 6 (⟨[2 ^ 30, 2 ^ 30, 3],
        ⟨Array.replicate (2 ^ 30 * 2 ^ 30 * 3) 0⟩, 0, none⟩ : Frame)) => by
        rw [List.eq_of_mem_replicate hf]; rfl)
    refine ⟨w, hrun, ?_⟩
    rw [List.length_replicate] at hW
    rw [SerWriter.finalize, hW, append_assoc, SerReader.ofBytes_toBytes_append_of_overflow
      (SerHeader.storable_new8bit (by decide) (by decide) _ _) (by decide) (by decide) (by decide)]

end DropletVision
