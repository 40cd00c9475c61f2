import DropletVision.Proofs.Camera.Scene
import DropletVision.Proofs.Controller.Lifecycle

/-!
# 領域を描く取り込みと、全体を切り出す取り込み

合成カメラは、領域を指定した取り込みではその領域だけを描く。同じ設定のもう一つのカメラで全体を
取り込み、同じ領域を切り出したものと比べる。

* `Roi.extract_of_two_dims` — 二次元のフレームから切り出した画素は、元のフレームの領域の画素。
* `SyntheticCamera.captureRegion_eq` — 領域を描く一枚：上限に達していれば無く、液滴の位置が
  決まらなければその理由、決まれば領域を描いたもの。上限の判定と液滴の位置は、領域にも雑音の
  乱数にもよらない。
* `drawnFrames_agree` — 同じ液滴の位置から、領域を描いた一枚と、全体を描いて切り出した一枚。
* `Lockstep` — 領域を指定して取り込むカメラと全体を取り込むカメラが、同じ設定で同じ番号にいる
  こと。一枚ごとに保たれる（`Lockstep.next`）。
* `frameRoi_matches_cropped_capture` — 何枚目でも、二つの取り込みは画素の値のほかは一致する
  （どちらも同じ誤りか、どちらも尽きたか、同じ形・番号・時刻のフレーム）。雑音がなく、領域が
  センサーの原点から始まれば、画素も一致する。

## 画素が一致しないとき

雑音の乱数は画素の順に一つずつ使うので、描く画素の数が違えば、同じ画素に足す雑音が違う。
また領域がずれていれば、楕円の中心から領域の位置を引く浮動小数点の計算は、全体を描くときの
計算と丸めが違い、楕円の縁の画素が変わりうる。
-/

namespace DropletVision

/-! ## バイト列の連結と切り出し -/

namespace Raster

theorem size_emptyWithCapacity (n : Nat) : (ByteArray.emptyWithCapacity n).size = 0 := rfl

theorem getElem!_append_left {a b : ByteArray} {i : Nat} (hi : i < a.size) :
    (a ++ b)[i]! = a[i]! := by
  rw [getElem!_pos (a ++ b) i (by rw [ByteArray.size_append]; omega), getElem!_pos a i hi,
    ByteArray.getElem_append_left hi]

theorem getElem!_append_right (a b : ByteArray) (i : Nat) : (a ++ b)[a.size + i]! = b[i]! := by
  by_cases hi : i < b.size
  · rw [getElem!_pos (a ++ b) _ (by rw [ByteArray.size_append]; omega), getElem!_pos b i hi,
      ByteArray.getElem_append_right (by omega)]
    simp only [Nat.add_sub_cancel_left]
  · rw [getElem!_neg (a ++ b) _ (by rw [ByteArray.size_append]; omega), getElem!_neg b i hi]

theorem getElem!_extract {src : ByteArray} {off len i : Nat} (h : off + len ≤ src.size)
    (hi : i < len) : (src.extract off (off + len))[i]! = src[off + i]! := by
  rw [getElem!_pos _ i (by rw [ByteArray.size_extract]; omega), getElem!_pos src _ (by omega),
    ByteArray.getElem_extract]

/-- 宛先の末尾への写しは、切り出した列を後ろに足すこと。 -/
theorem copySlice_at_end (src dest : ByteArray) (off len : Nat) (exact : Bool) :
    src.copySlice off dest dest.size len exact = dest ++ src.extract off (off + len) := by
  have hrest : dest.extract (dest.size + min len (src.data.size - off)) dest.data.size =
      ByteArray.empty :=
    ByteArray.extract_eq_empty_iff.2 (by show min dest.size dest.size ≤ _; omega)
  rw [ByteArray.copySlice_eq_append, ByteArray.extract_zero_size, hrest, ByteArray.append_empty]

/-- 大きさが同じで、どの位置の値も同じバイト列は等しい。 -/
theorem ext_getElem! {a b : ByteArray} (hs : a.size = b.size)
    (h : ∀ i < a.size, a[i]! = b[i]!) : a = b := by
  refine ByteArray.ext_getElem hs (fun i hi hi' => ?_)
  have := h i hi
  rwa [getElem!_pos a i hi, getElem!_pos b i hi'] at this

/-- 大きさ `H × W` の二つの画像は、どの画素 `(row, col)` の値も同じなら等しい。 -/
theorem ext_of_pixels {a b : ByteArray} {H W : Nat} (ha : a.size = H * W) (hb : b.size = H * W)
    (h : ∀ row < H, ∀ col < W, a[row * W + col]! = b[row * W + col]!) : a = b := by
  refine ext_getElem! (ha.trans hb.symm) (fun i hi => ?_)
  rw [ha] at hi
  have hW : 0 < W := Nat.pos_of_ne_zero (by rintro rfl; simp at hi)
  rw [← Nat.div_add_mod' i W]
  exact h _ (Nat.div_lt_of_lt_mul (by rwa [Nat.mul_comm] at hi)) _ (Nat.mod_lt i hW)

/-! ## 行ごとの切り出し -/

section Rows

variable (src : ByteArray) (W x w : Nat)

/-- 行 `rows` のそれぞれから、位置 `x` から `w` 画素を `a` の後ろに足していく（行の幅は `W`）。 -/
def copyRows (rows : List Nat) (a : ByteArray) : ByteArray :=
  rows.foldl (fun b row => src.copySlice (row * W + x) b b.size w) a

theorem copyRows_cons (row : Nat) (rows : List Nat) (a : ByteArray) :
    copyRows src W x w (row :: rows) a =
      copyRows src W x w rows (a ++ src.extract (row * W + x) (row * W + x + w)) := by
  rw [copyRows, List.foldl_cons, copySlice_at_end]
  rfl

/-- 後ろに足すだけなので、元の列はそのまま残る。 -/
theorem copyRows_getElem!_of_lt (rows : List Nat) {a : ByteArray} {i : Nat} (hi : i < a.size) :
    (copyRows src W x w rows a)[i]! = a[i]! := by
  induction rows generalizing a with
  | nil => rfl
  | cons row rows ih =>
    rw [copyRows_cons, ih (by rw [ByteArray.size_append]; omega), getElem!_append_left hi]

variable {W x w}

/-- 行 `row` の切り出す画素はバイト列の中にある。 -/
theorem row_end_le (hxw : x + w ≤ W) {row n : Nat} (hrow : row < n) (hn : n * W ≤ src.size) :
    row * W + x + w ≤ src.size :=
  calc row * W + x + w ≤ row * W + W := by omega
    _ = (row + 1) * W := (Nat.succ_mul row W).symm
    _ ≤ n * W := Nat.mul_le_mul_right _ hrow
    _ ≤ src.size := hn

theorem copyRows_size (hxw : x + w ≤ W) (k y : Nat) (hk : (y + k) * W ≤ src.size) (a : ByteArray) :
    (copyRows src W x w (List.range' y k) a).size = a.size + k * w := by
  induction k generalizing y a with
  | zero => simp [copyRows]
  | succ k ih =>
    have hend := row_end_le src hxw (show y < y + (k + 1) by omega) hk
    rw [List.range'_succ, copyRows_cons, ih (y + 1) (by rwa [Nat.add_right_comm, Nat.add_assoc]),
      ByteArray.size_append, ByteArray.size_extract, Nat.min_eq_left hend, Nat.succ_mul]
    omega

/-- **切り出した行の画素。** `j` 番目に足した行の `col` 番目は、元の列の行 `y + j` の `x + col`
番目の画素。 -/
theorem copyRows_getElem! (hxw : x + w ≤ W) (k y : Nat) (hk : (y + k) * W ≤ src.size)
    (a : ByteArray) {j col : Nat} (hj : j < k) (hcol : col < w) :
    (copyRows src W x w (List.range' y k) a)[a.size + j * w + col]! =
      src[(y + j) * W + (x + col)]! := by
  induction k generalizing y a j with
  | zero => omega
  | succ k ih =>
    have hend := row_end_le src hxw (show y < y + (k + 1) by omega) hk
    have hsize : (a ++ src.extract (y * W + x) (y * W + x + w)).size = a.size + w := by
      rw [ByteArray.size_append, ByteArray.size_extract, Nat.min_eq_left hend]
      omega
    rw [List.range'_succ, copyRows_cons]
    cases j with
    | zero =>
      -- 最初の行は、後の行を足しても残る
      rw [copyRows_getElem!_of_lt _ _ _ _ _ (by rw [hsize]; omega), Nat.zero_mul, Nat.add_zero,
        getElem!_append_right, getElem!_extract hend hcol, Nat.add_zero, Nat.add_assoc]
    | succ j =>
      have h := ih (y + 1) (by rwa [Nat.add_right_comm, Nat.add_assoc])
        (a ++ src.extract (y * W + x) (y * W + x + w)) (j := j) (by omega)
      rw [hsize, Nat.add_right_comm y 1 j, Nat.add_assoc y] at h
      rw [← h, Nat.succ_mul]
      congr 1
      omega

end Rows

end Raster

/-! ## 二次元のフレームからの切り出し -/

namespace Roi

theorem le_of_validateForSensor {r : Roi} {sw sh : Nat} (hv : r.validateForSensor sw sh = .ok ()) :
    r.x + r.width ≤ sw ∧ r.y + r.height ≤ sh := by
  have h := (validateForSensor_isOk_iff r sw sh).1 (by rw [hv]; rfl)
  simp only [not_or] at h
  omega

/-- **二次元のフレームの切り出し。** センサーの内側の領域で切り出したフレームは、形が領域の大きさで、
画素 `(row, col)` は元のフレームの画素 `(y + row, x + col)`。番号と時刻は元のまま。 -/
theorem extract_of_two_dims (r : Roi) (f : Frame) {H W : Nat} (hs : f.shape = [H, W])
    (hsize : f.data.size = H * W) (hv : r.validateForSensor W H = .ok ()) :
    ∃ data, r.extract f = .ok { f with shape := [r.height, r.width], data } ∧
      data.size = r.height * r.width ∧
      ∀ row < r.height, ∀ col < r.width,
        data[row * r.width + col]! = f.data[(r.y + row) * W + (r.x + col)]! := by
  obtain ⟨hxw, hyh⟩ := le_of_validateForSensor hv
  have hk : (r.y + r.height) * W ≤ f.data.size := by
    rw [hsize]
    exact Nat.mul_le_mul_right _ hyh
  refine ⟨Raster.copyRows f.data W r.x r.width (List.range' r.y r.height)
    (ByteArray.emptyWithCapacity (r.height * r.width)), ?_, ?_, ?_⟩
  · unfold extract
    rw [hs]
    simp only [Id.run, Std.Legacy.Range.forIn_eq_forIn_range', List.forIn_pure_yield_eq_foldl,
      pure_bind, Std.Legacy.Range.size, Nat.add_sub_cancel, Nat.div_one, Nat.add_sub_cancel_left,
      List.foldl_nil, Nat.mul_one, hv]
    rfl
  · rw [Raster.copyRows_size _ hxw _ _ hk, Raster.size_emptyWithCapacity, Nat.zero_add,
      Nat.mul_comm]
  · intro row hrow col hcol
    have h := Raster.copyRows_getElem! f.data hxw r.height r.y hk
      (ByteArray.emptyWithCapacity (r.height * r.width)) hrow hcol
    rwa [Raster.size_emptyWithCapacity, Nat.zero_add] at h

end Roi

/-! ## 合成カメラの一枚 -/

/-- 取り込んだフレームを領域 `r` で切り出す。フレームが無いか誤りならそのまま。 -/
def cropCapture (r : Roi) : Outcome (Option Frame) → Outcome (Option Frame)
  | .ok (some f) => (r.extract f).map some
  | o => o

namespace SyntheticCamera

/-- 領域 `region` を描く一枚の取り込み。描けなければカメラは進まない。 -/
def captureRegion (cam : SyntheticCamera) (region : Roi) : Capture :=
  match cam.nextFrame region with
  | .ok (f, cam') => ⟨.ok f, .synthetic cam', []⟩
  | .error m => ⟨.error (.abort m), .synthetic cam, []⟩

/-- 領域 `region` を描いたフレーム（番号と時刻はカメラの番号から）。 -/
def regionFrame (cam : SyntheticCamera) (region : Roi) (data : ByteArray) : Frame :=
  ⟨[region.height, region.width], data, cam.frameIndex,
    some (cam.frameIndex * cam.config.frameIntervalUs % Nat.pow 2 64)⟩

/-- 上限に達していれば次のフレームは無く、そうでなければ描く。 -/
theorem nextFrame_eq (cam : SyntheticCamera) (region : Roi) :
    cam.nextFrame region =
      if cam.config.frameLimit.any (· ≤ cam.frameIndex) then .ok (none, cam)
      else nextFrame.draw region cam := by
  unfold nextFrame
  cases cam.config.frameLimit with
  | none => rfl
  | some limit => simp only [Option.any_some, decide_eq_true_eq, ge_iff_le]

/-- 描く一枚：液滴の位置が決まれば、領域を描いたフレームと、番号を進めたカメラ。 -/
theorem draw_eq (region : Roi) (cam : SyntheticCamera) :
    nextFrame.draw region cam =
      (dropletCenters cam.config cam.frameIndex).map fun centers =>
        (some (cam.regionFrame region (paint cam.config centers cam.noiseRng region).1),
          { cam with frameIndex := cam.frameIndex + 1,
                     noiseRng := (paint cam.config centers cam.noiseRng region).2 }) := by
  unfold nextFrame.draw render
  cases dropletCenters cam.config cam.frameIndex <;> rfl

/-- **領域を描く一枚。** 上限に達していればフレームは無く、液滴の位置が決まらなければその理由で
失敗し、どちらもカメラは進まない。位置が決まれば、領域を描いたフレームを返し、番号を進めて
雑音の乱数を描いた後のものにする。 -/
theorem captureRegion_eq (cam : SyntheticCamera) (region : Roi) :
    cam.captureRegion region =
      if cam.config.frameLimit.any (· ≤ cam.frameIndex) then ⟨.ok none, .synthetic cam, []⟩
      else
        match dropletCenters cam.config cam.frameIndex with
        | .error m => ⟨.error (.abort m), .synthetic cam, []⟩
        | .ok centers =>
          ⟨.ok (some (cam.regionFrame region (paint cam.config centers cam.noiseRng region).1)),
            .synthetic { cam with frameIndex := cam.frameIndex + 1,
                                  noiseRng := (paint cam.config centers cam.noiseRng region).2 },
            []⟩ := by
  unfold captureRegion
  rw [nextFrame_eq]
  by_cases hlim : cam.config.frameLimit.any (· ≤ cam.frameIndex) = true
  · rw [if_pos hlim, if_pos hlim]
  · rw [if_neg hlim, if_neg hlim, draw_eq]
    cases dropletCenters cam.config cam.frameIndex <;> rfl

/-- センサー全体の領域は、センサーの大きさが 32 ビットに収まれば原点からセンサーの大きさ。 -/
theorem fullSensor_eq (cam : SyntheticCamera) (hw : cam.config.width < 2 ^ 32)
    (hh : cam.config.height < 2 ^ 32) :
    cam.fullSensor = ⟨0, 0, cam.config.width, cam.config.height⟩ := by
  unfold fullSensor
  rw [Nat.pow_eq, Nat.mod_eq_of_lt hw, Nat.mod_eq_of_lt hh]

theorem regionFrame_congr {A B : SyntheticCamera} (hidx : A.frameIndex = B.frameIndex)
    (hint : A.config.frameIntervalUs = B.config.frameIntervalUs) : A.regionFrame = B.regionFrame := by
  unfold regionFrame
  rw [hidx, hint]

/-- センサー全体を描いたフレームを、センサーの内側の領域で切り出すと、その領域のフレームになり、
画素はセンサーの同じ位置の画素。 -/
theorem crop_regionFrame (cam : SyntheticCamera) {r : Roi}
    (hr : r.validateForSensor cam.config.width cam.config.height = .ok ()) (data : ByteArray)
    (hsize : data.size = cam.config.height * cam.config.width) :
    ∃ d, cropCapture r (.ok (some (cam.regionFrame ⟨0, 0, cam.config.width, cam.config.height⟩ data))) =
        .ok (some (cam.regionFrame r d)) ∧
      d.size = r.height * r.width ∧
      ∀ row < r.height, ∀ col < r.width,
        d[row * r.width + col]! = data[(r.y + row) * cam.config.width + (r.x + col)]! := by
  obtain ⟨d, hext, hd, hpix⟩ := Roi.extract_of_two_dims r
    (cam.regionFrame ⟨0, 0, cam.config.width, cam.config.height⟩ data) rfl hsize hr
  refine ⟨d, ?_, hd, hpix⟩
  rw [cropCapture, hext]
  rfl

end SyntheticCamera

namespace Camera

/-- 合成カメラに、センサーの内側の領域を指定した取り込みは、その領域を描く一枚。 -/
theorem frameRoi_synthetic {A : SyntheticCamera} {r : Roi}
    (hr : r.validateForSensor A.config.width A.config.height = .ok ()) :
    (Camera.synthetic A).frameRoi r = A.captureRegion r := by
  -- 右辺は開かない：左辺を簡約すれば右辺の定義そのものになる
  unfold frameRoi
  simp only [checkRoi, sensorSize, hr]
  rfl

/-- センサーに領域を読ませていない合成カメラの取り込みは、センサー全体を描く一枚。 -/
theorem captureFrame_synthetic {B : SyntheticCamera} (hB : B.hardwareRoi = false) :
    (Camera.synthetic B).captureFrame = B.captureRegion B.fullSensor := by
  unfold captureFrame
  simp only [hB]
  rfl

end Camera

/-! ## 二つのカメラの歩調 -/

/-- 二つの取り込みの結果が画素の値のほかは同じ：どちらも同じ誤りか、どちらもフレームが無いか、
どちらも形・画素の数・番号・時刻の同じフレーム。 -/
def AgreeButPixels : Outcome (Option Frame) → Outcome (Option Frame) → Prop
  | .ok (some f), .ok (some g) =>
    f.shape = g.shape ∧ f.data.size = g.data.size ∧ f.index = g.index ∧ f.timestampUs = g.timestampUs
  | .ok none, .ok none => True
  | .error e, .error e' => e = e'
  | _, _ => False

/-- 領域を指定して取り込むカメラ `a` と、全体を取り込むカメラ `b` の歩調がそろっている：どちらも
設定 `c` の合成カメラで、`b` はセンサーに領域を読ませず、二つは同じ番号にいる。雑音の乱数は
そろわなくてよい。 -/
def Lockstep (c : SyntheticConfig) : Camera → Camera → Prop
  | .synthetic A, .synthetic B =>
    A.config = c ∧ B.config = c ∧ B.hardwareRoi = false ∧ A.frameIndex = B.frameIndex
  | _, _ => False

/-- 同じ液滴の位置から描いた二枚：領域 `r` を描いたフレームと、センサー全体を描いて `r` を
切り出したフレームは、画素の値のほかは一致し、雑音がなく領域が原点から始まれば等しい。 -/
theorem drawnFrames_agree {c : SyntheticConfig} {r : Roi} (hw : c.width < 2 ^ 32)
    (hh : c.height < 2 ^ 32) (hr : r.validateForSensor c.width c.height = .ok ())
    {A B : SyntheticCamera} (hA : A.config = c) (hB : B.config = c)
    (hidx : A.frameIndex = B.frameIndex) (centers : List (Float × Float)) :
    let full : Roi := ⟨0, 0, c.width, c.height⟩
    let fa := A.regionFrame r (SyntheticCamera.paint c centers A.noiseRng r).1
    let fb := B.regionFrame full (SyntheticCamera.paint c centers B.noiseRng full).1
    AgreeButPixels (.ok (some fa)) (cropCapture r (.ok (some fb))) ∧
      (c.noise = 0 → r.x = 0 → r.y = 0 → .ok (some fa) = cropCapture r (.ok (some fb))) := by
  dsimp only
  obtain ⟨d, hcrop, hd, hpix⟩ := B.crop_regionFrame (by rwa [hB])
    (SyntheticCamera.paint c centers B.noiseRng ⟨0, 0, c.width, c.height⟩).1
    (by rw [SyntheticCamera.paint_size, hB])
  rw [hB] at hcrop hpix
  rw [hcrop, SyntheticCamera.regionFrame_congr hidx (by rw [hA, hB])]
  refine ⟨⟨rfl, ?_, rfl, rfl⟩, fun hn hx hy => ?_⟩
  · show (SyntheticCamera.paint c centers A.noiseRng r).1.size = d.size
    rw [SyntheticCamera.paint_size, hd]
  -- 雑音がなければどちらも雑音を足す前の画像で、原点をそろえた画素の値は同じ
  obtain ⟨hxw, hyh⟩ := Roi.le_of_validateForSensor hr
  rw [SyntheticCamera.paint_of_noise_zero _ _ _ hn] at hpix ⊢
  congr 3
  refine Raster.ext_of_pixels (SyntheticCamera.scene_size ..) hd (fun row hrow col hcol => ?_)
  rw [hpix row hrow col hcol, hx, hy, Nat.zero_add, Nat.zero_add]
  exact SyntheticCamera.scene_getElem!_of_origin c centers hx hy (by omega) (by omega)
    (by omega) (by omega) hrow hcol

namespace Lockstep

variable {c : SyntheticConfig} {r : Roi}

theorem start (c : SyntheticConfig) : Lockstep c (.synthetic (.new c)) (.synthetic (.new c)) :=
  ⟨rfl, rfl, rfl, rfl⟩

/-- 一枚ずつ取り込んでも歩調はそろったまま：上限の判定と液滴の位置は番号と設定だけで決まるので、
二つのカメラは同時に進むか、同時に止まる。 -/
theorem next (hr : r.validateForSensor c.width c.height = .ok ()) {a b : Camera}
    (h : Lockstep c a b) : Lockstep c (a.frameRoi r).camera b.captureFrame.camera := by
  obtain ⟨A⟩ | _ | _ := a <;> obtain ⟨B⟩ | _ | _ := b <;> try exact h.elim
  obtain ⟨hA, hB, hhw, hidx⟩ := h
  rw [Camera.frameRoi_synthetic (by rwa [hA]), Camera.captureFrame_synthetic hhw,
    SyntheticCamera.captureRegion_eq, SyntheticCamera.captureRegion_eq, hA, hB, hidx]
  split
  · exact ⟨hA, hB, hhw, hidx⟩
  · cases SyntheticCamera.dropletCenters c B.frameIndex with
    | error m => exact ⟨hA, hB, hhw, hidx⟩
    | ok centers => exact ⟨rfl, rfl, hhw, rfl⟩

/-- 歩調のそろった二つのカメラを `n` 枚ずつ進めても、歩調はそろったまま。 -/
theorem iterate (hr : r.validateForSensor c.width c.height = .ok ()) {a b : Camera}
    (h : Lockstep c a b) (n : Nat) :
    Lockstep c ((fun cam => (cam.frameRoi r).camera)^[n] a)
      ((fun cam => cam.captureFrame.camera)^[n] b) := by
  induction n with
  | zero => exact h
  | succ n ih =>
    rw [Function.iterate_succ_apply', Function.iterate_succ_apply']
    exact next hr ih

/-- 歩調のそろった二つのカメラの次の取り込みは、画素の値のほかは一致する。雑音がなく、領域が
原点から始まれば、画素も一致する。 -/
theorem frames (hw : c.width < 2 ^ 32) (hh : c.height < 2 ^ 32)
    (hr : r.validateForSensor c.width c.height = .ok ()) {a b : Camera} (h : Lockstep c a b) :
    AgreeButPixels (a.frameRoi r).frame (cropCapture r b.captureFrame.frame) ∧
      (c.noise = 0 → r.x = 0 → r.y = 0 →
        (a.frameRoi r).frame = cropCapture r b.captureFrame.frame) := by
  obtain ⟨A⟩ | _ | _ := a <;> obtain ⟨B⟩ | _ | _ := b <;> try exact h.elim
  obtain ⟨hA, hB, hhw, hidx⟩ := h
  rw [Camera.frameRoi_synthetic (by rwa [hA]), Camera.captureFrame_synthetic hhw,
    SyntheticCamera.fullSensor_eq B (by rwa [hB]) (by rwa [hB]),
    SyntheticCamera.captureRegion_eq, SyntheticCamera.captureRegion_eq, hA, hB, hidx]
  by_cases hlim : c.frameLimit.any (· ≤ B.frameIndex) = true
  · rw [if_pos hlim, if_pos hlim]
    exact ⟨trivial, fun _ _ _ => rfl⟩
  rw [if_neg hlim, if_neg hlim]
  cases SyntheticCamera.dropletCenters c B.frameIndex with
  | error m => exact ⟨rfl, fun _ _ _ => rfl⟩
  | ok centers => exact drawnFrames_agree hw hh hr hA hB hidx centers

end Lockstep

/-- **領域を描く取り込みと、切り出す取り込み。** 同じ設定の二つの合成カメラの一方で、センサーの
内側の領域を指定して取り込み、もう一方で全体を取り込んで同じ領域を切り出す。何枚目でも、二つの
結果は画素の値のほかは一致する（どちらも同じ誤りか、どちらも尽きたか、同じ形・画素の数・番号・
時刻のフレーム）。雑音がなく、領域がセンサーの原点から始まれば、フレームはそのまま等しい。 -/
theorem frameRoi_matches_cropped_capture (c : SyntheticConfig) (r : Roi)
    (hw : c.width < 2 ^ 32) (hh : c.height < 2 ^ 32)
    (hr : r.validateForSensor c.width c.height = .ok ()) (n : Nat) :
    let a := (fun cam : Camera => (cam.frameRoi r).camera)^[n] (Camera.synthetic (.new c))
    let b := (fun cam : Camera => cam.captureFrame.camera)^[n] (Camera.synthetic (.new c))
    AgreeButPixels (a.frameRoi r).frame (cropCapture r b.captureFrame.frame) ∧
      (c.noise = 0 → r.x = 0 → r.y = 0 →
        (a.frameRoi r).frame = cropCapture r b.captureFrame.frame) :=
  (Lockstep.iterate hr (Lockstep.start c) n).frames hw hh hr

/-- 既定の設定で原点から 8 × 8 の領域を取り込むと、四枚目も全体から切り出したものと等しい。 -/
theorem default_origin_region_matches_crop :
    let c : SyntheticConfig := {}
    let r : Roi := ⟨0, 0, 8, 8⟩
    let a := (fun cam : Camera => (cam.frameRoi r).camera)^[3] (Camera.synthetic (.new c))
    let b := (fun cam : Camera => cam.captureFrame.camera)^[3] (Camera.synthetic (.new c))
    c.width < 2 ^ 32 ∧ c.height < 2 ^ 32 ∧ r.validateForSensor c.width c.height = .ok () ∧
      AgreeButPixels (a.frameRoi r).frame (cropCapture r b.captureFrame.frame) ∧
      (c.noise = 0 → r.x = 0 → r.y = 0 →
        (a.frameRoi r).frame = cropCapture r b.captureFrame.frame) :=
  ⟨by decide, by decide, rfl,
    frameRoi_matches_cropped_capture {} ⟨0, 0, 8, 8⟩ (by decide) (by decide) rfl 3⟩

end DropletVision
