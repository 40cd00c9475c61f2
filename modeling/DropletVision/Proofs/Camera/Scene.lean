import DropletVision.Camera.Source
import DropletVision.Proofs.Float.Truncation

/-!
# 合成カメラの描く画素

合成カメラは、背景の値で埋めた画像に、流路の壁の行を塗り、ごみと液滴の楕円を描き、雑音を
足す。雑音を足す前の画像の画素 `(row, col)` の値を、描く順によらない形で与える。

* `Raster.foldl_getElem!_of_writes` — どの手順も一つの値 `v` しか書かないなら、手順の列の後の
  画素は、どれかが書けば `v`、どれも書かなければ元の値。塗りつぶしはどの段もこの形をしている。
* `EllipseCovers`、`drawEllipse_getElem!` — 楕円が塗る画素：半径が正で、画像の内側に切った外接
  矩形の中にあり、楕円の式を満たす画素。
* `ellipseCovers_crop` — 原点をそろえた小さい画像と大きい画像では、小さい画像の中の画素を楕円が
  塗るかは一致する（描く範囲の端を画像に収めても、切り捨てた端は画像の中で変わらない）。
* `SyntheticCamera.sceneValue`、`scene_getElem!` — 雑音を足す前の画素の値：どれかの楕円が塗れば
  液滴の値、壁の行なら壁の値、ほかは背景の値。
* `SyntheticCamera.paint_eq` — 描くことは、雑音を足す前の画像を作り、雑音があれば画素の順に
  雑音を足すこと。雑音がなければ乱数は使わない。
* `sceneValue_crop`、`scene_getElem!_of_origin` — 位置をそろえた小さい領域の画素の値は、大きい
  領域の同じ画素の値と同じ。原点から始まる領域の画像は、全体の画像の同じ位置の画素を並べたもの。
-/

namespace DropletVision

namespace Raster

/-- 幅 `W` の行優先の位置は、列が幅に収まっていれば行と列を決める。 -/
theorem index_eq_iff {W r c r' c' : Nat} (hc : c < W) (hc' : c' < W) :
    r * W + c = r' * W + c' ↔ r = r' ∧ c = c' := by
  constructor
  · intro h
    have hcol : c = c' := by
      have := congrArg (· % W) h
      simpa [Nat.mul_comm, Nat.mul_add_mod, Nat.mod_eq_of_lt hc, Nat.mod_eq_of_lt hc'] using this
    subst hcol
    have hrow : r * W = r' * W := by omega
    exact ⟨Nat.eq_of_mul_eq_mul_right (by omega) hrow, rfl⟩
  · rintro ⟨rfl, rfl⟩
    rfl

theorem index_lt {W H row col : Nat} (hrow : row < H) (hcol : col < W) : row * W + col < H * W :=
  calc row * W + col < row * W + W := by omega
    _ = (row + 1) * W := by rw [Nat.succ_mul]
    _ ≤ H * W := Nat.mul_le_mul_right _ hrow

/-- 一画素の書き込み：範囲の外への書き込みは何もしない。 -/
theorem getElem!_set! (o : ByteArray) (k i : Nat) (v : UInt8) :
    (o.set! k v)[i]! = if k = i ∧ i < o.size then v else o[i]! := by
  by_cases hki : k = i
  · subst hki
    by_cases hk : k < o.size
    · rw [if_pos ⟨rfl, hk⟩, ByteArray.getElem!_set!_self _ _ _ hk]
    · rw [if_neg (fun h => hk h.2), getElem!_neg (o.set! k v) k (by simpa using hk), getElem!_neg o k hk]
  · rw [if_neg (fun h => hki h.1), ByteArray.getElem!_set!_ne _ _ _ _ hki]

section Writes

variable {α : Type} (g : α → ByteArray → ByteArray)

theorem foldl_size_of_writes (hs : ∀ x o, (g x o).size = o.size) (xs : List α) (o : ByteArray) :
    (xs.foldl (fun o x => g x o) o).size = o.size := by
  induction xs generalizing o with
  | nil => rfl
  | cons x xs ih => rw [List.foldl_cons, ih, hs]

/-- 値 `v` しか書かない手順を列 `xs` に沿って続けると、画素 `i` は、どれかの手順が書けば `v`、
どれも書かなければ元の値。 -/
theorem foldl_getElem!_of_writes {N i : Nat} {v : UInt8} (P : α → Prop) [DecidablePred P]
    (hs : ∀ x o, (g x o).size = o.size)
    (hg : ∀ x o, o.size = N → (g x o)[i]! = if P x then v else o[i]!) (xs : List α) (o : ByteArray)
    (ho : o.size = N) :
    (xs.foldl (fun o x => g x o) o)[i]! = if ∃ x ∈ xs, P x then v else o[i]! := by
  induction xs generalizing o with
  | nil => simp
  | cons x xs ih =>
    rw [List.foldl_cons, ih (g x o) (by rw [hs, ho]), hg x o ho]
    by_cases hx : P x
    · simp [hx]
    · simp [hx]

end Writes

/-- 列 `cols` の `c` について条件 `p c` が立てば位置 `f c` に `v` を書く。 -/
theorem foldl_set!_getElem! (cols : List Nat) (p : Nat → Prop) [DecidablePred p] (f : Nat → Nat)
    (v : UInt8) (o : ByteArray) (i : Nat) :
    (cols.foldl (fun o c => if p c then o.set! (f c) v else o) o)[i]! =
      if ∃ c ∈ cols, p c ∧ f c = i ∧ i < o.size then v else o[i]! := by
  refine foldl_getElem!_of_writes _ (fun c => p c ∧ f c = i ∧ i < o.size)
    (fun c o => by split <;> simp) (fun c o' ho' => ?_) cols o rfl
  by_cases hc : p c
  · rw [if_pos hc, getElem!_set!, ho']
    simp [hc]
  · rw [if_neg hc]
    simp [hc]

theorem foldl_set!_size (cols : List Nat) (p : Nat → Prop) [DecidablePred p] (f : Nat → Nat)
    (v : UInt8) (o : ByteArray) :
    (cols.foldl (fun o c => if p c then o.set! (f c) v else o) o).size = o.size :=
  foldl_size_of_writes _ (fun c o => by split <;> simp) cols o

/-- 位置を `f c` で決めて、列 `cols` のどの `c` にも `v` を書く。 -/
theorem foldl_set!_all_getElem! (cols : List Nat) (f : Nat → Nat) (v : UInt8) (o : ByteArray)
    (i : Nat) :
    (cols.foldl (fun o c => o.set! (f c) v) o)[i]! =
      if ∃ c ∈ cols, f c = i ∧ i < o.size then v else o[i]! :=
  foldl_getElem!_of_writes _ (fun c => f c = i ∧ i < o.size) (fun c o => ByteArray.size_set! ..)
    (fun c o' ho' => by rw [getElem!_set!, ho']) cols o rfl

@[simp] theorem size_replicate (n : Nat) (v : UInt8) :
    (⟨Array.replicate n v⟩ : ByteArray).size = n := by
  show (Array.replicate n v).size = n
  simp

theorem getElem!_replicate (n : Nat) (v : UInt8) {i : Nat} (hi : i < n) :
    (⟨Array.replicate n v⟩ : ByteArray)[i]! = v := by
  rw [getElem!_pos _ i (by rw [size_replicate]; exact hi)]
  simp [ByteArray.getElem_eq_getElem_data]

theorem ite_pure_yield {β : Type} (c : Prop) [Decidable c] (x y : β) :
    (if c then pure (ForInStep.yield x) else pure (ForInStep.yield y) : Id (ForInStep β)) =
      pure (.yield (if c then x else y)) := by
  split <;> rfl

end Raster

/-! ## 楕円 -/

/-- 楕円が画素 `(row, col)` を塗るか：半径が正で、画像（高さ `height`、幅 `width`）の内側に
切った外接矩形の中にあり、楕円の式を満たす。 -/
def EllipseCovers (height width : Nat) (cx cy a b : Float) (row col : Nat) : Prop :=
  ¬(a ≤ 0 ∨ b ≤ 0) ∧
    Float.toNatSat (Float.maxNum (cy - b).floor 0) ≤ row ∧
    row < Float.toNatSat (Float.clampTo ((cy + b).ceil + 1) 0 (Float.ofNat height)) ∧
    Float.toNatSat (Float.maxNum (cx - a).floor 0) ≤ col ∧
    col < Float.toNatSat (Float.clampTo ((cx + a).ceil + 1) 0 (Float.ofNat width)) ∧
    (Float.ofNat col - cx) / a * ((Float.ofNat col - cx) / a) +
      (Float.ofNat row - cy) / b * ((Float.ofNat row - cy) / b) ≤ 1

instance (height width : Nat) (cx cy a b : Float) (row col : Nat) :
    Decidable (EllipseCovers height width cx cy a b row col) :=
  inferInstanceAs (Decidable (¬(a ≤ 0 ∨ b ≤ 0) ∧ _ ∧ _ ∧ _ ∧ _ ∧ _))

/-- 楕円の塗りつぶしを、行と列の畳み込みとして書いたもの。 -/
theorem drawEllipse_eq (height width : Nat) (data : ByteArray) (cx cy a b : Float) (v : UInt8) :
    drawEllipse height width data cx cy a b v =
      if a ≤ 0 ∨ b ≤ 0 then data
      else
        (List.range' (Float.toNatSat (Float.maxNum (cy - b).floor 0))
          (Float.toNatSat (Float.clampTo ((cy + b).ceil + 1) 0 (Float.ofNat height)) -
            Float.toNatSat (Float.maxNum (cy - b).floor 0))).foldl
          (fun o row =>
            (List.range' (Float.toNatSat (Float.maxNum (cx - a).floor 0))
              (Float.toNatSat (Float.clampTo ((cx + a).ceil + 1) 0 (Float.ofNat width)) -
                Float.toNatSat (Float.maxNum (cx - a).floor 0))).foldl
              (fun o col =>
                if (Float.ofNat col - cx) / a * ((Float.ofNat col - cx) / a) +
                    (Float.ofNat row - cy) / b * ((Float.ofNat row - cy) / b) ≤ 1 then
                  o.set! (row * width + col) v
                else o) o)
          data := by
  unfold drawEllipse
  simp only [Id.run, Std.Legacy.Range.forIn_eq_forIn_range', Raster.ite_pure_yield,
    List.forIn_pure_yield_eq_foldl, pure_bind, Std.Legacy.Range.size, Nat.add_sub_cancel,
    Nat.div_one, Bool.or_eq_true, decide_eq_true_eq]
  split <;> rfl

theorem drawEllipse_size (height width : Nat) (data : ByteArray) (cx cy a b : Float) (v : UInt8) :
    (drawEllipse height width data cx cy a b v).size = data.size := by
  rw [drawEllipse_eq]
  split
  · rfl
  · exact Raster.foldl_size_of_writes _ (fun row o => Raster.foldl_set!_size _ _ _ _ _) _ _

/-- **楕円の塗る画素。** 大きさ `H × W` の画像の画素 `(row, col)` は、楕円が塗れば `v`、
塗らなければ元の値。 -/
theorem drawEllipse_getElem! {H W : Nat} {data : ByteArray} (hsize : data.size = H * W)
    (hW : W < 2 ^ 53) {row col : Nat} (hrow : row < H) (hcol : col < W) (cx cy a b : Float)
    (v : UInt8) :
    (drawEllipse H W data cx cy a b v)[row * W + col]! =
      if EllipseCovers H W cx cy a b row col then v else data[row * W + col]! := by
  rw [drawEllipse_eq]
  by_cases hab : a ≤ 0 ∨ b ≤ 0
  · rw [if_pos hab, if_neg (fun h => h.1 hab)]
  rw [if_neg hab]
  have hidx := Raster.index_lt hrow hcol
  -- 列の端は幅を超えないので、書く位置から行と列が決まる
  have hc1 : Float.toNatSat (Float.clampTo ((cx + a).ceil + 1) 0 (Float.ofNat W)) ≤ W :=
    Binary64.toNatSat_clampTo_le _ hW
  rw [Raster.foldl_getElem!_of_writes _ _ (fun r o => Raster.foldl_set!_size _ _ _ _ _)
    (fun r o ho => by rw [Raster.foldl_set!_getElem!, ho]) _ data hsize]
  by_cases hcov : EllipseCovers H W cx cy a b row col
  · obtain ⟨-, h0, h1, h2, h3, hin⟩ := hcov
    rw [if_pos ⟨row, List.mem_range'_1.2 ⟨h0, by omega⟩, col, List.mem_range'_1.2 ⟨h2, by omega⟩,
      hin, rfl, hidx⟩, if_pos ⟨hab, h0, h1, h2, h3, hin⟩]
  · rw [if_neg hcov, if_neg]
    rintro ⟨r, hr, c, hc, hin, heq, -⟩
    rw [List.mem_range'_1] at hr hc
    obtain ⟨rfl, rfl⟩ := (Raster.index_eq_iff (by omega) hcol).1 heq
    exact hcov ⟨hab, hr.1, by omega, hc.1, by omega, hin⟩

/-- 原点をそろえた画像 `h × w ⊆ H × W` の中の画素では、楕円が塗るかは画像の大きさによらない。 -/
theorem ellipseCovers_crop {h w H W row col : Nat} (hrow : row < h) (hcol : col < w) (hh : h ≤ H)
    (hw : w ≤ W) (hH : H < 2 ^ 53) (hW : W < 2 ^ 53) (cx cy a b : Float) :
    EllipseCovers h w cx cy a b row col ↔ EllipseCovers H W cx cy a b row col := by
  unfold EllipseCovers
  rw [Binary64.lt_toNatSat_clampTo_iff _ hrow hh hH, Binary64.lt_toNatSat_clampTo_iff _ hcol hw hW]

/-! ## 雑音を足す前の画像 -/

namespace SyntheticCamera

variable (c : SyntheticConfig) (centers : List (Float × Float)) (region : Roi)

/-- 行 `y`（センサーの座標）が流路の壁か：上の壁か下の壁（丸めた位置）から 1 未満。 -/
def IsWallRow (y : Float) : Prop :=
  (y - (c.channelCenterY - c.channelHeight / 2.0).round).abs < 1.0 ∨
    (y - (c.channelCenterY + c.channelHeight / 2.0).round).abs < 1.0

instance (y : Float) : Decidable (IsWallRow c y) := inferInstanceAs (Decidable (_ ∨ _))

/-- 背景の値で埋め、壁の行を塗った領域 `region` の画像。 -/
def walls : ByteArray :=
  (List.range' 0 region.height).foldl
    (fun o row =>
      if IsWallRow c (Float.ofNat region.y + Float.ofNat row) then
        (List.range' 0 region.width).foldl
          (fun o col => o.set! (row * region.width + col) c.wallLevel) o
      else o)
    ⟨Array.replicate (region.height * region.width) c.backgroundLevel⟩

/-- 中心の列 `ps`（センサーの座標）の楕円（半径 `a`、`b`）を、液滴の値で順に描き足す。 -/
def drawAll (ps : List (Float × Float)) (a b : Float) (o : ByteArray) : ByteArray :=
  ps.foldl
    (fun o p => drawEllipse region.height region.width o (p.1 - Float.ofNat region.x)
      (p.2 - Float.ofNat region.y) a b c.dropletLevel) o

/-- 雑音を足す前の領域 `region` の画像：壁を塗った画像に、ごみ、液滴の順に楕円を描く。 -/
def scene : ByteArray :=
  drawAll c region centers c.dropletSemiMajor c.dropletSemiMinor
    (drawAll c region c.debris 2.0 2.0 (walls c region))

/-- 雑音の一歩：画素 `i` に `±noise` の整数の乱数を足して 0 から 255 に収め、乱数を進める。 -/
def noiseStep (s : ByteArray × Random.ChaCha8) (i : Nat) : ByteArray × Random.ChaCha8 :=
  (s.1.set! i (max 0 (min (((s.1[i]?.getD 0).toNat : Int) +
      (s.2.uniformSmallInt (-(c.noise.toNat : Int)) c.noise.toNat).1) 255)).toNat.toUInt8,
    (s.2.uniformSmallInt (-(c.noise.toNat : Int)) c.noise.toNat).2)

/-- 描くことは、雑音を足す前の画像を作り、雑音があれば画素の順に雑音を足すこと。 -/
theorem paint_eq (rng : Random.ChaCha8) :
    paint c centers rng region =
      if 0 < c.noise then
        (List.range' 0 (region.height * region.width)).foldl (noiseStep c) (scene c centers region, rng)
      else (scene c centers region, rng) := by
  unfold paint
  simp only [Id.run, Std.Legacy.Range.forIn_eq_forIn_range', Raster.ite_pure_yield,
    List.forIn_pure_yield_eq_foldl, pure_bind, Std.Legacy.Range.size, Nat.add_sub_cancel,
    Nat.div_one, Bool.or_eq_true, decide_eq_true_eq]
  rfl

/-- 雑音がなければ、描いた画像は雑音を足す前の画像で、乱数は使わない。 -/
theorem paint_of_noise_zero (hn : c.noise = 0) (rng : Random.ChaCha8) :
    paint c centers rng region = (scene c centers region, rng) := by
  rw [paint_eq, hn, if_neg (by decide)]

/-- 雑音を足す前の画素 `(row, col)` の値：ごみか液滴の楕円のどれかが塗れば液滴の値、壁の行なら
壁の値、ほかは背景の値。 -/
def sceneValue (row col : Nat) : UInt8 :=
  if (∃ p ∈ c.debris, EllipseCovers region.height region.width (p.1 - Float.ofNat region.x)
        (p.2 - Float.ofNat region.y) 2.0 2.0 row col) ∨
      (∃ p ∈ centers, EllipseCovers region.height region.width (p.1 - Float.ofNat region.x)
        (p.2 - Float.ofNat region.y) c.dropletSemiMajor c.dropletSemiMinor row col) then
    c.dropletLevel
  else if IsWallRow c (Float.ofNat region.y + Float.ofNat row) then c.wallLevel
  else c.backgroundLevel

/-- 壁の行を塗る一歩は大きさを変えない。 -/
theorem wallRow_size (row : Nat) (o : ByteArray) :
    (if IsWallRow c (Float.ofNat region.y + Float.ofNat row) then
        (List.range' 0 region.width).foldl
          (fun o col => o.set! (row * region.width + col) c.wallLevel) o
      else o).size = o.size := by
  split
  · exact Raster.foldl_size_of_writes _ (fun _ _ => ByteArray.size_set! ..) _ _
  · rfl

theorem walls_size : (walls c region).size = region.height * region.width := by
  unfold walls
  rw [Raster.foldl_size_of_writes _ (wallRow_size c region)]
  exact Raster.size_replicate _ _

theorem drawAll_size (ps : List (Float × Float)) (a b : Float) (o : ByteArray) :
    (drawAll c region ps a b o).size = o.size :=
  Raster.foldl_size_of_writes _ (fun _ _ => drawEllipse_size ..) ps o

theorem scene_size : (scene c centers region).size = region.height * region.width := by
  rw [scene, drawAll_size, drawAll_size, walls_size]

theorem foldl_noiseStep_size (xs : List Nat) (s : ByteArray × Random.ChaCha8) :
    (xs.foldl (noiseStep c) s).1.size = s.1.size := by
  induction xs generalizing s with
  | nil => rfl
  | cons i xs ih => rw [List.foldl_cons, ih, noiseStep, ByteArray.size_set!]

/-- 描いた画像は、雑音があってもなくても領域の画素の数だけある。 -/
theorem paint_size (rng : Random.ChaCha8) :
    (paint c centers rng region).1.size = region.height * region.width := by
  rw [paint_eq]
  split
  · rw [foldl_noiseStep_size]
    exact scene_size c centers region
  · exact scene_size c centers region

variable {region} {row col : Nat}

/-- 壁の行の画素は壁の値、ほかは背景の値。 -/
theorem walls_getElem! (hrow : row < region.height) (hcol : col < region.width) :
    (walls c region)[row * region.width + col]! =
      if IsWallRow c (Float.ofNat region.y + Float.ofNat row) then c.wallLevel
      else c.backgroundLevel := by
  have hidx := Raster.index_lt hrow hcol
  unfold walls
  rw [Raster.foldl_getElem!_of_writes (N := region.height * region.width) _
    (fun r => IsWallRow c (Float.ofNat region.y + Float.ofNat r) ∧
      ∃ col' ∈ List.range' 0 region.width, r * region.width + col' = row * region.width + col ∧
        row * region.width + col < region.height * region.width)
    (wallRow_size c region)
    (fun r o ho => by
      split
      · rename_i hr
        rw [Raster.foldl_set!_all_getElem!, ho]
        exact if_congr (by simp only [hr, true_and]) rfl rfl
      · rename_i hr
        rw [if_neg (fun h => hr h.1)])
    _ _ (Raster.size_replicate _ _)]
  rw [Raster.getElem!_replicate _ _ hidx]
  by_cases hw : IsWallRow c (Float.ofNat region.y + Float.ofNat row)
  · rw [if_pos ⟨row, List.mem_range'_1.2 ⟨Nat.zero_le _, by omega⟩, hw,
      col, List.mem_range'_1.2 ⟨Nat.zero_le _, by omega⟩, rfl, hidx⟩, if_pos hw]
  · rw [if_neg hw, if_neg]
    rintro ⟨r, -, hr, c', hc', heq, -⟩
    rw [List.mem_range'_1] at hc'
    obtain ⟨rfl, -⟩ := (Raster.index_eq_iff (by omega) hcol).1 heq
    exact hw hr

/-- 楕円を描き足した画素は、どれかの楕円が塗れば液滴の値、どれも塗らなければ元の値。 -/
theorem drawAll_getElem! (hW : region.width < 2 ^ 53) (hrow : row < region.height)
    (hcol : col < region.width) (ps : List (Float × Float)) (a b : Float) {o : ByteArray}
    (ho : o.size = region.height * region.width) :
    (drawAll c region ps a b o)[row * region.width + col]! =
      if ∃ p ∈ ps, EllipseCovers region.height region.width (p.1 - Float.ofNat region.x)
          (p.2 - Float.ofNat region.y) a b row col then c.dropletLevel
      else o[row * region.width + col]! := by
  unfold drawAll
  -- 一つの楕円の塗る画素を先に書いておくと、畳み込みの補題の高階の単一化が軽くなる
  have hg : ∀ (p : Float × Float) (o' : ByteArray), o'.size = region.height * region.width →
      (drawEllipse region.height region.width o' (p.1 - Float.ofNat region.x)
        (p.2 - Float.ofNat region.y) a b c.dropletLevel)[row * region.width + col]! =
      if EllipseCovers region.height region.width (p.1 - Float.ofNat region.x)
          (p.2 - Float.ofNat region.y) a b row col then c.dropletLevel
        else o'[row * region.width + col]! := fun _ _ ho' =>
    drawEllipse_getElem! ho' hW hrow hcol _ _ _ _ _
  exact Raster.foldl_getElem!_of_writes _ _ (fun _ _ => drawEllipse_size ..) hg ps o ho

/-- **雑音を足す前の画素。** 領域の中の画素 `(row, col)` の値は `sceneValue`。どの楕円も同じ値で
塗るので、描く順は効かない。 -/
theorem scene_getElem! (hW : region.width < 2 ^ 53) (hrow : row < region.height)
    (hcol : col < region.width) :
    (scene c centers region)[row * region.width + col]! = sceneValue c centers region row col := by
  rw [scene, drawAll_getElem! c hW hrow hcol _ _ _ (by rw [drawAll_size, walls_size]),
    drawAll_getElem! c hW hrow hcol _ _ _ (walls_size c region), walls_getElem! c hrow hcol,
    sceneValue]
  -- 液滴、ごみ、壁の順に、上に描いたものから見る
  by_cases hc : ∃ p ∈ centers, EllipseCovers region.height region.width
      (p.1 - Float.ofNat region.x) (p.2 - Float.ofNat region.y) c.dropletSemiMajor
      c.dropletSemiMinor row col
  · rw [if_pos hc, if_pos (Or.inr hc)]
  · rw [if_neg hc]
    by_cases hd : ∃ p ∈ c.debris, EllipseCovers region.height region.width
        (p.1 - Float.ofNat region.x) (p.2 - Float.ofNat region.y) 2.0 2.0 row col
    · rw [if_pos hd, if_pos (Or.inl hd)]
    · rw [if_neg hd, if_neg (not_or.2 ⟨hd, hc⟩)]

/-- 位置をそろえた領域 `r ⊆ R` では、`r` の中の画素の値は `R` の同じ画素の値と同じ。 -/
theorem sceneValue_crop {r R : Roi} (hx : r.x = R.x) (hy : r.y = R.y) (hw : r.width ≤ R.width)
    (hh : r.height ≤ R.height) (hW : R.width < 2 ^ 53) (hH : R.height < 2 ^ 53)
    (hrow : row < r.height) (hcol : col < r.width) :
    sceneValue c centers r row col = sceneValue c centers R row col := by
  unfold sceneValue
  simp only [hx, hy, ellipseCovers_crop hrow hcol hh hw hH hW]

/-- 原点から始まる領域の画像の画素は、センサー全体（`H × W`）の画像の同じ位置の画素。 -/
theorem scene_getElem!_of_origin {r : Roi} {W H : Nat} (hx : r.x = 0) (hy : r.y = 0)
    (hw : r.width ≤ W) (hh : r.height ≤ H) (hW : W < 2 ^ 53) (hH : H < 2 ^ 53)
    (hrow : row < r.height) (hcol : col < r.width) :
    (scene c centers r)[row * r.width + col]! = (scene c centers ⟨0, 0, W, H⟩)[row * W + col]! := by
  have hrow' : row < (⟨0, 0, W, H⟩ : Roi).height := Nat.lt_of_lt_of_le hrow hh
  have hcol' : col < (⟨0, 0, W, H⟩ : Roi).width := Nat.lt_of_lt_of_le hcol hw
  rw [scene_getElem! c centers (Nat.lt_of_le_of_lt hw hW) hrow hcol,
    scene_getElem! c centers hW hrow' hcol']
  exact sceneValue_crop c centers hx hy hw hh hW hH hrow hcol

end SyntheticCamera

end DropletVision
