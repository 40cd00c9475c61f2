import Mathlib
import DropletVision.Proofs.Config.ProfileDocument

/-!
# 設定の節は、文書の形にも組の並びにもキーの綴りにもよらない

設定の節（キーと値の組の列）を設定として読む `readFields .config` について。

* **形。** 平らな文書 `S` と、`S` を `droplet_detection` の表に入れた入れ子の文書は、
  同じ結果を返す。平らな形は根から `modules` の表を落とし、入れ子の形は節の中の `modules` を
  残すが、設定として読むときは知らないキーを読み飛ばす（`readFields_eraseField`）。
* **並び。** 節の組をどう並べ替えても、読みは、どちらも同じ設定を返すか、どちらも誤りになる
  （`readFields_perm`）。誤りの文言は、最初に誤りを見つけた組による。
* **綴り。** 古い綴りのキーを今の綴りに変えても、核の大きさ `n` を `[n, n]` に変えても、
  読みは変わらない。正方形でない組はいつも拒まれる。

主定理は `profile_shapes_and_spellings_agree`。

並べ替えの証明は二段からなる。一つの組を読むことは、その規則の欄だけを持つ差分を読み、
それを今の更新に重ねることに分かれる（`applyRule_config_eq`）。違う欄の差分は重ねる順に
よらないので（`ConfigPatch.merge_restrictTo_comm`）、隣り合う二つの組を入れ替えても
読みは同じ状態に着く（`readField_swap`）。状態のうち読んだ欄の名前の列は、並びは違っても
同じ名前を持つ（`SameRead`）。

JSON のオブジェクトはキーの辞書順に並ぶので、綴りを変えたキーは節の別の位置に入る。
綴りの定理を並べ替えの定理を通して述べるのはそのためである。
-/

namespace DropletVision

open Json

/-! ## 差分を重ねる -/

namespace ConfigPatch

/-- `d` の指定を `p` に重ねる：欄ごとに、`d` に指定があればそれ、無ければ `p` の指定。 -/
def merge (d p : ConfigPatch) : ConfigPatch where
  backgroundMethod := d.backgroundMethod.or p.backgroundMethod
  backgroundFrames := d.backgroundFrames.or p.backgroundFrames
  blurKernelSize := d.blurKernelSize.or p.blurKernelSize
  thresholdMethod := d.thresholdMethod.or p.thresholdMethod
  adaptiveBlockSize := d.adaptiveBlockSize.or p.adaptiveBlockSize
  adaptiveC := d.adaptiveC.or p.adaptiveC
  morphKernelSize := d.morphKernelSize.or p.morphKernelSize
  morphOperation := d.morphOperation.or p.morphOperation
  minArea := d.minArea.or p.minArea
  maxArea := d.maxArea.or p.maxArea
  minAspectRatio := d.minAspectRatio.or p.minAspectRatio
  maxAspectRatio := d.maxAspectRatio.or p.maxAspectRatio
  channelBand := d.channelBand.or p.channelBand
  clearChannelBand := d.clearChannelBand.or p.clearChannelBand
  channelBandMargin := d.channelBandMargin.or p.channelBandMargin
  minMotion := d.minMotion.or p.minMotion
  maxPerpDrift := d.maxPerpDrift.or p.maxPerpDrift
  acceptEntering := d.acceptEntering.or p.acceptEntering
  useFrameDiff := d.useFrameDiff.or p.useFrameDiff
  frameDiffThreshold := d.frameDiffThreshold.or p.frameDiffThreshold
  minContourPoints := d.minContourPoints.or p.minContourPoints
  histogramWindowSize := d.histogramWindowSize.or p.histogramWindowSize
  histogramBins := d.histogramBins.or p.histogramBins
  rawLogCapacity := d.rawLogCapacity.or p.rawLogCapacity
  umPerPx := d.umPerPx.or p.umPerPx
  radiusOffsetPx := d.radiusOffsetPx.or p.radiusOffsetPx

/-- 名前 `n` の欄（欄の名前は読み方の表の規則の名前）の指定だけを残す。 -/
def restrictTo (n : String) (d : ConfigPatch) : ConfigPatch where
  backgroundMethod := if n = "background_method" then d.backgroundMethod else none
  backgroundFrames := if n = "background_frames" then d.backgroundFrames else none
  blurKernelSize := if n = "blur_kernel_size" then d.blurKernelSize else none
  thresholdMethod := if n = "threshold_method" then d.thresholdMethod else none
  adaptiveBlockSize := if n = "adaptive_block_size" then d.adaptiveBlockSize else none
  adaptiveC := if n = "adaptive_c" then d.adaptiveC else none
  morphKernelSize := if n = "morph_kernel_size" then d.morphKernelSize else none
  morphOperation := if n = "morph_operation" then d.morphOperation else none
  minArea := if n = "min_area" then d.minArea else none
  maxArea := if n = "max_area" then d.maxArea else none
  minAspectRatio := if n = "min_aspect_ratio" then d.minAspectRatio else none
  maxAspectRatio := if n = "max_aspect_ratio" then d.maxAspectRatio else none
  channelBand := if n = "channel_band" then d.channelBand else none
  clearChannelBand := if n = "clear_channel_band" then d.clearChannelBand else none
  channelBandMargin := if n = "channel_band_margin" then d.channelBandMargin else none
  minMotion := if n = "min_motion" then d.minMotion else none
  maxPerpDrift := if n = "max_perp_drift" then d.maxPerpDrift else none
  acceptEntering := if n = "accept_entering" then d.acceptEntering else none
  useFrameDiff := if n = "use_frame_diff" then d.useFrameDiff else none
  frameDiffThreshold := if n = "frame_diff_threshold" then d.frameDiffThreshold else none
  minContourPoints := if n = "min_contour_points" then d.minContourPoints else none
  histogramWindowSize := if n = "histogram_window_size" then d.histogramWindowSize else none
  histogramBins := if n = "histogram_bins" then d.histogramBins else none
  rawLogCapacity := if n = "raw_log_capacity" then d.rawLogCapacity else none
  umPerPx := if n = "um_per_px" then d.umPerPx else none
  radiusOffsetPx := if n = "radius_offset_px" then d.radiusOffsetPx else none

/-- 違う名前の欄に残した二つの指定は、一つの欄ではどちらかが無い。 -/
theorem or_restricted_comm {α : Type} {n₁ n₂ : String} (h : n₁ ≠ n₂) (s : String)
    (a b c : Option α) :
    (if n₁ = s then a else none).or ((if n₂ = s then b else none).or c) =
      (if n₂ = s then b else none).or ((if n₁ = s then a else none).or c) := by
  by_cases h₁ : n₁ = s <;> by_cases h₂ : n₂ = s
  · exact absurd (h₁.trans h₂.symm) h
  all_goals simp [h₁, h₂]

/-- 違う欄の差分は、重ねる順によらない。 -/
theorem merge_restrictTo_comm {n₁ n₂ : String} (h : n₁ ≠ n₂) (d e p : ConfigPatch) :
    (d.restrictTo n₁).merge ((e.restrictTo n₂).merge p) =
      (e.restrictTo n₂).merge ((d.restrictTo n₁).merge p) := by
  simp only [merge, restrictTo, mk.injEq]
  and_intros <;> exact or_restricted_comm h _ _ _ _

/-- 何も指定しない差分を重ねても変わらない。 -/
@[simp] theorem merge_restrictTo_empty (n : String) (p : ConfigPatch) :
    (({} : ConfigPatch).restrictTo n).merge p = p := by
  cases p
  simp only [merge, restrictTo, ite_self, Option.none_or]

end ConfigPatch

/-! ## 一つの組を読むことは、差分を読んで重ねること -/

theorem Except.bind_pure_map {α : Type} (x : Read α) (f : α → ConfigPatch)
    (g : ConfigPatch → ConfigPatch) :
    (x >>= fun a => pure (f a)).map g = x >>= fun a => pure (g (f a)) := by
  cases x <;> rfl

theorem Except.bind_ok {ε α : Type} (x : Except ε α) : (x >>= fun a => .ok a) = x := by
  cases x <;> rfl

@[simp] theorem Except.map_ok_bind {ε α β γ : Type} (a : α) (f : α → β) (g : β → Except ε γ) :
    (Except.map f (.ok a) >>= g) = g (f a) :=
  rfl

@[simp] theorem Except.map_error_bind {ε α β γ : Type} (e : ε) (f : α → β) (g : β → Except ε γ) :
    (Except.map f (.error e) >>= g) = .error e :=
  rfl

@[simp] theorem ReadMode.config_beq_patch : (ReadMode.config == ReadMode.patch) = false := rfl

/-- どの規則も、値を読んで自分の欄だけを指定する差分を作り、それを今の更新に重ねる。 -/
theorem FieldRule.set_eq_merge {r : FieldRule} (hr : r ∈ rulesFor .config) (v : Json)
    (p : ConfigPatch) : r.set v p = (r.set v {}).map (fun d => (d.restrictTo r.name).merge p) := by
  revert v p
  revert r
  simp only [rulesFor, fieldRules, List.filter, List.forall_mem_cons, List.not_mem_nil,
    false_implies, implies_true, and_true]
  -- 規則ごとに、値を読んだ後の更新の作り方が差分を重ねることと一致する
  and_intros
  all_goals
    intro v p
    rw [Except.bind_pure_map]
    congr 1

/-- 設定として読むとき、一つの値を欄に入れることは、差分を読んで重ねること。帯の `null` は
何も指定しない差分。 -/
theorem applyRule_config_eq {r : FieldRule} (hr : r ∈ rulesFor .config) (v : Json)
    (p : ConfigPatch) :
    applyRule .config r v p =
      (applyRule .config r v {}).map (fun d => (d.restrictTo r.name).merge p) := by
  unfold applyRule
  split
  · simp only [Except.map, ConfigPatch.merge_restrictTo_empty]
  · exact r.set_eq_merge hr v p

/-- 差分が読めれば、値を欄に入れることはその差分を重ねること。 -/
theorem applyRule_of_delta {r : FieldRule} (hr : r ∈ rulesFor .config) {v : Json} {d : ConfigPatch}
    (hd : applyRule .config r v {} = .ok d) (p : ConfigPatch) :
    applyRule .config r v p = .ok ((d.restrictTo r.name).merge p) := by
  rw [applyRule_config_eq hr, hd]
  rfl

/-- 差分が読めなければ、どの更新に入れても同じ誤り。 -/
theorem applyRule_of_delta_error {r : FieldRule} (hr : r ∈ rulesFor .config) {v : Json}
    {e : String} (hd : applyRule .config r v {} = .error e) (p : ConfigPatch) :
    applyRule .config r v p = .error e := by
  rw [applyRule_config_eq hr, hd]
  rfl

/-! ## 一つの組を読む -/

/-- 設定として読むとき、キー `k` を受け持つ規則（名前か別名が `k` の最初の規則）。 -/
def configRule (k : String) : Option FieldRule :=
  (rulesFor .config).find? (fun r => r.name == k || r.aliases.contains k)

section ReadField

variable {k : String} {r : FieldRule} {p : ConfigPatch} {seen : List String} {v : Json}

theorem mem_of_configRule (h : configRule k = some r) : r ∈ rulesFor .config :=
  List.mem_of_find?_eq_some h

/-- 受け持つ規則の無いキーは読み飛ばす。 -/
theorem readField_of_unknown (h : configRule k = none) (σ : ConfigPatch × List String) (v : Json) :
    readField .config σ (k, v) = .ok σ := by
  simp only [readField]
  rw [show (rulesFor .config).find? _ = none from h]
  rfl

/-- もう読んだ欄のキーは、二度目として拒む。 -/
theorem readField_of_seen (h : configRule k = some r) (hs : r.name ∈ seen) :
    ∃ e, readField .config (p, seen) (k, v) = .error e := by
  simp only [readField]
  rw [show (rulesFor .config).find? _ = some r from h]
  exact ⟨_, if_pos (List.elem_iff.mpr hs)⟩

/-- まだ読んでいない欄のキーは、その規則で値を読み、欄の名前を覚える。 -/
theorem readField_of_fresh (h : configRule k = some r) (hs : r.name ∉ seen) :
    readField .config (p, seen) (k, v) =
      (applyRule .config r v p).map (fun p' => (p', r.name :: seen)) :=
  readField_of_find h hs

/-- 読んだ欄の名前は、組を読むたびに増えるだけ。 -/
theorem readField_seen_mono {σ σ' : ConfigPatch × List String} {e : String × Json}
    (h : readField .config σ e = .ok σ') {n : String} (hn : n ∈ σ.2) : n ∈ σ'.2 := by
  obtain ⟨p, seen⟩ := σ
  obtain ⟨k, v⟩ := e
  cases hr : configRule k with
  | none =>
    rw [readField_of_unknown hr] at h
    cases h
    exact hn
  | some r =>
    by_cases hs : r.name ∈ seen
    · obtain ⟨e, he⟩ := readField_of_seen (p := p) (v := v) hr hs
      rw [he] at h
      cases h
    · rw [readField_of_fresh hr hs] at h
      cases ha : applyRule .config r v p with
      | error e => rw [ha] at h; cases h
      | ok p' =>
        rw [ha] at h
        cases h
        exact List.mem_cons_of_mem _ hn

end ReadField

/-! ## 読みの状態と結果を比べる -/

/-- 読みの途中の二つの状態が同じ：読んだ更新が同じで、読んだ欄の名前の集まりが同じ。 -/
def SameRead (σ τ : ConfigPatch × List String) : Prop :=
  σ.1 = τ.1 ∧ ∀ n, n ∈ σ.2 ↔ n ∈ τ.2

theorem SameRead.refl (σ : ConfigPatch × List String) : SameRead σ σ :=
  ⟨rfl, fun _ => Iff.rfl⟩

theorem SameRead.trans {σ τ υ : ConfigPatch × List String} (h₁ : SameRead σ τ)
    (h₂ : SameRead τ υ) : SameRead σ υ :=
  ⟨h₁.1.trans h₂.1, fun n => (h₁.2 n).trans (h₂.2 n)⟩

/-- 二つの読みの結果が、どちらも誤りか、どちらも同じ状態に着く。 -/
inductive Agree : Read (ConfigPatch × List String) → Read (ConfigPatch × List String) → Prop
  | error (e e' : String) : Agree (.error e) (.error e')
  | ok {σ τ : ConfigPatch × List String} : SameRead σ τ → Agree (.ok σ) (.ok τ)

theorem Agree.bind {x y : Read (ConfigPatch × List String)}
    {f g : ConfigPatch × List String → Read (ConfigPatch × List String)} (h : Agree x y)
    (hfg : ∀ σ τ, SameRead σ τ → Agree (f σ) (g τ)) : Agree (x >>= f) (y >>= g) := by
  cases h with
  | error e e' => exact .error e e'
  | ok h => exact hfg _ _ h

theorem Agree.trans {x y z : Read (ConfigPatch × List String)} (h₁ : Agree x y) (h₂ : Agree y z) :
    Agree x z := by
  cases h₁ with
  | error e _ => cases h₂ with | error _ e' => exact .error e e'
  | ok h => cases h₂ with | ok h' => exact .ok (h.trans h')

/-- 同じ状態から同じ組を読めば、同じところに着く。 -/
theorem readField_congr {σ τ : ConfigPatch × List String} (h : SameRead σ τ) (e : String × Json) :
    Agree (readField .config σ e) (readField .config τ e) := by
  obtain ⟨p, s⟩ := σ
  obtain ⟨q, t⟩ := τ
  obtain ⟨hpq, hst⟩ := h
  dsimp only at hpq hst
  subst hpq
  obtain ⟨k, v⟩ := e
  cases hr : configRule k with
  | none =>
    rw [readField_of_unknown hr, readField_of_unknown hr]
    exact .ok ⟨rfl, hst⟩
  | some r =>
    by_cases hs : r.name ∈ s
    · obtain ⟨e, he⟩ := readField_of_seen (p := p) (v := v) hr hs
      obtain ⟨e', he'⟩ := readField_of_seen (p := p) (v := v) hr ((hst _).1 hs)
      rw [he, he']
      exact .error e e'
    · have ht : r.name ∉ t := fun h => hs ((hst _).2 h)
      rw [readField_of_fresh hr hs, readField_of_fresh hr ht]
      cases applyRule .config r v p with
      | error e => exact .error e e
      | ok p' => exact .ok ⟨rfl, fun n => by simp [hst n]⟩

/-- 状態 `σ` で読んだ欄のキーを、`σ` から別の組を一つ読んだ後に読めば誤り。 -/
theorem readField_error_after {σ σ₁ : ConfigPatch × List String} {k : String} {r : FieldRule}
    (hr : configRule k = some r) (hs : r.name ∈ σ.2) {b : String × Json}
    (hb : readField .config σ b = .ok σ₁) (v : Json) :
    ∃ e, readField .config σ₁ (k, v) = .error e := by
  obtain ⟨p₁, s₁⟩ := σ₁
  exact readField_of_seen hr (readField_seen_mono hb hs)

/-- 一つ目の組を読んだ後の誤りは、二つ目の組の結果によらず誤り。 -/
theorem Agree.error_of_error_after {σ : ConfigPatch × List String} {e : String}
    {b : String × Json}
    {g : ConfigPatch × List String → Read (ConfigPatch × List String)}
    (hg : ∀ σ₁, readField .config σ b = .ok σ₁ → ∃ e', g σ₁ = .error e') :
    Agree (.error e) (readField .config σ b >>= g) := by
  cases hb : readField .config σ b with
  | error e' => exact .error e e'
  | ok σ₁ =>
    obtain ⟨e', he'⟩ := hg σ₁ hb
    show Agree (.error e) (g σ₁)
    rw [he']
    exact .error e e'

/-- まだ読んでいない二つの欄のキーの組は、どちらの順に読んでも同じところに着く。 -/
theorem readField_swap_fresh {p : ConfigPatch} {s t : List String} (hst : ∀ n, n ∈ s ↔ n ∈ t)
    {ka kb : String} {ra rb : FieldRule} (ha : configRule ka = some ra)
    (hb : configRule kb = some rb) (hsa : ra.name ∉ s) (hsb : rb.name ∉ s) (va vb : Json) :
    Agree (readField .config (p, s) (ka, va) >>= fun σ₁ => readField .config σ₁ (kb, vb))
      (readField .config (p, t) (kb, vb) >>= fun τ₁ => readField .config τ₁ (ka, va)) := by
  have hta : ra.name ∉ t := fun h => hsa ((hst _).2 h)
  have htb : rb.name ∉ t := fun h => hsb ((hst _).2 h)
  have hra := mem_of_configRule ha
  have hrb := mem_of_configRule hb
  rw [readField_of_fresh ha hsa, readField_of_fresh hb htb]
  by_cases hn : ra.name = rb.name
  · -- 二つのキーが同じ欄を指せば、どちらの順でも二つ目が二度目として拒まれる
    have hb₁ : rb.name ∈ ra.name :: s := by rw [hn]; exact List.mem_cons_self
    have ha₁ : ra.name ∈ rb.name :: t := by rw [hn]; exact List.mem_cons_self
    have hleft : ∃ e, ((applyRule .config ra va p).map (fun p' => (p', ra.name :: s)) >>=
        fun σ₁ => readField .config σ₁ (kb, vb)) = .error e := by
      cases applyRule .config ra va p with
      | error e => exact ⟨e, rfl⟩
      | ok p₁ => exact readField_of_seen hb hb₁
    have hright : ∃ e, ((applyRule .config rb vb p).map (fun p' => (p', rb.name :: t)) >>=
        fun τ₁ => readField .config τ₁ (ka, va)) = .error e := by
      cases applyRule .config rb vb p with
      | error e => exact ⟨e, rfl⟩
      | ok p₂ => exact readField_of_seen ha ha₁
    obtain ⟨e, he⟩ := hleft
    obtain ⟨e', he'⟩ := hright
    rw [he, he']
    exact .error e e'
  · -- 違う欄なら、差分を読んで重ねる順を入れ替える
    have hsb' : rb.name ∉ ra.name :: s := by simp [Ne.symm hn, hsb]
    have hta' : ra.name ∉ rb.name :: t := by simp [hn, hta]
    cases hx : applyRule .config ra va {} with
    | error e =>
      rw [applyRule_of_delta_error hra hx]
      cases hy : applyRule .config rb vb {} with
      | error e' =>
        rw [applyRule_of_delta_error hrb hy]
        exact .error e e'
      | ok d₂ =>
        rw [applyRule_of_delta hrb hy, Except.map_error_bind, Except.map_ok_bind,
          readField_of_fresh ha hta', applyRule_of_delta_error hra hx]
        exact .error e e
    | ok d₁ =>
      rw [applyRule_of_delta hra hx]
      cases hy : applyRule .config rb vb {} with
      | error e' =>
        rw [applyRule_of_delta_error hrb hy, Except.map_error_bind, Except.map_ok_bind,
          readField_of_fresh hb hsb', applyRule_of_delta_error hrb hy]
        exact .error e' e'
      | ok d₂ =>
        rw [applyRule_of_delta hrb hy, Except.map_ok_bind, Except.map_ok_bind,
          readField_of_fresh hb hsb', readField_of_fresh ha hta', applyRule_of_delta hrb hy,
          applyRule_of_delta hra hx]
        refine .ok ⟨ConfigPatch.merge_restrictTo_comm (Ne.symm hn) _ _ _, fun n => ?_⟩
        simp only [List.mem_cons, hst n]
        exact or_left_comm

/-- **入れ替え。** 隣り合う二つの組は、どちらの順に読んでも同じところに着く。 -/
theorem readField_swap {σ τ : ConfigPatch × List String} (h : SameRead σ τ)
    (a b : String × Json) :
    Agree (readField .config σ a >>= fun σ₁ => readField .config σ₁ b)
      (readField .config τ b >>= fun τ₁ => readField .config τ₁ a) := by
  obtain ⟨p, s⟩ := σ
  obtain ⟨q, t⟩ := τ
  obtain ⟨hpq, hst⟩ := h
  dsimp only at hpq hst
  subst hpq
  obtain ⟨ka, va⟩ := a
  obtain ⟨kb, vb⟩ := b
  have hsame : SameRead (p, s) (p, t) := ⟨rfl, hst⟩
  cases ha : configRule ka with
  | none =>
    -- 読み飛ばすキーは、どこで読んでも状態を変えない
    simp only [readField_of_unknown ha, Except.ok_bind, Except.bind_ok]
    exact readField_congr hsame _
  | some ra =>
    cases hb : configRule kb with
    | none =>
      simp only [readField_of_unknown hb, Except.ok_bind, Except.bind_ok]
      exact readField_congr hsame _
    | some rb =>
      by_cases hsa : ra.name ∈ s
      · -- `a` の欄はもう読んだので、`a` はどちらの順でも誤り
        obtain ⟨e, he⟩ := readField_of_seen (p := p) (v := va) ha hsa
        rw [he]
        exact Agree.error_of_error_after fun τ₁ h₁ =>
          readField_error_after ha ((hst _).1 hsa) h₁ va
      · by_cases hsb : rb.name ∈ s
        · obtain ⟨e, he⟩ := readField_of_seen (p := p) (v := vb) hb ((hst _).1 hsb)
          rw [he]
          cases hx : readField .config (p, s) (ka, va) with
          | error e' => exact .error e' e
          | ok σ₁ =>
            obtain ⟨e', he'⟩ := readField_error_after hb hsb hx vb
            show Agree (readField .config σ₁ (kb, vb)) _
            rw [he']
            exact .error e' e
        · exact readField_swap_fresh hst ha hb hsa hsb va vb

/-! ## 節を読む -/

/-- 同じ状態から同じ組の列を読めば、同じところに着く。 -/
theorem foldlM_readField_congr (l : List (String × Json)) :
    ∀ {σ τ : ConfigPatch × List String}, SameRead σ τ →
      Agree (l.foldlM (readField .config) σ) (l.foldlM (readField .config) τ) := by
  induction l with
  | nil => exact fun h => .ok h
  | cons e l ih =>
    intro σ τ h
    simp only [List.foldlM_cons]
    exact (readField_congr h e).bind fun _ _ h' => ih h'

/-- **並べ替え。** 並べ替えた組の列は、同じところに着く。 -/
theorem foldlM_readField_perm {l l' : List (String × Json)} (hp : l.Perm l') :
    ∀ {σ τ : ConfigPatch × List String}, SameRead σ τ →
      Agree (l.foldlM (readField .config) σ) (l'.foldlM (readField .config) τ) := by
  induction hp with
  | nil => exact fun h => .ok h
  | cons e _ ih =>
    intro σ τ h
    simp only [List.foldlM_cons]
    exact (readField_congr h e).bind fun _ _ h' => ih h'
  | swap a b l =>
    intro σ τ h
    simp only [List.foldlM_cons]
    rw [← bind_assoc, ← bind_assoc]
    exact (readField_swap h b a).bind fun _ _ h' => foldlM_readField_congr l h'
  | trans _ _ ih₁ ih₂ => exact fun h => (ih₁ h).trans (ih₂ (SameRead.refl _))

/-- 節の組をどう並べ替えても、どちらも同じ更新を読むか、どちらも誤り。 -/
theorem readFields_perm {l l' : List (String × Json)} (hp : l.Perm l') :
    (readFields .config l).toOption = (readFields .config l').toOption := by
  have hag := foldlM_readField_perm hp (SameRead.refl ({}, []))
  unfold readFields
  generalize List.foldlM (readField .config) ({}, []) l = x at hag ⊢
  generalize List.foldlM (readField .config) ({}, []) l' = y at hag ⊢
  cases hag with
  | error e e' => rfl
  | ok h => exact congrArg some h.1

/-- 受け持つ規則の無いキーの組を除いても、読みは変わらない。 -/
theorem foldlM_readField_eraseField {k : String} (hk : configRule k = none)
    (l : List (String × Json)) (σ : ConfigPatch × List String) :
    (eraseField l k).foldlM (readField .config) σ = l.foldlM (readField .config) σ := by
  induction l generalizing σ with
  | nil => rfl
  | cons e l ih =>
    obtain ⟨k', v⟩ := e
    by_cases he : k' = k
    · subst he
      simp only [eraseField, List.filter_cons, bne_self_eq_false, Bool.false_eq_true, if_false,
        List.foldlM_cons, readField_of_unknown hk, Except.ok_bind]
      exact ih σ
    · simp only [eraseField, List.filter_cons, bne_iff_ne, ne_eq, he, not_false_eq_true, if_true,
        List.foldlM_cons]
      congr 1
      funext σ₁
      exact ih σ₁

theorem readFields_eraseField {k : String} (hk : configRule k = none) (l : List (String × Json)) :
    readFields .config (eraseField l k) = readFields .config l := by
  unfold readFields
  rw [foldlM_readField_eraseField hk]

/-- 節の読みが同じなら、節からの設定も同じ。 -/
theorem configOfSection_congr {l l' : List (String × Json)}
    (h : readFields .config l = readFields .config l') : configOfSection l = configOfSection l' := by
  simp only [configOfSection, DetectionConfig.ofJson, readDocument, h]

/-- 節が読めなければ、設定は読み取りの誤り。 -/
theorem configOfSection_of_readFields_error {l : List (String × Json)} {e : String}
    (h : readFields .config l = .error e) :
    configOfSection l = .error (.invalidConfig [s!"malformed profile: {e}"]) := by
  simp [configOfSection, DetectionConfig.ofJson, readDocument, h, Except.map, Except.mapError,
    bind, Except.bind]

/-- 節の読みが、どちらも同じ更新を読むかどちらも誤りなら、節からの設定も同じか、どちらも誤り。 -/
theorem configOfSection_toOption {l l' : List (String × Json)}
    (h : (readFields .config l).toOption = (readFields .config l').toOption) :
    (configOfSection l).toOption = (configOfSection l').toOption := by
  cases hl : readFields .config l with
  | error e =>
    cases hl' : readFields .config l' with
    | error e' => simp [configOfSection, DetectionConfig.ofJson, readDocument, hl, hl',
        Except.map, Except.mapError, bind, Except.bind, Except.toOption]
    | ok p' => rw [hl, hl'] at h; cases h
  | ok p =>
    cases hl' : readFields .config l' with
    | error e' => rw [hl, hl'] at h; cases h
    | ok p' =>
      rw [hl, hl'] at h
      cases h
      exact congrArg _ (configOfSection_congr (hl.trans hl'.symm))

/-! ## 形と綴り -/

/-- キー `old` を `new` に書き換える（位置はそのまま）。 -/
def renameKey (old new : String) (l : List (String × Json)) : List (String × Json) :=
  l.map fun e => if e.1 = old then (new, e.2) else e

/-- 数 `n` を組 `[n, n]` に書き換える。ほかの値はそのまま。 -/
def squarePair : Json → Json
  | .num x => .arr [.num x, .num x]
  | v => v

/-- キー `key` の値の数 `n` を `[n, n]` に書き換える。 -/
def squareKernel (key : String) (l : List (String × Json)) : List (String × Json) :=
  l.map fun e => if e.1 = key then (e.1, squarePair e.2) else e

/-- 古い綴りと今の綴り。 -/
def aliasSpellings : List (String × String) :=
  [("pixel_ratio", "um_per_px"), ("gaussian_blur_kernel", "blur_kernel_size"),
    ("adaptive_C", "adaptive_c")]

/-- 核の大きさのキー。 -/
def kernelKeys : List String := ["blur_kernel_size", "gaussian_blur_kernel", "morph_kernel_size"]

theorem configRule_modules : configRule "modules" = none := by
  simp [configRule, rulesFor, fieldRules]

/-- 古い綴りは今の綴りと同じ規則に当たる。 -/
theorem configRule_alias {old new : String} (h : (old, new) ∈ aliasSpellings) :
    configRule old = configRule new := by
  simp only [aliasSpellings, List.mem_cons, Prod.mk.injEq, List.not_mem_nil, or_false] at h
  rcases h with ⟨rfl, rfl⟩ | ⟨rfl, rfl⟩ | ⟨rfl, rfl⟩ <;>
    simp [configRule, rulesFor, fieldRules]

/-- 数 `n` と組 `[n, n]` は、核の大きさとして同じに読む。 -/
@[simp] theorem readKernelSize_square (x : Number) :
    readKernelSize (.arr [.num x, .num x]) = readKernelSize (.num x) := by
  cases x <;> simp [readKernelSize]

/-- 核の大きさのキーでは、数 `n` も `[n, n]` も同じに読む。 -/
theorem readField_squarePair {key : String} (hk : key ∈ kernelKeys) (σ : ConfigPatch × List String)
    (v : Json) : readField .config σ (key, squarePair v) = readField .config σ (key, v) := by
  cases v with
  | num x =>
    -- 数だけが書き換わり、核の大きさの規則は数も組も `readKernelSize` で読む
    obtain ⟨p, seen⟩ := σ
    simp only [kernelKeys, List.mem_cons, List.not_mem_nil, or_false] at hk
    rcases hk with rfl | rfl | rfl <;>
      simp [readField, rulesFor, fieldRules, applyRule, squarePair, Json.isNull]
  | _ => rfl

/-- 正方形でない組は、核の大きさとして読めない。 -/
theorem readKernelSize_non_square {h w : Nat} (hw : h ≠ w) :
    ∃ e, readKernelSize (.arr [.num (.nat h), .num (.nat w)]) = .error e := by
  simp only [readKernelSize]
  split
  · split
    · rename_i heq
      exact absurd (beq_iff_eq.mp heq) hw
    · exact ⟨_, rfl⟩
  · exact ⟨_, rfl⟩

/-- 正方形でない組を値に持つ核の大きさのキーがあれば、節の読みは誤り。 -/
theorem readFields_non_square {key : String} (hk : key ∈ kernelKeys) {h w : Nat} (hw : h ≠ w)
    {l : List (String × Json)} (hmem : (key, .arr [.num (.nat h), .num (.nat w)]) ∈ l) :
    ∃ e, readFields .config l = .error e := by
  obtain ⟨e, he⟩ := readKernelSize_non_square hw
  -- その組は、どの状態で読んでも誤り
  have hfail : ∀ σ, ∃ e', readField .config σ (key, .arr [.num (.nat h), .num (.nat w)]) =
      .error e' := by
    intro σ
    obtain ⟨p, seen⟩ := σ
    simp only [kernelKeys, List.mem_cons, List.not_mem_nil, or_false] at hk
    rcases hk with rfl | rfl | rfl <;>
      simp [readField, rulesFor, fieldRules, applyRule, Json.isNull, he, bind, Except.bind] <;>
      split <;> simp
  have hfold : ∀ (l : List (String × Json)) σ,
      (key, .arr [.num (.nat h), .num (.nat w)]) ∈ l →
        ∃ e', l.foldlM (readField .config) σ = .error e' := by
    intro l
    induction l with
    | nil => intro σ hm; cases hm
    | cons x l ih =>
      intro σ hm
      simp only [List.foldlM_cons]
      rcases List.mem_cons.mp hm with rfl | hm
      · obtain ⟨e', he'⟩ := hfail σ
        exact ⟨e', by rw [he']; rfl⟩
      · cases hx : readField .config σ x with
        | error e' => exact ⟨e', rfl⟩
        | ok σ₁ => exact ih σ₁ hm
  obtain ⟨e', he'⟩ := hfold l ({}, []) hmem
  exact ⟨e', by simp [readFields, he', Except.map]⟩

/-- 組を、どの状態でも同じに読む組に書き換えても、読みは変わらない。 -/
theorem foldlM_readField_map {f : String × Json → String × Json}
    (hf : ∀ σ e, readField .config σ (f e) = readField .config σ e) (l : List (String × Json))
    (σ : ConfigPatch × List String) :
    (l.map f).foldlM (readField .config) σ = l.foldlM (readField .config) σ := by
  induction l generalizing σ with
  | nil => rfl
  | cons e l ih => simp only [List.map_cons, List.foldlM_cons, hf, ih]

/-- 同じ規則に当たるキーは、同じに読む。 -/
theorem readField_key_congr {k k' : String} (h : configRule k = configRule k')
    (σ : ConfigPatch × List String) (v : Json) :
    readField .config σ (k, v) = readField .config σ (k', v) := by
  simp only [readField]
  rw [show (rulesFor .config).find? _ = configRule k from rfl, h]
  rfl

/-- 古い綴りを今の綴りに書き換えても、節の読みは変わらない。 -/
theorem readFields_renameKey {old new : String} (h : (old, new) ∈ aliasSpellings)
    (l : List (String × Json)) : readFields .config (renameKey old new l) = readFields .config l := by
  unfold readFields renameKey
  rw [foldlM_readField_map]
  rintro σ ⟨k, v⟩
  by_cases he : k = old
  · subst he
    rw [if_pos rfl, ← readField_key_congr (configRule_alias h)]
  · rw [if_neg he]

/-- 核の大きさの数 `n` を `[n, n]` に書き換えても、節の読みは変わらない。 -/
theorem readFields_squareKernel {key : String} (hk : key ∈ kernelKeys) (l : List (String × Json)) :
    readFields .config (squareKernel key l) = readFields .config l := by
  unfold readFields squareKernel
  rw [foldlM_readField_map]
  rintro σ ⟨k, v⟩
  by_cases he : k = key
  · subst he
    rw [if_pos rfl, readField_squarePair hk]
  · rw [if_neg he]

/-! ## 主定理 -/

/-- 平らな文書の根は、`droplet_detection` の表が無ければ、`modules` を除いてそのまま節になる。 -/
theorem extractSection_flat {S : List (String × Json)} (hS : ∀ e ∈ S, e.1 ≠ nestedSection) :
    extractSection (.obj S) = .ok (eraseField S "modules") := by
  have hfind : S.find? (·.1 == nestedSection) = none :=
    List.find?_eq_none.mpr fun e he => by simpa using hS e he
  simp [extractSection, hfind]

/-- 平らな文書からの設定は、根をそのまま節として読んだ設定。 -/
theorem configOfDocument_flat {S : List (String × Json)} (hS : ∀ e ∈ S, e.1 ≠ nestedSection) :
    configOfDocument (.obj S) = configOfSection S := by
  rw [configOfDocument, extractSection_flat hS, Except.ok_bind]
  exact configOfSection_congr (readFields_eraseField configRule_modules S)

/-- 入れ子の文書（根のキーの順はどちらでも）からの設定は、`droplet_detection` の表を節として
読んだ設定。 -/
theorem configOfDocument_nested (S : List (String × Json)) (M : Json) :
    configOfDocument (.obj [("modules", M), (nestedSection, .obj S)]) = configOfSection S ∧
      configOfDocument (.obj [(nestedSection, .obj S), ("modules", M)]) = configOfSection S := by
  constructor <;> simp [configOfDocument, extractSection, nestedSection]

/-- 今の綴りのキーは `droplet_detection` ではない。 -/
theorem not_nestedSection_renameKey {S : List (String × Json)} {old new : String}
    (h : (old, new) ∈ aliasSpellings) (hS : ∀ e ∈ S, e.1 ≠ nestedSection) :
    ∀ e ∈ renameKey old new S, e.1 ≠ nestedSection := by
  intro e he
  obtain ⟨e₀, he₀, rfl⟩ := List.mem_map.mp he
  by_cases hk : e₀.1 = old
  · simp only [aliasSpellings, List.mem_cons, Prod.mk.injEq, List.not_mem_nil, or_false] at h
    rw [if_pos hk]
    rcases h with ⟨-, rfl⟩ | ⟨-, rfl⟩ | ⟨-, rfl⟩ <;> simp [nestedSection]
  · rw [if_neg hk]
    exact hS e₀ he₀

theorem not_nestedSection_squareKernel {S : List (String × Json)} (key : String)
    (hS : ∀ e ∈ S, e.1 ≠ nestedSection) : ∀ e ∈ squareKernel key S, e.1 ≠ nestedSection := by
  intro e he
  obtain ⟨e₀, he₀, rfl⟩ := List.mem_map.mp he
  by_cases hk : e₀.1 = key
  · rw [if_pos hk]
    exact hS e₀ he₀
  · rw [if_neg hk]
    exact hS e₀ he₀

/-- 並べ替えると `l` になる平らな文書は、`l` と同じに読む（どちらも同じ設定を返すか、どちらも
誤り）。 -/
theorem configOfDocument_perm {S' l : List (String × Json)} (hp : S'.Perm l)
    (hl : ∀ e ∈ l, e.1 ≠ nestedSection) :
    (configOfDocument (.obj S')).toOption = (configOfSection l).toOption := by
  rw [configOfDocument_flat fun e he => hl e (hp.subset he)]
  exact configOfSection_toOption (readFields_perm hp)

/-- **文書の形・組の並び・キーの綴り。** `droplet_detection` のキーを持たない節 `S` について：
`S` を入れ子にした文書は、`modules` の値 `M` によらず、根のキーの順にもよらず、平らな文書
`S` と同じ結果を返す。古い綴りのキーを今の綴りに変えた節を、また核の大きさの数 `n` を
`[n, n]` に変えた節を、どう並べ替えた文書も、`S` と同じ設定を返すか、`S` とともに誤り。
核の大きさのキーに正方形でない組があれば、文書はいつも拒まれる。 -/
theorem profile_shapes_and_spellings_agree :
    (∀ (S : List (String × Json)) (M : Json), (∀ e ∈ S, e.1 ≠ nestedSection) →
      configOfDocument (.obj [("modules", M), (nestedSection, .obj S)]) =
          configOfDocument (.obj S) ∧
        configOfDocument (.obj [(nestedSection, .obj S), ("modules", M)]) =
          configOfDocument (.obj S)) ∧
    (∀ (S S' : List (String × Json)) (old new : String), (old, new) ∈ aliasSpellings →
      (∀ e ∈ S, e.1 ≠ nestedSection) → S'.Perm (renameKey old new S) →
      (configOfDocument (.obj S')).toOption = (configOfDocument (.obj S)).toOption) ∧
    (∀ (S S' : List (String × Json)) (key : String), key ∈ kernelKeys →
      (∀ e ∈ S, e.1 ≠ nestedSection) → S'.Perm (squareKernel key S) →
      (configOfDocument (.obj S')).toOption = (configOfDocument (.obj S)).toOption) ∧
    (∀ (S : List (String × Json)) (key : String) (h w : Nat), key ∈ kernelKeys → h ≠ w →
      (∀ e ∈ S, e.1 ≠ nestedSection) → (key, .arr [.num (.nat h), .num (.nat w)]) ∈ S →
      ∃ e, configOfDocument (.obj S) = .error e) := by
  refine ⟨fun S M hS => ?_, fun S S' old new h hS hp => ?_, fun S S' key hk hS hp => ?_,
    fun S key h w hk hw hS hmem => ?_⟩
  · -- 形：入れ子の節は `modules` を残すが、知らないキーとして読み飛ばす
    obtain ⟨h₁, h₂⟩ := configOfDocument_nested S M
    rw [h₁, h₂, configOfDocument_flat hS]
    exact ⟨rfl, rfl⟩
  · -- 綴り：書き換えた位置のままなら読みは同じで、並べ替えは設定を変えない
    rw [configOfDocument_perm hp (not_nestedSection_renameKey h hS), configOfDocument_flat hS,
      configOfSection_congr (readFields_renameKey h S)]
  · rw [configOfDocument_perm hp (not_nestedSection_squareKernel key hS), configOfDocument_flat hS,
      configOfSection_congr (readFields_squareKernel hk S)]
  · -- 正方形でない組：節の読みが誤りなら、設定も誤り
    obtain ⟨e, he⟩ := readFields_non_square hk hw hmem
    rw [configOfDocument_flat hS]
    exact ⟨_, configOfSection_of_readFields_error he⟩

/-- 古い綴り `pixel_ratio` のキーを今の綴りに変えると、辞書順の並びでは別の位置に入るが、
読みは同じ。 -/
theorem pixel_ratio_spelling_reads_alike :
    ("pixel_ratio", "um_per_px") ∈ aliasSpellings ∧
      (∀ e ∈ [("pixel_ratio", Json.ofFloat 2), ("radius_offset_px", Json.ofFloat 0.5)],
        e.1 ≠ nestedSection) ∧
      [("radius_offset_px", Json.ofFloat 0.5), ("um_per_px", Json.ofFloat 2)].Perm
        (renameKey "pixel_ratio" "um_per_px"
          [("pixel_ratio", Json.ofFloat 2), ("radius_offset_px", Json.ofFloat 0.5)]) ∧
      (configOfDocument (.obj [("radius_offset_px", Json.ofFloat 0.5), ("um_per_px", Json.ofFloat 2)])).toOption =
        (configOfDocument (.obj [("pixel_ratio", Json.ofFloat 2), ("radius_offset_px", Json.ofFloat 0.5)])).toOption := by
  have hmem : ("pixel_ratio", "um_per_px") ∈ aliasSpellings := by simp [aliasSpellings]
  have hS : ∀ e ∈ [("pixel_ratio", Json.ofFloat 2), ("radius_offset_px", Json.ofFloat 0.5)],
      e.1 ≠ nestedSection := by simp [nestedSection]
  have hp : [("radius_offset_px", Json.ofFloat 0.5), ("um_per_px", Json.ofFloat 2)].Perm
      (renameKey "pixel_ratio" "um_per_px"
        [("pixel_ratio", Json.ofFloat 2), ("radius_offset_px", Json.ofFloat 0.5)]) := by
    simp only [renameKey, List.map_cons, List.map_nil, if_pos]
    simpa using List.Perm.swap ("um_per_px", Json.ofFloat 2) ("radius_offset_px", Json.ofFloat 0.5) []
  exact ⟨hmem, hS, hp, profile_shapes_and_spellings_agree.2.1 _ _ _ _ hmem hS hp⟩

end DropletVision
