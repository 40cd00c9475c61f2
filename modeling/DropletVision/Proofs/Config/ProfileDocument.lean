import Mathlib.Algebra.Group.Nat.Defs
import DropletVision.Config.Profile

/-!
# プロファイルの文書は設定をそのまま読み戻す

設定を保存するときに作る文書を `configOfDocument` で読むと、平らな形でも入れ子の形でも
元の設定が返る。設定の整数の欄は、それぞれの型に収まるものとする
（`DetectionConfig.InRange`：個数は 64 ビット、流路の帯と余白は 32 ビット）。

## 三段に分かれる

* **値の往復。** 書き手の作る JSON の値を読み手は元の値に読む：個数・32 ビットの値・核の大きさ・
  倍精度・単精度・真偽値・名前の選択肢・二つ組。
* **欄の往復**（`ofJson_toJson`）。設定の文書のキーは、設定として読む欄の名前を宣言の順に並べた
  もの（帯が無ければそれを除く）なので、どのキーも自分の欄の規則に当たり、二度は現れない。
* **形の往復**（`section_document`）。入れ子の形では `droplet_detection` の表が、平らな形では根が、
  そのまま設定の欄の組になる。

## 文字列を経ると

文書を文字列にしてから読むと、この限りでない。倍精度の数は最短の桁で書かれるが、読み手は
その桁を 10 の冪で一度だけ掛けて（割って）倍精度にするので、1 ulp ずれることがある。
非有限の数は `null` と書かれ、倍精度としては読めない。
-/

namespace DropletVision

open Json

/-! ## 値の往復 -/

@[simp] theorem Except.ok_bind {ε α β : Type} (a : α) (f : α → Except ε β) :
    (Except.ok a >>= f) = f a :=
  rfl

namespace Json

@[simp] theorem isNull_num (n : Number) : (Json.num n).isNull = false := rfl
@[simp] theorem isNull_bool (b : Bool) : (Json.bool b).isNull = false := rfl
@[simp] theorem isNull_arr (items : List Json) : (Json.arr items).isNull = false := rfl
@[simp] theorem isNull_methodName (i : Nat) (names : List String) :
    (DetectionConfig.methodName i names).isNull = false := rfl

@[simp] theorem readF64_float (x : Float) : readF64 (.num (.float x)) = .ok x := rfl
@[simp] theorem readF32_single (x : Float32) : readF32 (.num (.single x)) = .ok x := rfl
@[simp] theorem readBool_bool (b : Bool) : readBool (.bool b) = .ok b := rfl

theorem readBounded_nat {limit n : Nat} {name : String} (h : n < limit) :
    readBounded limit name (.num (.nat n)) = .ok n :=
  if_pos h

theorem readUsize_nat {n : Nat} (h : n < 2 ^ 64) : readUsize (.num (.nat n)) = .ok n :=
  readBounded_nat h

theorem readU32_nat {n : Nat} (h : n < 2 ^ 32) : readU32 (.num (.nat n)) = .ok n :=
  readBounded_nat h

theorem readKernelSize_nat {n : Nat} (h : n < 2 ^ 64) : readKernelSize (.num (.nat n)) = .ok n :=
  if_pos h

theorem readPairU32_nat {lo hi : Nat} (hlo : lo < 2 ^ 32) (hhi : hi < 2 ^ 32) :
    readPairU32 (.arr [.num (.nat lo), .num (.nat hi)]) = .ok (lo, hi) := by
  simp only [readPairU32, readU32_nat hlo, readU32_nat hhi, Except.ok_bind]
  rfl

/-- 重なりの無い名前の一覧では、`i` 番目の名前は `i` と読む。 -/
theorem readVariant_methodName {names : List String} {i : Nat} (hnd : names.Nodup)
    (hi : i < names.length) : readVariant names (DetectionConfig.methodName i names) = .ok i := by
  have hfind : names.findIdx? (· == names[i]) = some i := by
    rw [List.findIdx?_eq_some_iff_getElem]
    refine ⟨hi, by simp, fun j hj => ?_⟩
    -- 前にある名前は重なりが無いので `i` 番目と違う
    have hne : names[j] ≠ names[i] := fun heq => by
      have := (List.getElem_inj hnd).mp heq
      omega
    simpa using hne
  simp [readVariant, DetectionConfig.methodName, List.getElem?_eq_getElem hi, hfind]

end Json

theorem BackgroundMethod.readVariant_index (m : BackgroundMethod) :
    readVariant backgroundNames (DetectionConfig.methodName m.index backgroundNames) = .ok m.index :=
  Json.readVariant_methodName (by decide) (by cases m <;> decide)

theorem ThresholdMethod.readVariant_index (m : ThresholdMethod) :
    readVariant thresholdNames (DetectionConfig.methodName m.index thresholdNames) = .ok m.index :=
  Json.readVariant_methodName (by decide) (by cases m <;> decide)

theorem MorphOperation.readVariant_index (m : MorphOperation) :
    readVariant morphNames (DetectionConfig.methodName m.index morphNames) = .ok m.index :=
  Json.readVariant_methodName (by decide) (by cases m <;> decide)

@[simp] theorem BackgroundMethod.ofIndex_index (m : BackgroundMethod) :
    (if (m.index == 0) = true then BackgroundMethod.static else .highpass) = m := by
  cases m <;> rfl

@[simp] theorem ThresholdMethod.ofIndex_index (m : ThresholdMethod) :
    (if (m.index == 0) = true then ThresholdMethod.otsu else .adaptive) = m := by
  cases m <;> rfl

@[simp] theorem MorphOperation.ofIndex_index (m : MorphOperation) :
    (if (m.index == 0) = true then MorphOperation.opening
      else if (m.index == 1) = true then .closing else .both) = m := by
  cases m <;> rfl

/-! ## 欄の往復 -/

/-- 設定の整数の欄が、それぞれの型に収まる：個数は 64 ビット、流路の帯と余白は 32 ビット。 -/
structure DetectionConfig.InRange (c : DetectionConfig) : Prop where
  backgroundFrames : c.backgroundFrames < 2 ^ 64
  blurKernelSize : c.blurKernelSize < 2 ^ 64
  adaptiveBlockSize : c.adaptiveBlockSize < 2 ^ 64
  morphKernelSize : c.morphKernelSize < 2 ^ 64
  channelBand : ∀ lo hi, c.channelBand = some (lo, hi) → lo < 2 ^ 32 ∧ hi < 2 ^ 32
  channelBandMargin : c.channelBandMargin < 2 ^ 32
  minContourPoints : c.minContourPoints < 2 ^ 64
  histogramWindowSize : c.histogramWindowSize < 2 ^ 64
  histogramBins : c.histogramBins < 2 ^ 64
  rawLogCapacity : c.rawLogCapacity < 2 ^ 64

/-- 規則の列で、どの規則の名前も、それより前の規則の名前にも別名にも当たらない。 -/
def FieldRule.unshadowed : List FieldRule → Bool
  | [] => true
  | r :: rs => rs.all (fun r' => !(r.name == r'.name || r.aliases.contains r'.name)) && unshadowed rs

/-- 前の規則に隠されない規則は、自分の名前で探すと見つかる。 -/
theorem FieldRule.find?_of_unshadowed {rules : List FieldRule} {r : FieldRule}
    (hu : unshadowed rules = true) (hr : r ∈ rules) :
    rules.find? (fun r' => r'.name == r.name || r'.aliases.contains r.name) = some r := by
  induction rules with
  | nil => cases hr
  | cons r₀ rs ih =>
    simp only [unshadowed, Bool.and_eq_true, List.all_eq_true] at hu
    rcases List.mem_cons.mp hr with rfl | hr
    · simp
    · -- 先頭の規則は `r` の名前に当たらないので、探すのは残りの列に移る
      have hne := hu.1 r hr
      simp only [Bool.not_eq_true'] at hne
      rw [List.find?_cons, hne]
      exact ih hu.2 hr

theorem unshadowed_rulesFor_config : FieldRule.unshadowed (rulesFor .config) = true := by decide

theorem find?_rulesFor_config {r : FieldRule} (hr : r ∈ rulesFor .config) :
    (rulesFor .config).find? (fun r' => r'.name == r.name || r'.aliases.contains r.name) = some r :=
  FieldRule.find?_of_unshadowed unshadowed_rulesFor_config hr

/-- 自分の欄の規則に当たり、まだ読んでいない欄のキーは、その規則で値を読む。 -/
theorem readField_of_find {mode : ReadMode} {p : ConfigPatch} {seen : List String} {k : String}
    {v : Json} {r : FieldRule}
    (hfind : (rulesFor mode).find? (fun r' => r'.name == k || r'.aliases.contains k) = some r)
    (hseen : r.name ∉ seen) :
    readField mode (p, seen) (k, v) = (applyRule mode r v p).map (fun p' => (p', r.name :: seen)) := by
  simp only [readField]
  rw [hfind]
  cases h : applyRule mode r v p <;> simp [hseen, h, bind, Except.bind, pure, Except.pure, Except.map]

/-- キーの列が、前の規則に隠されない規則の名前の列なら、欄の組を読むことは、規則を順に値に当てる
ことになる。 -/
theorem foldlM_readField_of_keys {mode : ReadMode} :
    ∀ {rs : List FieldRule} {fields : List (String × Json)} {p : ConfigPatch} {seen : List String},
      fields.map (·.1) = rs.map (·.name) → FieldRule.unshadowed rs = true →
      (∀ r ∈ rs, (rulesFor mode).find? (fun r' => r'.name == r.name || r'.aliases.contains r.name) =
        some r) →
      (∀ r ∈ rs, r.name ∉ seen) →
      (fields.foldlM (readField mode) (p, seen)).map (·.1) =
        (rs.zip (fields.map (·.2))).foldlM (fun p rv => applyRule mode rv.1 rv.2 p) p
  | [], [], _, _, _, _, _, _ => rfl
  | [], _ :: _, _, _, hkeys, _, _, _ => by simp at hkeys
  | _ :: _, [], _, _, hkeys, _, _, _ => by simp at hkeys
  | r :: rs, (k, v) :: fields, p, seen, hkeys, hu, hfind, hseen => by
    simp only [List.map_cons, List.cons.injEq] at hkeys
    obtain ⟨rfl, hkeys⟩ := hkeys
    simp only [FieldRule.unshadowed, Bool.and_eq_true, List.all_eq_true] at hu
    have hstep := readField_of_find (p := p) (v := v) (hfind r List.mem_cons_self)
      (hseen r List.mem_cons_self)
    -- 残りの規則の名前は、読んだ欄の名前にも `r` の名前にも当たらない
    have hseen' : ∀ r' ∈ rs, r'.name ∉ r.name :: seen := by
      intro r' hr' hmem
      rcases List.mem_cons.mp hmem with heq | hmem
      · have := hu.1 r' hr'
        simp [heq] at this
      · exact hseen r' (List.mem_cons_of_mem _ hr') hmem
    cases h : applyRule mode r v p with
    | error e => simp [List.foldlM_cons, hstep, h, bind, Except.bind, Except.map]
    | ok p' =>
      have ih := foldlM_readField_of_keys (p := p') hkeys hu.2
        (fun r' hr' => hfind r' (List.mem_cons_of_mem _ hr')) hseen'
      simpa [List.foldlM_cons, hstep, h, bind, Except.bind, Except.map] using ih

/-- キーの列が、前の規則に隠されない規則の名前の列なら、欄の組は規則を順に値に当てて読む。 -/
theorem readFields_of_keys {m : ReadMode} {l : List FieldRule} {f : List (String × Json)}
    (hkeys : f.map (·.1) = l.map (·.name)) (hu : FieldRule.unshadowed l = true)
    (hfind : ∀ r ∈ l,
      (rulesFor m).find? (fun r' => r'.name == r.name || r'.aliases.contains r.name) = some r) :
    readFields m f = (l.zip (f.map (·.2))).foldlM (fun p rv => applyRule m rv.1 rv.2 p) {} :=
  foldlM_readField_of_keys hkeys hu hfind (fun _ _ h => nomatch h)

namespace DetectionConfig

/-- 設定の文書を設定として読むと、元の設定になる。 -/
theorem ofJson_toJson (c : DetectionConfig) (h : c.InRange) : ofJson c.toJson = .ok c := by
  obtain ⟨h₁, h₂, h₃, h₄, hband, h₆, h₇, h₈, h₉, h₁₀⟩ := h
  cases c with
  | mk bm bf bk tm abs ac mk mo mina maxa minar maxar band margin mm mpd ae ufd fdt mcp hws hb
      rlc um ro =>
    simp only at h₁ h₂ h₃ h₄ hband h₆ h₇ h₈ h₉ h₁₀
    rcases band with _ | ⟨lo, hi⟩
    · -- 帯が無ければ、キーの列は帯を除いた欄の名前の列
      simp only [ofJson, readDocument, toJson, List.append_nil, List.cons_append, List.nil_append]
      rw [readFields_of_keys (l := (rulesFor .config).filter (·.name != "channel_band"))]
      · simp only [rulesFor, fieldRules, List.filter, bne, String.reduceBEq, Bool.not_true,
          Bool.not_false, List.map_cons, List.map_nil, List.zip_cons_cons, List.zip_nil_left,
          List.foldlM_cons, List.foldlM_nil, applyRule, isNull_num, isNull_bool, isNull_methodName,
          Json.ofNat, Json.ofFloat, Json.ofFloat32, readUsize_nat h₁, readUsize_nat h₃,
          readU32_nat h₆, readUsize_nat h₇, readUsize_nat h₈, readUsize_nat h₉, readUsize_nat h₁₀,
          readKernelSize_nat h₂, readKernelSize_nat h₄,
          readF64_float, readF32_single, readBool_bool, bm.readVariant_index, tm.readVariant_index,
          mo.readVariant_index, Except.ok_bind, Bool.false_and, Bool.false_eq_true, if_false,
          BackgroundMethod.ofIndex_index,
          ThresholdMethod.ofIndex_index, MorphOperation.ofIndex_index]
        rfl
      · rfl
      · decide
      · exact fun r hr => find?_rulesFor_config (List.mem_filter.mp hr).1
    · -- 帯があれば、キーの列は設定として読む欄の名前の列そのもの
      obtain ⟨hlo, hhi⟩ := hband lo hi rfl
      simp only [ofJson, readDocument, toJson, List.cons_append, List.nil_append]
      rw [readFields_of_keys (l := rulesFor .config)]
      · simp only [rulesFor, fieldRules, List.filter, List.map_cons, List.map_nil,
          List.zip_cons_cons, List.zip_nil_left, List.foldlM_cons, List.foldlM_nil, applyRule,
          isNull_num, isNull_bool, isNull_arr, isNull_methodName, Json.ofNat, Json.ofFloat,
          Json.ofFloat32, readUsize_nat h₁, readUsize_nat h₃, readU32_nat h₆, readUsize_nat h₇,
          readUsize_nat h₈, readUsize_nat h₉, readUsize_nat h₁₀, readKernelSize_nat h₂,
          readKernelSize_nat h₄, readPairU32_nat hlo hhi,
          readF64_float, readF32_single, readBool_bool, bm.readVariant_index, tm.readVariant_index,
          mo.readVariant_index, Except.ok_bind, Bool.false_and, Bool.false_eq_true, if_false,
          BackgroundMethod.ofIndex_index,
          ThresholdMethod.ofIndex_index, MorphOperation.ofIndex_index]
        rfl
      · rfl
      · exact unshadowed_rulesFor_config
      · exact fun r hr => find?_rulesFor_config hr

end DetectionConfig

/-! ## 形の往復 -/

/-- どちらの形の文書からも、取り出す欄の組は設定の文書の欄の組そのもの。 -/
theorem section_document (c : DetectionConfig) (layout : ProfileLayout) :
    (extractSection (layout.document c)).map Json.obj = .ok c.toJson := by
  cases layout with
  | flat =>
    -- 設定の文書の根には `droplet_detection` も `modules` も無い
    cases hb : c.channelBand <;>
      simp only [ProfileLayout.document, extractSection, DetectionConfig.toJson, hb, nestedSection,
        eraseField, List.cons_append, List.nil_append, List.find?_cons, List.find?_nil,
        String.reduceBEq, List.filter_cons, List.filter_nil, bne, Bool.not_false, if_true, Except.map]
  | nested => rfl

theorem configOfSection_of_toJson {c : DetectionConfig} {sec : List (String × Json)}
    (hobj : Json.obj sec = c.toJson) (hv : c.validate = .ok ()) (hr : c.InRange) :
    configOfSection sec = .ok c := by
  simp only [configOfSection, hobj, DetectionConfig.ofJson_toJson c hr]
  rw [show (Except.ok c : Read DetectionConfig).mapError
      (fun e => DetectorError.invalidConfig [s!"malformed profile: {e}"]) = .ok c from rfl]
  simp only [Except.ok_bind, hv]
  rfl

/-- 検査に通り、整数の欄がそれぞれの型に収まる設定は、どちらの形で保存した文書からも、
そのまま読み戻せる。 -/
theorem profile_document_reads_back (c : DetectionConfig) (hv : c.validate = .ok ())
    (hr : c.InRange) (layout : ProfileLayout) : configOfDocument (layout.document c) = .ok c := by
  have hsec := section_document c layout
  cases he : extractSection (layout.document c) with
  | error e =>
    rw [he] at hsec
    cases hsec
  | ok sec =>
    rw [he] at hsec
    have hobj : Json.obj sec = c.toJson := by cases hsec; rfl
    simp only [configOfDocument, he, Except.ok_bind]
    exact configOfSection_of_toJson hobj hv hr

/-- 流路の帯を持つ設定を入れ子の形で保存した文書も、そのまま読み戻せる。 -/
theorem banded_profile_document_reads_back :
    ({ channelBand := some (10, 50) } : DetectionConfig).validate = .ok () ∧
      ({ channelBand := some (10, 50) } : DetectionConfig).InRange ∧
      configOfDocument (ProfileLayout.nested.document { channelBand := some (10, 50) }) =
        .ok { channelBand := some (10, 50) } := by
  have hv : ({ channelBand := some (10, 50) } : DetectionConfig).validate = .ok () := rfl
  have hr : ({ channelBand := some (10, 50) } : DetectionConfig).InRange :=
    ⟨by decide, by decide, by decide, by decide, fun lo hi h => by cases h; decide, by decide,
      by decide, by decide, by decide, by decide⟩
  exact ⟨hv, hr, profile_document_reads_back _ hv hr .nested⟩

end DropletVision
