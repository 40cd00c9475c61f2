import Mathlib.Data.List.TakeWhile
import DropletVision.Log.RawLog
import DropletVision.Proofs.Decimal.Fixed

/-!
# 計測値の表の形と形式の名前

記録を書き出した表は、改行で区切ると見出しの行と記録ごとの一行（古い順）に分かれ、最後の改行の
後には何も残らない。区切り文字で区切ると、見出しの行は列の名前に、記録の行は時刻・画像の番号と
十の計測値の表示に、どれもちょうど 12 個に分かれる。数の表示には区切り文字も改行も現れないから
である（`Decimal.mem_fixedDouble`）。計測値の表示は、値が有限なら小数点以下ちょうど二桁。

* `RawRecord.row_eq` — 記録の行は、欄の文字列を区切り文字でつなぎ、改行を付けたもの。
* `RawRecord.not_mem_fieldTexts` — 欄の文字列には、数字でも `NaN`、`inf` の文字でもない文字は
  現れない。区切り文字と改行はそのような文字。
* `RawMeasurementLog.exportTable_eq_some` — 記録があれば、書き出しは行を改行でつなぎ、最後に
  改行を付けたもの。
* `RawMeasurementLog.exportTable_split` — 書き出した表を改行と区切り文字で区切ると、列の名前と
  記録ごとの欄の文字列に戻る。
* `Unicode.trim_toList_eq` — 両端の空白だけを除く。
* `ExportFormat.ofString_eq_ok_iff` — 形式の名前は、前後の空白を除き ASCII の大文字小文字を
  問わずに `csv` か `txt`。それ以外はどれも `unsupportedExportFormat`。
* `RawMeasurementLog.export_layout` — 主定理。
-/

namespace DropletVision

/-- 区切りでつないだ文字列は、先頭に残りを区切りつきで続けたもの。 -/
theorem intercalate_cons_eq_join (s t : String) (l : List String) :
    s.intercalate (t :: l) = t ++ String.join (l.map (s ++ ·)) := by
  induction l generalizing t with
  | nil => simp [String.join_nil]
  | cons u l ih =>
    rw [String.intercalate_cons_cons, ih, List.map_cons, String.join_cons, String.append_assoc,
      String.append_assoc]

/-- 改行で終わる行を並べたものは、行と最後の空の行を改行でつないだもの。 -/
theorem join_lines_eq_intercalate (t : String) (ls : List String) :
    t ++ "\n" ++ String.join (ls.map (· ++ "\n")) =
      (String.singleton '\n').intercalate (t :: ls ++ [""]) := by
  induction ls generalizing t with
  | nil => rfl
  | cons u ls ih =>
    rw [List.cons_append, List.cons_append, String.intercalate_cons_cons, ← List.cons_append, ← ih,
      List.map_cons, String.join_cons]
    simp only [String.append_assoc]
    rfl

/-- 区切り文字でも部分のどれにも無い文字は、つないだものにも無い。 -/
theorem not_mem_intercalate {c d : Char} {l : List String} (hcd : c ≠ d)
    (hl : ∀ s ∈ l, c ∉ s.toList) : c ∉ ((String.singleton d).intercalate l).toList := by
  cases l with
  | nil => simp
  | cons t l =>
    rw [intercalate_cons_eq_join, String.toList_append, String.toList_join, List.mem_append, not_or]
    refine ⟨hl t List.mem_cons_self, ?_⟩
    simp only [List.mem_flatMap, List.mem_map, not_exists, not_and]
    rintro _ ⟨s, hs, rfl⟩ h
    rw [String.toList_append, String.toList_singleton, List.singleton_append, List.mem_cons] at h
    rcases h with h | h
    · exact hcd h
    · exact hl s (List.mem_cons_of_mem t hs) h

namespace RawRecord

/-- 記録の欄の文字列（列の順）：時刻、画像の番号、十の計測値を小数点以下二桁で。 -/
def fieldTexts (r : RawRecord) : List String :=
  toString r.timestampMs :: toString r.frameId :: r.floats.map (Decimal.fixedDouble 2)

theorem length_fieldTexts (r : RawRecord) : r.fieldTexts.length = 12 := rfl

/-- 記録の行は、欄の文字列を区切り文字でつなぎ、改行を付けたもの。 -/
theorem row_eq (r : RawRecord) (d : Char) :
    r.row d = (String.singleton d).intercalate r.fieldTexts ++ "\n" := by
  rw [row, fieldTexts, intercalate_cons_eq_join, List.map_cons, String.join_cons, List.map_map]
  simp only [String.append_assoc]
  rfl

/-- 数字でも `numeralMarks` の文字でもない文字は、欄の文字列に現れない。 -/
theorem not_mem_fieldTexts (r : RawRecord) {c : Char} (hd : c.isDigit = false)
    (hm : c ∉ Decimal.numeralMarks) : ∀ s ∈ r.fieldTexts, c ∉ s.toList := by
  -- 整数の欄は数字だけ、小数の欄は数字と符号・小数点（と `NaN`、`inf`）だけ
  have hnat : ∀ n : Nat, c ∉ (toString n).toList := by
    intro n hc
    rw [Nat.toString_eq_repr, Nat.toList_repr] at hc
    rw [Nat.isDigit_of_mem_toDigits (by decide) (by decide) hc] at hd
    cases hd
  intro s hs
  simp only [fieldTexts, List.mem_cons, List.mem_map] at hs
  rcases hs with rfl | rfl | ⟨v, -, rfl⟩
  · exact hnat _
  · exact hnat _
  · intro hc
    rcases Decimal.mem_fixedDouble hc with h | h
    · rw [h] at hd
      cases hd
    · exact hm h

end RawRecord

namespace RawMeasurementLog

/-- 記録が無いときに限り書き出さない。 -/
theorem exportTable_eq_none_iff (l : RawMeasurementLog) (f : ExportFormat) :
    l.exportTable f = none ↔ l.toList = [] := by
  simp [exportTable, RingBuffer.isEmpty, toList, RingBuffer.toList]

/-- 記録があれば、書き出しは見出しと記録の行を改行でつなぎ、最後に改行を付けたもの。 -/
theorem exportTable_eq_some (l : RawMeasurementLog) (f : ExportFormat) (h : l.toList ≠ []) :
    l.exportTable f = some ((String.singleton '\n').intercalate
      ((String.singleton f.delimiter).intercalate rawColumns ::
        l.toList.map (fun r => (String.singleton f.delimiter).intercalate r.fieldTexts) ++ [""])) := by
  have hne : l.records.isEmpty = false := by
    simpa [RingBuffer.isEmpty, toList, RingBuffer.toList] using h
  rw [exportTable, hne, ← join_lines_eq_intercalate, List.map_map]
  simp only [Bool.false_eq_true, if_false, Function.comp_def, RawRecord.row_eq]

end RawMeasurementLog

namespace Unicode

/-- 空白の文字は ASCII の大文字ではないので、小文字にしても変わらない。 -/
theorem toLower_of_isWhiteSpace {c : Char} (h : isWhiteSpace c = true) : c.toLower = c := by
  unfold Char.toLower
  rw [dif_neg]
  rintro ⟨h1, h2⟩
  have h1' : 65 ≤ c.toNat := h1
  have h2' : c.toNat ≤ 90 := h2
  simp only [isWhiteSpace, Bool.or_eq_true, Bool.and_eq_true, decide_eq_true_eq,
    beq_iff_eq] at h
  omega

/-- どの文字列も、前の空白、両端の空白を除いたもの、後の空白に分かれる。 -/
theorem toList_eq_trim (s : String) :
    ∃ pre post, (∀ c ∈ pre ++ post, isWhiteSpace c = true) ∧
      s.toList = pre ++ (trim s).toList ++ post := by
  let rest := s.toList.dropWhile isWhiteSpace
  refine ⟨s.toList.takeWhile isWhiteSpace, (rest.reverse.takeWhile isWhiteSpace).reverse, ?_, ?_⟩
  · intro c hc
    rcases List.mem_append.1 hc with h | h
    · exact List.all_eq_true.1 List.all_takeWhile c h
    · exact List.all_eq_true.1 List.all_takeWhile c (List.mem_reverse.1 h)
  · -- 後の空白は、残りを裏返した列の先頭の空白
    have hrest : rest = (rest.reverse.dropWhile isWhiteSpace).reverse ++
        (rest.reverse.takeWhile isWhiteSpace).reverse := by
      rw [← List.reverse_append, List.takeWhile_append_dropWhile, List.reverse_reverse]
    rw [trim, String.toList_ofList, List.append_assoc, ← hrest]
    exact (List.takeWhile_append_dropWhile).symm

/-- 前後が空白だけで、中身の両端が空白でなければ、両端の空白を除くと中身が残る。 -/
theorem trim_toList_eq {s : String} {pre m post : List Char} (hs : s.toList = pre ++ m ++ post)
    (hws : ∀ c ∈ pre ++ post, isWhiteSpace c = true)
    (hhead : ∀ c ∈ m.head?, isWhiteSpace c = false)
    (hlast : ∀ c ∈ m.getLast?, isWhiteSpace c = false) : (trim s).toList = m := by
  have hpre : ∀ c ∈ pre, isWhiteSpace c = true := fun c hc => hws c (by simp [hc])
  have hpost : ∀ c ∈ post.reverse, isWhiteSpace c = true :=
    fun c hc => hws c (by simp [List.mem_reverse.1 hc])
  rw [trim, String.toList_ofList, hs, List.append_assoc, List.dropWhile_append_of_pos hpre]
  cases m with
  | nil =>
    have hpost0 : post.dropWhile isWhiteSpace = [] :=
      List.dropWhile_eq_nil_iff.2 (fun c hc => hws c (by simp [hc]))
    rw [List.nil_append, hpost0]
    rfl
  | cons a m' =>
    have ha : isWhiteSpace a = false := hhead a rfl
    rw [List.cons_append, List.dropWhile_cons_of_neg (by simp [ha]), ← List.cons_append,
      List.reverse_append, List.dropWhile_append_of_pos hpost]
    -- 裏返した中身の先頭は、中身の最後の文字
    obtain ⟨b, m'', hb⟩ := List.exists_cons_of_ne_nil (List.reverse_ne_nil_iff.2 (List.cons_ne_nil a m'))
    have hbw : isWhiteSpace b = false := by
      apply hlast b
      rw [← List.head?_reverse, hb]
      rfl
    rw [hb, List.dropWhile_cons_of_neg (by simp [hbw]), ← hb, List.reverse_reverse]

/-- `s` は、空白だけの前後に挟まれた中身が、ASCII の大文字小文字を問わず `name` と綴られる。 -/
def SpellsPadded (name s : String) : Prop :=
  ∃ pre m post, s.toList = pre ++ m ++ post ∧ (∀ c ∈ pre ++ post, isWhiteSpace c = true) ∧
    m.map Char.toLower = name.toList

/-- 空白を含まない名前について、両端の空白を除いて小文字にすると `name` になるのは、`s` が
`name` を空白で挟んで大文字小文字を問わずに綴ったものであるとき。 -/
theorem trim_toLower_eq_iff {name : String}
    (hname : ∀ c ∈ name.toList, isWhiteSpace c = false) (s : String) :
    (trim s).map Char.toLower = name ↔ SpellsPadded name s := by
  constructor
  · intro h
    obtain ⟨pre, post, hws, hs⟩ := toList_eq_trim s
    refine ⟨pre, (trim s).toList, post, hs, hws, ?_⟩
    rw [← String.toList_map, h]
  · rintro ⟨pre, m, post, hs, hws, hm⟩
    -- 中身の文字は、小文字にすると名前の文字になるので、どれも空白ではない
    have hmws : ∀ c ∈ m, isWhiteSpace c = false := by
      intro c hc
      cases hc' : isWhiteSpace c with
      | false => rfl
      | true =>
        have : c.toLower ∈ name.toList := hm ▸ List.mem_map_of_mem hc
        rw [toLower_of_isWhiteSpace hc'] at this
        rw [hname c this] at hc'
        cases hc'
    have htrim := trim_toList_eq hs hws (fun c hc => hmws c (List.mem_of_mem_head? hc))
      (fun c hc => hmws c (List.mem_of_mem_getLast? hc))
    rw [← String.toList_inj, String.toList_map, htrim, hm]

end Unicode

namespace ExportFormat

/-- 名前から読めるのは、両端の空白を除いて小文字にすると拡張子になるとき。 -/
theorem ofString_eq_ok_iff (s : String) (f : ExportFormat) :
    ofString s = .ok f ↔ (Unicode.trim s).map Char.toLower = f.extension := by
  unfold ofString
  split <;> cases f <;> simp_all [extension]

/-- 形式の名前（拡張子）には空白が無い。 -/
theorem extension_not_whiteSpace (f : ExportFormat) :
    ∀ c ∈ f.extension.toList, Unicode.isWhiteSpace c = false := by
  cases f <;> simp [extension, Unicode.isWhiteSpace]

/-- 読めない名前は、どれも与えた文字列のまま `unsupportedExportFormat` になる。 -/
theorem ofString_cases (s : String) :
    ofString s = .ok .csv ∨ ofString s = .ok .txt ∨ ofString s = .error (.unsupportedExportFormat s) := by
  unfold ofString
  split <;> simp

end ExportFormat

namespace RawMeasurementLog

/-- 書き出した表を改行で区切ると、行の列と最後の改行の後の空の文字列に分かれる。行は見出しと記録ごとの
一行（古い順）で、区切り文字で区切ると見出しは列の名前に、記録の行はその欄の文字列に分かれる。 -/
theorem exportTable_split {l : RawMeasurementLog} {f : ExportFormat} {out : String}
    (hout : l.exportTable f = some out) :
    ∃ lines : List String, (out.split '\n').toList.map (·.copy) = lines ++ [""] ∧
      lines.map (fun line => (line.split f.delimiter).toList.map (·.copy)) =
        rawColumns :: l.toList.map RawRecord.fieldTexts := by
  -- 区切り文字と改行は、数字でも数の表示に使う文字でもない
  have hdelim : (f.delimiter.isDigit = false ∧ f.delimiter ∉ Decimal.numeralMarks) ∧
      f.delimiter ≠ '\n' ∧ ∀ s ∈ rawColumns, f.delimiter ∉ s.toList ∧ '\n' ∉ s.toList := by
    cases f <;> decide
  have hnl : ('\n'.isDigit = false ∧ '\n' ∉ Decimal.numeralMarks) := by decide
  let sep := String.singleton f.delimiter
  let rows := l.toList.map (fun r => sep.intercalate r.fieldTexts)
  have hne : l.toList ≠ [] := fun h => by
    rw [(exportTable_eq_none_iff l f).2 h] at hout
    cases hout
  rw [exportTable_eq_some l f hne, Option.some.injEq] at hout
  subst hout
  -- どの行にも改行は無い
  have hlines : ∀ s ∈ sep.intercalate rawColumns :: rows ++ [""], '\n' ∉ s.toList := by
    intro s hs
    simp only [List.cons_append, List.mem_cons, List.mem_append, rows, List.mem_map,
      List.not_mem_nil, or_false] at hs
    rcases hs with rfl | ⟨r, -, rfl⟩ | rfl
    · exact not_mem_intercalate (Ne.symm hdelim.2.1) (fun s hs => (hdelim.2.2 s hs).2)
    · exact not_mem_intercalate (Ne.symm hdelim.2.1) (r.not_mem_fieldTexts hnl.1 hnl.2)
    · simp
  have hsplit := String.toList_split_intercalate hlines
  rw [if_neg (by simp)] at hsplit
  refine ⟨sep.intercalate rawColumns :: rows, hsplit, ?_⟩
  -- 欄の文字列にも列の名前にも区切り文字は無い
  rw [List.map_cons, List.map_map,
    String.toList_split_intercalate (fun s hs => (hdelim.2.2 s hs).1), if_neg (by decide)]
  congr 1
  refine List.map_congr_left fun r _ => ?_
  rw [Function.comp_apply, String.toList_split_intercalate (r.not_mem_fieldTexts hdelim.1.1 hdelim.1.2),
    if_neg (by simp [RawRecord.fieldTexts])]

/-- **書き出しの形。** どの記録とどの形式についても、

* 記録が無いときに限り、何も書き出さない。
* 書き出したものは改行で区切ると、行の列と、最後の改行の後の空の文字列に分かれる。行は見出しと
  記録ごとの一行（古い順）で、区切り文字で区切ると見出しは列の名前に、記録の行は時刻、画像の
  番号と、列の順の十の計測値を小数点以下二桁で書いたものに分かれる。どの行もちょうど 12 個。
* 計測値の表示が小数点以下ちょうど二桁の形になるのは、値が有限のときに限る。
* 形式の名前は、前後の空白を除き ASCII の大文字小文字を問わずに `csv` または `txt` と綴られた
  ときに限り読め、それ以外はどれも `unsupportedExportFormat`。 -/
theorem export_layout (l : RawMeasurementLog) (f : ExportFormat) :
    (l.exportTable f = none ↔ l.toList = []) ∧
    (∀ out, l.exportTable f = some out →
      ∃ lines : List String,
        (out.split '\n').toList.map (·.copy) = lines ++ [""] ∧
        lines.map (fun line => (line.split f.delimiter).toList.map (·.copy)) =
          rawColumns :: l.toList.map (fun r => toString r.timestampMs :: toString r.frameId ::
            [r.radiusPx, r.radiusUm, r.areaPx, r.areaUm2, r.xCenterPx, r.yCenterPx, r.majorAxisPx,
              r.majorAxisUm, r.equivalentDiameterPx, r.equivalentDiameterUm].map
                (Decimal.fixedDouble 2)) ∧
        ∀ line ∈ lines, (line.split f.delimiter).toList.length = 12) ∧
    (∀ v : Float, Decimal.FixedText 2 (Decimal.fixedDouble 2 v) ↔ v.isFinite = true) ∧
    (∀ s, ExportFormat.ofString s = .ok .csv ↔ Unicode.SpellsPadded "csv" s) ∧
    (∀ s, ExportFormat.ofString s = .ok .txt ↔ Unicode.SpellsPadded "txt" s) ∧
    ∀ s, ExportFormat.ofString s = .ok .csv ∨ ExportFormat.ofString s = .ok .txt ∨
      ExportFormat.ofString s = .error (.unsupportedExportFormat s) := by
  refine ⟨exportTable_eq_none_iff l f, fun out hout => ?_,
    fun v => Decimal.fixedDouble_fixedText_iff (by decide) v, ?_, ?_, ExportFormat.ofString_cases⟩
  · obtain ⟨lines, hsplit, hfields⟩ := exportTable_split hout
    refine ⟨lines, hsplit, hfields, fun line hline => ?_⟩
    -- 行の欄は列の名前か記録の欄の文字列で、どちらも 12 個
    have hmem := List.mem_map_of_mem (f := fun line => (line.split f.delimiter).toList.map (·.copy)) hline
    rw [hfields, List.mem_cons] at hmem
    rw [← List.length_map (f := (·.copy))]
    rcases hmem with h | h
    · rw [h]
      rfl
    · obtain ⟨r, -, hr⟩ := List.mem_map.1 h
      rw [← hr, RawRecord.length_fieldTexts]
  · intro s
    rw [ExportFormat.ofString_eq_ok_iff]
    exact Unicode.trim_toLower_eq_iff (ExportFormat.extension_not_whiteSpace _) s
  · intro s
    rw [ExportFormat.ofString_eq_ok_iff]
    exact Unicode.trim_toLower_eq_iff (ExportFormat.extension_not_whiteSpace _) s

/-- 値の違う三つの記録を、タブ区切りの表に書き出す。 -/
theorem export_layout_three_records :
    let l : RawMeasurementLog := ⟨⟨#[
      ⟨1000, 3, 5.25, 10.5, 86.59, 346.36, 12.0, 30.5, 11.0, 22.0, 10.5, 21.0⟩,
      ⟨1033, 4, 4.0, 8.0, 50.27, 201.06, 20.75, 30.25, 9.5, 19.0, 8.0, 16.0⟩,
      ⟨1066, 6, 6.5, 13.0, 132.73, 530.93, 41.125, 29.875, 14.0, 28.0, 13.0, 26.0⟩], 3⟩⟩
    ∃ out, l.exportTable .txt = some out ∧
      ∃ lines : List String,
        (out.split '\n').toList.map (·.copy) = lines ++ [""] ∧
        lines.map (fun line => (line.split '\t').toList.map (·.copy)) =
          rawColumns :: l.toList.map (fun r => toString r.timestampMs ::
            toString r.frameId :: [r.radiusPx, r.radiusUm, r.areaPx, r.areaUm2, r.xCenterPx,
              r.yCenterPx, r.majorAxisPx, r.majorAxisUm, r.equivalentDiameterPx,
              r.equivalentDiameterUm].map (Decimal.fixedDouble 2)) ∧
        ∀ line ∈ lines, (line.split '\t').toList.length = 12 := by
  intro l
  have hout := exportTable_eq_some l .txt (List.cons_ne_nil _ _)
  exact ⟨_, hout, (export_layout l .txt).2.1 _ hout⟩

end RawMeasurementLog

end DropletVision
