import Mathlib.Data.List.Permutation
import DropletVision.Controller.ConfigWriters
import DropletVision.Proofs.Controller.Calibration

/-!
# 設定の書き換えが一つずつ行われたことになる実行

呼び出しを一つずつ順に走らせたときの設定を `ConfigCall.serial` とする。一つの呼び出しの効き目
`ConfigCall.after` は、制御に同じ操作をしたときの設定の変わり方そのものである。

* どの呼び出しも、最初に読んでから入れ替えるまでの間に他の入れ替えが挟まらない実行
  （`isolated`）では、設定は、戻った呼び出しを戻った順に一つずつ走らせたときのものに等しい。
  呼び出しを一つずつ走らせる実行はそうした実行で、どの呼び出しも戻る。
* 挟まる実行ではそうならない。二つの更新が同じ設定の写しを取ってから順に入れ替えると、
  後の入れ替えが先の更新を消し、どちらの順に一つずつ走らせた設定とも違う。

証明は、置き場と手元の写しが食い違わないという不変条件 `Coherent` を一歩ごとに保つことによる。
写しが今の版のものなら写しは今の設定そのものなので、入れ替えは今の設定に呼び出しを当てたものになる。
-/

namespace DropletVision

namespace ConfigCall

/-- 呼び出しを一つだけ走らせた後の設定：進んで作れた設定か、そうでなければ `c` のまま。 -/
def after (call : ConfigCall) (c : DetectionConfig) : DetectionConfig :=
  if call.proceeds c then
    match call.build c with
    | .ok next => next
    | .error _ => c
  else c

/-- 呼び出しを列の順に一つずつ走らせた後の設定。 -/
def serial (c : DetectionConfig) (calls : List ConfigCall) : DetectionConfig :=
  calls.foldl (fun c call => call.after c) c

@[simp] theorem serial_nil (c : DetectionConfig) : serial c [] = c := rfl

@[simp] theorem serial_cons (c : DetectionConfig) (call : ConfigCall) (calls : List ConfigCall) :
    serial c (call :: calls) = serial (call.after c) calls := rfl

@[simp] theorem serial_append_singleton (c : DetectionConfig) (calls : List ConfigCall)
    (call : ConfigCall) : serial c (calls ++ [call]) = call.after (serial c calls) := by
  simp [serial]

theorem after_of_not_proceeds {call : ConfigCall} {c : DetectionConfig}
    (h : call.proceeds c = false) : call.after c = c := by
  simp [after, h]

theorem after_of_build_ok {call : ConfigCall} {c next : DetectionConfig}
    (h : call.proceeds c = true) (hb : call.build c = .ok next) : call.after c = next := by
  simp [after, h, hb]

theorem after_of_build_error {call : ConfigCall} {c : DetectionConfig} {e : DetectorError}
    (hb : call.build c = .error e) : call.after c = c := by
  simp [after, hb]

/-- 一つだけで走るときの歩み：読んで入れ替える。較正の上書きは二度読む。 -/
def moves : ConfigCall → Nat → List WriterMove
  | .calibrate _, i => [.read i, .read i, .install i]
  | _, i => [.read i, .install i]

/-- 番号 `i` から始まる呼び出しを一つずつ順に走らせる歩み。 -/
def oneByOne : List ConfigCall → Nat → List WriterMove
  | [], _ => []
  | call :: calls, i => call.moves i ++ oneByOne calls (i + 1)

end ConfigCall

/-! ## 一つずつの効き目と制御の操作 -/

namespace DetectionController

variable {k k' : DetectionController}

/-- 更新の操作は、設定を更新の効き目どおりに変える。 -/
theorem perform_updateConfig_config (p : ConfigPatch) :
    (k.perform (.updateConfig p)).config = (ConfigCall.update p).after k.config := by
  cases h : p.apply k.config with
  | ok next =>
    simp [perform, orKeep, updateConfig, installConfig, mapDetector, h, bind, Except.bind, pure,
      Except.pure, ConfigCall.after, ConfigCall.proceeds, ConfigCall.build]
  | error e =>
    simp [perform, orKeep, updateConfig, h, bind, Except.bind, ConfigCall.after,
      ConfigCall.proceeds, ConfigCall.build]

/-- プロファイルの設定に入れ替えると、設定は読み込みの効き目どおりに変わる。読み込みが使う
カメラの較正は、動いていれば覚えている較正。 -/
theorem loadConfig_config (c : DetectionConfig) :
    (k.loadConfig c).config =
      (ConfigCall.load c (if k.isRunning then k.cameraCalibration else none)).after k.config := by
  unfold loadConfig
  cases k.isRunning <;> cases k.cameraCalibration <;>
    simp [installConfig, mapDetector, ConfigCall.after, ConfigCall.proceeds, ConfigCall.build]

/-- 較正を持つカメラで始めると、設定は較正の上書きの効き目どおりに変わる。 -/
theorem start_config {cam : Camera} {cal : Calibration} (hs : k.start cam = .ok k')
    (hc : cam.calibration = some cal) :
    k'.config = (ConfigCall.calibrate cal).after k.config := by
  have h := (start_spec hs).2
  simp only [hc] at h
  rw [h]
  cases hd : calibrationDiffers cal k.config.calibration
  · simp [ConfigCall.after, ConfigCall.proceeds, hd]
  · simp [ConfigCall.after, ConfigCall.proceeds, ConfigCall.build, hd]

end DetectionController

/-! ## 挟まらない実行 -/

namespace ConfigSlot

@[simp] theorem run_nil (s : ConfigSlot) : s.run [] = s := rfl

@[simp] theorem run_cons (s : ConfigSlot) (m : WriterMove) (ms : List WriterMove) :
    s.run (m :: ms) = (s.step m).run ms := rfl

theorem run_append (s : ConfigSlot) (ms ms' : List WriterMove) :
    s.run (ms ++ ms') = (s.run ms).run ms' :=
  List.foldl_append

/-- 歩み `m` が入れ替えなら、その呼び出しが最初に読んでから誰も入れ替えていない。 -/
def undisturbed (s : ConfigSlot) : WriterMove → Bool
  | .read _ => true
  | .install i =>
    match s.stages[i]? with
    | some (.holding _ _ v) => v == s.version
    | _ => true

@[simp] theorem undisturbed_read (s : ConfigSlot) (i : Nat) : s.undisturbed (.read i) = true := rfl

/-- どの入れ替えも、その呼び出しが最初に読んでから誰も入れ替えていない実行。 -/
def isolated (s : ConfigSlot) : List WriterMove → Bool
  | [] => true
  | m :: ms => s.undisturbed m && (s.step m).isolated ms

theorem isolated_append (s : ConfigSlot) (ms ms' : List WriterMove) :
    s.isolated (ms ++ ms') = (s.isolated ms && (s.run ms).isolated ms') := by
  induction ms generalizing s with
  | nil => simp [isolated]
  | cons m ms ih => simp [isolated, ih, Bool.and_assoc]

end ConfigSlot

/-! ## 置き場と手元の写しの不変条件 -/

namespace CallStage

/-- 手元が設定 `c`・版 `n` の置き場と食い違わない：読んだ版は今の版を越えず、今の版のままなら、
較正の上書きが比べた結果も手元の写しも今の設定のものである。 -/
def Agrees (c : DetectionConfig) (n : Nat) : CallStage → Prop
  | .waiting _ => True
  | .checked cal v => v ≤ n ∧ (v = n → DetectionController.calibrationDiffers cal c.calibration)
  | .holding call base v => v ≤ n ∧ (v = n → base = c ∧ call.proceeds c)
  | .returned _ => True

/-- 入れ替えで版が進むと、それまでの手元はどれも古くなる。 -/
theorem Agrees.bump {st : CallStage} {c c' : DetectionConfig} {n : Nat} (h : st.Agrees c n) :
    st.Agrees c' (n + 1) := by
  cases st with
  | waiting => trivial
  | checked cal v => exact ⟨by have := h.1; omega, fun hv => absurd h.1 (by omega)⟩
  | holding call base v => exact ⟨by have := h.1; omega, fun hv => absurd h.1 (by omega)⟩
  | returned => trivial

theorem agrees_set {l : List CallStage} {c : DetectionConfig} {n : Nat}
    (h : ∀ st ∈ l, st.Agrees c n) {i : Nat} {x : CallStage} (hx : x.Agrees c n) :
    ∀ st ∈ l.set i x, st.Agrees c n := fun st hst =>
  (List.mem_or_eq_of_mem_set hst).elim (h st) (· ▸ hx)

end CallStage

theorem ConfigCall.agrees_begin {call : ConfigCall} {c : DetectionConfig} {n : Nat}
    (h : call.proceeds c = true) : (call.begin c n).Agrees c n := by
  cases call <;> simp_all [ConfigCall.begin, CallStage.Agrees, ConfigCall.proceeds]

namespace ConfigSlot

/-- 置き場と手元の写しが食い違わない：設定は戻った呼び出しを一つずつ走らせたもので、
どの手元も置き場と食い違わない。 -/
structure Coherent (c₀ : DetectionConfig) (s : ConfigSlot) : Prop where
  serial : s.config = ConfigCall.serial c₀ s.log
  agrees : ∀ st ∈ s.stages, st.Agrees s.config s.version

theorem coherent_start (c : DetectionConfig) (calls : List ConfigCall) :
    (start c calls).Coherent c := by
  refine ⟨rfl, ?_⟩
  simp only [start, List.mem_map]
  rintro _ ⟨call, -, rfl⟩
  trivial

variable {c₀ : DetectionConfig} {s : ConfigSlot}

/-- 設定を変えずに戻る呼び出しは、不変条件を保つ。 -/
theorem Coherent.finish (h : s.Coherent c₀) {i : Nat} {call : ConfigCall}
    {r : Outcome (Option DetectionConfig)} (hc : call.after s.config = s.config) :
    (s.finish i call r).Coherent c₀ := by
  refine ⟨?_, CallStage.agrees_set h.agrees trivial⟩
  simp only [ConfigSlot.finish, ConfigCall.serial_append_singleton, ← h.serial]
  exact hc.symm

theorem Coherent.read (h : s.Coherent c₀) (i : Nat) : (s.read i).Coherent c₀ := by
  unfold ConfigSlot.read
  split
  · rename_i call hst
    split
    · rename_i hp
      exact ⟨h.serial, CallStage.agrees_set h.agrees (ConfigCall.agrees_begin hp)⟩
    · rename_i hp
      exact h.finish (ConfigCall.after_of_not_proceeds (by simpa using hp))
  · rename_i cal v hst
    have hv := h.agrees _ (List.mem_of_getElem? hst)
    exact ⟨h.serial, CallStage.agrees_set h.agrees ⟨hv.1, fun he => ⟨rfl, hv.2 he⟩⟩⟩
  · exact h

theorem Coherent.install (h : s.Coherent c₀) {i : Nat}
    (hu : s.undisturbed (.install i) = true) : (s.install i).Coherent c₀ := by
  unfold ConfigSlot.install
  split
  · rename_i call base v hst
    have hv : v = s.version := by simpa [undisturbed, hst] using hu
    -- 誰も入れ替えていないので、写しは今の設定で、呼び出しは今の設定で進む
    obtain ⟨rfl, hp⟩ := (h.agrees _ (List.mem_of_getElem? hst)).2 hv
    split
    · rename_i next hb
      refine ⟨?_, ?_⟩
      · simp only [ConfigSlot.finish, ConfigCall.serial_append_singleton, ← h.serial]
        exact (ConfigCall.after_of_build_ok hp hb).symm
      · exact CallStage.agrees_set (fun st hst' => (h.agrees st hst').bump) trivial
    · rename_i e hb
      exact h.finish (ConfigCall.after_of_build_error hb)
  · exact h

theorem Coherent.step (h : s.Coherent c₀) {m : WriterMove} (hu : s.undisturbed m = true) :
    (s.step m).Coherent c₀ := by
  cases m with
  | read i => exact h.read i
  | install i => exact h.install hu

/-- 挟まらない実行は、置き場と手元の写しを食い違わせない。 -/
theorem Coherent.run (h : s.Coherent c₀) {moves : List WriterMove}
    (hm : s.isolated moves = true) : (s.run moves).Coherent c₀ := by
  induction moves generalizing s with
  | nil => exact h
  | cons m ms ih =>
    simp only [isolated, Bool.and_eq_true] at hm
    exact ih (h.step hm.1) hm.2

/-! ## 一つずつ走らせる実行 -/

/-- `t` は、`s` で呼び出し `i` の `call` が戻り、設定を `call` を一つだけ走らせたものにしたところ。 -/
structure Returns (s t : ConfigSlot) (i : Nat) (call : ConfigCall) : Prop where
  config : t.config = call.after s.config
  log : t.log = s.log ++ [call]
  stages : ∃ r, t.stages = s.stages.set i (.returned r)

/-- 呼び出し `i` の手元だけが変わった置き場から戻っても、元の置き場から戻ったことになる。 -/
theorem Returns.of_set {s s' t : ConfigSlot} {i : Nat} {call : ConfigCall} {x : CallStage}
    (h : Returns s' t i call) (hc : s'.config = s.config) (hl : s'.log = s.log)
    (hs : s'.stages = s.stages.set i x) : Returns s t i call := by
  obtain ⟨r, hr⟩ := h.stages
  exact ⟨hc ▸ h.config, hl ▸ h.log, r, by rw [hr, hs, List.set_set]⟩

/-- 設定を変えずに戻る呼び出しは、一つだけ走らせたときと同じに戻る。 -/
theorem returns_finish {i : Nat} {call : ConfigCall} {r : Outcome (Option DetectionConfig)}
    (hc : call.after s.config = s.config) : Returns s (s.finish i call r) i call :=
  ⟨hc.symm, rfl, r, rfl⟩

theorem read_of_returned {i : Nat} {r : Outcome (Option DetectionConfig)}
    (h : s.stages[i]? = some (.returned r)) : s.read i = s := by
  simp [read, h]

theorem install_of_returned {i : Nat} {r : Outcome (Option DetectionConfig)}
    (h : s.stages[i]? = some (.returned r)) : s.install i = s := by
  simp [install, h]

/-- 今の設定の写しを手にし、今の設定で進む呼び出しは、入れ替えると戻る。 -/
theorem returns_install {i : Nat} {call : ConfigCall}
    (h : s.stages[i]? = some (.holding call s.config s.version))
    (hp : call.proceeds s.config = true) :
    s.undisturbed (.install i) = true ∧ Returns s (s.install i) i call := by
  refine ⟨by simp [undisturbed, h], ?_⟩
  simp only [install, h]
  split
  · rename_i next hb
    exact ⟨(ConfigCall.after_of_build_ok hp hb).symm, rfl, _, rfl⟩
  · rename_i e hb
    exact returns_finish (ConfigCall.after_of_build_error hb)

/-- 一度だけ読む呼び出し（更新と読み込み）は、読んで入れ替えると戻る。 -/
theorem returns_read_install {i : Nat} {call : ConfigCall}
    (h : s.stages[i]? = some (.waiting call)) (hp : ∀ c, call.proceeds c = true)
    (hb : ∀ c v, call.begin c v = .holding call c v) :
    s.isolated [.read i, .install i] = true ∧ Returns s (s.run [.read i, .install i]) i call := by
  have hi : i < s.stages.length := (List.getElem?_eq_some_iff.1 h).1
  let s₁ : ConfigSlot := { s with stages := s.stages.set i (.holding call s.config s.version) }
  have h₁ : s.read i = s₁ := by simp [read, h, hp, hb, s₁]
  obtain ⟨hu, hr⟩ := returns_install (s := s₁) (List.getElem?_set_self hi) (hp _)
  refine ⟨by simp [isolated, step, h₁, hu], ?_⟩
  simpa [step, h₁] using hr.of_set (s := s) rfl rfl rfl

/-- 待っている呼び出し `i` を一つだけで走らせると、他と挟まらずに戻る。 -/
theorem returns_moves {i : Nat} {call : ConfigCall} (h : s.stages[i]? = some (.waiting call)) :
    s.isolated (call.moves i) = true ∧ Returns s (s.run (call.moves i)) i call := by
  have hi : i < s.stages.length := (List.getElem?_eq_some_iff.1 h).1
  cases call with
  | update p => exact returns_read_install h (fun _ => rfl) (fun _ _ => rfl)
  | load profile camera => exact returns_read_install h (fun _ => rfl) (fun _ _ => rfl)
  | calibrate cal =>
    cases hd : DetectionController.calibrationDiffers cal s.config.calibration
    · -- 較正が同じなら最初の読みで戻り、残りの歩みは何もしない
      have h₁ : s.read i = s.finish i (.calibrate cal) (.ok none) := by
        simp [read, h, ConfigCall.proceeds, hd]
      have hr : (s.finish i (.calibrate cal) (.ok none)).stages[i]? = some (.returned (.ok none)) :=
        List.getElem?_set_self hi
      refine ⟨by simp [ConfigCall.moves, isolated, undisturbed, step, h₁, read_of_returned hr, hr],
        ?_⟩
      simp only [ConfigCall.moves, run_cons, run_nil, step, h₁, read_of_returned hr,
        install_of_returned hr]
      have hp : (ConfigCall.calibrate cal).proceeds s.config = false := hd
      exact returns_finish (ConfigCall.after_of_not_proceeds hp)
    · -- 最初の読みで比べ、二度目の読みで写しを取り、入れ替える
      let s₂ : ConfigSlot :=
        { s with stages := s.stages.set i (.holding (.calibrate cal) s.config s.version) }
      have h₁ : s.read i = { s with stages := s.stages.set i (.checked cal s.version) } := by
        simp [read, h, ConfigCall.proceeds, ConfigCall.begin, hd]
      have h₂ : (s.read i).read i = s₂ := by
        rw [h₁]
        simp [read, List.getElem?_set_self hi, s₂]
      obtain ⟨hu, hr⟩ := returns_install (s := s₂) (List.getElem?_set_self hi) hd
      refine ⟨by simp [ConfigCall.moves, isolated, step, h₂, hu], ?_⟩
      simpa [ConfigCall.moves, step, h₂] using hr.of_set (s := s) rfl rfl rfl

/-- 番号 `i` から先の呼び出しがみな待っていれば、それらを一つずつ走らせる実行は挟まらず、
どれも戻り、設定はそれらを一つずつ走らせたものになる。 -/
theorem run_oneByOne {calls : List ConfigCall} {i : Nat} (h : s.stages.drop i = calls.map .waiting) :
    s.isolated (ConfigCall.oneByOne calls i) = true ∧
      (s.run (ConfigCall.oneByOne calls i)).log = s.log ++ calls ∧
      (s.run (ConfigCall.oneByOne calls i)).config = ConfigCall.serial s.config calls := by
  induction calls generalizing i s with
  | nil => simp [ConfigCall.oneByOne, isolated]
  | cons call calls ih =>
    have hw : s.stages[i]? = some (.waiting call) := by
      rw [← Nat.add_zero i, ← List.getElem?_drop, h]
      rfl
    obtain ⟨hiso, hr⟩ := returns_moves hw
    obtain ⟨r, hst⟩ := hr.stages
    -- 呼び出し `i` が戻った後も、その先の呼び出しはみな待っている
    have hrest : (s.run (call.moves i)).stages.drop (i + 1) = calls.map .waiting := by
      have := congrArg (List.drop 1) h
      simp only [List.drop_drop, List.map_cons, List.drop_succ_cons, List.drop_zero] at this
      rw [hst, List.drop_set, if_pos (Nat.lt_succ_self i), this]
    obtain ⟨hiso', hlog, hconf⟩ := ih hrest
    refine ⟨?_, ?_, ?_⟩
    · simp [ConfigCall.oneByOne, isolated_append, hiso, hiso']
    · simp [ConfigCall.oneByOne, run_append, hlog, hr.log]
    · simp [ConfigCall.oneByOne, run_append, hconf, hr.config]

end ConfigSlot

open ConfigSlot in
/-- 設定を書き換える呼び出しのどんな実行でも、どの呼び出しも最初に読んでから入れ替えるまでの間に
他の入れ替えが挟まらなければ、設定は、戻った呼び出しを戻った順に一つずつ走らせたものになる。
呼び出しを一つずつ走らせる実行はそうした実行で、どの呼び出しも戻り、設定は呼び出しを並んだ順に
一つずつ走らせたものになる。 -/
theorem isolated_runs_are_serial (c : DetectionConfig) (calls : List ConfigCall) :
    (∀ moves, (start c calls).isolated moves = true →
      ((start c calls).run moves).config = ConfigCall.serial c ((start c calls).run moves).log) ∧
    (start c calls).isolated (ConfigCall.oneByOne calls 0) = true ∧
      ((start c calls).run (ConfigCall.oneByOne calls 0)).log = calls ∧
      ((start c calls).run (ConfigCall.oneByOne calls 0)).config = ConfigCall.serial c calls := by
  have hw : (start c calls).stages.drop 0 = calls.map .waiting := rfl
  obtain ⟨hiso, hlog, hconf⟩ := run_oneByOne hw
  exact ⟨fun moves hm => ((coherent_start c calls).run hm).serial, hiso, by simpa [start] using hlog,
    hconf⟩

/-- 入れ替えない呼び出しは、他の呼び出しの読みと入れ替えの間に挟まってもよい：検査に通らない
更新が挟まった実行も、二つを戻った順に一つずつ走らせたものになる。 -/
theorem rejected_update_inside_window :
    let calls := [ConfigCall.update { minArea := some 10.0 }, .update { backgroundFrames := some 0 }]
    let moves := [WriterMove.read 0, .read 1, .install 1, .install 0]
    (ConfigSlot.start {} calls).isolated moves = true ∧
      ((ConfigSlot.start {} calls).run moves).config =
        ConfigCall.serial {} ((ConfigSlot.start {} calls).run moves).log := by
  have hiso : (ConfigSlot.start {} [ConfigCall.update { minArea := some 10.0 },
      .update { backgroundFrames := some 0 }]).isolated
      [.read 0, .read 1, .install 1, .install 0] = true := by decide
  exact ⟨hiso, (isolated_runs_are_serial {} _).1 _ hiso⟩

/-- 二つの更新が同じ設定の写しを取ってから順に入れ替えると、どちらも戻るが、後の入れ替えが先の
更新を消す：設定は、二つをどちらの順に一つずつ走らせたものとも違う。 -/
theorem overlapping_updates_lose_one :
    let a := ConfigCall.update { minArea := some 10.0 }
    let b := ConfigCall.update { maxArea := some 100.0 }
    let s := (ConfigSlot.start {} [a, b]).run [.read 0, .read 1, .install 0, .install 1]
    s.log = [a, b] ∧ (∀ st ∈ s.stages, ∃ next, st = .returned (.ok (some next))) ∧
      ∀ order, order.Perm [a, b] → ConfigCall.serial {} order ≠ s.config := by
  refine ⟨rfl, ?_, ?_⟩
  · have hstages : ((ConfigSlot.start {} [.update { minArea := some 10.0 },
        .update { maxArea := some 100.0 }]).run [.read 0, .read 1, .install 0, .install 1]).stages =
        [.returned (.ok (some { minArea := 10.0 })), .returned (.ok (some { maxArea := 100.0 }))] :=
      rfl
    rw [hstages]
    simp
  · intro order hp heq
    -- 最小の面積は、一つずつ走らせればどちらの順でも 10 だが、この実行では既定の 20 のまま
    have hmin := congrArg (fun c => c.minArea.toBits) heq
    rcases List.perm_pair.1 hp with rfl | rfl <;> revert hmin <;> decide

end DropletVision
