import DropletVision.Controller.Sessions
import DropletVision.Proofs.Controller.Interleaving

/-!
# 止めた糸は蓄えに足さず、次の条件で出る

停止が止める旗を立てた糸は、その後どの呼び出しやどの糸の歩みが挟まっても、蓄えに結果を
足さず、次にループの条件を読んだところでループを出る。後の開始が「動いている」旗を再び
立てても変わらない。糸は自分の旗しか読まないからである。

* `Worker.step_forward_of_ne_append` — 結果を足す手順のほかの一歩は、蓄えに触れず、頭へ
  戻るか頭から遠ざかる。
* `Thread.toExit` — 旗が立った糸がループを出るまでに自分で進む歩みの数の上限。
  `Thread.step_toExit_of_stop` が、旗の立った糸の一歩でこれが減ることを言う。
* `Controller.call_getElem?` — 呼び出し側は糸を進めず、せいぜい旗を立てるだけ。
* `Controller.StoppedWithin` — 糸 `i` の旗が立っていて、あと `n` 歩以内に出る。どの歩みでも
  保たれ、糸 `i` の歩みのたびに `n` が一つ減る（`StoppedWithin.run`）。
* `Controller.stopped_session_never_appends` — 主定理。

結果を足す手順で旗を見ることが効いている。旗が立つより前に列から取ったフレームの結果は、
その手順に着くときには旗が立っているので捨てられる。
-/

namespace DropletVision

/-- 旗の立った糸が、この手順からループの条件へ戻って出るまでに進む歩みの数。 -/
def LoopPoint.toExit : LoopPoint → Nat
  | .top => 8
  | .config => 7
  | .background => 6
  | .dequeue => 5
  | .resync _ => 4
  | .detect _ => 3
  | .append _ _ => 2

theorem LoopPoint.two_le_toExit (p : LoopPoint) : 2 ≤ p.toExit := by
  cases p <;> simp [toExit]

theorem LoopPoint.toExit_le (p : LoopPoint) : p.toExit ≤ 8 := by
  cases p <;> simp [toExit]

namespace Worker

variable {w : Worker} (sh : Shared) (clock : Nat)

/-- 結果を足す手順のほかの一歩は、蓄えに触れず、ループの頭へ戻るか、出口へ一つ近づく。 -/
theorem step_forward_of_ne_append (h : ∀ metrics stages, w.point ≠ .append metrics stages) :
    (w.step sh clock).2.measurements = sh.measurements ∧
      ((w.step sh clock).1.point.isTop = true ∨
        (w.step sh clock).1.point.toExit + 1 = w.point.toExit) := by
  cases hp : w.point with
  | append metrics stages => exact absurd hp (h metrics stages)
  | top => rw [step_of_top hp]; exact ⟨rfl, .inr rfl⟩
  | config => rw [step_of_config hp]; split <;> exact ⟨rfl, .inr rfl⟩
  | background =>
    cases hb : sh.pending with
    | none => rw [step_of_background_none hp hb]; exact ⟨rfl, .inr rfl⟩
    | some frames => rw [step_of_background_some hp hb]; exact ⟨rfl, .inr rfl⟩
  | dequeue =>
    -- 列が空なら頭へ戻る
    cases hq : sh.queue.toList with
    | nil => rw [step_of_dequeue_nil hp hq]; exact ⟨rfl, .inl rfl⟩
    | cons f rest => rw [step_of_dequeue_cons hp hq]; exact ⟨rfl, .inr rfl⟩
  | resync f => rw [step_of_resync hp]; exact ⟨rfl, .inr rfl⟩
  | detect f => rw [step_of_detect hp]; exact ⟨rfl, .inr rfl⟩

end Worker

namespace Thread

/-- 旗の立った糸がループを出るまでに自分で進む歩みの数の上限。 -/
def toExit (t : Thread) : Nat :=
  match t.phase with
  | .loadEpoch => 3
  | .loadConfig => 2
  | .check => 1
  | .body => t.worker.point.toExit
  | .exited => 0

theorem toExit_le (t : Thread) : t.toExit ≤ 8 := by
  unfold toExit
  split
  all_goals first | decide | exact LoopPoint.toExit_le _

theorem toExit_eq_zero_iff {t : Thread} : t.toExit = 0 ↔ t.phase = .exited := by
  cases h : t.phase with
  | body =>
    have := t.worker.point.two_le_toExit
    simp only [toExit, h, reduceCtorEq, iff_false]
    omega
  | _ => simp [toExit, h]

variable {t : Thread} {sh : Shared} {clock : Nat}

theorem step_of_loadEpoch (h : t.phase = .loadEpoch) :
    t.step sh clock =
      ({ t with worker := { t.worker with epoch := sh.epoch }, phase := .loadConfig }, sh) := by
  simp only [step, h]

theorem step_of_loadConfig (h : t.phase = .loadConfig) :
    t.step sh clock =
      ({ t with worker := { t.worker with configVersion := sh.configVersion }, phase := .check }, sh) := by
  simp only [step, h]

/-- ループの中の一歩は、結果を足す手順のほかでは `Worker` の一歩。 -/
theorem step_of_body (h : t.phase = .body) (hp : ∀ metrics stages, t.worker.point ≠ .append metrics stages) :
    t.step sh clock = t.advance sh clock := by
  -- 結果を足す手順でないことは、`match` の残りの枝の条件として `hp` から出る
  simp only [step, h]

/-- 旗が立っていれば、結果を足す手順は結果を捨ててループの条件へ戻る。 -/
theorem step_of_append_of_stop {metrics : List DropletMetrics} {stages : List Stage}
    (h : t.phase = .body) (hp : t.worker.point = .append metrics stages) (hs : t.stop = true) :
    t.step sh clock = ({ t with worker := { t.worker with point := .top }, phase := .check }, sh) := by
  simp only [step, h, hp, hs, if_true]

/-- 旗が立っていれば、ループの条件でループを出る。 -/
theorem step_of_check_of_stop (h : t.phase = .check) (hs : t.stop = true) :
    t.step sh clock = ({ t with phase := .exited }, sh) := by
  simp only [step, h, hs, if_true]

theorem step_of_exited (h : t.phase = .exited) : t.step sh clock = (t, sh) := by
  simp only [step, h]

/-- どの一歩も止める旗を変えない。旗を立てるのは停止だけ。 -/
@[simp] theorem step_stop : (t.step sh clock).1.stop = t.stop := by
  cases hph : t.phase with
  | check => simp only [step, hph]; split <;> rfl
  | body =>
    simp only [step, hph]
    split
    · split <;> rfl
    · rfl
  | loadEpoch | loadConfig | exited => simp only [step, hph]

/-- ループの中の `Worker` の一歩は、結果を足す手順のほかでは、蓄えに触れずに出口へ近づく。 -/
theorem advance_forward (hp : ∀ metrics stages, t.worker.point ≠ .append metrics stages) :
    (t.advance sh clock).2.measurements = sh.measurements ∧
      (t.advance sh clock).1.toExit < t.worker.point.toExit := by
  obtain ⟨hm, hpt⟩ := Worker.step_forward_of_ne_append sh clock hp
  refine ⟨hm, ?_⟩
  by_cases htop : (t.worker.step sh clock).1.point.isTop = true
  · -- 頭へ戻れば、残りはループの条件の一歩だけ
    have := t.worker.point.two_le_toExit
    simp only [advance, toExit, htop, if_true]
    omega
  · have := hpt.resolve_left htop
    simp only [advance, toExit, htop, Bool.false_eq_true, if_false]
    omega

/-- **一歩。** 旗の立った糸は、ループを出ていなければ、蓄えに触れずに一歩で出口へ近づく。
結果を足す手順でも、旗を見て結果を捨てる。 -/
theorem step_forward_of_stop (hs : t.stop = true) (hx : t.phase ≠ .exited) :
    (t.step sh clock).2.measurements = sh.measurements ∧ (t.step sh clock).1.toExit < t.toExit := by
  cases hph : t.phase with
  | loadEpoch => rw [step_of_loadEpoch hph]; exact ⟨rfl, by simp [toExit, hph]⟩
  | loadConfig => rw [step_of_loadConfig hph]; exact ⟨rfl, by simp [toExit, hph]⟩
  | check => rw [step_of_check_of_stop hph hs]; exact ⟨rfl, by simp [toExit, hph]⟩
  | exited => exact absurd hph hx
  | body =>
    by_cases hp : ∃ metrics stages, t.worker.point = .append metrics stages
    · obtain ⟨metrics, stages, hp⟩ := hp
      rw [step_of_append_of_stop hph hp hs]
      exact ⟨rfl, by simp [toExit, hph, hp, LoopPoint.toExit]⟩
    · simp only [not_exists] at hp
      rw [step_of_body hph hp]
      simp only [toExit, hph]
      exact advance_forward hp

/-- 旗の立った糸の一歩は蓄えに触れない。 -/
theorem step_measurements_of_stop (hs : t.stop = true) :
    (t.step sh clock).2.measurements = sh.measurements := by
  by_cases hx : t.phase = .exited
  · rw [step_of_exited hx]
  · exact (step_forward_of_stop hs hx).1

end Thread

/-- 糸 `i` に歩みを与えるか。 -/
def ControlMove.movesThread (i : Nat) : ControlMove → Bool
  | .thread j _ => j == i
  | .call _ => false

namespace Controller

variable {k : Controller} {i : Nat} {t : Thread}

@[simp] theorem run_nil (k : Controller) : k.run [] = k := rfl

@[simp] theorem run_cons (k : Controller) (m : ControlMove) (ms : List ControlMove) :
    k.run (m :: ms) = (k.step m).run ms := rfl

/-! ### 呼び出し側は糸を進めない -/

@[simp] theorem spawn_session (cam : Camera) (r : Roi) :
    (k.spawn cam r).session = some k.threads.length := rfl

theorem spawn_threads (cam : Camera) (r : Roi) :
    ∃ t, (k.spawn cam r).threads = k.threads ++ [t] := ⟨_, rfl⟩

/-- 開始の二歩目は、旗を下ろすだけか、糸を作る。 -/
theorem call_startSpawn (cam : Camera) :
    k.call (.startSpawn cam) = { k with running := false } ∨
      ∃ r, k.call (.startSpawn cam) = k.spawn cam r := by
  simp only [call]
  split
  · exact .inl rfl
  · split
    · exact .inl rfl
    · exact .inr ⟨_, rfl⟩

theorem call_stopSignal_of_some {j : Nat} (hs : k.session = some j) :
    k.call .stopSignal =
      { k with session := none, threads := k.threads.modify j (fun t => { t with stop := true }) } := by
  simp only [call, hs]

theorem call_stopSignal_of_none (hs : k.session = none) : k.call .stopSignal = k := by
  simp only [call, hs]

/-- 開始の一歩目は、「動いている」旗を立てるだけか、何もしない。 -/
theorem call_startClaim : k.call .startClaim = k ∨ k.call .startClaim = { k with running := true } := by
  simp only [call]
  split
  · exact .inl rfl
  · exact .inr rfl

/-- 呼び出し側の一歩の後、糸 `i` は元のままか、止める旗を立てられただけ。新しい糸は列の
後ろに足されるので、番号は変わらない。 -/
theorem call_getElem? (c : ControlCall) (h : k.threads[i]? = some t) :
    (k.call c).threads[i]? = some t ∨ (k.call c).threads[i]? = some { t with stop := true } := by
  have hi : i < k.threads.length := (List.getElem?_eq_some_iff.mp h).1
  cases c with
  | startSpawn cam =>
    left
    rcases call_startSpawn (k := k) cam with he | ⟨r, he⟩ <;> rw [he]
    · exact h
    · obtain ⟨t', ht'⟩ := spawn_threads (k := k) cam r
      rw [ht', List.getElem?_append_left hi, h]
  | stopSignal =>
    cases hs : k.session with
    | none => exact .inl (by rw [call_stopSignal_of_none hs]; exact h)
    | some j =>
      rw [call_stopSignal_of_some hs, List.getElem?_modify, h]
      by_cases hj : j = i
      · exact .inr (by simp [hj])
      · exact .inl (by simp [hj])
  | startClaim => rcases call_startClaim (k := k) with he | he <;> rw [he] <;> exact .inl h
  | stopClear | stopDrain | shared _ => exact .inl h

/-- 糸 `i` の歩み：糸 `i` と共有の状態を、その糸の一歩で入れ替える。 -/
theorem step_thread_self (h : k.threads[i]? = some t) (clock : Nat) :
    (k.step (.thread i clock)).threads[i]? = some (t.step k.shared clock).1 ∧
      (k.step (.thread i clock)).shared = (t.step k.shared clock).2 := by
  obtain ⟨hi, ht⟩ := List.getElem?_eq_some_iff.mp h
  simp [step, hi, ht]

/-- 糸の歩みは、今の糸の番号も糸の数も変えない。 -/
@[simp] theorem step_thread_session (j clock : Nat) : (k.step (.thread j clock)).session = k.session := by
  simp only [step]
  split <;> rfl

@[simp] theorem step_thread_length (j clock : Nat) :
    (k.step (.thread j clock)).threads.length = k.threads.length := by
  simp only [step]
  split
  · exact List.length_set ..
  · rfl

/-- ほかの糸の歩みは糸 `i` に触れない。 -/
theorem step_thread_other {j : Nat} (hj : j ≠ i) (clock : Nat) :
    (k.step (.thread j clock)).threads[i]? = k.threads[i]? := by
  simp only [step]
  split
  · simp [hj]
  · rfl

/-! ### 旗の立った糸 -/

/-- 糸 `i` があって止める旗が立っており、あと自分の `n` 歩以内にループを出る。 -/
def StoppedWithin (k : Controller) (i n : Nat) : Prop :=
  ∃ t, k.threads[i]? = some t ∧ t.stop = true ∧ t.toExit ≤ n

/-- **一歩。** どの歩みの後も旗は立ったままで、糸 `i` の歩みなら残りが一つ減る。
糸 `i` が歩んでも、共有の状態の読み手がほかの糸でも、残りは増えない。 -/
theorem StoppedWithin.step {n : Nat} (h : k.StoppedWithin i n) (m : ControlMove) :
    (k.step m).StoppedWithin i (n - if m.movesThread i then 1 else 0) := by
  obtain ⟨t, ht, hs, hn⟩ := h
  cases m with
  | call c =>
    simp only [ControlMove.movesThread, Bool.false_eq_true, if_false, Nat.sub_zero]
    rcases call_getElem? c ht with h' | h'
    · exact ⟨t, h', hs, hn⟩
    · exact ⟨_, h', rfl, hn⟩
  | thread j clock =>
    by_cases hj : j = i
    · subst hj
      simp only [ControlMove.movesThread, beq_self_eq_true, if_true]
      refine ⟨_, (step_thread_self ht clock).1, by simp [hs], ?_⟩
      by_cases hx : t.phase = .exited
      · rw [Thread.step_of_exited hx]
        have := Thread.toExit_eq_zero_iff.mpr hx
        dsimp only
        omega
      · have hlt : (t.step k.shared clock).1.toExit < t.toExit :=
          (Thread.step_forward_of_stop hs hx).2
        omega
    · simp only [ControlMove.movesThread, beq_iff_eq, hj, if_false, Nat.sub_zero]
      exact ⟨t, by rw [step_thread_other hj, ht], hs, hn⟩

/-- **実行。** 歩みの列を通して旗は立ったままで、残りは糸 `i` の歩みの数だけ減る。 -/
theorem StoppedWithin.run {n : Nat} (h : k.StoppedWithin i n) (ms : List ControlMove) :
    (k.run ms).StoppedWithin i (n - ms.countP (·.movesThread i)) := by
  induction ms generalizing k n with
  | nil => simpa using h
  | cons m ms ih =>
    have := ih (h.step m)
    rw [run_cons, List.countP_cons]
    rw [Nat.sub_sub, Nat.add_comm] at this
    exact this

/-- 旗の立った糸の歩みは蓄えに触れない。 -/
theorem StoppedWithin.step_measurements {n : Nat} (h : k.StoppedWithin i n) (clock : Nat) :
    (k.step (.thread i clock)).shared.measurements = k.shared.measurements := by
  obtain ⟨t, ht, hs, -⟩ := h
  rw [(step_thread_self ht clock).2]
  exact Thread.step_measurements_of_stop hs

/-! ### 今の糸の番号 -/

/-- 今の糸の番号は、生まれた糸の列の中にある。 -/
def SessionInRange (k : Controller) : Prop := ∀ i, k.session = some i → i < k.threads.length

theorem sessionInRange_ofConfig (c : DetectionConfig) : (ofConfig c).SessionInRange := by
  intro i h
  cases h

/-- 今の糸の番号が列の中にあることは、呼び出し側の一歩で保たれる。糸を作る一歩は、作った
糸の番号を今の糸にする。 -/
theorem SessionInRange.call (h : k.SessionInRange) (c : ControlCall) : (k.call c).SessionInRange := by
  intro i hi
  cases c with
  | startSpawn cam =>
    rcases call_startSpawn (k := k) cam with he | ⟨r, he⟩ <;> rw [he] at hi ⊢
    · exact h i hi
    · obtain ⟨t', ht'⟩ := spawn_threads (k := k) cam r
      rw [spawn_session, Option.some.injEq] at hi
      rw [ht', List.length_append, ← hi]
      exact Nat.lt_succ_self _
  | stopSignal =>
    cases hs : k.session with
    | none => rw [call_stopSignal_of_none hs] at hi ⊢; exact h i hi
    | some j => rw [call_stopSignal_of_some hs] at hi; cases hi
  | startClaim => rcases call_startClaim (k := k) with he | he <;> rw [he] at hi ⊢ <;> exact h i hi
  | stopClear | stopDrain | shared _ => exact h i hi

theorem SessionInRange.step (h : k.SessionInRange) (m : ControlMove) : (k.step m).SessionInRange := by
  cases m with
  | thread j clock =>
    intro i hi
    rw [step_thread_session] at hi
    rw [step_thread_length]
    exact h i hi
  | call c => exact h.call c

theorem SessionInRange.run (h : k.SessionInRange) (ms : List ControlMove) :
    (k.run ms).SessionInRange := by
  induction ms generalizing k with
  | nil => exact h
  | cons m ms ih => exact ih (h.step m)

/-- 停止の二歩目は、今の糸の止める旗を立てる。その糸はあと 8 歩以内にループを出る。 -/
theorem stoppedWithin_stopSignal (h : k.SessionInRange) (hs : k.session = some i) :
    (k.call .stopSignal).StoppedWithin i 8 := by
  have hi := h i hs
  refine ⟨{ k.threads[i] with stop := true }, ?_, rfl, Thread.toExit_le _⟩
  simp [call, hs, hi]

/-- **止めた糸は蓄えに足さず、次の条件で出る。** 作った制御から歩み `pre` の後で、今の糸 `i`
の止める旗を停止が立てたとする。その後どの歩み `ms`（後の開始や新しい糸の歩み、フレームの
受け渡し、リセットを含む）の後でも、糸 `i` の旗は立ったままで、
* 糸 `i` の一歩は蓄えを変えない、
* 糸 `i` がループの条件にいれば、次の一歩でループを出る（「動いている」旗によらない）、
* 糸 `i` に 8 歩を与えた後なら、もうループを出ている。 -/
theorem stopped_session_never_appends (c : DetectionConfig) (pre ms : List ControlMove) (i : Nat)
    (hs : ((ofConfig c).run pre).session = some i) :
    let k := (((ofConfig c).run pre).call .stopSignal).run ms
    ∃ t, k.threads[i]? = some t ∧ t.stop = true ∧
      (∀ clock, (k.step (.thread i clock)).shared.measurements = k.shared.measurements) ∧
      (t.phase = .check → ∀ clock, (k.step (.thread i clock)).threads[i]? = some { t with phase := .exited }) ∧
      (8 ≤ ms.countP (·.movesThread i) → t.phase = .exited) := by
  intro k
  obtain ⟨t, ht, hst, hn⟩ := (stoppedWithin_stopSignal ((sessionInRange_ofConfig c).run pre) hs).run ms
  refine ⟨t, ht, hst, StoppedWithin.step_measurements ⟨t, ht, hst, hn⟩, ?_, ?_⟩
  · intro hc clock
    rw [(step_thread_self ht clock).1, Thread.step_of_check_of_stop hc hst]
  · -- 8 歩を与えれば残りは 0
    intro h8
    exact Thread.toExit_eq_zero_iff.mp (by omega)

/-- 開始して糸 0 を作り、停止がその旗を立てた後で、もう一度開始して糸 1 を作り「動いている」旗が
立っていても、糸 0 は旗が立ったまま、その一歩は蓄えを変えず、ループの条件にいれば出る。 -/
theorem restarted_controller_keeps_first_thread_stopped :
    let cam : Camera := .synthetic { SyntheticCamera.new {} with roi := some ⟨0, 0, 8, 8⟩ }
    let k := (ofConfig {}).run [.call .startClaim, .call (.startSpawn cam)]
    let k' := (k.call .stopSignal).run
      [.call .stopClear, .call .stopDrain, .call .startClaim, .call (.startSpawn cam), .thread 1 0]
    k.session = some 0 ∧
    ∃ t, k'.threads[0]? = some t ∧ t.stop = true ∧
      (∀ clock, (k'.step (.thread 0 clock)).shared.measurements = k'.shared.measurements) ∧
      (t.phase = .check → ∀ clock, (k'.step (.thread 0 clock)).threads[0]? = some { t with phase := .exited }) ∧
      (8 ≤ [ControlMove.call .stopClear, .call .stopDrain, .call .startClaim, .call (.startSpawn cam),
        .thread 1 0].countP (·.movesThread 0) → t.phase = .exited) :=
  ⟨rfl, stopped_session_never_appends {} _ _ 0 rfl⟩

end Controller

end DropletVision
