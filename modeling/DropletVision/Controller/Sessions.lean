import DropletVision.Controller.Interleaving

/-!
# 開始と停止をまたぐ処理の糸

`Controller.Interleaving` は一度の開始から停止までを扱う。ここでは開始と停止を繰り返す間を扱う。

開始のたびに処理の糸が一つ生まれ、その糸だけの止める旗を持つ。停止は共有の「動いている」旗を
下ろし、今の糸を外してその旗を立て、糸が終わるのを待つ。待ちきれなければ糸を置いたまま戻り、
列を空にする。置いていかれた糸は、後の開始で「動いている」旗が再び立っても自分の旗だけを見る。

* `Phase`, `Thread` — 処理の糸：始めに世代と設定を読み、ループの条件で自分の旗を読み、
  ループの中では `Worker` の手順を進め、いずれループを出る。
* `Thread.step` — ループの条件では自分の止める旗を読み、立っていれば出る。結果を足す手順では、
  蓄えの鍵の下で先に自分の旗を確かめ、立っていれば結果を捨ててループの条件へ戻る。ほかの手順は
  `Worker.step` で、手順が頭に戻ればループの条件へ戻る。
* `Controller` — 共有の状態、「動いている」旗、今の糸の番号、生まれた糸の列、関心領域と
  カメラの較正。
* `ControlCall`, `Controller.call` — 呼び出し側の一歩。開始は二歩（旗を立てる、糸を作る）、
  停止は三歩（旗を下ろす、今の糸を外してその旗を立てる、列を空にする）。フレームの受け渡し、
  リセット、設定の更新、背景の初期化は `Shared.call` の一歩。
* `ControlMove`, `Controller.step`, `Controller.run` — 一歩と、歩みの列に沿った実行。

## 一歩の粒

一つの鍵の下の一続きの手順と、一つの原子的な読み書きを一歩とする。呼び出し側の一歩は、どの呼び出し
の一歩でもどの順にでも並べられる（一つの呼び出しの中の順も、停止が旗を下ろせたかどうかも問わない）
ので、実際の実行はどれもこの実行に含まれる。

結果を足す手順（蓄えの鍵の下で旗と世代を確かめて足す）は一歩である。停止が旗を立てるのは鍵の
外だが、その手順は旗を一度しか読まず、旗を立てる一歩は蓄えに触れない。だから鍵の下の手順の途中で
旗が立つ実行は、鍵を放した直後に旗が立つ実行と、どの読み手にも区別できない。
-/

namespace DropletVision

/-- 手順がループの頭か。 -/
def LoopPoint.isTop : LoopPoint → Bool
  | .top => true
  | _ => false

/-- 処理の糸がどこにいるか。 -/
inductive Phase where
  /-- 始めに共有の世代を読む。 -/
  | loadEpoch
  /-- 続けて共有の設定の版を読む。 -/
  | loadConfig
  /-- ループの条件：自分の止める旗を読む。 -/
  | check
  /-- ループの中。次の手順は `Worker.point`。 -/
  | body
  /-- ループを出た。 -/
  | exited
  deriving DecidableEq

/-- 一度の開始で生まれた処理の糸。 -/
structure Thread where
  worker : Worker
  /-- この糸だけの止める旗。 -/
  stop : Bool
  phase : Phase

namespace Thread

/-- 開始が作る糸：開始のときの設定から作った検出器を持ち、まだ何も読んでいない。 -/
def spawn (c : DetectionConfig) : Thread := ⟨⟨.ofConfig c, 0, 0, .top⟩, false, .loadEpoch⟩

/-- ループの中の一歩：`Worker` の手順を進め、頭に戻ればループの条件へ戻る。 -/
def advance (t : Thread) (sh : Shared) (clock : Nat) : Thread × Shared :=
  let (w, sh') := t.worker.step sh clock
  ({ t with worker := w, phase := if w.point.isTop then .check else .body }, sh')

/-- 処理の糸の一歩。「動いている」旗は読まない。 -/
def step (t : Thread) (sh : Shared) (clock : Nat) : Thread × Shared :=
  match t.phase with
  | .loadEpoch => ({ t with worker := { t.worker with epoch := sh.epoch }, phase := .loadConfig }, sh)
  | .loadConfig =>
    ({ t with worker := { t.worker with configVersion := sh.configVersion }, phase := .check }, sh)
  | .check => (if t.stop then { t with phase := .exited } else { t with phase := .body }, sh)
  | .body =>
    match t.worker.point with
    | .append _ _ =>
      -- 蓄えの鍵の下で、世代より先に止める旗を確かめる
      if t.stop then ({ t with worker := { t.worker with point := .top }, phase := .check }, sh)
      else t.advance sh clock
    | _ => t.advance sh clock
  | .exited => (t, sh)

end Thread

/-- 開始と停止を繰り返す制御：共有の状態と、生まれた処理の糸。 -/
structure Controller where
  shared : Shared
  /-- 共有の「動いている」旗。 -/
  running : Bool
  /-- 今の糸（止めるときに旗を立てる糸）の番号。 -/
  session : Option Nat
  /-- 生まれた糸。番号は生まれた順。 -/
  threads : List Thread
  roi : Option Roi
  cameraCalibration : Option Calibration

/-- 呼び出し側の一歩。 -/
inductive ControlCall where
  /-- 開始の一歩目：止まっていれば「動いている」旗を立てる。動いていれば何も変えない。 -/
  | startClaim
  /-- 開始の二歩目：カメラ `cam` の関心領域を確かめて糸を作る。確かめられなければ旗を下ろす。 -/
  | startSpawn (cam : Camera)
  /-- 停止の一歩目：「動いている」旗を下ろす。 -/
  | stopClear
  /-- 停止の二歩目：今の糸を外し、その止める旗を立てる。 -/
  | stopSignal
  /-- 停止の三歩目：列を空にし、関心領域を忘れる。 -/
  | stopDrain
  /-- フレームの受け渡し、リセット、設定の更新、背景の初期化の一歩。 -/
  | shared (c : CallerStep)

/-- 一歩：糸 `i` が進むか、呼び出し側が進む。糸の歩みは、その時の時計の値を持つ。 -/
inductive ControlMove where
  | thread (i : Nat) (clock : Nat)
  | call (c : ControlCall)

namespace Controller

/-- 作った直後：止まっていて、糸はまだ無い。 -/
def ofConfig (c : DetectionConfig) : Controller := ⟨.ofConfig c, false, none, [], none, none⟩

/-- 開始の二歩目：カメラの較正を覚え、設定の較正と違えば設定に入れ、列を空にして糸を作る。 -/
def spawn (k : Controller) (cam : Camera) (r : Roi) : Controller :=
  let sh := match cam.calibration with
    | some cal =>
      if DetectionController.calibrationDiffers cal k.shared.config.calibration then
        k.shared.installConfig (k.shared.config.withCalibration cal)
      else k.shared
    | none => k.shared
  { k with shared := { sh with queue := sh.queue.clear }, session := some k.threads.length,
           threads := k.threads ++ [Thread.spawn sh.config], roi := some r,
           cameraCalibration := cam.calibration }

/-- 呼び出し側の一歩。 -/
def call (k : Controller) : ControlCall → Controller
  | .startClaim => if k.running then k else { k with running := true }
  | .startSpawn cam =>
    match cam.roi with
    | none => { k with running := false }
    | some r =>
      match r.validateForSensor cam.sensorSize.1 cam.sensorSize.2 with
      | .error _ => { k with running := false }
      | .ok () => k.spawn cam r
  | .stopClear => { k with running := false }
  | .stopSignal =>
    match k.session with
    | some i => { k with session := none, threads := k.threads.modify i (fun t => { t with stop := true }) }
    | none => k
  | .stopDrain => { k with shared := { k.shared with queue := k.shared.queue.clear }, roi := none }
  | .shared c => { k with shared := k.shared.call c }

/-- 一歩。 -/
def step (k : Controller) : ControlMove → Controller
  | .thread i clock =>
    match k.threads[i]? with
    | some t =>
      let (t', sh) := t.step k.shared clock
      { k with shared := sh, threads := k.threads.set i t' }
    | none => k
  | .call c => k.call c

/-- 歩みの列に沿って進める。 -/
def run (k : Controller) (ms : List ControlMove) : Controller := ms.foldl step k

end Controller

end DropletVision
