import DropletVision.Controller.Basic

/-!
# 処理の糸と呼び出し側の糸

動いている間、フレームは呼び出し側の糸から列に入り、処理の糸がそれを一枚ずつ取って検出器に
かける。二つの糸は、世代、設定、蓄え、列、待っている背景を共有し、それぞれを鍵か原子的な
読み書きを通して触る。ここでは、一つの鍵の下の一続きの手順と一つの原子的な読み書きを一歩とし、
二つの糸の歩みを任意の順に並べた実行を扱う。

フレームを列に入れる手順（入れてみて、満杯なら最も古いものを取り出して捨て、入れ直すことを
繰り返す）も一歩とし、満杯の列には最も古いものを捨てて足す。繰り返しの途中で処理の糸が一枚取ると、
実際には続けてもう一枚捨てる（一度の受け渡しで二枚が列を出る）ことがあるが、その並びはここには
無い。ここで示す性質（世代、設定の版、待っている背景、蓄え）は、列にどのフレームがあるかを読まない。

* `Shared` — 共有の状態。設定には入れ替えるたびに増える版を付ける（処理の糸は手元の写しと版で
  比べる）。
* `LoopPoint`, `Worker` — 処理の糸の手元の状態：検出器、手元の世代と設定の版、次の手順。
  ループの頭で世代を合わせ、設定の写しを合わせ、待っている背景を取り、列から一枚取り
  （空なら待ちを切り上げて頭へ戻る）、世代を合わせ直し、検出器にかけ、蓄えの鍵の下で世代を
  確かめてから結果を足す。
* `CallerStep` — 呼び出し側の一歩。リセットは二歩に分かれる：蓄えの鍵の下で世代を進めて蓄えを
  捨て、鍵を放してから列を空にする。
* `Move`, `System.step`, `System.run` — 一歩と、歩みの列に沿った実行。

扱うのは一度の開始から停止までの間で、止める旗は立たず、フレームはいつも動いている間に渡る。
-/

namespace DropletVision

/-- フレームの列の容量。満杯で足すと最も古いフレームを捨てる。 -/
def frameQueueCapacity : Nat := 2

/-- 二つの糸が共有する状態。 -/
structure Shared where
  /-- リセットのたびに一つ進む世代。 -/
  epoch : Nat
  config : DetectionConfig
  /-- 設定を入れ替えるたびに一つ増える版。 -/
  configVersion : Nat
  measurements : Measurements
  queue : RingBuffer Frame
  /-- 処理の糸が次に検出器に与える背景。 -/
  pending : Option (List Frame)

namespace Shared

/-- 作った直後：世代も版も 0 で、蓄えも列も空。 -/
def ofConfig (c : DetectionConfig) : Shared :=
  ⟨0, c, 0, .ofConfig c, .new frameQueueCapacity, none⟩

/-- 設定の鍵の下で設定を入れ替え、蓄えを合わせる。 -/
def installConfig (sh : Shared) (next : DetectionConfig) : Shared :=
  { sh with config := next, configVersion := sh.configVersion + 1,
            measurements := sh.measurements.applyConfig sh.config next }

end Shared

/-- 背景を与える。与えられなければ検出器はそのまま。 -/
def DropletDetector.seedOrKeep (d : DropletDetector) (frames : List Frame) : DropletDetector :=
  match d.initializeBackground frames with
  | .ok d' => d'
  | .error _ => d

/-- 処理の糸が次に行う手順。 -/
inductive LoopPoint where
  /-- ループの頭：世代を合わせる。 -/
  | top
  /-- 設定の写しを合わせる。 -/
  | config
  /-- 待っている背景を取る。 -/
  | background
  /-- 列から一枚取る。 -/
  | dequeue
  /-- 取ったフレーム `f` を手に、世代を合わせ直す。 -/
  | resync (f : Frame)
  /-- `f` を検出器にかける。 -/
  | detect (f : Frame)
  /-- 検出器の結果を、蓄えの鍵の下で足す。 -/
  | append (metrics : List DropletMetrics) (stages : List Stage)

/-- 処理の糸の手元の状態。 -/
structure Worker where
  detector : DropletDetector
  /-- 最後に合わせた世代。 -/
  epoch : Nat
  /-- 手元の設定の写しの版。 -/
  configVersion : Nat
  point : LoopPoint

namespace Worker

/-- 共有の世代が手元と違えば、検出器を準備中へ戻して世代を写す。 -/
def syncEpoch (w : Worker) (epoch : Nat) : Worker :=
  if epoch = w.epoch then w else { w with detector := w.detector.reset, epoch := epoch }

/-- 処理の糸の一歩。`clock` はこの歩みで時計を読めばその値で、結果を足す手順だけが使う。 -/
def step (w : Worker) (sh : Shared) (clock : Nat) : Worker × Shared :=
  match w.point with
  | .top => ({ w.syncEpoch sh.epoch with point := .config }, sh)
  | .config =>
    if w.configVersion = sh.configVersion then ({ w with point := .background }, sh)
    else
      ({ w with detector := w.detector.applyConfig sh.config, configVersion := sh.configVersion,
                point := .background }, sh)
  | .background =>
    match sh.pending with
    | none => ({ w with point := .dequeue }, sh)
    | some frames =>
      ({ w with detector := w.detector.seedOrKeep frames, point := .dequeue },
       { sh with pending := none })
  | .dequeue =>
    match sh.queue.pop with
    | (q, some f) => ({ w with point := .resync f }, { sh with queue := q })
    -- 待っても来なければ頭へ戻る
    | (_, none) => ({ w with point := .top }, sh)
  | .resync f => ({ w.syncEpoch sh.epoch with point := .detect f }, sh)
  | .detect f =>
    let (d, metrics, stages) := w.detector.processFrame f
    ({ w with detector := d, point := .append metrics stages }, sh)
  | .append metrics stages =>
    -- 取った後にリセットがあれば、その世代で合わせ直していない結果は捨てる
    if sh.epoch = w.epoch then
      ({ w with point := .top },
       { sh with measurements := sh.measurements.record metrics stages clock w.detector.state })
    else ({ w with point := .top }, sh)

end Worker

/-- 呼び出し側の糸の一歩。 -/
inductive CallerStep where
  /-- フレームを渡す：検査に通れば列に入れる。 -/
  | addFrame (f : Frame)
  /-- リセットの前半：蓄えの鍵の下で世代を進め、蓄えを捨てる。 -/
  | resetClear
  /-- リセットの後半：鍵を放した後で列を空にする。 -/
  | resetDrain
  /-- 設定の更新：今の設定に当て、通れば入れ替える。 -/
  | updateConfig (p : ConfigPatch)
  /-- 背景の初期化：検査に通れば待たせる。 -/
  | initializeBackground (frames : List Frame)

/-- 呼び出し側の一歩が共有の状態にすること。 -/
def Shared.call (sh : Shared) : CallerStep → Shared
  | .addFrame f =>
    match f.validate with
    | .ok () => { sh with queue := (sh.queue.push f).1 }
    | .error _ => sh
  | .resetClear => { sh with epoch := sh.epoch + 1, measurements := sh.measurements.clear }
  | .resetDrain => { sh with queue := sh.queue.clear }
  | .updateConfig p =>
    match p.apply sh.config with
    | .ok next => sh.installConfig next
    | .error _ => sh
  | .initializeBackground frames =>
    match DetectionController.checkBackground frames with
    | .ok () => { sh with pending := some frames }
    | .error _ => sh

/-- 二つの糸のどちらが一歩進むか。処理の糸の歩みは、その時の時計の値を持つ。 -/
inductive Move where
  | worker (clock : Nat)
  | caller (c : CallerStep)

/-- 共有の状態と処理の糸。 -/
structure System where
  shared : Shared
  worker : Worker

namespace System

/-- 開始した直後：列を空にし、処理の糸は今の設定から作った検出器を持ってループの頭にいる。 -/
def started (sh : Shared) : System :=
  ⟨{ sh with queue := sh.queue.clear }, ⟨.ofConfig sh.config, sh.epoch, sh.configVersion, .top⟩⟩

/-- 一歩。 -/
def step (s : System) : Move → System
  | .worker clock =>
    let (w, sh) := s.worker.step s.shared clock
    ⟨sh, w⟩
  | .caller c => { s with shared := s.shared.call c }

/-- 歩みの列に沿って進める。 -/
def run (s : System) (ms : List Move) : System := ms.foldl step s

end System

end DropletVision
