import DropletVision.Controller.Basic

/-!
# 設定を書き換える呼び出しの並行

動いている設定は読み書きの鍵の下にあり、入れ替えは書きの鍵の下で行う（`installConfig`）。
設定を書き換える呼び出しは三つあり、どれも入れ替える前に一度鍵を放す。

* 更新 — 読みの鍵の下で設定の写しを取り、鍵を放して写しに更新を当てて検査し、通れば入れ替える。
* プロファイルの読み込み — ファイルから読んで検査した設定を、動いていれば覚えているカメラの較正に
  差し替えて入れ替える。最初の一歩は動いているかと覚えている較正を読む手順で、その値は呼び出しに
  持たせる。動いている設定は読まない。
* 開始の較正の上書き — 設定を読んでカメラの較正と比べ、違えば設定をもう一度読んで写しを取り、
  写しに較正を入れて入れ替える。検査はしない。

一つの鍵の下の手順を一歩とし、いくつもの呼び出しの歩みを任意の順に並べた実行を扱う。
入れ替えるたびに設定は新しく割り当てた値になるので、写しが今も動いている設定かどうかは、
割り当てを数える版（`version`）で見分けられる。戻った呼び出しを戻った順に並べた記録（`log`）は
性質を述べるためのもので、呼び出しの振る舞いには効かない。
-/

namespace DropletVision

/-- 設定を書き換える呼び出し。 -/
inductive ConfigCall where
  /-- 更新 `p` を当てる。 -/
  | update (p : ConfigPatch)
  /-- 読めたプロファイルの設定 `profile` に入れ替える。`camera` は、動いていればそのとき覚えている
  カメラの較正で、止まっていれば `none`。 -/
  | load (profile : DetectionConfig) (camera : Option Calibration)
  /-- 開始のとき、カメラの較正 `cal` を設定に入れる。 -/
  | calibrate (cal : Calibration)

/-- 呼び出しの進み具合。 -/
inductive CallStage where
  /-- まだ何も読んでいない。 -/
  | waiting (call : ConfigCall)
  /-- 較正の上書きが、版 `version` の設定の較正は `cal` と違うと確かめた。 -/
  | checked (cal : Calibration) (version : Nat)
  /-- 写し `base` を手にしている。`version` は呼び出しが最初に読んだ設定の版。 -/
  | holding (call : ConfigCall) (base : DetectionConfig) (version : Nat)
  /-- 戻った：入れ替えた設定か、入れ替えずに終えたこと（`none`）か、誤り。 -/
  | returned (result : Outcome (Option DetectionConfig))

namespace ConfigCall

/-- 設定 `c` を見て入れ替えへ進むか。較正の上書きだけが、較正が違うときに限って進む。 -/
def proceeds : ConfigCall → DetectionConfig → Bool
  | .calibrate cal, c => DetectionController.calibrationDiffers cal c.calibration
  | _, _ => true

/-- 最初に版 `v` の設定 `c` を読んだ後の進み具合。較正の上書きは比べただけで、写しはまだ取らない。 -/
def begin : ConfigCall → DetectionConfig → Nat → CallStage
  | .update p, c, v => .holding (.update p) c v
  | .load profile camera, c, v => .holding (.load profile camera) c v
  | .calibrate cal, _, v => .checked cal v

/-- 写し `base` から入れ替える設定を作る。更新は検査に通らなければ誤り。 -/
def build : ConfigCall → DetectionConfig → Outcome DetectionConfig
  | .update p, base => p.apply base
  | .load profile camera, _ =>
    .ok (match camera with
      | some cal => profile.withCalibration cal
      | none => profile)
  | .calibrate cal, base => .ok (base.withCalibration cal)

end ConfigCall

/-- 設定の置き場と、それを書き換える呼び出しの進み具合。 -/
structure ConfigSlot where
  config : DetectionConfig
  /-- 設定を割り当てた回数。入れ替えるたびに一つ増える。 -/
  version : Nat
  /-- 呼び出しごとの進み具合。 -/
  stages : List CallStage
  /-- 戻った呼び出し（戻った順）。 -/
  log : List ConfigCall

/-- 一歩：呼び出し `i` が設定を読むか、入れ替える。 -/
inductive WriterMove where
  | read (i : Nat)
  | install (i : Nat)

namespace ConfigSlot

/-- 設定 `c` の上で、呼び出し `calls` がどれも待っているところ。 -/
def start (c : DetectionConfig) (calls : List ConfigCall) : ConfigSlot :=
  ⟨c, 0, calls.map .waiting, []⟩

/-- 呼び出し `i` が `call` を結果 `r` で終える。 -/
def finish (s : ConfigSlot) (i : Nat) (call : ConfigCall) (r : Outcome (Option DetectionConfig)) :
    ConfigSlot :=
  { s with stages := s.stages.set i (.returned r), log := s.log ++ [call] }

/-- 呼び出し `i` が読みの鍵の下で設定を読む。 -/
def read (s : ConfigSlot) (i : Nat) : ConfigSlot :=
  match s.stages[i]? with
  | some (.waiting call) =>
    if call.proceeds s.config then
      { s with stages := s.stages.set i (call.begin s.config s.version) }
    else s.finish i call (.ok none)
  -- 較正の上書きの二度目の読み：写しを取る。比べた設定と同じとは限らない
  | some (.checked cal v) => { s with stages := s.stages.set i (.holding (.calibrate cal) s.config v) }
  | _ => s

/-- 呼び出し `i` が、写しから作った設定を書きの鍵の下で入れ替える。 -/
def install (s : ConfigSlot) (i : Nat) : ConfigSlot :=
  match s.stages[i]? with
  | some (.holding call base _) =>
    match call.build base with
    | .ok next => { s.finish i call (.ok (some next)) with config := next, version := s.version + 1 }
    | .error e => s.finish i call (.error e)
  | _ => s

/-- 一歩進める。 -/
def step (s : ConfigSlot) : WriterMove → ConfigSlot
  | .read i => s.read i
  | .install i => s.install i

/-- 歩みの列に沿って進める。 -/
def run (s : ConfigSlot) (moves : List WriterMove) : ConfigSlot := moves.foldl step s

end ConfigSlot

end DropletVision
