import DropletVision.Background.Median

/-!
# 静的な背景

最初の `required` 枚（同じ形のもの）の画素ごとの中央値を背景とし、以後の平面からの差の絶対値を返す。

## 仕組み

状態は三つ：未初期化、集めている途中（形と集めた平面）、用意ができた（形と背景）。

* `correct` — 形が変わっていれば最初からやり直す。用意ができていれば差 `|g - 背景|` を返す。
  集めている途中なら平面を加え、`required` 枚に達したら中央値を背景にする（その平面の差は返さない）。
  未初期化なら、`required ≤ 1` ならその平面を背景にし、そうでなければ集め始める。
* `seed` — 与えた平面のうち先頭と同じ形のものの中央値をすぐ背景にする（空なら何もしない）。
* `required` は 1 以上に切り上げる。変えると最初からやり直す。
-/

namespace DropletVision

/-- 背景の状態の段階。 -/
inductive BackgroundPhase where
  | uninitialized
  | warmingUp
  | ready
  deriving BEq, Repr, Inhabited

/-- 状態報告に使う名前。 -/
def BackgroundPhase.label : BackgroundPhase → String
  | .uninitialized => "uninitialized"
  | .warmingUp => "warming up"
  | .ready => "ready"

/-- 背景の状態。形は `(高さ, 幅)`。 -/
inductive BackgroundState where
  | uninitialized
  /-- 集めた平面（新しいものが先頭）。 -/
  | warmingUp (shape : Nat × Nat) (frames : List Plane)
  | ready (shape : Nat × Nat) (reference : Plane)

/-- 静的な背景のモデル。 -/
structure BackgroundModel where
  state : BackgroundState
  required : Nat

namespace BackgroundModel

/-- `required` 枚で背景を作るモデル（1 以上に切り上げる）。 -/
def new (required : Nat) : BackgroundModel := ⟨.uninitialized, max required 1⟩

/-- 段階。 -/
def phase (m : BackgroundModel) : BackgroundPhase :=
  match m.state with
  | .uninitialized => .uninitialized
  | .warmingUp .. => .warmingUp
  | .ready .. => .ready

/-- 用意ができたか。 -/
def isReady (m : BackgroundModel) : Bool := m.phase == .ready

/-- 集めた枚数（用意ができていれば `required`）。 -/
def collected (m : BackgroundModel) : Nat :=
  match m.state with
  | .uninitialized => 0
  | .warmingUp _ frames => frames.length
  | .ready .. => m.required

/-- 最初からやり直す。 -/
def reset (m : BackgroundModel) : BackgroundModel := { m with state := .uninitialized }

/-- 枚数を変えて最初からやり直す。 -/
def setRequired (_m : BackgroundModel) (required : Nat) : BackgroundModel :=
  ⟨.uninitialized, max required 1⟩

/-- 平面の形。 -/
def shapeOf (p : Plane) : Nat × Nat := (p.height, p.width)

/-- 与えた平面からすぐ背景を作る。 -/
def seed (m : BackgroundModel) (planes : List Plane) : BackgroundModel :=
  match planes with
  | [] => m
  | first :: _ =>
    let same := planes.filter (fun p => shapeOf p == shapeOf first)
    { m with state := .ready (shapeOf first) (medianOf same) }

/-- 差の絶対値の平面。 -/
def absDiff (g ref : Plane) : Plane :=
  Plane.ofFn g.height g.width (fun r c => (g.get r c - ref.get r c).abs)

/-- 一枚を与える。用意ができていれば差を返す。 -/
def correct (m : BackgroundModel) (g : Plane) : BackgroundModel × Option Plane :=
  let shape := shapeOf g
  let m := match m.state with
    | .warmingUp s _ | .ready s _ => if s != shape then m.reset else m
    | .uninitialized => m
  match m.state with
  | .ready _ ref => (m, some (absDiff g ref))
  | .warmingUp s frames =>
    let frames := g :: frames
    if frames.length ≥ m.required then
      ({ m with state := .ready s (medianOf frames.reverse) }, none)
    else ({ m with state := .warmingUp s frames }, none)
  | .uninitialized =>
    if m.required ≤ 1 then ({ m with state := .ready shape g }, none)
    else ({ m with state := .warmingUp shape [g] }, none)

end BackgroundModel

end DropletVision
