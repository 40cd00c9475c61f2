import DropletVision.Mask

/-!
# 連結成分のラベル付け

二値の平面の前景を 8 近傍でつながる成分に分け、ラベルと成分ごとの統計を返す。

## 仕組み

二回の走査で行う。

1. 行優先に前景の画素を見て、左・左上・上・右上の近傍のうちラベル付きのものの最小のラベルを付ける
   （無ければ新しいラベル）。異なるラベルの近傍は union-find で併合する（根は小さい方）。
2. 各ラベルを根に置き換え、根に最初に出会った順に 1, 2, … と詰め直しながら、面積・外接矩形・
   最初の画素を数える。

したがって成分の番号は、各成分の行優先で最初の画素の順になる。

## 停止性

根をたどる `findRoot` は、ラベルの個数を燃料にする（親は常に自分以下のラベルを指すので、
たどる回数はラベルの個数を超えない）。
-/

namespace DropletVision

/-- 成分の統計。 -/
structure ComponentStats where
  /-- ラベル（1 から）。 -/
  label : Nat
  /-- 画素数。 -/
  area : Nat
  /-- 外接矩形 `(最小行, 最大行, 最小列, 最大列)`。 -/
  bbox : Nat × Nat × Nat × Nat
  /-- 行優先で最初の画素 `(行, 列)`。 -/
  first : Nat × Nat
  deriving Repr, Inhabited

/-- ラベル付けの結果。 -/
structure Labeling where
  height : Nat
  width : Nat
  /-- 行優先のラベル。背景は 0。 -/
  labels : Array Nat
  /-- 最初の画素の行優先の順の成分。 -/
  components : Array ComponentStats

namespace Labeling

/-- `(r, c)` のラベル。範囲外は 0。 -/
def labelAt (l : Labeling) (r c : Nat) : Nat :=
  if r < l.height && c < l.width then l.labels.getD (r * l.width + c) 0 else 0

end Labeling

/-- 親をたどって根を求める。 -/
def findRoot (parent : Array Nat) (fuel x : Nat) : Nat :=
  match fuel with
  | 0 => x
  | fuel + 1 =>
    let p := parent.getD x x
    if p == x then x else findRoot parent fuel p

/-- 二つのラベルの集まりを併合する。根は小さい方。 -/
def unionLabels (parent : Array Nat) (fuel a b : Nat) : Array Nat :=
  let ra := findRoot parent fuel a
  let rb := findRoot parent fuel b
  if ra == rb then parent
  else if ra < rb then parent.setIfInBounds rb ra
  else parent.setIfInBounds ra rb

/-- 一回目の走査の状態。 -/
structure FirstPass where
  labels : Array Nat
  parent : Array Nat
  next : Nat

/-- 一回目の走査の一画素。 -/
def firstPassStep (m : Mask) (st : FirstPass) (i : Nat) : FirstPass :=
  let w := m.width
  let row := i / w
  let col := i % w
  if !m.get row col then st
  else
    let lab (r c : Nat) : Nat := st.labels.getD (r * w + c) 0
    let left := if col > 0 then lab row (col - 1) else 0
    let upLeft := if row > 0 && col > 0 then lab (row - 1) (col - 1) else 0
    let up := if row > 0 then lab (row - 1) col else 0
    let upRight := if row > 0 && col + 1 < w then lab (row - 1) (col + 1) else 0
    let ns := [left, upLeft, up, upRight].filter (· > 0)
    match ns.min? with
    | none =>
      { labels := st.labels.setIfInBounds i st.next
        parent := st.parent.push st.next
        next := st.next + 1 }
    | some least =>
      let parent := (ns.filter (· != least)).foldl
        (fun p l => unionLabels p st.next least l) st.parent
      { st with labels := st.labels.setIfInBounds i least, parent }

/-- 二回目の走査の状態：根から詰めた番号への対応と成分。 -/
structure SecondPass where
  labels : Array Nat
  compact : Array Nat
  components : Array ComponentStats

/-- 二回目の走査の一画素。 -/
def secondPassStep (w : Nat) (roots : Array Nat) (st : SecondPass) (i : Nat) : SecondPass :=
  let lbl := st.labels.getD i 0
  if lbl == 0 then st
  else
    let row := i / w
    let col := i % w
    let root := roots.getD lbl 0
    let (compact, components) :=
      if st.compact.getD root 0 == 0 then
        let comps := st.components.push ⟨st.components.size + 1, 0, (row, row, col, col), (row, col)⟩
        (st.compact.setIfInBounds root comps.size, comps)
      else (st.compact, st.components)
    let final := compact.getD root 0
    let components := components.modify (final - 1) (fun e =>
      let (r0, r1, c0, c1) := e.bbox
      { e with area := e.area + 1, bbox := (min r0 row, max r1 row, min c0 col, max c1 col) })
    ⟨st.labels.setIfInBounds i final, compact, components⟩

/-- 8 近傍の連結成分。 -/
def connectedComponents (m : Mask) : Labeling :=
  let h := m.height
  let w := m.width
  if h == 0 || w == 0 then ⟨h, w, Array.replicate (h * w) 0, #[]⟩
  else
    let fp := (List.range (h * w)).foldl (firstPassStep m)
      ⟨Array.replicate (h * w) 0, #[0], 1⟩
    let roots := fp.parent.mapIdx (fun i _ => findRoot fp.parent fp.next i)
    let sp := (List.range (h * w)).foldl (secondPassStep w roots)
      ⟨fp.labels, Array.replicate fp.next 0, #[]⟩
    ⟨h, w, sp.labels, sp.components⟩

end DropletVision
