import DropletVision.Plane

/-!
# 画素ごとの中央値

同じ形の平面の列から、画素ごとの中央値の平面を作る。

* 値の順序は全順序（負の NaN < -∞ < … < -0 < +0 < … < +∞ < NaN）。
* 個数が奇数なら真ん中の値、偶数なら真ん中の二つの平均（単精度）。
* 平面が一つも無ければ `0 × 0` の平面。

## 仕組み

値の列は並べ替えない。全順序で `k` 番目の値を `k` 番目に置く選択（`selectNth`）を、奇数個なら
`n / 2` 番目について一度、偶数個なら `n / 2` 番目について一度と、その前の `n / 2` 個の最後
（`n / 2 - 1` 番目）についてもう一度使う。選択の後の他の値の並びは選び方によるので、中央値の
定義 `computeMedian` は選び方を引数に取る。
-/

namespace DropletVision

/-- 全順序の比較に使う鍵。符号のビットが立っていれば全ビットを反転し、
立っていなければ符号のビットを立てる。鍵の大小が値の全順序になる。 -/
def totalOrderKey (x : Float32) : UInt32 :=
  let b := x.toBits
  if b &&& 0x80000000 != 0 then ~~~b else b ||| 0x80000000

/-- 全順序で `x ≤ y`。 -/
def totalLe (x y : Float32) : Bool := totalOrderKey x ≤ totalOrderKey y

/-- 全順序で `x < y`。 -/
def totalLt (x y : Float32) : Bool := totalOrderKey x < totalOrderKey y

/-- 全順序で `k` 番目の値の選択（クイックセレクト）。先頭の値を軸に、残りを軸より小さい値と
軸以上の値に分け、`k` 番目の入る側だけをさらに選ぶ。結果は値の並べ替えで、`k` 番目の前には
その値以下の値が、後ろにはその値以上の値が来る。 -/
def selectNth : List Float32 → Nat → List Float32
  | [], _ => []
  | p :: rest, k =>
    let lo := rest.filter (totalLt · p)
    let hi := rest.filter (fun x => !totalLt x p)
    if k < lo.length then selectNth lo k ++ p :: hi
    else if k = lo.length then lo ++ p :: hi
    else lo ++ p :: selectNth hi (k - lo.length - 1)
termination_by vs _ => vs.length
decreasing_by
  all_goals
    simp only [List.length_cons, List.length_unattach]
    exact Nat.lt_succ_of_le
      (Nat.le_trans (List.length_filter_le _ _) (Nat.le_of_eq List.length_attach))

/-- 選択 `select` で求める値の列の中央値。一つならその値。奇数個なら `n / 2` 番目を選んだ値。
偶数個なら、`n / 2` 番目を選び、選んだ列の前の `n / 2` 個から更に `n / 2 - 1` 番目を選んで、
二つの単精度の平均をとる。空なら 0。 -/
def computeMedian (select : List Float32 → Nat → List Float32) (values : List Float32) :
    Float32 :=
  let n := values.length
  if n == 1 then values.getD 0 0
  else if n % 2 == 1 then (select values (n / 2)).getD (n / 2) 0
  else
    let mid := n / 2
    let once := select values mid
    let twice := select (once.take mid) (mid - 1) ++ once.drop mid
    (twice.getD (mid - 1) 0 + twice.getD mid 0) / 2

/-- 値の列の中央値。選択はクイックセレクト。 -/
def medianValue (values : List Float32) : Float32 := computeMedian selectNth values

/-- 画素ごとの中央値。形は先頭の平面のもの。 -/
def medianOf (planes : List Plane) : Plane :=
  match planes with
  | [] => Plane.fill 0 0 0
  | first :: _ =>
    Plane.ofFn first.height first.width (fun r c => medianValue (planes.map (·.get r c)))

end DropletVision
