import DropletVision.Contour.Components

/-!
# 親の表と根

ラベル付けの一回目の走査が使う親の表について、`findRoot` と `unionLabels` が何をするかを述べる。
走査は、どのラベルの親もそのラベル以下である表（`Descends`）しか作らない。この下では：

* `findRoot_eq_root` — 燃料がラベルより大きければ、たどり着く根は燃料によらない（`root`）。
* `root_setIfInBounds` — 根を自分より小さい根へつなぐと、その根の集まりがもう一方の根へ移り、
  ほかのラベルの根は変わらない。
* `root_unionLabels_eq_iff` — 併合の後に根が同じなのは、前から同じだったか、併合した二つの
  集まりに分かれて属していたとき。
* `foldl_unionLabels_*` — 一つのラベルへ列のラベルを順に併合すると、それらの集まりが一つになり、
  ほかの集まりは分かれもつながりもしない。
-/

namespace DropletVision

/-- 親の表が下を向く：どのラベルの親もそのラベル以下。表の外のラベルは自分を親とみなす。 -/
def Descends (parent : Array Nat) : Prop := ∀ x, parent.getD x x ≤ x

/-- 根：自分自身が親であるラベル。 -/
def IsRoot (parent : Array Nat) (x : Nat) : Prop := parent.getD x x = x

/-- 燃料を十分に与えたときにたどり着く根。 -/
def root (parent : Array Nat) (x : Nat) : Nat := findRoot parent (x + 1) x

section Roots

variable {parent : Array Nat} {fuel x : Nat}

/-! ## 根をたどる -/

theorem findRoot_of_isRoot (h : IsRoot parent x) : findRoot parent fuel x = x := by
  cases fuel with
  | zero => rfl
  | succ fuel =>
    have h' : parent.getD x x = x := h
    simp [findRoot, h']

theorem findRoot_of_not_isRoot (h : ¬ IsRoot parent x) :
    findRoot parent (fuel + 1) x = findRoot parent fuel (parent.getD x x) := by
  have h' : parent.getD x x ≠ x := h
  simp only [findRoot, beq_iff_eq, h', ↓reduceIte]

theorem parent_lt_of_not_isRoot (hd : Descends parent) (h : ¬ IsRoot parent x) :
    parent.getD x x < x :=
  Nat.lt_of_le_of_ne (hd x) h

theorem findRoot_le (hd : Descends parent) : findRoot parent fuel x ≤ x := by
  induction fuel generalizing x with
  | zero => exact Nat.le_refl x
  | succ fuel ih =>
    by_cases h : IsRoot parent x
    · exact Nat.le_of_eq (findRoot_of_isRoot h)
    · rw [findRoot_of_not_isRoot h]
      exact Nat.le_trans ih (hd x)

/-- 燃料がラベルより大きければ、どれだけ与えても同じ根にたどり着く。 -/
theorem findRoot_fuel (hd : Descends parent) {fuel' : Nat} (hx : x < fuel) (hx' : x < fuel') :
    findRoot parent fuel x = findRoot parent fuel' x := by
  induction fuel generalizing fuel' x with
  | zero => omega
  | succ fuel ih =>
    obtain ⟨fuel', rfl⟩ : ∃ f, fuel' = f + 1 := ⟨fuel' - 1, by omega⟩
    by_cases h : IsRoot parent x
    · rw [findRoot_of_isRoot h, findRoot_of_isRoot h]
    · have hp := parent_lt_of_not_isRoot hd h
      rw [findRoot_of_not_isRoot h, findRoot_of_not_isRoot h]
      exact ih (by omega) (by omega)

theorem findRoot_eq_root (hd : Descends parent) (hx : x < fuel) :
    findRoot parent fuel x = root parent x :=
  findRoot_fuel hd hx (Nat.lt_succ_self x)

theorem root_of_isRoot (h : IsRoot parent x) : root parent x = x :=
  findRoot_of_isRoot h

theorem root_of_not_isRoot (hd : Descends parent) (h : ¬ IsRoot parent x) :
    root parent x = root parent (parent.getD x x) := by
  rw [root, findRoot_of_not_isRoot h, findRoot_eq_root hd (parent_lt_of_not_isRoot hd h)]

theorem root_le (hd : Descends parent) : root parent x ≤ x :=
  findRoot_le hd

theorem isRoot_root (hd : Descends parent) : IsRoot parent (root parent x) := by
  induction x using Nat.strongRecOn with
  | _ x ih =>
    by_cases h : IsRoot parent x
    · rw [root_of_isRoot h]
      exact h
    · rw [root_of_not_isRoot hd h]
      exact ih _ (parent_lt_of_not_isRoot hd h)

@[simp] theorem root_root (hd : Descends parent) : root parent (root parent x) = root parent x :=
  root_of_isRoot (isRoot_root hd)

/-- 根は親の表の `getD x x` だけで決まる。 -/
theorem root_congr {other : Array Nat} (h : ∀ y, parent.getD y y = other.getD y y) :
    root parent x = root other x := by
  suffices ∀ fuel x, findRoot parent fuel x = findRoot other fuel x from this _ _
  intro fuel
  induction fuel with
  | zero => intro x; rfl
  | succ fuel ih => intro x; simp only [findRoot, h x, ih]

/-! ## 表を伸ばす・つなぐ -/

/-- 表の大きさと同じラベルを、自分を親として足しても、どのラベルの親も変わらない。 -/
theorem getD_push_size (parent : Array Nat) (y : Nat) :
    (parent.push parent.size).getD y y = parent.getD y y := by
  simp only [Array.getD_eq_getD_getElem?, Array.getElem?_push]
  split
  · rename_i h
    subst h
    simp
  · rfl

theorem getD_setIfInBounds {u v : Nat} (hv : v < parent.size) (y : Nat) :
    (parent.setIfInBounds v u).getD y y = if y = v then u else parent.getD y y := by
  simp only [Array.getD_eq_getD_getElem?, Array.getElem?_setIfInBounds]
  by_cases h : y = v
  · subst h
    simp [hv]
  · simp [h, Ne.symm h]

theorem descends_setIfInBounds (hd : Descends parent) {u v : Nat} (huv : u ≤ v) :
    Descends (parent.setIfInBounds v u) := by
  intro y
  by_cases hv : v < parent.size
  · rw [getD_setIfInBounds hv]
    split
    · omega
    · exact hd y
  · rw [Array.setIfInBounds, dif_neg hv]
    exact hd y

/-- 根 `v` をそれより小さい根 `u` につなぐと、根が `v` だったラベルの根だけが `u` になる。 -/
theorem root_setIfInBounds (hd : Descends parent) {u v : Nat} (hu : IsRoot parent u)
    (hv : IsRoot parent v) (huv : u < v) (hvs : v < parent.size) (y : Nat) :
    root (parent.setIfInBounds v u) y = if root parent y = v then u else root parent y := by
  have hd' := descends_setIfInBounds hd (Nat.le_of_lt huv)
  have hget := getD_setIfInBounds (u := u) hvs
  have hu' : IsRoot (parent.setIfInBounds v u) u := by
    rw [IsRoot, hget, if_neg (Nat.ne_of_lt huv)]
    exact hu
  -- 親をたどる向きに（ラベルの小さい方へ）帰納する
  induction y using Nat.strongRecOn with
  | _ y ih =>
    by_cases hyv : y = v
    · subst hyv
      have hn : ¬ IsRoot (parent.setIfInBounds y u) y := by
        rw [IsRoot, hget, if_pos rfl]
        exact (Nat.ne_of_lt huv)
      rw [root_of_not_isRoot hd' hn, hget, if_pos rfl, root_of_isRoot hu', root_of_isRoot hv,
        if_pos rfl]
    · by_cases hy : IsRoot parent y
      · have hy' : IsRoot (parent.setIfInBounds v u) y := by
          rw [IsRoot, hget, if_neg hyv]
          exact hy
        rw [root_of_isRoot hy', root_of_isRoot hy, if_neg hyv]
      · have hy' : ¬ IsRoot (parent.setIfInBounds v u) y := by
          rw [IsRoot, hget, if_neg hyv]
          exact hy
        rw [root_of_not_isRoot hd' hy', root_of_not_isRoot hd hy, hget, if_neg hyv]
        exact ih _ (parent_lt_of_not_isRoot hd hy)

end Roots

/-! ## 併合 -/

section Union

variable {parent : Array Nat} {fuel a b : Nat}

@[simp] theorem size_unionLabels : (unionLabels parent fuel a b).size = parent.size := by
  unfold unionLabels
  dsimp only
  split
  · rfl
  · split <;> simp

theorem descends_unionLabels (hd : Descends parent) : Descends (unionLabels parent fuel a b) := by
  unfold unionLabels
  dsimp only
  split
  · exact hd
  · split
    · rename_i hlt
      exact descends_setIfInBounds hd (Nat.le_of_lt hlt)
    · rename_i hlt
      exact descends_setIfInBounds hd (Nat.le_of_not_lt hlt)

/-- 根 `v` を根 `u` につないだ後に、根 `r` と `s` のラベルが同じ根を持つ条件。 -/
private theorem ite_eq_ite_iff {r s u v : Nat} :
    ((if r = v then u else r) = if s = v then u else s) ↔
      r = s ∨ (r = u ∧ s = v) ∨ (r = v ∧ s = u) := by
  split <;> split <;> omega

/-- **併合の後に根が同じなのは、前から同じだったか、`a` と `b` の集まりに分かれて
属していたとき。** -/
theorem root_unionLabels_eq_iff (hd : Descends parent) (ha : a < fuel) (hb : b < fuel)
    (has : a < parent.size) (hbs : b < parent.size) (x y : Nat) :
    root (unionLabels parent fuel a b) x = root (unionLabels parent fuel a b) y ↔
      root parent x = root parent y ∨
        (root parent x = root parent a ∧ root parent y = root parent b) ∨
        (root parent x = root parent b ∧ root parent y = root parent a) := by
  have hra : root parent a < parent.size := Nat.lt_of_le_of_lt (root_le hd) has
  have hrb : root parent b < parent.size := Nat.lt_of_le_of_lt (root_le hd) hbs
  unfold unionLabels
  dsimp only
  rw [findRoot_eq_root hd ha, findRoot_eq_root hd hb]
  split
  · -- もう同じ集まり：表は変わらない
    rename_i heq
    have heq : root parent a = root parent b := by simpa using heq
    constructor
    · exact Or.inl
    · rintro (h | ⟨h1, h2⟩ | ⟨h1, h2⟩) <;> omega
  rename_i heq
  split
  · rename_i hlt
    rw [root_setIfInBounds hd (isRoot_root hd) (isRoot_root hd) hlt hrb,
      root_setIfInBounds hd (isRoot_root hd) (isRoot_root hd) hlt hrb]
    exact ite_eq_ite_iff
  · rename_i hlt
    have hgt : root parent b < root parent a := by
      have : root parent a ≠ root parent b := by simpa using heq
      omega
    rw [root_setIfInBounds hd (isRoot_root hd) (isRoot_root hd) hgt hra,
      root_setIfInBounds hd (isRoot_root hd) (isRoot_root hd) hgt hra,
      ite_eq_ite_iff]
    exact or_congr_right or_comm

end Union

/-! ## 一つのラベルへ順に併合する -/

section Fold

variable {parent : Array Nat} {fuel a : Nat} {ls : List Nat}

@[simp] theorem size_foldl_unionLabels :
    (ls.foldl (fun p l => unionLabels p fuel a l) parent).size = parent.size := by
  induction ls generalizing parent with
  | nil => rfl
  | cons l ls ih => rw [List.foldl_cons, ih, size_unionLabels]

theorem descends_foldl_unionLabels (hd : Descends parent) :
    Descends (ls.foldl (fun p l => unionLabels p fuel a l) parent) := by
  induction ls generalizing parent with
  | nil => exact hd
  | cons l ls ih => exact ih (descends_unionLabels hd)

variable (hd : Descends parent) (ha : a < fuel) (hls : ∀ l ∈ ls, l < fuel)
  (hfs : fuel ≤ parent.size)
include hd ha hls hfs

/-- 併合は集まりを分けない。 -/
theorem root_foldl_unionLabels_of_eq {x y : Nat} (h : root parent x = root parent y) :
    root (ls.foldl (fun p l => unionLabels p fuel a l) parent) x =
      root (ls.foldl (fun p l => unionLabels p fuel a l) parent) y := by
  induction ls generalizing parent with
  | nil => exact h
  | cons l ls ih =>
    have hl := hls l List.mem_cons_self
    refine ih (descends_unionLabels hd) (fun l' h' => hls l' (List.mem_cons_of_mem _ h'))
      (by rw [size_unionLabels]; exact hfs) ?_
    exact (root_unionLabels_eq_iff hd ha hl (by omega) (by omega) x y).2 (Or.inl h)

/-- 列のどのラベルも `a` と同じ集まりになる。 -/
theorem root_foldl_unionLabels_mem {l : Nat} (hl : l ∈ ls) :
    root (ls.foldl (fun p l => unionLabels p fuel a l) parent) l =
      root (ls.foldl (fun p l => unionLabels p fuel a l) parent) a := by
  induction ls generalizing parent with
  | nil => cases hl
  | cons l' ls ih =>
    have hl' := hls l' List.mem_cons_self
    have hrest : ∀ l'' ∈ ls, l'' < fuel := fun l'' h => hls l'' (List.mem_cons_of_mem _ h)
    have hfs' : fuel ≤ (unionLabels parent fuel a l').size := by rw [size_unionLabels]; exact hfs
    rcases List.mem_cons.1 hl with rfl | hl
    · -- この併合で `a` とつながり、後の併合はそれを分けない
      refine root_foldl_unionLabels_of_eq (descends_unionLabels hd) ha hrest hfs' ?_
      exact (root_unionLabels_eq_iff hd ha hl' (by omega) (by omega) l a).2
        (Or.inr (Or.inr ⟨rfl, rfl⟩))
    · exact ih (descends_unionLabels hd) hrest hfs' hl

/-- **併合の後に根が同じなら、前から同じだったか、ともに `a` か `ls` のどれかと同じ集まり
だった。** -/
theorem root_foldl_unionLabels_eq {x y : Nat}
    (h : root (ls.foldl (fun p l => unionLabels p fuel a l) parent) x =
      root (ls.foldl (fun p l => unionLabels p fuel a l) parent) y) :
    root parent x = root parent y ∨
      (∃ l ∈ a :: ls, root parent x = root parent l) ∧
        (∃ l ∈ a :: ls, root parent y = root parent l) := by
  induction ls generalizing parent x y with
  | nil => exact Or.inl h
  | cons l ls ih =>
    have hl := hls l List.mem_cons_self
    have hstep := root_unionLabels_eq_iff hd ha hl (by omega) (by omega)
    -- 一つ目の併合の後に `a :: ls` のどれかと同じ集まりなら、もとの表でも `a :: l :: ls` の
    -- どれかと同じ集まり
    have hmem : ∀ u v, root (unionLabels parent fuel a l) u = root (unionLabels parent fuel a l) v →
        v ∈ a :: ls → ∃ l' ∈ a :: l :: ls, root parent u = root parent l' := by
      intro u v huv hv
      rcases (hstep u v).1 huv with h' | ⟨h', -⟩ | ⟨h', -⟩
      · refine ⟨v, ?_, h'⟩
        rcases List.mem_cons.1 hv with rfl | hv
        · exact List.mem_cons_self
        · exact List.mem_cons_of_mem _ (List.mem_cons_of_mem _ hv)
      · exact ⟨a, List.mem_cons_self, h'⟩
      · exact ⟨l, List.mem_cons_of_mem _ List.mem_cons_self, h'⟩
    rcases ih (descends_unionLabels hd) (fun l' h' => hls l' (List.mem_cons_of_mem _ h'))
        (by rw [size_unionLabels]; exact hfs) h with h1 | ⟨⟨l1, hl1, h1⟩, ⟨l2, hl2, h2⟩⟩
    · rcases (hstep x y).1 h1 with h | ⟨hx, hy⟩ | ⟨hx, hy⟩
      · exact Or.inl h
      · exact Or.inr ⟨⟨a, List.mem_cons_self, hx⟩,
          ⟨l, List.mem_cons_of_mem _ List.mem_cons_self, hy⟩⟩
      · exact Or.inr ⟨⟨l, List.mem_cons_of_mem _ List.mem_cons_self, hx⟩,
          ⟨a, List.mem_cons_self, hy⟩⟩
    · exact Or.inr ⟨hmem x l1 h1 hl1, hmem y l2 h2 hl2⟩

end Fold

end DropletVision
