import CameraOverlay.Frame
/-!
# Reading a frame back after a list of writes

`Frame.overwrite` stores a list of writes in order. What a byte holds afterwards is the value of
the last write that lands on it, or what it held before when none does: `Write.lastAt` is that
last value, and `Frame.overwrite_plane_getElem?` reads every byte of the result through it.
Since `lastAt` looks only at the writes, never at the frame, a second pass of the same writes
changes nothing (`Frame.overwrite_overwrite_self`).

Compositing visits a sprite column by column, so its writes are a list of lists indexed by
`List.range`. The last write to a byte then comes from the last sample, in that visiting order,
that writes it at all: `findSome?_reverse_range_of_last` and its two-dimensional form
`gridLast_of_last` say so, and the other lemmas of the two sections handle the samples that do
not write the byte.
-/

namespace CameraOverlay

namespace Write

/-- The value `w` stores at byte `n` of plane `p`, if it lands there. -/
def valueAt (p : Plane) (n : Nat) (w : Write) : Option UInt8 :=
  if w.plane = p ∧ w.index = n then some w.value else none

/-- The value of the last write of `ws` that lands on byte `n` of plane `p`. -/
def lastAt : List Write → Plane → Nat → Option UInt8
  | [], _, _ => none
  | w :: ws, p, n => (lastAt ws p n).or (w.valueAt p n)

@[simp] theorem lastAt_nil (p : Plane) (n : Nat) : lastAt [] p n = none := rfl

theorem lastAt_cons (w : Write) (ws : List Write) (p : Plane) (n : Nat) :
    lastAt (w :: ws) p n = (lastAt ws p n).or (w.valueAt p n) := rfl

@[simp] theorem valueAt_mk (q p : Plane) (i n : Nat) (v : UInt8) :
    valueAt p n ⟨q, i, v⟩ = if q = p ∧ i = n then some v else none := rfl

theorem lastAt_append (ws vs : List Write) (p : Plane) (n : Nat) :
    lastAt (ws ++ vs) p n = (lastAt vs p n).or (lastAt ws p n) := by
  induction ws with
  | nil => simp [Option.or_none]
  | cons w ws ih => simp [lastAt_cons, ih, Option.or_assoc]

@[simp] theorem lastAt_singleton (w : Write) (p : Plane) (n : Nat) :
    lastAt [w] p n = w.valueAt p n := by
  simp [lastAt_cons]

theorem lastAt_flatMap {α : Type} (xs : List α) (g : α → List Write) (p : Plane) (n : Nat) :
    lastAt (xs.flatMap g) p n = xs.reverse.findSome? fun x => lastAt (g x) p n := by
  induction xs with
  | nil => rfl
  | cons x xs ih => simp [List.flatMap_cons, lastAt_append, ih]

theorem lastAt_filterMap {α : Type} (xs : List α) (g : α → Option Write) (p : Plane) (n : Nat) :
    lastAt (xs.filterMap g) p n = xs.reverse.findSome? fun x => (g x).bind (valueAt p n) := by
  induction xs with
  | nil => rfl
  | cons x xs ih =>
    cases hx : g x with
    | none => simp [hx, ih]
    | some w => simp [hx, lastAt_cons, ih]

theorem lastAt_eq_none {ws : List Write} {p : Plane} {n : Nat}
    (h : ∀ w ∈ ws, w.valueAt p n = none) : lastAt ws p n = none := by
  induction ws with
  | nil => rfl
  | cons w ws ih =>
    rw [lastAt_cons, ih (fun v hv => h v (List.mem_cons_of_mem _ hv)), h w List.mem_cons_self]
    rfl

end Write

namespace Frame

variable (f : Frame)

@[ext] theorem ext {g : Frame} (hw : f.width = g.width) (hh : f.height = g.height)
    (hl : f.luma = g.luma) (hc : f.chroma = g.chroma) : f = g := by
  cases f
  cases g
  cases hw
  cases hh
  cases hl
  cases hc
  rfl

@[simp] theorem plane_luma : f.plane .luma = f.luma := rfl

@[simp] theorem plane_chroma : f.plane .chroma = f.chroma := rfl

theorem ext_plane {g : Frame} (hw : f.width = g.width) (hh : f.height = g.height)
    (hp : ∀ (p : Plane) (n : Nat), (f.plane p)[n]? = (g.plane p)[n]?) : f = g :=
  f.ext hw hh (Array.ext_getElem? (hp .luma)) (Array.ext_getElem? (hp .chroma))

theorem write_plane_getElem? (w : Write) (p : Plane) (n : Nat) :
    ((f.write w).plane p)[n]? = ((f.plane p)[n]?).map fun b => (w.valueAt p n).getD b := by
  cases w with
  | mk q i v =>
    cases q <;> cases p <;>
      simp only [write, plane, Write.valueAt_mk, Array.getElem?_setIfInBounds] <;>
      by_cases hi : i = n <;> simp_all [getElem?_def]

@[simp] theorem overwrite_width (ws : List Write) : (f.overwrite ws).width = f.width := by
  induction ws generalizing f with
  | nil => rfl
  | cons w ws ih => rw [overwrite_cons, ih, write_width]

@[simp] theorem overwrite_height (ws : List Write) : (f.overwrite ws).height = f.height := by
  induction ws generalizing f with
  | nil => rfl
  | cons w ws ih => rw [overwrite_cons, ih, write_height]

@[simp] theorem overwrite_shape (ws : List Write) : (f.overwrite ws).shape = f.shape := by
  simp [shape]

/-- Every byte after a list of writes: the last value written to it, else what it held. -/
theorem overwrite_plane_getElem? (ws : List Write) (p : Plane) (n : Nat) :
    ((f.overwrite ws).plane p)[n]? =
      ((f.plane p)[n]?).map fun b => (Write.lastAt ws p n).getD b := by
  induction ws generalizing f with
  | nil => simp [Option.map_id']
  | cons w ws ih =>
    rw [overwrite_cons, ih, write_plane_getElem?, Option.map_map, Write.lastAt_cons]
    congr 1
    funext b
    cases Write.lastAt ws p n <;> rfl

theorem overwrite_plane_getElem?_of_lastAt_none {ws : List Write} {p : Plane} {n : Nat}
    (h : Write.lastAt ws p n = none) : ((f.overwrite ws).plane p)[n]? = (f.plane p)[n]? := by
  rw [overwrite_plane_getElem?, h]
  simp

theorem overwrite_congr {ws vs : List Write} (h : ∀ p n, Write.lastAt ws p n = Write.lastAt vs p n) :
    f.overwrite ws = f.overwrite vs := by
  apply ext_plane _ (by simp) (by simp)
  intro p n
  rw [overwrite_plane_getElem?, overwrite_plane_getElem?, h]

theorem overwrite_overwrite_self (ws : List Write) : (f.overwrite ws).overwrite ws = f.overwrite ws := by
  apply ext_plane _ (by simp) (by simp)
  intro p n
  rw [overwrite_plane_getElem?, overwrite_plane_getElem?, Option.map_map]
  congr 1
  funext b
  cases Write.lastAt ws p n <;> rfl

end Frame

section Scan

variable {α : Type} {g : Nat → Option α} {k n : Nat} {a : α}

theorem findSome?_reverse_range_eq_none (h : ∀ i < n, g i = none) :
    (List.range n).reverse.findSome? g = none := by
  simpa using h

theorem findSome?_reverse_range_of_last (hk : k < n) (ha : g k = some a)
    (hlater : ∀ i, k < i → i < n → g i = none) :
    (List.range n).reverse.findSome? g = some a := by
  induction n with
  | zero => omega
  | succ n ih =>
    rw [List.range_succ, List.reverse_append, List.reverse_singleton, List.singleton_append,
      List.findSome?_cons]
    by_cases hkn : k = n
    · subst hkn
      rw [ha]
    · rw [hlater n (by omega) (by omega)]
      exact ih (by omega) (fun i hi hin => hlater i hi (by omega))

theorem findSome?_reverse_range_congr {g' : Nat → Option α} (h : ∀ i < n, g i = g' i) :
    (List.range n).reverse.findSome? g = (List.range n).reverse.findSome? g' := by
  induction n with
  | zero => rfl
  | succ n ih =>
    rw [List.range_succ, List.reverse_append, List.reverse_singleton, List.singleton_append,
      List.findSome?_cons, List.findSome?_cons, h n (by omega),
      ih (fun i hi => h i (by omega))]

theorem findSome?_reverse_range_eq_some (h : (List.range n).reverse.findSome? g = some a) :
    ∃ k < n, g k = some a ∧ ∀ i, k < i → i < n → g i = none := by
  induction n with
  | zero => simp at h
  | succ n ih =>
    rw [List.range_succ, List.reverse_append, List.reverse_singleton, List.singleton_append,
      List.findSome?_cons] at h
    cases hn : g n with
    | some b =>
      rw [hn] at h
      cases h
      exact ⟨n, by omega, hn, fun i hi hin => by omega⟩
    | none =>
      rw [hn] at h
      obtain ⟨k, hk, hgk, hlater⟩ := ih h
      refine ⟨k, by omega, hgk, fun i hi hin => ?_⟩
      by_cases hi' : i = n
      · rw [hi', hn]
      · exact hlater i hi (by omega)

end Scan

section Grid

variable {α : Type} {g : Nat → Nat → Option α} {w h i j : Nat} {a : α}

/-- A column-major scan of a `w × h` grid, read from its end: the value of the last cell that has
one. -/
def gridLast (w h : Nat) (g : Nat → Nat → Option α) : Option α :=
  (List.range w).reverse.findSome? fun i => (List.range h).reverse.findSome? (g i)

/-- Cell `(i', j')` comes after cell `(i, j)` in a column-major scan. -/
def VisitedAfter (i j i' j' : Nat) : Prop := i < i' ∨ (i = i' ∧ j < j')

theorem gridLast_congr {g' : Nat → Nat → Option α} (hg : ∀ i j, i < w → j < h → g i j = g' i j) :
    gridLast w h g = gridLast w h g' := by
  apply findSome?_reverse_range_congr
  intro i hi
  exact findSome?_reverse_range_congr (fun j hj => hg i j hi hj)

theorem gridLast_eq_none (hnone : ∀ i j, i < w → j < h → g i j = none) : gridLast w h g = none := by
  apply findSome?_reverse_range_eq_none
  intro i hi
  exact findSome?_reverse_range_eq_none (fun j hj => hnone i j hi hj)

theorem gridLast_of_last (hi : i < w) (hj : j < h) (ha : g i j = some a)
    (hlater : ∀ i' j', i' < w → j' < h → VisitedAfter i j i' j' → g i' j' = none) :
    gridLast w h g = some a := by
  apply findSome?_reverse_range_of_last hi
  · exact findSome?_reverse_range_of_last hj ha
      (fun j' hj' hj'h => hlater i j' hi hj'h (Or.inr ⟨rfl, hj'⟩))
  · intro i' hi' hi'w
    exact findSome?_reverse_range_eq_none
      (fun j' hj' => hlater i' j' hi'w hj' (Or.inl hi'))

theorem gridLast_of_unique (hi : i < w) (hj : j < h)
    (hother : ∀ i' j', i' < w → j' < h → (i', j') ≠ (i, j) → g i' j' = none) :
    gridLast w h g = g i j := by
  cases hgij : g i j with
  | none =>
    apply gridLast_eq_none
    intro i' j' hi' hj'
    by_cases he : (i', j') = (i, j)
    · simp only [Prod.mk.injEq] at he
      rw [he.1, he.2, hgij]
    · exact hother i' j' hi' hj' he
  | some b =>
    apply gridLast_of_last hi hj hgij
    intro i' j' hi' hj' hafter
    apply hother i' j' hi' hj'
    simp only [ne_eq, Prod.mk.injEq]
    unfold VisitedAfter at hafter
    omega

theorem gridLast_eq_some (hg : gridLast w h g = some a) :
    ∃ i j, i < w ∧ j < h ∧ g i j = some a ∧
      ∀ i' j', i' < w → j' < h → VisitedAfter i j i' j' → g i' j' = none := by
  obtain ⟨i, hi, hcol, hlaterCols⟩ := findSome?_reverse_range_eq_some hg
  obtain ⟨j, hj, hgij, hlaterRows⟩ := findSome?_reverse_range_eq_some hcol
  refine ⟨i, j, hi, hj, hgij, fun i' j' hi' hj' hafter => ?_⟩
  rcases hafter with hlt | ⟨rfl, hlt⟩
  · have hnone := hlaterCols i' hlt hi'
    rw [List.findSome?_eq_none_iff] at hnone
    exact hnone j' (by simpa using hj')
  · exact hlaterRows j' hlt hj'

theorem eq_none_of_gridLast_eq_none (hg : gridLast w h g = none) (hi : i < w) (hj : j < h) :
    g i j = none := by
  unfold gridLast at hg
  rw [List.findSome?_eq_none_iff] at hg
  have hcol := hg i (by simpa using hi)
  rw [List.findSome?_eq_none_iff] at hcol
  exact hcol j (by simpa using hj)

theorem gridLast_map {β : Type} (F : α → β) :
    gridLast w h (fun i j => (g i j).map F) = (gridLast w h g).map F := by
  simp only [gridLast, List.map_findSome?, Function.comp_def]

theorem Write.lastAt_grid (w h : Nat) (body : Nat → Nat → List Write) (p : Plane) (n : Nat) :
    Write.lastAt ((List.range w).flatMap fun i => (List.range h).flatMap (body i)) p n =
      gridLast w h fun i j => Write.lastAt (body i j) p n := by
  simp only [Write.lastAt_flatMap, gridLast]

end Grid

end CameraOverlay
