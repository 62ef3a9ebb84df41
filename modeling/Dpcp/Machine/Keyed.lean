import Mathlib.Data.List.Nodup
import Mathlib.Data.List.Perm.Lattice

/-!
# Lists of things under keys

A list of things, each with a key, no two with the same one.  A thing is looked up, changed or
removed by its key.  What a change or a removal does to how often a value of the things occurs is
counted beside the one thing it is about.
-/

namespace Keyed

variable {α κ ι : Type*} [DecidableEq κ] [DecidableEq ι] (key : α → κ)

/-- The thing under a key. -/
def lookup (k : κ) (l : List α) : Option α :=
  l.find? fun x => key x = k

/-- The list with the thing under a key changed. -/
def update (k : κ) (f : α → α) (l : List α) : List α :=
  l.map fun x => if key x = k then f x else x

/-- The list without the thing under a key. -/
def remove (k : κ) (l : List α) : List α :=
  l.filter fun x => key x ≠ k

variable {key}

theorem lookup_eq_some {k : κ} {l : List α} {x : α} (h : lookup key k l = some x) :
  x ∈ l ∧ key x = k
  := ⟨List.mem_of_find?_eq_some h, by simpa using List.find?_some h⟩

theorem lookup_eq_none {k : κ} {l : List α} :
  lookup key k l = none ↔ ∀ x ∈ l, key x ≠ k
  := by
  simp [lookup]

/-- The thing under a key after a change that keeps the keys. -/
theorem lookup_update {k k' : κ} {f : α → α} (hf : ∀ x, key (f x) = key x) (l : List α) :
  lookup key k (update key k' f l)
    = (lookup key k l).map fun x => if key x = k' then f x else x
  := by
  rw [lookup, update, List.find?_map]
  congr 2
  funext x
  by_cases hx : key x = k' <;> simp [hx, hf]

theorem mem_remove {k : κ} {l : List α} {x : α} :
  x ∈ remove key k l ↔ x ∈ l ∧ key x ≠ k
  := by
  simp [remove]

theorem mem_update {k : κ} {f : α → α} {l : List α} {x : α} :
  x ∈ update key k f l ↔ ∃ y ∈ l, (if key y = k then f y else y) = x
  := List.mem_map

/-- What a change of things leaves alone. -/
theorem apply_ite_of_eq {β : Type*} {g : α → β} {f : α → α} (hg : ∀ x, g (f x) = g x) (k : κ)
    (x : α) :
  g (if key x = k then f x else x) = g x
  := by
  split
  · apply hg
  · rfl

/-- What the thing under a key has after the change, and the others have anyway. -/
theorem forall_mem_update {P : α → Prop} {k : κ} {f : α → α} {l : List α}
    (h : ∀ x ∈ l, key x ≠ k → P x) (hf : ∀ x ∈ l, key x = k → P (f x)) :
  ∀ x ∈ update key k f l, P x
  := by
  intro x hx
  obtain ⟨y, hy, rfl⟩ := mem_update.mp hx
  split
  · rename_i hkey
    apply hf y hy hkey
  · rename_i hkey
    apply h y hy hkey

/-- A change that changes nothing. -/
theorem update_eq_self {k : κ} {f : α → α} {l : List α} (h : ∀ x ∈ l, key x = k → f x = x) :
  update key k f l = l
  := by
  have hsame : l.map (fun x => if key x = k then f x else x) = l.map id := by
    apply List.map_congr_left
    intro x hx
    by_cases hkey : key x = k
    · rw [if_pos hkey, h x hx hkey, id]
    · rw [if_neg hkey, id]
  rw [update, hsame, List.map_id]

/-- A thing that is removed may have been changed before. -/
theorem remove_update {k : κ} {f : α → α} (hf : ∀ x, key (f x) = key x) (l : List α) :
  remove key k (update key k f l) = remove key k l
  := by
  induction l with
  | nil => rfl
  | cons x l ih =>
      by_cases hx : key x = k
      · have h := hf x
        simp_all [remove, update]
      · simp_all [remove, update]

theorem nodup_remove {k : κ} {l : List α} (h : (l.map key).Nodup) :
  ((remove key k l).map key).Nodup
  := h.sublist (List.filter_sublist.map key)

omit [DecidableEq κ] in
theorem eq_of_key {l : List α} (h : (l.map key).Nodup) {x y : α} (hx : x ∈ l) (hy : y ∈ l)
    (hkey : key x = key y) :
  x = y
  := List.inj_on_of_nodup_map h hx hy hkey

theorem lookup_of_mem {l : List α} (h : (l.map key).Nodup) {x : α} (hx : x ∈ l) :
  lookup key (key x) l = some x
  := by
  cases hlookup : lookup key (key x) l with
  | none => cases lookup_eq_none.mp hlookup x hx rfl
  | some y =>
      obtain ⟨hy, hkey⟩ := lookup_eq_some hlookup
      rw [eq_of_key h hy hx hkey]

/-- The list around the thing under a key. -/
theorem split {l : List α} (h : (l.map key).Nodup) {x : α} (hx : x ∈ l) :
  ∃ l₁ l₂, l = l₁ ++ x :: l₂ ∧ remove key (key x) l = l₁ ++ l₂
    ∧ ∀ f, update key (key x) f l = l₁ ++ f x :: l₂
  := by
  obtain ⟨l₁, l₂, rfl⟩ := List.append_of_mem hx
  have hne : ∀ y ∈ l₁ ++ l₂, key y ≠ key x := by
    rw [List.map_append, List.map_cons, List.nodup_middle, ← List.map_append] at h
    intro y hy hkey
    apply (List.nodup_cons.mp h).1
    rw [← hkey]
    apply List.mem_map_of_mem hy
  have hremove (l : List α) (hl : ∀ y ∈ l, key y ≠ key x) : remove key (key x) l = l := by
    apply List.filter_eq_self.mpr
    intro y hy
    simpa using hl y hy
  have hupdate (f : α → α) (l : List α) (hl : ∀ y ∈ l, key y ≠ key x) :
      update key (key x) f l = l := by
    apply update_eq_self
    intro y hy hkey
    cases hl y hy hkey
  have h₁ : ∀ y ∈ l₁, key y ≠ key x := fun y hy => hne y (List.mem_append_left l₂ hy)
  have h₂ : ∀ y ∈ l₂, key y ≠ key x := fun y hy => hne y (List.mem_append_right l₁ hy)
  refine ⟨l₁, l₂, rfl, ?_, ?_⟩
  · have hx : remove key (key x) (x :: l₂) = remove key (key x) l₂ := by
      simp [remove]
    rw [remove, List.filter_append, ← remove, ← remove, hx, hremove l₁ h₁, hremove l₂ h₂]
  · intro f
    have hx : update key (key x) f (x :: l₂) = f x :: update key (key x) f l₂ := by
      simp [update]
    rw [update, List.map_append, ← update, ← update, hx, hupdate f l₁ h₁, hupdate f l₂ h₂]

/-! ### Lists in parts -/

theorem remove_append (k : κ) (l l' : List α) :
  remove key k (l ++ l') = remove key k l ++ remove key k l'
  := List.filter_append l l'

theorem update_append (k : κ) (f : α → α) (l l' : List α) :
  update key k f (l ++ l') = update key k f l ++ update key k f l'
  := List.map_append

section Map

variable {β κ' : Type*} [DecidableEq κ'] {key' : β → κ'} {g : α → β} {k : κ} {k' : κ'}

theorem remove_map (h : ∀ x, key' (g x) = k' ↔ key x = k) (l : List α) :
  remove key' k' (l.map g) = (remove key k l).map g
  := by
  simp only [remove, List.filter_map]
  congr 2
  funext x
  simp [h x]

omit [DecidableEq κ] in
theorem remove_map_of_ne (h : ∀ x, key' (g x) ≠ k') (l : List α) :
  remove key' k' (l.map g) = l.map g
  := by
  apply List.filter_eq_self.mpr
  intro y hy
  obtain ⟨x, -, rfl⟩ := List.mem_map.mp hy
  simpa using h x

theorem update_map {f : α → α} {f' : β → β} (h : ∀ x, key' (g x) = k' ↔ key x = k)
    (hf : ∀ x, g (f x) = f' (g x)) (l : List α) :
  update key' k' f' (l.map g) = (update key k f l).map g
  := by
  simp only [update, List.map_map]
  apply List.map_congr_left
  intro x _
  by_cases hx : key x = k
  · simp [hx, (h x).mpr hx, hf]
  · simp [hx, mt (h x).mp hx]

omit [DecidableEq κ] in
theorem update_map_of_ne {f' : β → β} (h : ∀ x, key' (g x) ≠ k') (l : List α) :
  update key' k' f' (l.map g) = l.map g
  := by
  simp only [update, List.map_map]
  apply List.map_congr_left
  intro x _
  simp [h x]

omit [DecidableEq κ'] in
/-- A change that a function does not see. -/
theorem map_update {f : α → α} (hf : ∀ x, g (f x) = g x) (l : List α) :
  (update key k f l).map g = l.map g
  := by
  rw [update, List.map_map]
  apply List.map_congr_left
  intro x _
  apply apply_ite_of_eq hf

end Map

section Fold

variable {σ : Type*} {get : σ → List α} {d : σ → α → σ}
  (hget : ∀ s x, get (d s x) = remove key (key x) (get s))

include hget

/-- Things that are removed one after the other. -/
theorem get_foldl (l : List α) (s : σ) :
  get (l.foldl d s) = (get s).filter fun x => ∀ y ∈ l, key x ≠ key y
  := by
  induction l generalizing s with
  | nil => simp
  | cons y l ih =>
      rw [List.foldl_cons, ih, hget, remove, List.filter_filter]
      congr 1
      funext x
      simp [Bool.and_comm]

theorem mem_get_foldl {l : List α} {s : σ} {x : α} :
  x ∈ get (l.foldl d s) ↔ x ∈ get s ∧ ∀ y ∈ l, key x ≠ key y
  := by
  rw [get_foldl hget, List.mem_filter, decide_eq_true_iff]

/-- What the removal of a thing that is there keeps, the removal of several keeps. -/
theorem inv_foldl {P : σ → Prop} (hP : ∀ s x, x ∈ get s → P s → P (d s x)) {l : List α}
    (hl : (l.map key).Nodup) {s : σ} (hmem : ∀ x ∈ l, x ∈ get s) (hs : P s) :
  P (l.foldl d s)
  := by
  induction l generalizing s with
  | nil => apply hs
  | cons y l ih =>
      obtain ⟨hy, hl⟩ := List.nodup_cons.mp hl
      apply ih hl
      · intro x hx
        rw [hget]
        apply mem_remove.mpr ⟨hmem x (List.mem_cons_of_mem y hx), _⟩
        intro hkey
        apply hy
        rw [← hkey]
        apply List.mem_map_of_mem hx
      · apply hP s y (hmem y List.mem_cons_self) hs

/-- The removal of those among the things that satisfy a condition. -/
theorem inv_foldl_filter {P : σ → Prop} (hP : ∀ s x, x ∈ get s → P s → P (d s x)) (p : α → Bool)
    {s : σ} (hkeys : ((get s).map key).Nodup) (hs : P s) :
  P (((get s).filter p).foldl d s)
  := by
  apply inv_foldl hget hP _ _ hs
  · apply hkeys.sublist (List.filter_sublist.map key)
  · intro x hx
    apply List.mem_of_mem_filter hx

end Fold

section Count

variable (value : α → Option ι)

/-- One thing of a list, counted by itself. -/
theorem count_middle (l₁ l₂ : List α) (x : α) (i : ι) :
  ((l₁ ++ x :: l₂).filterMap value).count i
    = (value x).toList.count i + ((l₁ ++ l₂).filterMap value).count i
  := by
  have hx : (x :: l₂).filterMap value = (value x).toList ++ l₂.filterMap value := by
    cases hvalue : value x <;> simp [hvalue]
  rw [List.filterMap_append, hx, List.filterMap_append]
  simp only [List.count_append]
  omega

/-- How often a value occurs, beside the thing under a key. -/
theorem count_remove {l : List α} (h : (l.map key).Nodup) {x : α} (hx : x ∈ l) (i : ι) :
  (l.filterMap value).count i
    = (value x).toList.count i + ((remove key (key x) l).filterMap value).count i
  := by
  obtain ⟨l₁, l₂, hl, hremove, -⟩ := split h hx
  rw [hremove, hl, count_middle value]

theorem count_update {l : List α} (h : (l.map key).Nodup) {x : α} (hx : x ∈ l) (f : α → α) (i : ι) :
  ((update key (key x) f l).filterMap value).count i
    = (value (f x)).toList.count i + ((remove key (key x) l).filterMap value).count i
  := by
  obtain ⟨l₁, l₂, -, hremove, hupdate⟩ := split h hx
  rw [hremove, hupdate, count_middle value]

variable {value} in
omit [DecidableEq κ] in
/-- A value of a thing occurs. -/
theorem count_pos_of_mem {l : List α} {x : α} (hx : x ∈ l) {i : ι} (hvalue : value x = some i) :
  0 < (l.filterMap value).count i
  := List.count_pos_iff.mpr (List.mem_filterMap.mpr ⟨x, hx, hvalue⟩)

end Count

end Keyed
