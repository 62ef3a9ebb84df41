import Mathlib.Data.List.Nodup
import Mathlib.Data.List.Perm.Subperm

/-!
# Multimaps

A multimap is the list of its pairs; pairs with the same key stand in the order they were put
in.  `find` gives the first value under a key, `erase` drops every pair with a key, and
`eraseFirst` drops the pair that `find` gives.
-/

/-- A container of pairs in which a key may stand several times. -/
structure Multimap (κ υ : Type*) where
  entries : List (κ × υ)

namespace Multimap

variable {κ υ : Type*}

/-- The multimap with no pairs. -/
def empty : Multimap κ υ :=
  ⟨[]⟩

/-- The values of all pairs. -/
def values (m : Multimap κ υ) : List υ :=
  m.entries.map Prod.snd

/-- Put a pair in, after those with its key. -/
def emplace (m : Multimap κ υ) (k : κ) (v : υ) : Multimap κ υ :=
  ⟨m.entries ++ [(k, v)]⟩

theorem values_emplace (m : Multimap κ υ) (k : κ) (v : υ) :
  (m.emplace k v).values = m.values ++ [v]
  := by
  simp [values, emplace]

theorem mem_emplace {m : Multimap κ υ} {k k' : κ} {v v' : υ} :
  (k', v') ∈ (m.emplace k v).entries ↔ (k', v') ∈ m.entries ∨ k' = k ∧ v' = v
  := by
  simp [emplace]

variable [DecidableEq κ]

/-- The first value under a key. -/
def find (m : Multimap κ υ) (k : κ) : Option υ :=
  (m.entries.find? (fun e => e.1 = k)).map Prod.snd

/-- The values under a key. -/
def valuesAt (m : Multimap κ υ) (k : κ) : List υ :=
  (m.entries.filter (fun e => e.1 = k)).map Prod.snd

/-- Drop every pair with a key. -/
def erase (m : Multimap κ υ) (k : κ) : Multimap κ υ :=
  ⟨m.entries.filter (fun e => e.1 ≠ k)⟩

/-- Drop the first pair with a key. -/
def eraseFirst (m : Multimap κ υ) (k : κ) : Multimap κ υ :=
  ⟨m.entries.eraseP (fun e => e.1 = k)⟩

theorem mem_erase {m : Multimap κ υ} {k k' : κ} {v : υ} :
  (k', v) ∈ (m.erase k).entries ↔ (k', v) ∈ m.entries ∧ k' ≠ k
  := by
  simp [erase]

theorem mem_of_find {m : Multimap κ υ} {k : κ} {v : υ} (h : m.find k = some v) :
  (k, v) ∈ m.entries
  := by
  obtain ⟨⟨k', v'⟩, hfind, rfl⟩ := Option.map_eq_some_iff.mp h
  have hkey : k' = k := by
    simpa using List.find?_some hfind
  rw [← hkey]
  apply List.mem_of_find?_eq_some hfind

theorem find_eq_none {m : Multimap κ υ} {k : κ} :
  m.find k = none ↔ ∀ v, (k, v) ∉ m.entries
  := by
  rw [find, Option.map_eq_none_iff, List.find?_eq_none]
  constructor
  · intro h v hmem
    simpa using h _ hmem
  · rintro h ⟨k', v⟩ hmem
    simp only [decide_eq_true_eq]
    rintro rfl
    apply h v hmem

/-- A key with at most one value. -/
def HasOne (m : Multimap κ υ) (k : κ) : Prop :=
  ∀ v v', (k, v) ∈ m.entries → (k, v') ∈ m.entries → v = v'

/-- A key with one value gives it. -/
theorem HasOne.find {m : Multimap κ υ} {k : κ} {v : υ} (hone : m.HasOne k)
    (hmem : (k, v) ∈ m.entries) :
  m.find k = some v
  := by
  cases hfind : m.find k with
  | none => cases find_eq_none.mp hfind v hmem
  | some v' => rw [hone v v' hmem (mem_of_find hfind)]

theorem HasOne.emplace {m : Multimap κ υ} {k k' : κ} (hone : m.HasOne k')
    (hnew : m.find k = none) (v : υ) :
  (m.emplace k v).HasOne k'
  := by
  intro v₁ v₂ h₁ h₂
  rcases mem_emplace.mp h₁ with hold₁ | ⟨rfl, rfl⟩
  · rcases mem_emplace.mp h₂ with hold₂ | ⟨rfl, rfl⟩
    · apply hone v₁ v₂ hold₁ hold₂
    · cases find_eq_none.mp hnew v₁ hold₁
  · rcases mem_emplace.mp h₂ with hold₂ | ⟨-, rfl⟩
    · cases find_eq_none.mp hnew v₂ hold₂
    · rfl

theorem HasOne.erase {m : Multimap κ υ} {k : κ} (hone : m.HasOne k) (k₀ : κ) :
  (m.erase k₀).HasOne k
  := by
  intro v₁ v₂ h₁ h₂
  apply hone v₁ v₂ (mem_erase.mp h₁).1 (mem_erase.mp h₂).1

/-- The pair that `find` gives, with what `eraseFirst` leaves, is the whole multimap. -/
theorem perm_eraseFirst {m : Multimap κ υ} {k : κ} {v : υ} (h : m.find k = some v) :
  List.Perm m.entries ((k, v) :: (m.eraseFirst k).entries)
  := by
  obtain ⟨⟨k', v'⟩, hfind, rfl⟩ := Option.map_eq_some_iff.mp h
  obtain ⟨hkey, l₁, l₂, hsplit, hbefore⟩ := List.find?_eq_some_iff_append.mp hfind
  simp only [decide_eq_true_eq] at hkey
  have herase : m.entries.eraseP (fun e => e.1 = k) = l₁ ++ l₂ := by
    rw [hsplit, List.eraseP_append_right _ (by simpa using hbefore)]
    simp [hkey]
  rw [eraseFirst, herase, hsplit, ← hkey]
  apply List.perm_middle

theorem valuesAt_eq_nil {m : Multimap κ υ} {k : κ} :
  m.valuesAt k = [] ↔ m.find k = none
  := by
  rw [find_eq_none, valuesAt, List.map_eq_nil_iff, List.filter_eq_nil_iff]
  constructor
  · intro h v hmem
    simpa using h _ hmem
  · rintro h ⟨k', v⟩ hmem
    simp only [decide_eq_true_eq]
    rintro rfl
    apply h v hmem

/-- The values are those under a key and those that dropping the key leaves. -/
theorem perm_valuesAt_erase (m : Multimap κ υ) (k : κ) :
  List.Perm m.values (m.valuesAt k ++ (m.erase k).values)
  := by
  rw [values, valuesAt, values, ← List.map_append]
  apply List.Perm.map
  have hsplit := List.filter_append_perm (fun e : κ × υ => decide (e.1 = k)) m.entries
  simpa [erase] using hsplit.symm

/-- The value that `find` gives is one of those under the key. -/
theorem mem_valuesAt_of_find {m : Multimap κ υ} {k : κ} {v : υ} (h : m.find k = some v) :
  v ∈ m.valuesAt k
  := by
  apply List.mem_map.mpr
  use (k, v)
  simp [mem_of_find h]

/-- Put a value under a new key and drop the key `k₀`. -/
theorem values_emplace_erase {m : Multimap κ υ} {k k₀ : κ} (hk : k ≠ k₀) (v : υ) :
  ((m.emplace k v).erase k₀).values = (m.erase k₀).values ++ [v]
  := by
  simp [values, emplace, erase, List.filter_append, hk]

/-- Putting the first value under `k₀` under a new key, and then dropping `k₀`, gives no value a
second place. -/
theorem subperm_emplace_erase {m : Multimap κ υ} {k k₀ : κ} {v : υ} (hk : k ≠ k₀)
    (h : m.find k₀ = some v) :
  List.Subperm ((m.emplace k v).erase k₀).values m.values
  := by
  have hmem : List.Sublist [v] (m.valuesAt k₀) :=
    List.singleton_sublist.mpr (mem_valuesAt_of_find h)
  rw [values_emplace_erase hk]
  apply List.Subperm.trans (List.perm_append_singleton v _).subperm
  apply List.Subperm.trans (hmem.append (List.Sublist.refl _)).subperm
  apply (perm_valuesAt_erase m k₀).symm.subperm

/-- All values under `k₀` but one are lost. -/
theorem length_emplace_erase {m : Multimap κ υ} {k k₀ : κ} (hk : k ≠ k₀) (v : υ) :
  ((m.emplace k v).erase k₀).values.length + (m.valuesAt k₀).length = m.values.length + 1
  := by
  have hlength := (perm_valuesAt_erase m k₀).length_eq
  rw [values_emplace_erase hk]
  simp only [List.length_append, List.length_singleton] at hlength ⊢
  omega

/-- Moving the first value under a key to another key keeps the values. -/
theorem perm_eraseFirst_emplace {m : Multimap κ υ} {k : κ} {v : υ} (h : m.find k = some v)
    (k₀ : κ) :
  List.Perm ((m.eraseFirst k).emplace k₀ v).values m.values
  := by
  rw [values_emplace]
  apply List.Perm.trans (List.perm_append_singleton v _)
  apply List.Perm.symm
  apply (perm_eraseFirst h).map

/-- A pair under another key than `k₀` that is there after moving a value to `k₀` was there
before. -/
theorem mem_of_eraseFirst_emplace {m : Multimap κ υ} {k k₀ k' : κ} {v v' : υ}
    (hk : k' ≠ k₀) (h : m.find k = some v)
    (hmem : (k', v') ∈ ((m.eraseFirst k).emplace k₀ v).entries) :
  (k', v') ∈ m.entries
  := by
  rcases mem_emplace.mp hmem with hmem | ⟨hk', -⟩
  · apply (perm_eraseFirst h).mem_iff.mpr
    apply List.mem_cons_of_mem _ hmem
  · cases hk hk'

end Multimap
