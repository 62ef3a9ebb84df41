import Dpcp.Api
import Dpcp.Data.Multimap
import Dpcp.Machine.Run

/-!
# The collection of UARs

A `uar_collection` hands out UARs (pages of doorbell registers) by key.  All shared requests get
one UAR; an exclusive request gets a UAR of its own, which on release goes to a free pool, the
pairs with the null key of the same multimap.

UARs are numbered in the order in which they are allocated.
-/

namespace Dpcp

open Machine

/-- `enum uar_type`. -/
inductive UarType where
  | shared
  | exclusive
deriving DecidableEq

/-- `struct uar_t`; a page or a register is given by its address, `0` if it is null. -/
structure UarT where
  mPage : Nat
  mBfReg : Nat
  mPageId : BitVec 32

/-- `class uar_collection`.  A key is an address, the null key is `0`; `allocated` counts the UARs
that `allocate` has given. -/
structure UarCollection where
  mExUars : Multimap Nat Nat
  mShVc : List Nat
  mSharedUar : Option Nat
  allocated : Nat

namespace UarCollection

/-- The constructor of `uar_collection`. -/
def new : UarCollection :=
  ⟨.empty, [], none, 0⟩

/-- `allocate`; `ok` tells whether the context has a UAR. -/
def allocate (s : UarCollection) (ok : Bool) : Option Nat × UarCollection :=
  if ok then (some s.allocated, { s with allocated := s.allocated + 1 }) else (none, s)

/-- `add_uar`. -/
def addUar (s : UarCollection) (key : Nat) (u : Nat) : Option Nat × UarCollection :=
  (some u, { s with mExUars := s.mExUars.emplace key u })

/-- `get_uar`; `ok` tells whether `allocate` succeeds if it is called. -/
def getUar (s : UarCollection) (key : Nat) (type : UarType) (ok : Bool) :
    Option Nat × UarCollection :=
  if key = 0 then
    (none, s)
  else
    match type with
    | .shared =>
        match s.mSharedUar with
        | none =>
            let (u, s) := s.allocate ok
            let s := { s with mSharedUar := u }
            let s := if u.isSome then { s with mShVc := s.mShVc ++ [key] } else s
            (s.mSharedUar, s)
        | some _ =>
            let s := if key ∈ s.mShVc then s else { s with mShVc := s.mShVc ++ [key] }
            (s.mSharedUar, s)
    | .exclusive =>
        match s.mExUars.find key with
        | some u => (some u, s)
        | none =>
            match s.mExUars.find 0 with
            | none =>
                match s.allocate ok with
                | (none, s) => (none, s)
                | (some u, s) => s.addUar key u
            | some u =>
                let (u, s) := s.addUar key u
                -- by key: the whole free pool goes
                (u, { s with mExUars := s.mExUars.erase 0 })

/-- `release_uar`. -/
def releaseUar (s : UarCollection) (key : Nat) : Result UarCollection :=
  if key = 0 then
    (.errInvalidParam, s)
  else if key ∈ s.mShVc then
    (.ok, { s with mShVc := s.mShVc.filter (fun k => k ≠ key) })
  else
    match s.mExUars.find key with
    | some u =>
        let s := { s with mExUars := s.mExUars.eraseFirst key }
        (.ok, (s.addUar 0 u).2)
    | none => (.errInvalidParam, s)

/-- `get_uar_page`; `page` is what the device tells of a UAR, `uarDsc` what the output parameter
held. -/
def getUarPage (page : Nat → UarT) (u : Option Nat) (uarDsc : UarT) : Result UarT :=
  match u with
  | none => (.errInvalidParam, uarDsc)
  | some u => (.ok, page u)

/-- The destructor of `uar_collection`: the UARs it frees. -/
def destroy (s : UarCollection) : List Nat :=
  s.mSharedUar.toList

/-- A call on the collection. -/
inductive Call where
  | get (key : Nat) (type : UarType) (ok : Bool)
  | release (key : Nat)
deriving DecidableEq

/-- The collection after a call. -/
def step (s : UarCollection) : Call → UarCollection
  | .get key type ok => (s.getUar key type ok).2
  | .release key => (s.releaseUar key).2

/-! ### What a call can do -/

/-- The UARs in the free pool. -/
def free (s : UarCollection) : List Nat :=
  s.mExUars.valuesAt 0

/-- An exclusive request by a key that has no UAR, with UARs in the free pool. -/
def Reuses (s : UarCollection) : Call → Prop
  | .get key .exclusive _ => key ≠ 0 ∧ s.mExUars.find key = none ∧ s.mExUars.find 0 ≠ none
  | _ => False

/-- The ways in which a call changes the collection.  The shared keys are a list apart; a UAR is
allocated for the shared slot or for a key, taken from the free pool for a key, or put back. -/
inductive Effect (s : UarCollection) : Call → UarCollection → Prop where
  | same {c : Call} : ¬ s.Reuses c → Effect s c s
  | share {key u : Nat} {ok : Bool} : key ≠ 0 → s.mSharedUar = some u → key ∉ s.mShVc →
      Effect s (.get key .shared ok) { s with mShVc := s.mShVc ++ [key] }
  | allocShared {key : Nat} : key ≠ 0 → s.mSharedUar = none →
      Effect s (.get key .shared true)
        { s with
          mSharedUar := some s.allocated
          mShVc := s.mShVc ++ [key]
          allocated := s.allocated + 1 }
  | allocExclusive {key : Nat} : key ≠ 0 → s.mExUars.find key = none → s.mExUars.find 0 = none →
      Effect s (.get key .exclusive true)
        { s with
          mExUars := s.mExUars.emplace key s.allocated
          allocated := s.allocated + 1 }
  | reuse {key u : Nat} {ok : Bool} : key ≠ 0 → s.mExUars.find key = none →
      s.mExUars.find 0 = some u →
      Effect s (.get key .exclusive ok) { s with mExUars := (s.mExUars.emplace key u).erase 0 }
  | unshare {key : Nat} : key ≠ 0 → key ∈ s.mShVc →
      Effect s (.release key) { s with mShVc := s.mShVc.filter (fun k => k ≠ key) }
  | giveBack {key u : Nat} : key ≠ 0 → key ∉ s.mShVc → s.mExUars.find key = some u →
      Effect s (.release key)
        { s with mExUars := (s.mExUars.eraseFirst key).emplace 0 u }

theorem effect_getUar (s : UarCollection) (key : Nat) (type : UarType) (ok : Bool) :
  s.Effect (.get key type ok) (s.getUar key type ok).2
  := by
  by_cases hkey : key = 0
  · simp only [getUar, hkey, if_true]
    apply Effect.same
    cases type <;> simp [Reuses]
  · obtain ⟨exUars, shVc, shared, allocated⟩ := s
    simp only [getUar, hkey, if_false]
    cases type with
    | shared =>
        cases shared with
        | none =>
            cases ok with
            | false => apply Effect.same id
            | true => apply Effect.allocShared hkey rfl
        | some u =>
            by_cases hmem : key ∈ shVc
            · simp only [hmem, if_true]
              apply Effect.same id
            · simp only [hmem, if_false]
              apply Effect.share hkey rfl hmem
    | exclusive =>
        cases hfind : exUars.find key with
        | some u =>
            apply Effect.same
            simp [Reuses, hfind]
        | none =>
            cases hfree : exUars.find 0 with
            | some u => apply Effect.reuse hkey hfind hfree
            | none =>
                cases ok with
                | false =>
                    apply Effect.same
                    simp [Reuses, hfree]
                | true => apply Effect.allocExclusive hkey hfind hfree

theorem effect_releaseUar (s : UarCollection) (key : Nat) :
  s.Effect (.release key) (s.releaseUar key).2
  := by
  by_cases hkey : key = 0
  · simp only [releaseUar, hkey, if_true]
    apply Effect.same id
  · by_cases hmem : key ∈ s.mShVc
    · simp only [releaseUar, hkey, hmem]
      apply Effect.unshare hkey hmem
    · cases hfind : s.mExUars.find key with
      | none =>
          simp only [releaseUar, hkey, hmem, hfind]
          apply Effect.same id
      | some u =>
          simp only [releaseUar, hkey, hmem, hfind]
          apply Effect.giveBack hkey hmem hfind

theorem effect_step (s : UarCollection) (c : Call) :
  s.Effect c (s.step c)
  := by
  cases c with
  | get key type ok => apply effect_getUar
  | release key => apply effect_releaseUar

/-! ### The invariant of the collection -/

/-- The UAR in every place: the shared slot, and every pair of the map, bound or free. -/
def places (s : UarCollection) : List Nat :=
  s.mSharedUar.toList ++ s.mExUars.values

/-- What holds in every reachable state. -/
structure Inv (s : UarCollection) : Prop where
  placesNodup : s.places.Nodup
  placesLt : ∀ u ∈ s.places, u < s.allocated
  sharedNodup : s.mShVc.Nodup
  sharedNotNull : 0 ∉ s.mShVc
  sharedUar : ∀ key ∈ s.mShVc, ∃ u, s.mSharedUar = some u
  oneUar : ∀ key, key ≠ 0 → s.mExUars.HasOne key

theorem inv_new :
  new.Inv
  := by
  constructor <;> simp [new, places, Multimap.empty, Multimap.values, Multimap.HasOne]

/-- No call but an allocation puts a UAR in a second place; an allocation puts the new UAR in
one. -/
theorem places_effect {s s' : UarCollection} {c : Call} (h : s.Effect c s') :
  (s'.allocated = s.allocated ∧ List.Subperm s'.places s.places)
    ∨ (s'.allocated = s.allocated + 1 ∧ List.Perm s'.places (s.allocated :: s.places))
  := by
  cases h with
  | same _ => exact .inl ⟨rfl, .refl _⟩
  | share _ _ _ => exact .inl ⟨rfl, .refl _⟩
  | unshare _ _ => exact .inl ⟨rfl, .refl _⟩
  | allocShared _ hshared =>
      refine .inr ⟨rfl, ?_⟩
      simp [places, hshared]
  | allocExclusive _ _ _ =>
      refine .inr ⟨rfl, ?_⟩
      rw [places, Multimap.values_emplace, ← List.append_assoc]
      apply List.perm_append_singleton
  | @reuse key u ok hkey _ hfree =>
      refine .inl ⟨rfl, ?_⟩
      apply (List.subperm_append_left _).mpr
      apply Multimap.subperm_emplace_erase hkey hfree
  | @giveBack key u _ _ hfind =>
      refine .inl ⟨rfl, ?_⟩
      apply List.Perm.subperm
      apply (Multimap.perm_eraseFirst_emplace hfind 0).append_left

/-- A key other than the null key has at most one UAR after a call if it had before. -/
theorem hasOne_effect {s s' : UarCollection} {c : Call} (h : s.Effect c s') {key : Nat}
    (hkey : key ≠ 0) (hone : s.mExUars.HasOne key) :
  s'.mExUars.HasOne key
  := by
  cases h with
  | same _ => apply hone
  | share _ _ _ => apply hone
  | unshare _ _ => apply hone
  | allocShared _ _ => apply hone
  | allocExclusive _ hfind _ => apply hone.emplace hfind
  | reuse _ hfind _ => apply (hone.emplace hfind _).erase
  | giveBack _ _ hfind =>
      intro u u' hu hu'
      apply hone u u'
      · apply Multimap.mem_of_eraseFirst_emplace hkey hfind hu
      · apply Multimap.mem_of_eraseFirst_emplace hkey hfind hu'

/-- A call keeps the shared keys apart, keeps the null key out, and leaves a shared UAR for
them. -/
theorem sharedKeys_effect {s s' : UarCollection} {c : Call} (h : s.Effect c s') (hs : s.Inv) :
  s'.mShVc.Nodup ∧ 0 ∉ s'.mShVc ∧ ∀ key ∈ s'.mShVc, ∃ u, s'.mSharedUar = some u
  := by
  obtain ⟨-, -, hnodup, hnull, hshared, -⟩ := hs
  cases h with
  | same _ => exact ⟨hnodup, hnull, hshared⟩
  | allocExclusive _ _ _ => exact ⟨hnodup, hnull, hshared⟩
  | reuse _ _ _ => exact ⟨hnodup, hnull, hshared⟩
  | giveBack _ _ _ => exact ⟨hnodup, hnull, hshared⟩
  | @share key u _ hkey hu hmem =>
      refine ⟨?_, ?_, ?_⟩
      · apply List.nodup_append'.mpr
        simp [hnodup, hmem]
      · simp [hnull, hkey.symm]
      · intro _ _
        exact ⟨u, hu⟩
  | @allocShared key hkey hnone =>
      have hempty : s.mShVc = [] := by
        apply List.eq_nil_iff_forall_not_mem.mpr
        intro k hk
        obtain ⟨u, hu⟩ := hshared k hk
        rw [hnone] at hu
        cases hu
      simp [hempty, hkey.symm]
  | unshare _ _ =>
      refine ⟨hnodup.filter _, ?_, ?_⟩
      · simp [hnull]
      · intro key hkey
        apply hshared key (List.mem_of_mem_filter hkey)

/-- A call keeps the invariant. -/
theorem inv_effect {s s' : UarCollection} {c : Call} (h : s.Effect c s') (hs : s.Inv) :
  s'.Inv
  := by
  have hplaces : s'.places.Nodup ∧ ∀ u ∈ s'.places, u < s'.allocated := by
    rcases places_effect h with ⟨hallocated, hsub⟩ | ⟨hallocated, hperm⟩
    · rw [hallocated]
      constructor
      · obtain ⟨l, hl, hsublist⟩ := hsub
        apply hl.nodup_iff.mp (hs.placesNodup.sublist hsublist)
      · intro u hu
        apply hs.placesLt u (hsub.subset hu)
    · rw [hallocated, hperm.nodup_iff]
      constructor
      · apply List.nodup_cons.mpr
        refine ⟨?_, hs.placesNodup⟩
        intro hmem
        exact Nat.lt_irrefl _ (hs.placesLt _ hmem)
      · intro u hu
        rcases List.mem_cons.mp (hperm.mem_iff.mp hu) with rfl | hu
        · apply Nat.lt_succ_self
        · apply Nat.lt_succ_of_lt (hs.placesLt u hu)
  obtain ⟨hnodup, hnull, hshared⟩ := sharedKeys_effect h hs
  refine ⟨hplaces.1, hplaces.2, hnodup, hnull, hshared, ?_⟩
  intro key hkey
  apply hasOne_effect h hkey (hs.oneUar key hkey)

/-- The invariant holds after every sequence of calls. -/
theorem inv_run_calls (calls : List Call) :
  (run step new calls).Inv
  := by
  apply inv_run _ inv_new
  intro s c hs
  apply inv_effect (effect_step s c) hs

/-! ### What the keys hold -/

/-- The key `key` holds the UAR `u` of a type. -/
def Holds (s : UarCollection) (key : Nat) : UarType → Nat → Prop
  | .shared, u => key ∈ s.mShVc ∧ s.mSharedUar = some u
  | .exclusive, u => key ≠ 0 ∧ (key, u) ∈ s.mExUars.entries

/-- The key is registered: it holds a UAR of some type. -/
def Registered (s : UarCollection) (key : Nat) : Prop :=
  ∃ type u, s.Holds key type u

/-- A pair of the map is determined by its UAR. -/
theorem Inv.key_eq {s : UarCollection} (hs : s.Inv) {key key' u : Nat}
    (h : (key, u) ∈ s.mExUars.entries) (h' : (key', u) ∈ s.mExUars.entries) :
  key = key'
  := by
  have hnodup : (s.mExUars.entries.map Prod.snd).Nodup := hs.placesNodup.of_append_right
  apply congrArg Prod.fst (List.inj_on_of_nodup_map hnodup h h' rfl)

/-- No UAR of the map is the shared one. -/
theorem Inv.ne_shared {s : UarCollection} (hs : s.Inv) {key u : Nat}
    (h : (key, u) ∈ s.mExUars.entries) :
  s.mSharedUar ≠ some u
  := by
  intro hshared
  have hdisjoint := List.disjoint_of_nodup_append hs.placesNodup
  apply hdisjoint (a := u)
  · simp [hshared]
  · apply List.mem_map_of_mem h

/-- A key that holds a UAR gets it again, and nothing changes. -/
theorem Inv.getUar_of_holds {s : UarCollection} (hs : s.Inv) {key u : Nat} {type : UarType}
    (h : s.Holds key type u) (ok : Bool) :
  s.getUar key type ok = (some u, s)
  := by
  cases type with
  | shared =>
      obtain ⟨hmem, hshared⟩ := h
      have hkey : key ≠ 0 := by
        rintro rfl
        apply hs.sharedNotNull hmem
      simp [getUar, hkey, hshared, hmem]
  | exclusive =>
      obtain ⟨hkey, hmem⟩ := h
      simp [getUar, hkey, (hs.oneUar key hkey).find hmem]

/-- A key that is given a UAR holds it. -/
theorem holds_of_getUar {s s' : UarCollection} {key u : Nat} {type : UarType} {ok : Bool}
    (h : s.getUar key type ok = (some u, s')) :
  s'.Holds key type u
  := by
  by_cases hkey : key = 0
  · simp [getUar, hkey] at h
  · simp only [getUar, hkey, if_false] at h
    cases type with
    | shared =>
        cases hshared : s.mSharedUar with
        | none =>
            cases ok with
            | false => simp [hshared, allocate] at h
            | true =>
                simp only [hshared, allocate, if_true, Option.isSome_some] at h
                cases h
                exact ⟨List.mem_append_right _ (List.mem_singleton_self key), rfl⟩
        | some v =>
            by_cases hmem : key ∈ s.mShVc
            · simp only [hshared, hmem, if_true] at h
              cases h
              exact ⟨hmem, hshared⟩
            · simp only [hshared, hmem, if_false] at h
              cases h
              exact ⟨List.mem_append_right _ (List.mem_singleton_self key), rfl⟩
    | exclusive =>
        cases hfind : s.mExUars.find key with
        | some v =>
            simp only [hfind] at h
            cases h
            exact ⟨hkey, Multimap.mem_of_find hfind⟩
        | none =>
            cases hfree : s.mExUars.find 0 with
            | some v =>
                simp only [hfind, hfree, addUar] at h
                cases h
                refine ⟨hkey, Multimap.mem_erase.mpr ⟨?_, hkey⟩⟩
                apply Multimap.mem_emplace.mpr (.inr ⟨rfl, rfl⟩)
            | none =>
                cases ok with
                | false => simp [hfind, hfree, allocate] at h
                | true =>
                    simp only [hfind, hfree, allocate, if_true, addUar] at h
                    cases h
                    refine ⟨hkey, ?_⟩
                    apply Multimap.mem_emplace.mpr (.inr ⟨rfl, rfl⟩)

/-- A shared key stays one until it is released. -/
theorem holds_shared_effect {s s' : UarCollection} {c : Call} (h : s.Effect c s') {key u : Nat}
    (hholds : s.Holds key .shared u) (hc : c ≠ .release key) :
  s'.Holds key .shared u
  := by
  obtain ⟨hmem, hshared⟩ := hholds
  cases h with
  | same _ => exact ⟨hmem, hshared⟩
  | allocExclusive _ _ _ => exact ⟨hmem, hshared⟩
  | reuse _ _ _ => exact ⟨hmem, hshared⟩
  | giveBack _ _ _ => exact ⟨hmem, hshared⟩
  | share _ _ _ => exact ⟨List.mem_append_left _ hmem, hshared⟩
  | allocShared _ hnone =>
      rw [hnone] at hshared
      cases hshared
  | @unshare key' _ _ =>
      refine ⟨?_, hshared⟩
      apply List.mem_filter.mpr ⟨hmem, ?_⟩
      simp only [decide_eq_true_eq]
      rintro rfl
      apply hc rfl

/-- An exclusive UAR stays with its key until the key is released. -/
theorem holds_exclusive_effect {s s' : UarCollection} {c : Call} (h : s.Effect c s')
    {key u : Nat} (hholds : s.Holds key .exclusive u) (hc : c ≠ .release key) :
  s'.Holds key .exclusive u
  := by
  obtain ⟨hkey, hmem⟩ := hholds
  cases h with
  | same _ => exact ⟨hkey, hmem⟩
  | share _ _ _ => exact ⟨hkey, hmem⟩
  | allocShared _ _ => exact ⟨hkey, hmem⟩
  | unshare _ _ => exact ⟨hkey, hmem⟩
  | allocExclusive _ _ _ => exact ⟨hkey, Multimap.mem_emplace.mpr (.inl hmem)⟩
  | reuse _ _ _ =>
      exact ⟨hkey, Multimap.mem_erase.mpr ⟨Multimap.mem_emplace.mpr (.inl hmem), hkey⟩⟩
  | giveBack _ _ hfind =>
      refine ⟨hkey, Multimap.mem_emplace.mpr (.inl ?_)⟩
      rcases List.mem_cons.mp ((Multimap.perm_eraseFirst hfind).mem_iff.mp hmem) with heq | hrest
      · cases heq
        cases hc rfl
      · apply hrest

/-- A key holds what it holds until it is released. -/
theorem holds_effect {s s' : UarCollection} {c : Call} (h : s.Effect c s') {key u : Nat}
    {type : UarType} (hholds : s.Holds key type u) (hc : c ≠ .release key) :
  s'.Holds key type u
  := by
  cases type with
  | shared => apply holds_shared_effect h hholds hc
  | exclusive => apply holds_exclusive_effect h hholds hc

/-- A registered key is a shared key or a bound key of the map, and is not null. -/
theorem Inv.registered_iff {s : UarCollection} (hs : s.Inv) (key : Nat) :
  s.Registered key ↔ key ≠ 0 ∧ (key ∈ s.mShVc ∨ s.mExUars.find key ≠ none)
  := by
  constructor
  · rintro ⟨type, u, hholds⟩
    cases type with
    | shared =>
        refine ⟨?_, .inl hholds.1⟩
        rintro rfl
        apply hs.sharedNotNull hholds.1
    | exclusive =>
        refine ⟨hholds.1, .inr ?_⟩
        intro hnone
        apply Multimap.find_eq_none.mp hnone u hholds.2
  · rintro ⟨hkey, hmem | hfind⟩
    · obtain ⟨u, hu⟩ := hs.sharedUar key hmem
      exact ⟨.shared, u, hmem, hu⟩
    · obtain ⟨u, hu⟩ := Option.ne_none_iff_exists'.mp hfind
      exact ⟨.exclusive, u, hkey, Multimap.mem_of_find hu⟩

/-- A release succeeds on a registered key and on no other. -/
theorem Inv.releaseUar_ok_iff {s : UarCollection} (hs : s.Inv) (key : Nat) :
  (s.releaseUar key).1 = .ok ↔ s.Registered key
  := by
  rw [hs.registered_iff]
  by_cases hkey : key = 0
  · simp [releaseUar, hkey]
  · by_cases hmem : key ∈ s.mShVc
    · simp [releaseUar, hkey, hmem]
    · cases hfind : s.mExUars.find key with
      | none => simp [releaseUar, hkey, hmem, hfind]
      | some u => simp [releaseUar, hkey, hmem, hfind]

/-- A key has no other pair than the one that is erased. -/
theorem Inv.not_mem_eraseFirst {s : UarCollection} (hs : s.Inv) {key u : Nat} (hkey : key ≠ 0)
    (hfind : s.mExUars.find key = some u) (v : Nat) :
  (key, v) ∉ (s.mExUars.eraseFirst key).entries
  := by
  intro hv
  have hperm := Multimap.perm_eraseFirst hfind
  have hmem : (key, v) ∈ s.mExUars.entries := hperm.mem_iff.mpr (List.mem_cons_of_mem _ hv)
  obtain rfl : v = u := hs.oneUar key hkey v u hmem (Multimap.mem_of_find hfind)
  have hnodup : s.mExUars.entries.Nodup := List.Nodup.of_map _ hs.placesNodup.of_append_right
  apply (List.nodup_cons.mp (hperm.nodup_iff.mp hnodup)).1 hv

/-- After a release, a key is registered if it held an exclusive UAR beside the shared one. -/
theorem Inv.registered_releaseUar_iff {s : UarCollection} (hs : s.Inv) (key : Nat) :
  (s.releaseUar key).2.Registered key
    ↔ (∃ u, s.Holds key .shared u) ∧ ∃ u, s.Holds key .exclusive u
  := by
  have hshared : (∃ u, s.Holds key .shared u) ↔ key ∈ s.mShVc := by
    constructor
    · rintro ⟨u, hmem, -⟩
      apply hmem
    · intro hmem
      obtain ⟨u, hu⟩ := hs.sharedUar key hmem
      exact ⟨u, hmem, hu⟩
  rw [(inv_effect (effect_releaseUar s key) hs).registered_iff, hshared]
  by_cases hkey : key = 0
  · apply iff_of_false (fun h => h.1 hkey)
    rintro ⟨-, u, hne, -⟩
    apply hne hkey
  · by_cases hmem : key ∈ s.mShVc
    · simp [releaseUar, Holds, hkey, hmem, Multimap.find_eq_none]
    · refine iff_of_false ?_ (fun h => hmem h.1)
      rintro ⟨-, h⟩
      cases hfind : s.mExUars.find key with
      | none => simp [releaseUar, hkey, hmem, hfind] at h
      | some u =>
          have hgone : ((s.mExUars.eraseFirst key).emplace 0 u).find key = none := by
            apply Multimap.find_eq_none.mpr
            intro v hv
            rcases Multimap.mem_emplace.mp hv with hv | ⟨hnull, -⟩
            · apply hs.not_mem_eraseFirst hkey hfind v hv
            · apply hkey hnull
          simp [releaseUar, hkey, hmem, hfind, addUar, hgone] at h

/-- What the keys of a collection may rely on. -/
structure Isolates (s : UarCollection) : Prop where
  /-- Two keys do not hold the same exclusive UAR. -/
  exclusive : ∀ key key' u, s.Holds key .exclusive u → s.Holds key' .exclusive u → key = key'
  /-- No UAR of the map, bound or free, is the shared one. -/
  notShared : ∀ key u, (key, u) ∈ s.mExUars.entries → s.mSharedUar ≠ some u
  sharedNodup : s.mShVc.Nodup
  /-- A key that is given a UAR holds it, and keeps it until it is released. -/
  given : ∀ key type ok u s', s.getUar key type ok = (some u, s') → s'.Holds key type u
  kept : ∀ key type u c, s.Holds key type u → c ≠ .release key → (s.step c).Holds key type u
  /-- A key that asks again for what it holds gets it, and nothing changes. -/
  again : ∀ key type u ok, s.Holds key type u → s.getUar key type ok = (some u, s)
  release : ∀ key, (s.releaseUar key).1 = .ok ↔ s.Registered key
  /-- A released key is not registered any more, unless it held a UAR of each type. -/
  released : ∀ key, (s.releaseUar key).2.Registered key
    ↔ (∃ u, s.Holds key .shared u) ∧ ∃ u, s.Holds key .exclusive u

/-- After every sequence of calls, whatever the keys, the types and the outcomes of the
allocations, the keys are isolated from each other. -/
theorem isolates_run (calls : List Call) :
  (run step new calls).Isolates
  := by
  have hs := inv_run_calls calls
  constructor
  case exclusive =>
    intro key key' u h h'
    apply hs.key_eq h.2 h'.2
  case notShared =>
    intro key u h
    apply hs.ne_shared h
  case sharedNodup => apply hs.sharedNodup
  case given =>
    intro key type ok u s' h
    apply holds_of_getUar h
  case kept =>
    intro key type u c h hc
    apply holds_effect (effect_step _ c) h hc
  case again =>
    intro key type u ok h
    apply hs.getUar_of_holds h
  case release => apply hs.releaseUar_ok_iff
  case released => apply hs.registered_releaseUar_iff

/-! ### Where the UARs are -/

/-- Every UAR that was allocated is in one place: the shared slot, a bound pair or a free one. -/
def Located (s : UarCollection) : Prop :=
  ∀ u, u < s.allocated → s.places.count u = 1

/-- As no UAR is in two places, it is enough to count the places. -/
theorem Inv.located_iff {s : UarCollection} (hs : s.Inv) :
  s.Located ↔ s.places.length = s.allocated
  := by
  have hsub : List.Subperm s.places (List.range s.allocated) := by
    apply List.subperm_of_subset hs.placesNodup
    intro u hu
    apply List.mem_range.mpr (hs.placesLt u hu)
  constructor
  · intro hlocated
    have hsup : List.Subperm (List.range s.allocated) s.places := by
      apply List.subperm_of_subset List.nodup_range
      intro u hu
      apply List.count_pos_iff.mp
      rw [hlocated u (List.mem_range.mp hu)]
      apply Nat.one_pos
    have hperm := hsub.antisymm hsup
    simpa using hperm.length_eq
  · intro hlength u hu
    have hperm := hsub.perm_of_length_le (by simp [hlength])
    rw [hperm.count_eq]
    apply List.count_eq_one_of_mem List.nodup_range (List.mem_range.mpr hu)

/-- An exclusive request served from the free pool finds one UAR there. -/
def KeepsPool (s : UarCollection) (c : Call) : Prop :=
  s.Reuses c → s.free.length = 1

/-- From a state where every UAR is in one place, the calls that keep the pool are those after
which every UAR is in one place. -/
theorem located_effect {s s' : UarCollection} {c : Call} (h : s.Effect c s') (hs : s.Inv)
    (hlocated : s.Located) :
  s'.Located ↔ s.KeepsPool c
  := by
  rw [(inv_effect h hs).located_iff]
  rw [hs.located_iff] at hlocated
  cases h with
  | same hc => apply iff_of_true hlocated (fun hreuses => absurd hreuses hc)
  | share _ _ _ => apply iff_of_true hlocated (fun hreuses => hreuses.elim)
  | unshare _ _ => apply iff_of_true hlocated (fun hreuses => hreuses.elim)
  | allocShared _ hnone =>
      refine iff_of_true ?_ (fun hreuses => hreuses.elim)
      simp only [places, hnone, Option.toList_none, Option.toList_some, List.nil_append,
        List.cons_append, List.length_cons] at hlocated ⊢
      omega
  | allocExclusive _ _ hfree =>
      refine iff_of_true ?_ (fun hreuses => absurd hfree hreuses.2.2)
      simp only [places, Multimap.values_emplace, List.length_append, List.length_singleton]
        at hlocated ⊢
      omega
  | giveBack _ _ hfind =>
      refine iff_of_true ?_ (fun hreuses => hreuses.elim)
      have hlength := (Multimap.perm_eraseFirst_emplace hfind 0).length_eq
      simp only [places, List.length_append] at hlocated ⊢
      omega
  | @reuse key u ok hkey hfind hfree =>
      have hreuses : s.Reuses (.get key .exclusive ok) := ⟨hkey, hfind, by simp [hfree]⟩
      have hlength := Multimap.length_emplace_erase (m := s.mExUars) hkey u
      simp only [KeepsPool, hreuses, free, places, List.length_append, true_implies]
        at hlocated ⊢
      omega

/-- Every UAR is in one place, all the way, exactly when no exclusive request meets a free pool
of two UARs or more. -/
theorem located_iff_along_keepsPool (calls : List Call) :
  (∀ calls', calls' <+: calls → (run step new calls').Located) ↔ Along step KeepsPool new calls
  := by
  apply forall_prefix_iff_along _ _ inv_new (inv_new.located_iff.mpr rfl)
  · intro s c _ hs hlocated
    apply located_effect (effect_step s c) hs hlocated
  · intro s c _ hs _ _
    apply inv_effect (effect_step s c) hs

/-- An exclusive request allocates only if the free pool is empty. -/
theorem free_of_allocates {s : UarCollection} {key : Nat} {ok : Bool}
    (h : (s.step (.get key .exclusive ok)).allocated ≠ s.allocated) :
  s.free = []
  := by
  have heffect := effect_step s (.get key .exclusive ok)
  generalize s.step (.get key .exclusive ok) = s' at h heffect
  cases heffect with
  | same _ => cases h rfl
  | reuse _ _ _ => cases h rfl
  | allocExclusive _ _ hfree => apply Multimap.valuesAt_eq_nil.mpr hfree

/-! ### What the destructor frees -/

/-- An exclusive request by a key, at a time when `allocate` succeeds. -/
def Call.Exclusive : Call → Prop
  | .get key .exclusive ok => key ≠ 0 ∧ ok = true
  | _ => False

/-- There is a UAR the destructor does not free. -/
def Leaks (s : UarCollection) : Prop :=
  ∃ u, u < s.allocated ∧ s.mSharedUar ≠ some u

/-- No call mends a leak. -/
theorem leaks_effect {s s' : UarCollection} {c : Call} (h : s.Effect c s') (hs : s.Leaks) :
  s'.Leaks
  := by
  obtain ⟨u, hu, hshared⟩ := hs
  use u
  cases h with
  | same _ => exact ⟨hu, hshared⟩
  | share _ _ _ => exact ⟨hu, hshared⟩
  | unshare _ _ => exact ⟨hu, hshared⟩
  | reuse _ _ _ => exact ⟨hu, hshared⟩
  | giveBack _ _ _ => exact ⟨hu, hshared⟩
  | allocExclusive _ _ _ => exact ⟨Nat.lt_succ_of_lt hu, hshared⟩
  | allocShared _ _ =>
      refine ⟨Nat.lt_succ_of_lt hu, ?_⟩
      simp only [ne_eq, Option.some.injEq]
      apply Nat.ne_of_gt hu

/-- An exclusive request is served. -/
theorem getUar_of_exclusive (s : UarCollection) {key : Nat} (hkey : key ≠ 0) :
  ∃ u s', s.getUar key .exclusive true = (some u, s')
  := by
  cases hfind : s.mExUars.find key with
  | some u => exact ⟨u, s, by simp [getUar, hkey, hfind]⟩
  | none =>
      cases hfree : s.mExUars.find 0 with
      | some u => exact ⟨u, _, by simp only [getUar, hkey, hfind, hfree]; rfl⟩
      | none => exact ⟨s.allocated, _, by simp only [getUar, hkey, hfind, hfree]; rfl⟩

/-- After an exclusive request there is a leak: the UAR of the key is not the shared one. -/
theorem leaks_of_exclusive {s : UarCollection} (hs : s.Inv) {c : Call} (hc : c.Exclusive) :
  (s.step c).Leaks
  := by
  have hs' := inv_effect (effect_step s c) hs
  cases c with
  | release key => cases hc
  | get key type ok =>
      cases type with
      | shared => cases hc
      | exclusive =>
          obtain ⟨hkey, rfl⟩ := hc
          obtain ⟨u, s', hget⟩ := getUar_of_exclusive s hkey
          have hmem := (holds_of_getUar hget).2
          simp only [step, hget] at hs' ⊢
          use u
          constructor
          · apply hs'.placesLt u
            apply List.mem_append_right
            apply List.mem_map_of_mem hmem
          · apply hs'.ne_shared hmem

/-- Without exclusive requests the map stays empty. -/
theorem entries_effect {s s' : UarCollection} {c : Call} (h : s.Effect c s')
    (hs : s.mExUars.entries = []) (hc : ¬ c.Exclusive) :
  s'.mExUars.entries = []
  := by
  have hfind (key : Nat) : s.mExUars.find key = none := by
    simp [Multimap.find, hs]
  cases h with
  | same _ => apply hs
  | share _ _ _ => apply hs
  | unshare _ _ => apply hs
  | allocShared _ _ => apply hs
  | allocExclusive hkey _ _ => cases hc ⟨hkey, rfl⟩
  | reuse _ _ hfree =>
      rw [hfind] at hfree
      cases hfree
  | giveBack _ _ hfound =>
      rw [hfind] at hfound
      cases hfound

/-- Without exclusive requests the map is empty at the end, and no request meets a free pool. -/
theorem along_of_not_exclusive {s : UarCollection} (hs : s.mExUars.entries = [])
    {calls : List Call} (hcalls : ∀ c ∈ calls, ¬ c.Exclusive) :
  (run step s calls).mExUars.entries = [] ∧ Along step KeepsPool s calls
  := by
  induction calls generalizing s with
  | nil => exact ⟨hs, trivial⟩
  | cons c calls ih =>
      obtain ⟨hc, hrest⟩ := List.forall_mem_cons.mp hcalls
      obtain ⟨hentries, halong⟩ := ih (entries_effect (effect_step s c) hs hc) hrest
      refine ⟨hentries, ?_, halong⟩
      intro hreuses
      have hfree : s.mExUars.find 0 = none := by
        simp [Multimap.find, hs]
      cases c with
      | release key => cases hreuses
      | get key type ok =>
          cases type with
          | shared => cases hreuses
          | exclusive => cases hreuses.2.2 hfree

/-- The collection accounts for every UAR over the sequence `calls` and the destruction after
it. -/
structure Conserves (calls : List Call) : Prop where
  /-- Until the destruction, every UAR is in one place. -/
  located : ∀ calls', calls' <+: calls → (run step new calls').Located
  /-- An exclusive request allocates only if the free pool is empty. -/
  lateAllocation : ∀ calls' key ok, calls' ++ [.get key .exclusive ok] <+: calls →
    ((run step new calls').step (.get key .exclusive ok)).allocated
      ≠ (run step new calls').allocated →
    (run step new calls').free = []
  /-- The destructor frees every UAR once. -/
  freedOnce : ∀ u, u < (run step new calls).allocated →
    (run step new calls).destroy.count u = 1

/-- The collection accounts for every UAR exactly when no exclusive request by a key comes at a
time when `allocate` succeeds. -/
theorem conserves_iff (calls : List Call) :
  Conserves calls ↔ ∀ c ∈ calls, ¬ c.Exclusive
  := by
  constructor
  · intro h c hmem hc
    obtain ⟨before, after, rfl⟩ := List.append_of_mem hmem
    have hleaks : (run step new (before ++ c :: after)).Leaks := by
      rw [run_append, run_cons]
      apply inv_run _ (leaks_of_exclusive (inv_run_calls before) hc)
      intro s c hs
      apply leaks_effect (effect_step s c) hs
    obtain ⟨u, hu, hshared⟩ := hleaks
    have hfreed := h.freedOnce u hu
    have hmem : u ∈ (run step new (before ++ c :: after)).destroy := by
      apply List.count_pos_iff.mp
      rw [hfreed]
      apply Nat.one_pos
    apply hshared
    simpa [destroy] using hmem
  · intro hcalls
    have hempty : new.mExUars.entries = [] := rfl
    obtain ⟨hentries, halong⟩ := along_of_not_exclusive hempty hcalls
    have hlocated := (located_iff_along_keepsPool calls).mpr halong
    refine ⟨hlocated, fun calls' key ok _ h => free_of_allocates h, ?_⟩
    intro u hu
    have hcount := hlocated calls List.prefix_rfl u hu
    simpa [places, Multimap.values, hentries, destroy] using hcount

/-- Two keys with exclusive UARs are released; a third key takes one of the two. -/
def twoReleased : List Call :=
  [.get 1 .exclusive true, .get 2 .exclusive true, .release 1, .release 2,
    .get 3 .exclusive true]

/-- The other UAR is then in no place, and the destructor frees neither. -/
theorem twoReleased_not_conserves :
  (run step new twoReleased).allocated = 2 ∧ (run step new twoReleased).places = [0]
    ∧ (run step new twoReleased).destroy = [] ∧ ¬ Conserves twoReleased
  := by
  refine ⟨rfl, by decide, rfl, ?_⟩
  intro h
  have hone := h.located twoReleased List.prefix_rfl 1 (by decide)
  revert hone
  decide

end UarCollection

end Dpcp
