import Dpcp.Flow.Space

/-!
# Tables and their miss tables

A table holds its miss table, which was there before it, so that the pointers lead from newer tables
to older ones.  When the application gives up its last pointer to a table, the tables that go are
those to which nothing that stays points.
-/

namespace Dpcp

open Keyed

/-- Each table has its miss table among the older ones. -/
def Chained : List TableNode → Prop
  | [] => True
  | t :: older => (∀ k, t.miss = some k → ∃ t' ∈ older, t'.addr = k) ∧ Chained older

/-- The newest table has an address of its own. -/
theorem addr_ne_of_nodup {t : TableNode} {older : List TableNode}
    (hnodup : ((t :: older).map TableNode.addr).Nodup) :
  ∀ u ∈ older, u.addr ≠ t.addr
  := by
  intro u hu haddr
  apply (List.nodup_cons.mp hnodup).1
  apply List.mem_map.mpr ⟨u, hu, haddr⟩

namespace Chained

theorem of_mem {tables : List TableNode} (h : Chained tables) {t : TableNode} (ht : t ∈ tables)
    {k : Nat} (hmiss : t.miss = some k) :
  ∃ t' ∈ tables, t'.addr = k
  := by
  induction tables with
  | nil => cases ht
  | cons u older ih =>
      obtain ⟨hu, h⟩ := h
      have hthere : ∃ t' ∈ older, t'.addr = k := by
        rcases List.mem_cons.mp ht with rfl | ht
        · apply hu k hmiss
        · apply ih h ht
      obtain ⟨t', ht', hkey⟩ := hthere
      exact ⟨t', List.mem_cons_of_mem u ht', hkey⟩

/-- Nothing points to the newest table. -/
theorem miss_ne {older : List TableNode} {t : TableNode} (h : Chained (t :: older))
    (hfresh : ∀ u ∈ older, u.addr ≠ t.addr) {u : TableNode} (hu : u ∈ t :: older) :
  u.miss ≠ some t.addr
  := by
  intro hmiss
  obtain ⟨ht, h⟩ := h
  have hthere : ∃ u' ∈ older, u'.addr = t.addr := by
    rcases List.mem_cons.mp hu with rfl | hu
    · apply ht _ hmiss
    · apply h.of_mem hu hmiss
  obtain ⟨u', hu', haddr⟩ := hthere
  apply hfresh u' hu' haddr

/-- A change of other data of the tables. -/
theorem map {tables : List TableNode} (h : Chained tables) {f : TableNode → TableNode}
    (haddr : ∀ t, (f t).addr = t.addr) (hmiss : ∀ t, (f t).miss = t.miss) :
  Chained (tables.map f)
  := by
  induction tables with
  | nil => trivial
  | cons t older ih =>
      obtain ⟨ht, h⟩ := h
      constructor
      · intro k hk
        rw [hmiss] at hk
        obtain ⟨t', ht', hkey⟩ := ht k hk
        exact ⟨f t', List.mem_map_of_mem ht', (haddr t').trans hkey⟩
      · apply ih h

/-- A change of other data of one table. -/
theorem update {tables : List TableNode} (h : Chained tables) {f : TableNode → TableNode}
    (haddr : ∀ t, (f t).addr = t.addr) (hmiss : ∀ t, (f t).miss = t.miss) (k : Nat) :
  Chained (update TableNode.addr k f tables)
  := by
  apply h.map <;> intro t
  · apply apply_ite_of_eq haddr
  · apply apply_ite_of_eq hmiss

/-- Some of the tables, if their miss tables are among them. -/
theorem filter {tables : List TableNode} (h : Chained tables) {p : TableNode → Bool}
    (hp : ∀ t ∈ tables, p t = true → ∀ t' ∈ tables, t.miss = some t'.addr → p t' = true) :
  Chained (tables.filter p)
  := by
  induction tables with
  | nil => trivial
  | cons t older ih =>
      obtain ⟨ht, h⟩ := h
      have hrest : Chained (older.filter p) := by
        apply ih h
        intro u hu hpu u' hu'
        apply hp u (List.mem_cons_of_mem t hu) hpu u' (List.mem_cons_of_mem t hu')
      rw [List.filter_cons]
      split
      · rename_i hpt
        refine ⟨?_, hrest⟩
        intro k hk
        obtain ⟨t', ht', rfl⟩ := ht k hk
        have hpt' := hp t List.mem_cons_self hpt t' (List.mem_cons_of_mem t ht') hk
        exact ⟨t', List.mem_filter.mpr ⟨ht', hpt'⟩, rfl⟩
      · apply hrest

end Chained

/-- The application has a pointer to the table, or one of the tables has. -/
def Pointed (tables : List TableNode) (t : TableNode) : Prop :=
  0 < t.app ∨ ∃ t' ∈ tables, t'.miss = some t.addr

theorem Pointed.mono {tables tables' : List TableNode} {t : TableNode} (h : Pointed tables t)
    (hsub : tables ⊆ tables') :
  Pointed tables' t
  := by
  apply h.imp_right
  rintro ⟨t', ht', hmiss⟩
  exact ⟨t', hsub ht', hmiss⟩

/-- A change of other data of the tables, with no fewer pointers of the application to a table. -/
theorem Pointed.map {tables : List TableNode} {t : TableNode} (h : Pointed tables t)
    {f : TableNode → TableNode} (haddr : (f t).addr = t.addr) (hmiss : ∀ t, (f t).miss = t.miss)
    (happ : t.app ≤ (f t).app) :
  Pointed (tables.map f) (f t)
  := by
  rcases h with hpos | ⟨t', ht', hpoints⟩
  · left
    omega
  · right
    refine ⟨f t', List.mem_map_of_mem ht', ?_⟩
    rw [hmiss, hpoints, haddr]

/-- A change of other data of one table. -/
theorem Pointed.update {tables : List TableNode} {t : TableNode} (h : Pointed tables t)
    {f : TableNode → TableNode} (haddr : ∀ t, (f t).addr = t.addr)
    (hmiss : ∀ t, (f t).miss = t.miss) {k : Nat} (happ : t.addr = k → t.app ≤ (f t).app) :
  Pointed (update TableNode.addr k f tables) (if t.addr = k then f t else t)
  := by
  apply h.map (f := fun t => if t.addr = k then f t else t)
  · apply apply_ite_of_eq haddr
  · intro t
    apply apply_ite_of_eq hmiss
  · split
    · rename_i hkey
      apply happ hkey
    · apply Nat.le_refl

/-- Another table that does not point to it can be left out. -/
theorem Pointed.of_perm_cons {tables tables' : List TableNode} {t u : TableNode}
    (h : Pointed tables' u) (hperm : tables'.Perm (t :: tables)) (hne : t.miss ≠ some u.addr) :
  Pointed tables u
  := by
  apply h.imp_right
  rintro ⟨u', hu', hmiss⟩
  rcases List.mem_cons.mp (hperm.subset hu') with rfl | hu'
  · cases hne hmiss
  · exact ⟨u', hu', hmiss⟩

/-- If the application has no pointers to tables that are pointed to, then there are none. -/
theorem Chained.eq_nil {tables : List TableNode} (h : Chained tables)
    (hnodup : (tables.map TableNode.addr).Nodup) (hpointed : ∀ t ∈ tables, Pointed tables t)
    (happ : ∀ t ∈ tables, t.app = 0) :
  tables = []
  := by
  -- otherwise there is a newest table
  cases tables with
  | nil => rfl
  | cons t older =>
      rcases hpointed t List.mem_cons_self with hpos | ⟨t', ht', hmiss⟩
      · have hzero := happ t List.mem_cons_self
        omega
      · cases h.miss_ne (addr_ne_of_nodup hnodup) ht' hmiss

/-! ### The tables that go -/

/-- The tables without some of them. -/
def staying (gone tables : List TableNode) : List TableNode :=
  tables.filter fun t => ∀ d ∈ gone, t.addr ≠ d.addr

theorem mem_staying {gone tables : List TableNode} {t : TableNode} :
  t ∈ staying gone tables ↔ t ∈ tables ∧ ∀ d ∈ gone, t.addr ≠ d.addr
  := by
  rw [staying, List.mem_filter, decide_eq_true_iff]

/-- The tables that go are some of the tables, those that stay are pointed to by newer ones or by
others that stay, and these do not point to any that goes. -/
structure Parted (newer tables gone : List TableNode) : Prop where
  sublist : gone.Sublist tables
  pointed : ∀ t ∈ staying gone tables, Pointed (newer ++ staying gone tables) t
  apart : ∀ d ∈ gone, ∀ t ∈ newer ++ staying gone tables, t.miss ≠ some d.addr

namespace Parted

variable {newer older gone : List TableNode} {t : TableNode}

/-- The tables that stay have their miss tables. -/
theorem chained (h : Parted newer older gone) (hchained : Chained older) :
  Chained (staying gone older)
  := by
  apply hchained.filter
  intro t ht hstays t' ht' hpoints
  rw [decide_eq_true_iff] at hstays ⊢
  intro d hd haddr
  apply h.apart d hd t (List.mem_append_right newer (mem_staying.mpr ⟨ht, hstays⟩))
  rw [hpoints, haddr]

/-- No table goes. -/
theorem nil (h : ∀ t ∈ older, Pointed (newer ++ older) t) :
  Parted newer older []
  := by
  have hstaying : staying [] older = older := by
    apply List.filter_eq_self.mpr
    simp
  constructor
  · apply List.nil_sublist
  · rw [hstaying]
    apply h
  · simp

section Cons

variable (hfresh : ∀ u ∈ older, u.addr ≠ t.addr)

include hfresh

/-- A table goes, and others after it. -/
theorem cons_gone (h : Parted newer older gone)
    (hfree : ∀ u ∈ newer ++ older, u.miss ≠ some t.addr) :
  Parted newer (t :: older) (t :: gone)
  := by
  have hstaying : staying (t :: gone) (t :: older) = staying gone older := by
    rw [staying, List.filter_cons_of_neg (by simp), staying]
    apply List.filter_congr
    intro u hu
    simp [hfresh u hu]
  constructor
  · apply h.sublist.cons_cons
  · rw [hstaying]
    apply h.pointed
  · rw [hstaying]
    intro d hd u hu
    rcases List.mem_cons.mp hd with rfl | hd
    · apply hfree
      rcases List.mem_append.mp hu with hu | hu
      · apply List.mem_append_left older hu
      · apply List.mem_append_right newer (mem_staying.mp hu).1
    · apply h.apart d hd u hu

/-- A table stays. -/
theorem cons_stays (h : Parted (t :: newer) older gone) (hpointed : Pointed newer t) :
  Parted newer (t :: older) gone
  := by
  have hstaying : staying gone (t :: older) = t :: staying gone older := by
    apply List.filter_cons_of_pos
    rw [decide_eq_true_iff]
    intro d hd haddr
    apply hfresh d (h.sublist.subset hd) haddr.symm
  have hperm : (newer ++ t :: staying gone older).Perm (t :: newer ++ staying gone older) :=
    List.perm_middle
  constructor
  · apply h.sublist.cons
  · rw [hstaying]
    intro u hu
    rcases List.mem_cons.mp hu with rfl | hu
    · apply hpointed.mono (List.subset_append_left _ _)
    · apply (h.pointed u hu).mono hperm.symm.subset
  · rw [hstaying]
    intro d hd u hu
    apply h.apart d hd u (hperm.subset hu)

end Cons

end Parted

namespace FlowSpace

/-- A table that does not go is pointed to. -/
theorem pointed_of_live {newer : List TableNode} {t : TableNode}
    (hlive : ¬ (t.app = 0 ∧ ∀ t' ∈ newer, t'.miss ≠ some t.addr)) :
  Pointed newer t
  := by
  by_cases happ : t.app = 0
  · right
    by_contra hnone
    apply hlive ⟨happ, _⟩
    intro t' ht' hmiss
    apply hnone ⟨t', ht', hmiss⟩
  · left
    omega

/-- The tables that go when a pointer to the table `k` was given up. -/
theorem dying_parted {newer tables : List TableNode} {k : Nat} (hchained : Chained tables)
    (hnodup : (tables.map TableNode.addr).Nodup)
    (hpointed : ∀ t ∈ tables, t.addr ≠ k → Pointed (newer ++ tables) t) :
  Parted newer tables (dying newer k tables)
  := by
  induction tables generalizing newer k with
  | nil =>
      apply Parted.nil
      apply List.forall_mem_nil
  | cons t older ih =>
      have hfresh := addr_ne_of_nodup hnodup
      have holder := fun u (hu : u ∈ t :: older) => hchained.miss_ne hfresh hu
      obtain ⟨-, hchained⟩ := hchained
      obtain ⟨-, hnodup⟩ := List.nodup_cons.mp hnodup
      rw [dying]
      split
      · rename_i hk
        subst hk
        split
        · rename_i hdead
          obtain ⟨-, hnewer⟩ := hdead
          -- an older table that is not the miss table is pointed to by others
          have hrest : ∀ u ∈ older, t.miss ≠ some u.addr → Pointed (newer ++ older) u := by
            intro u hu hne
            apply (hpointed u (List.mem_cons_of_mem t hu) (hfresh u hu)).of_perm_cons _ hne
            apply List.perm_middle
          apply Parted.cons_gone hfresh
          · split
            · rename_i miss hsome
              apply ih hchained hnodup
              intro u hu hne
              apply hrest u hu
              rw [hsome]
              intro h
              apply hne (Option.some.inj h).symm
            · rename_i hnone
              apply Parted.nil
              intro u hu
              apply hrest u hu
              rw [hnone]
              apply Option.some_ne_none _ |>.symm
          · intro u hu
            rcases List.mem_append.mp hu with hu | hu
            · apply hnewer u hu
            · apply holder u (List.mem_cons_of_mem t hu)
        · rename_i hlive
          apply Parted.nil
          intro u hu
          rcases List.mem_cons.mp hu with rfl | hu
          · apply (pointed_of_live hlive).mono
            apply List.subset_append_left
          · apply hpointed u (List.mem_cons_of_mem t hu) (hfresh u hu)
      · rename_i hk
        apply Parted.cons_stays hfresh
        · apply ih hchained hnodup
          intro u hu hne
          apply (hpointed u (List.mem_cons_of_mem t hu) hne).mono List.perm_middle.subset
        · apply (hpointed t List.mem_cons_self hk).imp_right
          rintro ⟨u, hu, hu'⟩
          rcases List.mem_append.mp hu with hu | hu
          · exact ⟨u, hu, hu'⟩
          · cases holder u hu hu'

/-- The tables that go when the application gives up a pointer to the table `k`. -/
theorem dying_released {tables : List TableNode} (hchained : Chained tables)
    (hnodup : (tables.map TableNode.addr).Nodup) (hpointed : ∀ t ∈ tables, Pointed tables t)
    (k : Nat) :
  let released := update TableNode.addr k (fun t => { t with app := t.app - 1 }) tables
  Chained released ∧ Parted [] released (dying [] k released)
  := by
  let f (t : TableNode) : TableNode := { t with app := t.app - 1 }
  have haddr (t : TableNode) : (f t).addr = t.addr := rfl
  have hmiss (t : TableNode) : (f t).miss = t.miss := rfl
  have hchained' := hchained.update haddr hmiss k
  refine ⟨hchained', dying_parted hchained' ?_ ?_⟩
  · rw [map_update haddr]
    apply hnodup
  · apply forall_mem_update
    · intro t ht hne _
      have hpointed := (hpointed t ht).update haddr hmiss fun hkey => absurd hkey hne
      rw [if_neg hne] at hpointed
      apply hpointed
    · intro t _ hkey hne
      cases hne hkey

end FlowSpace

end Dpcp
