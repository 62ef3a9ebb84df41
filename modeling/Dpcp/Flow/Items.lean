import Dpcp.Flow.Space
import Dpcp.Machine.References

/-!
# The objects of a flow space as things that refer to each other

Rules, groups, tables and actions are things under keys, a class with an address, and their HW
objects are the numbers the things are given.  There is more than one way to say what refers to
what: an object to the one that contains it, or to those it uses.  `FlowRefs` is such a way.  For
each of them, the steps that make an object, create its HW object or end it keep the invariant of
such things, if the object that is created has no HW object and nothing refers to the one that ends.
-/

namespace Dpcp

open Machine Keyed Ledger References

/-- The classes of objects. -/
inductive FlowKind where
  | rule
  | group
  | table
  | action
deriving DecidableEq

/-- What the objects of each class refer to, among what they point to: a rule to its group and its
actions, a group to its table, a table to its miss table. -/
structure FlowRefs where
  rule : Nat → List Nat → List (FlowKind × Nat)
  group : Nat → List (FlowKind × Nat)
  table : Option Nat → List (FlowKind × Nat)
  rule_subset : ∀ group actions, rule group actions ⊆ (.group, group) :: actions.map (.action, ·)
  group_subset : ∀ table, group table ⊆ [(.table, table)]
  table_subset : ∀ miss, table miss ⊆ miss.toList.map (.table, ·)

namespace FlowRefs

variable (ρ : FlowRefs)

/-- The objects as things. -/
def ruleItem (r : RuleNode) : Item (FlowKind × Nat) :=
  ⟨(.rule, r.addr), ρ.rule r.group r.actions, r.hw⟩

def groupItem (g : GroupNode) : Item (FlowKind × Nat) :=
  ⟨(.group, g.addr), ρ.group g.table, g.hw⟩

def tableItem (t : TableNode) : Item (FlowKind × Nat) :=
  ⟨(.table, t.addr), ρ.table t.miss, t.hw⟩

def actionItem (n : ActionNode) : Item (FlowKind × Nat) :=
  ⟨(.action, n.addr), [], n.hw⟩

theorem key_ruleItem (r : RuleNode) : (ρ.ruleItem r).key = (.rule, r.addr) := rfl
theorem key_groupItem (g : GroupNode) : (ρ.groupItem g).key = (.group, g.addr) := rfl
theorem key_tableItem (t : TableNode) : (ρ.tableItem t).key = (.table, t.addr) := rfl
theorem key_actionItem (n : ActionNode) : (actionItem n).key = (.action, n.addr) := rfl

section Class

variable {α : Type} {item : α → Item (FlowKind × Nat)} {kind : FlowKind} {addr : α → Nat}
  (hkey : ∀ x, (item x).key = (kind, addr x)) (kind' : FlowKind) (k : Nat) (l : List α)

include hkey

/-- Removing an object touches its class only. -/
theorem remove_class :
  remove Item.key (kind', k) (l.map item) = (if kind' = kind then remove addr k l else l).map item
  := by
  split
  · rename_i hkind
    apply remove_map
    intro x
    simp [hkey, hkind]
  · rename_i hkind
    apply remove_map_of_ne
    intro x hx
    rw [hkey] at hx
    apply hkind (congrArg Prod.fst hx).symm

/-- Changing an object touches its class only. -/
theorem update_class (f : α → α) {F : Item (FlowKind × Nat) → Item (FlowKind × Nat)}
    (hf : kind' = kind → ∀ x, item (f x) = F (item x)) :
  update Item.key (kind', k) F (l.map item)
    = (if kind' = kind then update addr k f l else l).map item
  := by
  split
  · rename_i hkind
    apply update_map _ (hf hkind)
    intro x
    simp [hkey, hkind]
  · rename_i hkind
    apply update_map_of_ne
    intro x hx
    rw [hkey] at hx
    apply hkind (congrArg Prod.fst hx).symm

end Class

end FlowRefs

namespace FlowSpace

open FlowRefs

/-! ### The things -/

section Items

variable (ρ : FlowRefs) (s : FlowSpace)

/-- The objects. -/
def items : List (Item (FlowKind × Nat)) :=
  s.rules.map ρ.ruleItem ++ s.groups.map ρ.groupItem ++ s.tables.map ρ.tableItem
    ++ s.actions.map actionItem

/-- The objects, the HW objects that were made and destroyed, and which of them were made with
reference to which. -/
def space (links : List (Nat × Nat)) : Space (FlowKind × Nat) :=
  ⟨s.items ρ, s.made, s.log, links⟩

variable {ρ s}

theorem mem_items {x : Item (FlowKind × Nat)} :
  x ∈ s.items ρ ↔ (∃ r ∈ s.rules, ρ.ruleItem r = x) ∨ (∃ g ∈ s.groups, ρ.groupItem g = x)
    ∨ (∃ t ∈ s.tables, ρ.tableItem t = x) ∨ ∃ n ∈ s.actions, actionItem n = x
  := by
  simp only [items, List.mem_append, List.mem_map, or_assoc]

theorem ruleItem_mem {r : RuleNode} (hr : r ∈ s.rules) : ρ.ruleItem r ∈ s.items ρ :=
  mem_items.mpr (.inl ⟨r, hr, rfl⟩)

theorem groupItem_mem {g : GroupNode} (hg : g ∈ s.groups) : ρ.groupItem g ∈ s.items ρ :=
  mem_items.mpr (.inr (.inl ⟨g, hg, rfl⟩))

theorem tableItem_mem {t : TableNode} (ht : t ∈ s.tables) : ρ.tableItem t ∈ s.items ρ :=
  mem_items.mpr (.inr (.inr (.inl ⟨t, ht, rfl⟩)))

theorem actionItem_mem {n : ActionNode} (hn : n ∈ s.actions) : actionItem n ∈ s.items ρ :=
  mem_items.mpr (.inr (.inr (.inr ⟨n, hn, rfl⟩)))

/-- What refers to an object is of another class, and points to it. -/
theorem refs_cases {x : Item (FlowKind × Nat)} (hx : x ∈ s.items ρ) {k : FlowKind × Nat}
    (hk : k ∈ x.refs) :
  (∃ r ∈ s.rules, k ∈ ρ.rule r.group r.actions
      ∧ (k = (.group, r.group) ∨ ∃ a ∈ r.actions, k = (.action, a)))
    ∨ (∃ g ∈ s.groups, k ∈ ρ.group g.table ∧ k = (.table, g.table))
    ∨ ∃ t ∈ s.tables, k ∈ ρ.table t.miss ∧ ∃ miss, t.miss = some miss ∧ k = (.table, miss)
  := by
  obtain ⟨r, hr, rfl⟩ | ⟨g, hg, rfl⟩ | ⟨t, ht, rfl⟩ | ⟨n, hn, rfl⟩ := mem_items.mp hx
  · left
    refine ⟨r, hr, hk, ?_⟩
    rcases List.mem_cons.mp (ρ.rule_subset r.group r.actions hk) with hgroup | haction
    · exact .inl hgroup
    · obtain ⟨a, ha, rfl⟩ := List.mem_map.mp haction
      exact .inr ⟨a, ha, rfl⟩
  · right
    left
    exact ⟨g, hg, hk, List.mem_singleton.mp (ρ.group_subset g.table hk)⟩
  · right
    right
    obtain ⟨miss, hmiss, rfl⟩ := List.mem_map.mp (ρ.table_subset t.miss hk)
    exact ⟨t, ht, hk, miss, Option.mem_toList.mp hmiss, rfl⟩
  · cases hk

variable (ρ s)

theorem remove_items (kind : FlowKind) (k : Nat) :
  remove Item.key (kind, k) (s.items ρ)
    = (if kind = .rule then remove RuleNode.addr k s.rules else s.rules).map ρ.ruleItem
      ++ (if kind = .group then remove GroupNode.addr k s.groups else s.groups).map ρ.groupItem
      ++ (if kind = .table then remove TableNode.addr k s.tables else s.tables).map ρ.tableItem
      ++ (if kind = .action then remove ActionNode.addr k s.actions else s.actions).map actionItem
  := by
  rw [items, remove_append, remove_append, remove_append, remove_class ρ.key_ruleItem,
    remove_class ρ.key_groupItem, remove_class ρ.key_tableItem, remove_class key_actionItem]

/-- Changing the HW object of one thing. -/
theorem update_items (kind : FlowKind) (k : Nat) (hw : Option Nat → Option Nat)
    (fr : RuleNode → RuleNode) (fg : GroupNode → GroupNode) (ft : TableNode → TableNode)
    (fa : ActionNode → ActionNode)
    (hf : match kind with
      | .rule => ∀ r, ρ.ruleItem (fr r) = { ρ.ruleItem r with num := hw r.hw }
      | .group => ∀ g, ρ.groupItem (fg g) = { ρ.groupItem g with num := hw g.hw }
      | .table => ∀ t, ρ.tableItem (ft t) = { ρ.tableItem t with num := hw t.hw }
      | .action => ∀ n, actionItem (fa n) = { actionItem n with num := hw n.hw }) :
  update Item.key (kind, k) (fun x => { x with num := hw x.num }) (s.items ρ)
    = (if kind = .rule then update RuleNode.addr k fr s.rules else s.rules).map ρ.ruleItem
      ++ (if kind = .group then update GroupNode.addr k fg s.groups else s.groups).map ρ.groupItem
      ++ (if kind = .table then update TableNode.addr k ft s.tables else s.tables).map ρ.tableItem
      ++ (if kind = .action then update ActionNode.addr k fa s.actions
        else s.actions).map actionItem
  := by
  rw [items, update_append, update_append, update_append, update_class ρ.key_ruleItem _ _ _ fr,
    update_class ρ.key_groupItem _ _ _ fg, update_class ρ.key_tableItem _ _ _ ft,
    update_class key_actionItem _ _ _ fa] <;> rintro rfl <;> apply hf

end Items

/-! ### Addresses -/

section Addresses

variable {ρ : FlowRefs} {s : FlowSpace} {links : List (Nat × Nat)} (hs : Inv (s.space ρ links))

include hs

/-- No two objects of a class have the same address. -/
theorem nodup_addr {α : Type} {item : α → Item (FlowKind × Nat)} {kind : FlowKind} {addr : α → Nat}
    (hkey : ∀ x, (item x).key = (kind, addr x)) {l : List α}
    (hl : (l.map item).Sublist (s.items ρ)) :
  (l.map addr).Nodup
  := by
  have hkeys : (l.map item).map Item.key = (l.map addr).map (kind, ·) := by
    rw [List.map_map, List.map_map]
    apply List.map_congr_left
    intro x _
    apply hkey
  apply List.Nodup.of_map (kind, ·)
  rw [← hkeys]
  apply hs.keys.sublist (hl.map Item.key)

theorem nodup_rules : (s.rules.map RuleNode.addr).Nodup :=
  nodup_addr hs ρ.key_ruleItem <|
    ((List.sublist_append_left _ _).trans (List.sublist_append_left _ _)).trans
      (List.sublist_append_left _ _)

theorem nodup_groups : (s.groups.map GroupNode.addr).Nodup :=
  nodup_addr hs ρ.key_groupItem <|
    ((List.sublist_append_right _ _).trans (List.sublist_append_left _ _)).trans
      (List.sublist_append_left _ _)

theorem nodup_tables : (s.tables.map TableNode.addr).Nodup :=
  nodup_addr hs ρ.key_tableItem <|
    (List.sublist_append_right _ _).trans (List.sublist_append_left _ _)

theorem nodup_actions : (s.actions.map ActionNode.addr).Nodup :=
  nodup_addr hs key_actionItem (List.sublist_append_right _ _)

end Addresses

/-! ### A new object -/

theorem insert_perm {α : Type} (pos : Nat) (x : α) (l : List α) :
  (insert pos x l).Perm (x :: l)
  := by
  apply List.perm_middle.trans
  rw [List.take_append_drop]

/-- There is an object under the key. -/
def Has (s : FlowSpace) : FlowKind × Nat → Prop
  | (.rule, k) => ∃ r ∈ s.rules, r.addr = k
  | (.group, k) => ∃ g ∈ s.groups, g.addr = k
  | (.table, k) => ∃ t ∈ s.tables, t.addr = k
  | (.action, k) => ∃ n ∈ s.actions, n.addr = k

section New

variable {ρ : FlowRefs} {s : FlowSpace} {links : List (Nat × Nat)}

theorem perm_items_rule (pos : Nat) (r : RuleNode) :
  (items ρ { s with rules := insert pos r s.rules }).Perm (ρ.ruleItem r :: s.items ρ)
  := by
  have hrules := (insert_perm pos r s.rules).map ρ.ruleItem
  apply ((hrules.append_right _).append_right _).append_right

theorem perm_items_group (pos : Nat) (g : GroupNode) :
  (items ρ { s with groups := insert pos g s.groups }).Perm (ρ.groupItem g :: s.items ρ)
  := by
  have hgroups := (insert_perm pos g s.groups).map ρ.groupItem
  have hfirst := (hgroups.append_left (s.rules.map ρ.ruleItem)).trans List.perm_middle
  apply (hfirst.append_right _).append_right

theorem perm_items_table (t : TableNode) :
  (items ρ { s with tables := t :: s.tables }).Perm (ρ.tableItem t :: s.items ρ)
  := by
  have hfirst : (s.rules.map ρ.ruleItem ++ s.groups.map ρ.groupItem
      ++ (t :: s.tables).map ρ.tableItem).Perm _ := List.perm_middle
  apply hfirst.append_right

theorem perm_items_action (n : ActionNode) :
  (items ρ { s with actions := n :: s.actions }).Perm (actionItem n :: s.items ρ)
  := List.perm_middle

theorem exists_item_iff (k : FlowKind × Nat) :
  (∃ x ∈ s.items ρ, x.key = k) ↔ s.Has k
  := by
  constructor
  · rintro ⟨x, hx, rfl⟩
    obtain ⟨r, hr, rfl⟩ | ⟨g, hg, rfl⟩ | ⟨t, ht, rfl⟩ | ⟨n, hn, rfl⟩ := mem_items.mp hx
    · exact ⟨r, hr, rfl⟩
    · exact ⟨g, hg, rfl⟩
    · exact ⟨t, ht, rfl⟩
    · exact ⟨n, hn, rfl⟩
  · obtain ⟨kind, k⟩ := k
    cases kind with
    | rule =>
        rintro ⟨r, hr, rfl⟩
        exact ⟨_, ruleItem_mem hr, rfl⟩
    | group =>
        rintro ⟨g, hg, rfl⟩
        exact ⟨_, groupItem_mem hg, rfl⟩
    | table =>
        rintro ⟨t, ht, rfl⟩
        exact ⟨_, tableItem_mem ht, rfl⟩
    | action =>
        rintro ⟨n, hn, rfl⟩
        exact ⟨_, actionItem_mem hn, rfl⟩

/-- A new object without a HW object, in whatever place. -/
theorem inv_new (hs : Inv (s.space ρ links)) {x : Item (FlowKind × Nat)} (hfresh : ¬ s.Has x.key)
    (hrefs : ∀ k ∈ x.refs, s.Has k) (hnum : x.num = none) {s' : FlowSpace}
    (hitems : (s'.items ρ).Perm (x :: s.items ρ)) (hmade : s'.made = s.made)
    (hlog : s'.log = s.log) :
  Inv (s'.space ρ links)
  := by
  have hadd : Inv { s.space ρ links with items := x :: s.items ρ } := by
    apply hs.add _ _ hnum
    · intro y hy hkey
      apply hfresh ((exists_item_iff x.key).mp ⟨y, hy, hkey⟩)
    · intro k hk
      apply (exists_item_iff k).mpr (hrefs k hk)
  rw [space, hmade, hlog]
  apply hadd.perm hitems

variable (hs : Inv (s.space ρ links))

include hs

theorem inv_newTable {t : TableNode} (haddr : s.table t.addr = none)
    (hmiss : ∀ k, t.miss = some k → ∃ t' ∈ s.tables, t'.addr = k) (hhw : t.hw = none) :
  Inv (space ρ { s with tables := t :: s.tables } links)
  := by
  refine inv_new hs (x := ρ.tableItem t) ?_ ?_ hhw (perm_items_table t) rfl rfl
  · rintro ⟨t', ht', hkey⟩
    apply lookup_eq_none.mp haddr t' ht' hkey
  · intro k hk
    obtain ⟨m, hm, rfl⟩ := List.mem_map.mp (ρ.table_subset t.miss hk)
    apply hmiss m (Option.mem_toList.mp hm)

theorem inv_newGroup {g : GroupNode} (haddr : s.group g.addr = none)
    (htable : ∃ t ∈ s.tables, t.addr = g.table) (hhw : g.hw = none) (pos : Nat) :
  Inv (space ρ { s with groups := insert pos g s.groups } links)
  := by
  refine inv_new hs (x := ρ.groupItem g) ?_ ?_ hhw (perm_items_group pos g) rfl rfl
  · rintro ⟨g', hg', hkey⟩
    apply lookup_eq_none.mp haddr g' hg' hkey
  · intro k hk
    rw [List.mem_singleton.mp (ρ.group_subset g.table hk)]
    apply htable

theorem inv_newRule {r : RuleNode} (haddr : s.rule r.addr = none)
    (hgroup : ∃ g ∈ s.groups, g.addr = r.group)
    (hactions : ∀ a ∈ r.actions, ∃ n ∈ s.actions, n.addr = a) (hhw : r.hw = none) (pos : Nat) :
  Inv (space ρ { s with rules := insert pos r s.rules } links)
  := by
  refine inv_new hs (x := ρ.ruleItem r) ?_ ?_ hhw (perm_items_rule pos r) rfl rfl
  · rintro ⟨r', hr', hkey⟩
    apply lookup_eq_none.mp haddr r' hr' hkey
  · intro k hk
    rcases List.mem_cons.mp (ρ.rule_subset r.group r.actions hk) with rfl | hk
    · apply hgroup
    · obtain ⟨a, ha, rfl⟩ := List.mem_map.mp hk
      apply hactions a ha

/-- Only the pointers of the application to a table change. -/
theorem inv_appTable (k : Nat) (app : Nat → Nat) :
  Inv (space ρ
    { s with tables := update TableNode.addr k (fun t => { t with app := app t.app }) s.tables }
    links)
  := by
  let f (t : TableNode) : TableNode := { t with app := app t.app }
  have hmap : (update TableNode.addr k f s.tables).map ρ.tableItem = s.tables.map ρ.tableItem := by
    apply map_update
    intro t
    rfl
  rw [space, items, hmap]
  apply hs

/-- Only the pointers of the application to an action change. -/
theorem inv_appAction (k : Nat) (app : Nat → Nat) :
  Inv (space ρ
    { s with actions := update ActionNode.addr k (fun n => { n with app := app n.app }) s.actions }
    links)
  := by
  let f (n : ActionNode) : ActionNode := { n with app := app n.app }
  have hmap : (update ActionNode.addr k f s.actions).map actionItem = s.actions.map actionItem := by
    apply map_update
    intro n
    rfl
  rw [space, items, hmap]
  apply hs

end New

/-! ### Ending an object -/

section End

variable {ρ : FlowRefs} {s : FlowSpace} {links : List (Nat × Nat)} (hs : Inv (s.space ρ links))

include hs

theorem inv_endRule {r : RuleNode} (hr : r ∈ s.rules) :
  Inv ((s.endRule r).space ρ links)
  := by
  have hitems : (s.endRule r).items ρ = remove Item.key (.rule, r.addr) (s.items ρ) := by
    rw [remove_items]
    rfl
  rw [space, hitems]
  apply hs.finish (ruleItem_mem hr)
  intro x hx hk
  obtain ⟨_, -, -, h | ⟨_, -, h⟩⟩ | ⟨_, -, -, h⟩ | ⟨_, -, -, _, -, h⟩ := refs_cases hx hk
    <;> cases h

theorem inv_endGroup {g : GroupNode} (hg : g ∈ s.groups)
    (hfree : ∀ r ∈ s.rules, (.group, g.addr) ∉ ρ.rule r.group r.actions) :
  Inv ((s.endGroup g).space ρ links)
  := by
  have hitems : (s.endGroup g).items ρ = remove Item.key (.group, g.addr) (s.items ρ) := by
    rw [remove_items]
    rfl
  rw [space, hitems]
  apply hs.finish (groupItem_mem hg)
  intro x hx hk
  obtain ⟨r, hr, hk, -⟩ | ⟨_, -, -, h⟩ | ⟨_, -, -, _, -, h⟩ := refs_cases hx hk
  · apply hfree r hr hk
  · cases h
  · cases h

theorem inv_endTable {t : TableNode} (ht : t ∈ s.tables)
    (hgroups : ∀ g ∈ s.groups, (.table, t.addr) ∉ ρ.group g.table)
    (htables : ∀ t' ∈ s.tables, (.table, t.addr) ∉ ρ.table t'.miss) :
  Inv ((s.endTable t).space ρ links)
  := by
  have hitems : (s.endTable t).items ρ = remove Item.key (.table, t.addr) (s.items ρ) := by
    rw [remove_items]
    rfl
  rw [space, hitems]
  apply hs.finish (tableItem_mem ht)
  intro x hx hk
  obtain ⟨_, -, -, h | ⟨_, -, h⟩⟩ | ⟨g, hg, hk, -⟩ | ⟨t', ht', hk, -⟩ := refs_cases hx hk
  · cases h
  · cases h
  · apply hgroups g hg hk
  · apply htables t' ht' hk

theorem inv_endAction {n : ActionNode} (hn : n ∈ s.actions)
    (hfree : ∀ r ∈ s.rules, (.action, n.addr) ∉ ρ.rule r.group r.actions) :
  Inv ((s.endAction n).space ρ links)
  := by
  have hitems : (s.endAction n).items ρ = remove Item.key (.action, n.addr) (s.items ρ) := by
    rw [remove_items]
    rfl
  rw [space, hitems]
  apply hs.finish (actionItem_mem hn)
  intro x hx hk
  obtain ⟨r, hr, hk, -⟩ | ⟨_, -, -, h⟩ | ⟨_, -, -, _, -, h⟩ := refs_cases hx hk
  · apply hfree r hr hk
  · cases h
  · cases h

end End

end FlowSpace

/-! ### Creating a HW object -/

theorem Outcome.links_nil (n : Nat) (o : Outcome) :
  o.links n [] = []
  := by
  cases o <;> rfl

/-- A creation that returns `DPCP_OK` marks the object or leaves it as it is. -/
theorem Outcome.marks_or_same {o : Outcome} (hok : o.status = .ok) :
  (∀ valid, o.marks valid = true) ∨ (∀ hw n, o.hw hw n = hw) ∧ ∀ valid, o.marks valid = valid
  := by
  cases o with
  | refused ret => exact .inr ⟨fun _ _ => rfl, fun _ => rfl⟩
  | created => exact .inl fun _ => rfl
  | failed => cases hok
  | unreported => cases hok

/-- A thing without a number is created, with reference to numbers of things that it refers to. -/
theorem Outcome.inv_number {κ : Type} [DecidableEq κ] {s : Space κ} (hs : Inv s) {x : Item κ}
    (hx : x ∈ s.items) (o : Outcome) (hnum : o.sent = true → x.num = none) {targets : List Nat}
    (htargets : ∀ j ∈ targets, ∃ y ∈ s.items, y.key ∈ x.refs ∧ y.num = some j) :
  Inv { s with
    items := update Item.key x.key (fun x => { x with num := o.hw x.num s.made }) s.items
    made := o.count s.made
    links := o.links s.made targets ++ s.links }
  := by
  have hsame (hw : Option Nat → Option Nat) (hhw : hw x.num = x.num) :
      update Item.key x.key (fun x => { x with num := hw x.num }) s.items = s.items := by
    apply update_eq_self
    intro y hy hkey
    rw [eq_of_key hs.keys hy hx hkey, hhw]
  have hmade (hnum : x.num = none) := hs.number hx hnum htargets
  cases o with
  | refused ret =>
      rw [hsame (fun hw => Outcome.hw hw s.made (.refused ret)) rfl]
      apply hs
  | failed =>
      rw [hsame (fun hw => Outcome.hw hw s.made .failed) (hnum rfl).symm]
      apply hs
  | unreported =>
      have hlinks : links s.made targets .unreported = targets.map fun j => (s.made, j) :=
        List.append_nil _
      rw [hlinks]
      apply hmade (hnum rfl)
  | created =>
      have hlinks : links s.made targets .created = targets.map fun j => (s.made, j) :=
        List.append_nil _
      rw [hlinks]
      apply hmade (hnum rfl)

namespace FlowSpace

open FlowRefs

section Create

variable {ρ : FlowRefs} {s : FlowSpace} {links : List (Nat × Nat)} (hs : Inv (s.space ρ links))
  (o : Outcome)

include hs

variable {targets : List Nat}

theorem inv_hwRule {r : RuleNode} (hr : r ∈ s.rules) (hhw : o.sent = true → r.hw = none)
    (htargets : ∀ j ∈ targets, ∃ y ∈ s.items ρ, y.key ∈ ρ.rule r.group r.actions ∧ y.num = some j) :
  Inv ((s.hwRule r.addr o).space ρ (o.links s.made targets ++ links))
  := by
  have h := o.inv_number hs (ruleItem_mem hr) hhw htargets
  dsimp only [space] at h
  rw [key_ruleItem, s.update_items ρ .rule r.addr (o.hw · s.made)
    (fun r => { r with hw := o.hw r.hw s.made }) id id id fun r => rfl] at h
  apply h

theorem inv_hwGroup {g : GroupNode} (hg : g ∈ s.groups) (hhw : o.sent = true → g.hw = none)
    (htargets : ∀ j ∈ targets, ∃ y ∈ s.items ρ, y.key ∈ ρ.group g.table ∧ y.num = some j) :
  Inv ((s.hwGroup g.addr o).space ρ (o.links s.made targets ++ links))
  := by
  have h := o.inv_number hs (groupItem_mem hg) hhw htargets
  dsimp only [space] at h
  rw [key_groupItem, s.update_items ρ .group g.addr (o.hw · s.made) id
    (fun g => { g with hw := o.hw g.hw s.made, initialized := o.marks g.initialized }) id id
    fun g => rfl] at h
  apply h

theorem inv_hwTable {t : TableNode} (ht : t ∈ s.tables) (hhw : o.sent = true → t.hw = none)
    (htargets : ∀ j ∈ targets, ∃ y ∈ s.items ρ, y.key ∈ ρ.table t.miss ∧ y.num = some j) :
  Inv ((s.hwTable t.addr o).space ρ (o.links s.made targets ++ links))
  := by
  have h := o.inv_number hs (tableItem_mem ht) hhw htargets
  dsimp only [space] at h
  rw [key_tableItem, s.update_items ρ .table t.addr (o.hw · s.made) id id
    (fun t => { t with hw := o.hw t.hw s.made, initialized := o.marks t.initialized }) id
    fun t => rfl] at h
  apply h

theorem inv_hwAction {n : ActionNode} (hn : n ∈ s.actions) (hhw : o.sent = true → n.hw = none) :
  Inv ((s.hwAction n.addr o).space ρ links)
  := by
  have h := o.inv_number hs (actionItem_mem hn) hhw (List.forall_mem_nil _)
  dsimp only [space] at h
  rw [key_actionItem, s.update_items ρ .action n.addr (o.hw · s.made) id id id
    (fun n => { n with hw := o.hw n.hw s.made, valid := o.marks n.valid }) fun n => rfl,
    Outcome.links_nil] at h
  apply h

omit hs in
/-- A context that was created is valid then, and the other actions are as they were. -/
theorem unmade_hwAction {o : Outcome} (hok : o.status = .ok) {a a' : Nat}
    (hunmade : ∀ n ∈ s.action a', n.valid = true ∨ n.hw = none) :
  ∀ n ∈ (s.hwAction a o).action a', n.valid = true ∨ n.hw = none
  := by
  intro n hn
  let f (n : ActionNode) : ActionNode :=
    { n with hw := o.hw n.hw s.made, valid := o.marks n.valid }
  have hn : lookup ActionNode.addr a' (update ActionNode.addr a f s.actions) = some n := hn
  rw [lookup_update (f := f) fun n => rfl] at hn
  obtain ⟨m, hm, rfl⟩ := Option.map_eq_some_iff.mp hn
  have hm := hunmade m hm
  split
  · rcases Outcome.marks_or_same hok with hmarks | ⟨hhw, hmarks⟩
    · exact .inl (hmarks m.valid)
    · dsimp only [f]
      rw [hhw, hmarks]
      apply hm
  · apply hm

omit o in
/-- The loop over the actions of a rule, if those that are not valid have no context. -/
theorem inv_applyActions {contexts : List (Nat × Outcome)}
    (hcontexts : ∀ c ∈ contexts, c.2.sent = true →
      ∀ n ∈ s.action c.1, n.valid = true ∨ n.hw = none) :
  Inv ((s.applyActions contexts).2.space ρ links)
  := by
  induction contexts generalizing s with
  | nil => apply hs
  | cons c contexts ih =>
      obtain ⟨a, o⟩ := c
      have hrest := fun c hc => hcontexts c (List.mem_cons_of_mem (a, o) hc)
      obtain h | ⟨n, hn, hvalid, h⟩ := s.applyActions_cases a o contexts <;> rw [h]
      · apply ih hs hrest
      · obtain ⟨hmem, rfl⟩ := lookup_eq_some hn
        have hmade := inv_hwAction hs o hmem fun hsent =>
          (hcontexts _ List.mem_cons_self hsent n hn).resolve_left hvalid
        split
        · rename_i hok
          apply ih hmade
          intro c hc hsent
          apply unmade_hwAction hok (hrest c hc hsent)
        · apply hmade

theorem inv_createAction (addr : Nat) :
  Inv ((s.createAction addr o).space ρ links)
  := by
  rw [createAction]
  split
  · apply hs
  · rename_i haddr
    have hfresh := lookup_eq_none.mp (Option.not_isSome_iff_eq_none.mp haddr)
    let n : ActionNode := ⟨addr, 1, false, none⟩
    have hnew : Inv (space ρ { s with actions := n :: s.actions } links) := by
      refine inv_new hs (x := actionItem n) ?_ (List.forall_mem_nil _) rfl
        (perm_items_action n) rfl rfl
      rintro ⟨n', hn', hkey⟩
      apply hfresh n' hn' hkey
    have hmade := inv_hwAction hnew o List.mem_cons_self fun _ => rfl
    have hactions : update ActionNode.addr addr (fun n =>
        { n with hw := o.hw n.hw s.made, valid := o.marks n.valid }) (n :: s.actions)
        = ⟨addr, 1, o.marks false, o.hw none s.made⟩ :: s.actions := by
      rw [update, List.map_cons, ← update, update_eq_self, if_pos rfl]
      intro n' hn' hkey
      cases hfresh n' hn' hkey
    rw [hwAction, hactions] at hmade
    apply hmade

end Create

end FlowSpace

end Dpcp
