import Dpcp.Flow.Chain
import Dpcp.Flow.Items

/-!
# The order of teardown

Whatever starts it, a teardown goes from the rules of a group to the group, and from the groups of a
table to the table.  No HW object is destroyed twice, since one object at most has it.  But a rule
that has a HW object can be created again, and then no object has the first one any more, and no
command destroys it.

The objects are read as things that refer to each other: a rule to its group, a group to its table.
-/

namespace Dpcp

open Machine Keyed Ledger References

/-- A rule refers to its group, and a group to its table. -/
def FlowRefs.contained : FlowRefs where
  rule group _ := [(.group, group)]
  group table := [(.table, table)]
  table _ := []
  rule_subset group actions := by
    intro k hk
    rw [List.mem_singleton.mp hk]
    apply List.mem_cons_self
  group_subset _ := List.Subset.refl _
  table_subset _ := List.nil_subset _

namespace FlowSpace

open FlowRefs

/-! ### Destructors -/

section Destructors

/-- What the destructors of groups, of rules and of actions leave as it is. -/
def aroundGroups (s : FlowSpace) := (s.tables, s.contains, s.uses)
def aroundRules (s : FlowSpace) := (s.groups, s.aroundGroups)
def aroundActions (s : FlowSpace) := (s.rules, s.aroundRules)

theorem aroundActions_freeAction (s : FlowSpace) (a : Nat) :
  (s.freeAction a).aroundActions = s.aroundActions
  := by
  obtain h | ⟨n, -, h, -⟩ := s.freeAction_cases a <;> rw [h]
  rfl

theorem aroundActions_applyActions (s : FlowSpace) (contexts : List (Nat × Outcome)) :
  (s.applyActions contexts).2.aroundActions = s.aroundActions
  := by
  induction contexts generalizing s with
  | nil => rfl
  | cons c contexts ih =>
      obtain h | ⟨-, -, -, h⟩ := s.applyActions_cases c.1 c.2 contexts <;> rw [h]
      · apply ih
      · split
        · rw [ih]
          rfl
        · rfl

theorem aroundGroups_createAction (s : FlowSpace) (addr : Nat) (o : Outcome) :
  (s.createAction addr o).aroundGroups = s.aroundGroups
  := by
  rw [createAction]
  split <;> rfl

theorem aroundActions_freeActions (s : FlowSpace) (l : List Nat) :
  (l.foldl freeAction s).aroundActions = s.aroundActions
  := run_eq aroundActions_freeAction s l

theorem aroundRules_destructRule (s : FlowSpace) (r : RuleNode) :
  (s.destructRule r).aroundRules = s.aroundRules
  := congrArg Prod.snd (aroundActions_freeActions (s.clearActions r) r.actions)

theorem rules_destructRule (s : FlowSpace) (r : RuleNode) :
  (s.destructRule r).rules = remove RuleNode.addr r.addr s.rules
  := by
  have hrules : (r.actions.foldl freeAction (s.clearActions r)).rules = (s.clearActions r).rules :=
    congrArg Prod.fst (aroundActions_freeActions (s.clearActions r) r.actions)
  have hremove : remove RuleNode.addr r.addr (s.clearActions r).rules
      = remove RuleNode.addr r.addr s.rules := by
    apply remove_update
    intro r
    rfl
  rw [destructRule, endRule, hrules, hremove]

theorem aroundRules_destructRules (s : FlowSpace) (l : List RuleNode) :
  (l.foldl destructRule s).aroundRules = s.aroundRules
  := run_eq aroundRules_destructRule s l

theorem aroundGroups_destructGroup (s : FlowSpace) (g : GroupNode) :
  (s.destructGroup g).aroundGroups = s.aroundGroups
  := congrArg Prod.snd (aroundRules_destructRules s _)

theorem groups_destructGroup (s : FlowSpace) (g : GroupNode) :
  (s.destructGroup g).groups = remove GroupNode.addr g.addr s.groups
  := by
  have hgroups := congrArg Prod.fst (aroundRules_destructRules s
    (s.rules.filter fun r => r.group = g.addr))
  apply congrArg (remove GroupNode.addr g.addr) hgroups

theorem aroundGroups_destructGroups (s : FlowSpace) (l : List GroupNode) :
  (l.foldl destructGroup s).aroundGroups = s.aroundGroups
  := run_eq aroundGroups_destructGroup s l

theorem tables_destructTable (s : FlowSpace) (t : TableNode) :
  (s.destructTable t).tables = remove TableNode.addr t.addr s.tables
  := by
  have htables := congrArg Prod.fst (aroundGroups_destructGroups s
    (s.groups.filter fun g => g.table = t.addr))
  apply congrArg (remove TableNode.addr t.addr) htables

theorem links_destructTables (s : FlowSpace) (l : List TableNode) :
  ((l.foldl destructTable s).contains, (l.foldl destructTable s).uses) = (s.contains, s.uses)
  := by
  apply run_eq (f := fun s => (s.contains, s.uses)) _ s l
  intro s t
  apply congrArg Prod.snd (aroundGroups_destructGroups s _)

variable {s : FlowSpace} {links : List (Nat × Nat)}

theorem inv_freeAction (hs : Inv (s.space contained links)) (a : Nat) :
  Inv ((s.freeAction a).space contained links)
  := by
  obtain h | ⟨n, hn, h, -⟩ := s.freeAction_cases a
  · rw [h]
    apply hs
  · rw [h]
    apply inv_endAction hs hn
    intro r _ hmem
    cases List.mem_singleton.mp hmem

theorem inv_freeActions (hs : Inv (s.space contained links)) (l : List Nat) :
  Inv ((l.foldl freeAction s).space contained links)
  := by
  induction l generalizing s with
  | nil => apply hs
  | cons a l ih =>
      apply ih
      apply inv_freeAction hs a

theorem inv_destructRule (hs : Inv (s.space contained links)) {r : RuleNode} (hr : r ∈ s.rules) :
  Inv ((s.destructRule r).space contained links)
  := by
  have hclear : Inv ((s.clearActions r).space contained links) := by
    have hmap : (s.clearActions r).rules.map contained.ruleItem
        = s.rules.map contained.ruleItem := by
      apply map_update
      intro r
      rfl
    rw [space, items, hmap]
    apply hs
  have hfree := inv_freeActions hclear r.actions
  have hmem : { r with actions := [] } ∈ (r.actions.foldl freeAction (s.clearActions r)).rules := by
    have hrules : (r.actions.foldl freeAction (s.clearActions r)).rules
        = (s.clearActions r).rules :=
      congrArg Prod.fst (aroundActions_freeActions (s.clearActions r) r.actions)
    rw [hrules]
    apply mem_update.mpr ⟨r, hr, if_pos rfl⟩
  apply inv_endRule hfree hmem

theorem inv_destructGroup (hs : Inv (s.space contained links)) {g : GroupNode} (hg : g ∈ s.groups) :
  Inv ((s.destructGroup g).space contained links)
  := by
  let rules := s.rules.filter fun r => r.group = g.addr
  have hrules : Inv ((rules.foldl destructRule s).space contained links) := by
    apply inv_foldl_filter rules_destructRule (P := fun s => Inv (s.space contained links)) _ _
      (nodup_rules hs) hs
    intro s r hr hs
    apply inv_destructRule hs hr
  apply inv_endGroup hrules
  · have hgroups : (rules.foldl destructRule s).groups = s.groups :=
      congrArg Prod.fst (aroundRules_destructRules s rules)
    rw [hgroups]
    apply hg
  · intro r hr hmem
    obtain ⟨hr, hother⟩ := (mem_get_foldl rules_destructRule).mp hr
    obtain ⟨-, hgroup⟩ := Prod.mk.inj (List.mem_singleton.mp hmem)
    apply hother r (List.mem_filter.mpr ⟨hr, by simpa using hgroup.symm⟩) rfl

theorem inv_destructTable (hs : Inv (s.space contained links)) {t : TableNode} (ht : t ∈ s.tables) :
  Inv ((s.destructTable t).space contained links)
  := by
  let groups := s.groups.filter fun g => g.table = t.addr
  have hgroups : Inv ((groups.foldl destructGroup s).space contained links) := by
    apply inv_foldl_filter groups_destructGroup (P := fun s => Inv (s.space contained links)) _ _
      (nodup_groups hs) hs
    intro s g hg hs
    apply inv_destructGroup hs hg
  apply inv_endTable hgroups
  · have htables : (groups.foldl destructGroup s).tables = s.tables :=
      congrArg Prod.fst (aroundGroups_destructGroups s groups)
    rw [htables]
    apply ht
  · intro g hg hmem
    obtain ⟨hg, hother⟩ := (mem_get_foldl groups_destructGroup).mp hg
    obtain ⟨-, htable⟩ := Prod.mk.inj (List.mem_singleton.mp hmem)
    apply hother g (List.mem_filter.mpr ⟨hg, by simpa using htable.symm⟩) rfl
  · intro _ _ hmem
    cases hmem

end Destructors

/-! ### Calls -/

/-- The objects with what contains them, and what was made in what. -/
def containment (s : FlowSpace) : Space (FlowKind × Nat) :=
  s.space contained s.contains

/-- The objects are in groups and tables that are there, and the tables are pointed to. -/
structure Owned (s : FlowSpace) : Prop where
  refs : Inv s.containment
  chained : Chained s.tables
  pointed : ∀ t ∈ s.tables, Pointed s.tables t

namespace Owned

theorem empty : FlowSpace.empty.Owned where
  refs := Inv.empty
  chained := trivial
  pointed := List.forall_mem_nil _

variable {s : FlowSpace} (hs : s.Owned)

include hs

/-- A call that leaves the tables as they are. -/
theorem same_tables {s' : FlowSpace} (hrefs : Inv s'.containment) (htables : s'.tables = s.tables) :
  s'.Owned
  := by
  constructor
  · apply hrefs
  · rw [htables]
    apply hs.chained
  · rw [htables]
    apply hs.pointed

theorem createFlowTable (addr level : Nat) (fwd : Bool) (miss : Option Nat) :
  (s.createFlowTable addr level fwd miss).2.Owned
  := by
  obtain h | ⟨haddr, hmiss, h⟩ := s.createFlowTable_cases addr level fwd miss <;> rw [h]
  · apply hs
  · refine ⟨inv_newTable hs.refs haddr hmiss rfl, ⟨hmiss, hs.chained⟩, ?_⟩
    intro t ht
    rcases List.mem_cons.mp ht with rfl | ht
    · exact .inl Nat.one_pos
    · apply (hs.pointed t ht).mono
      apply List.subset_cons_self

/-- Other data of a table changes, with no fewer pointers of the application. -/
theorem update_table {s' : FlowSpace} {k : Nat} {f : TableNode → TableNode}
    (hrefs : Inv s'.containment) (htables : s'.tables = update TableNode.addr k f s.tables)
    (haddr : ∀ t, (f t).addr = t.addr) (hmiss : ∀ t, (f t).miss = t.miss)
    (happ : ∀ t, t.app ≤ (f t).app) :
  s'.Owned
  := by
  constructor
  · apply hrefs
  · rw [htables]
    apply hs.chained.update haddr hmiss
  · rw [htables]
    intro t ht
    obtain ⟨u, hu, rfl⟩ := mem_update.mp ht
    apply (hs.pointed u hu).update haddr hmiss fun _ => happ u

theorem createTable {k : Nat} {o : Outcome}
    (hkeeps : o.sent = true → ∀ t ∈ s.table k, t.initialized = true ∨ t.hw = none) :
  (s.createTable k o).2.Owned
  := by
  obtain h | ⟨t, ht, hinit, h⟩ := s.createTable_cases k o <;> rw [h]
  · apply hs
  · obtain ⟨hmem, rfl⟩ := lookup_eq_some ht
    have hhw : o.sent = true → t.hw = none := by
      intro hsent
      apply (hkeeps hsent t ht).resolve_left hinit
    have hrefs := inv_hwTable hs.refs o hmem hhw (List.forall_mem_nil _)
    rw [Outcome.links_nil] at hrefs
    refine hs.update_table hrefs rfl ?_ ?_ ?_ <;> intro t
    · rfl
    · rfl
    · apply Nat.le_refl

theorem copyTable (k : Nat) :
  (s.copyTable k).Owned
  := by
  apply hs.update_table (inv_appTable hs.refs k (· + 1)) rfl <;> intro t
  · rfl
  · rfl
  · apply Nat.le_succ

theorem releaseTable (k : Nat) :
  (s.releaseTable k).Owned
  := by
  let f (t : TableNode) : TableNode := { t with app := t.app - 1 }
  let s₁ : FlowSpace := { s with tables := update TableNode.addr k f s.tables }
  let gone := dying [] k s₁.tables
  have hrefs : Inv s₁.containment := inv_appTable hs.refs k (· - 1)
  obtain ⟨hchained, hparted⟩ : Chained s₁.tables ∧ Parted [] s₁.tables gone :=
    dying_released hs.chained (nodup_tables hs.refs) hs.pointed k
  have htables : (s.releaseTable k).tables = staying gone s₁.tables := by
    apply (get_foldl tables_destructTable gone.reverse s₁).trans
    apply List.filter_congr
    intro t _
    simp
  constructor
  · have hlinks : (s.releaseTable k).contains = s.contains :=
      congrArg Prod.fst (links_destructTables s₁ gone.reverse)
    rw [containment, hlinks]
    apply inv_foldl tables_destructTable (P := fun s' => Inv (s'.space contained s.contains))
    · intro s' t ht hs'
      apply inv_destructTable hs' ht
    · rw [List.map_reverse, List.nodup_reverse]
      apply (nodup_tables hrefs).sublist (hparted.sublist.map _)
    · intro t ht
      apply hparted.sublist.subset (List.mem_reverse.mp ht)
    · apply hrefs
  · rw [htables]
    apply hparted.chained hchained
  · rw [htables]
    apply hparted.pointed

/-- A call that leaves the tables and the links as they are. -/
theorem around {s' : FlowSpace} (hrefs : Inv (s'.space contained s.contains))
    (haround : s'.aroundGroups = s.aroundGroups) :
  s'.Owned
  := by
  obtain ⟨htables, hlinks⟩ := Prod.mk.inj haround
  obtain ⟨hcontains, -⟩ := Prod.mk.inj hlinks
  apply hs.same_tables _ htables
  rw [containment, hcontains]
  apply hrefs

theorem addFlowGroup (k addr pos : Nat) :
  (s.addFlowGroup k addr pos).2.Owned
  := by
  obtain h | ⟨htable, haddr, h⟩ := s.addFlowGroup_cases k addr pos <;> rw [h]
  · apply hs
  · apply hs.same_tables (inv_newGroup hs.refs haddr htable rfl pos) rfl

theorem addFlowRule (k addr pos : Nat) (actions : List Nat) :
  (s.addFlowRule k addr pos actions).2.Owned
  := by
  obtain h | ⟨hgroup, haddr, hactions, h⟩ := s.addFlowRule_cases k addr pos actions <;> rw [h]
  · apply hs
  · apply hs.same_tables (inv_newRule hs.refs haddr hgroup hactions rfl pos) rfl

theorem createGroup {k : Nat} {o : Outcome}
    (hkeeps : o.sent = true → ∀ g ∈ s.group k, g.initialized = true ∨ g.hw = none) :
  (s.createGroup k o).2.Owned
  := by
  obtain h | ⟨g, t, hg, hinit, ht, h⟩ := s.createGroup_cases k o <;> rw [h]
  · apply hs
  · obtain ⟨hmem, rfl⟩ := lookup_eq_some hg
    obtain ⟨hmem', hkey⟩ := lookup_eq_some ht
    refine hs.same_tables (inv_hwGroup hs.refs o hmem ?_ ?_) rfl
    · intro hsent
      apply (hkeeps hsent g hg).resolve_left hinit
    · intro j hj
      refine ⟨_, tableItem_mem hmem', ?_, Option.mem_toList.mp hj⟩
      rw [key_tableItem, hkey]
      apply List.mem_singleton_self

theorem applyActions {contexts : List (Nat × Outcome)}
    (hkeeps : ∀ c ∈ contexts, c.2.sent = true →
      ∀ n ∈ s.action c.1, n.valid = true ∨ n.hw = none) :
  (s.applyActions contexts).2.Owned
  := by
  apply hs.around (inv_applyActions hs.refs hkeeps)
  apply congrArg (fun around => around.2.2) (aroundActions_applyActions s contexts)

theorem createRule {k : Nat} {contexts : List (Nat × Outcome)} {o : Outcome}
    (hkeeps : ∀ r ∈ s.rule k, (o.sent = true → r.hw = none)
      ∧ ∀ c ∈ contexts, c.1 ∈ r.actions → c.2.sent = true →
        ∀ n ∈ s.action c.1, n.valid = true ∨ n.hw = none) :
  (s.createRule k contexts o).2.Owned
  := by
  obtain h | ⟨r, s', hr, hs', h⟩ := s.createRule_cases k contexts o
  · rw [h]
    apply hs
  · obtain ⟨hhw, hcontexts⟩ := hkeeps r hr
    have happlied : s'.Owned := by
      rw [← hs']
      apply hs.applyActions
      intro c hc
      obtain ⟨hc, hmem⟩ := List.mem_filter.mp hc
      apply hcontexts c hc (by simpa using hmem)
    have hrules : s'.rules = s.rules := by
      rw [← hs']
      apply congrArg Prod.fst (aroundActions_applyActions s _)
    rcases h with h | h <;> rw [h]
    · apply happlied
    · obtain ⟨hmem, rfl⟩ := lookup_eq_some hr
      rw [← hrules] at hmem
      refine happlied.same_tables (inv_hwRule happlied.refs o hmem hhw ?_) rfl
      intro j hj
      obtain ⟨g, hg, hj⟩ := Option.bind_eq_some_iff.mp (Option.mem_toList.mp hj)
      obtain ⟨hmem', hkey⟩ := lookup_eq_some hg
      refine ⟨_, groupItem_mem hmem', ?_, hj⟩
      rw [key_groupItem, hkey]
      apply List.mem_singleton_self

theorem removeFlowRule (k rule : Nat) :
  (s.removeFlowRule k rule).2.Owned
  := by
  obtain h | ⟨r, hr, h⟩ := s.removeFlowRule_cases k rule <;> rw [h]
  · apply hs
  · apply hs.around (inv_destructRule hs.refs hr)
    apply congrArg Prod.snd (aroundRules_destructRule s r)

theorem removeFlowGroup (k group : Nat) :
  (s.removeFlowGroup k group).2.Owned
  := by
  obtain h | ⟨g, hg, h⟩ := s.removeFlowGroup_cases k group <;> rw [h]
  · apply hs
  · apply hs.around (inv_destructGroup hs.refs hg)
    apply aroundGroups_destructGroup

theorem createAction (addr : Nat) (o : Outcome) :
  (s.createAction addr o).Owned
  := hs.around (inv_createAction hs.refs o addr) (s.aroundGroups_createAction addr o)

theorem copyAction (a : Nat) :
  (s.copyAction a).Owned
  := hs.around (inv_appAction hs.refs a (· + 1)) rfl

theorem releaseAction (a : Nat) :
  (s.releaseAction a).Owned
  := by
  have hrefs := inv_freeAction (inv_appAction hs.refs a (· - 1)) a
  apply hs.around hrefs
  have haround := aroundActions_freeAction { s with
    actions := update ActionNode.addr a (fun n => { n with app := n.app - 1 }) s.actions } a
  apply congrArg (fun around => around.2.2) haround

end Owned

/-! ### Runs -/

/-- No `create` sends its command for an object that has a HW object. -/
def Keeps (s : FlowSpace) : FlowCall → Prop
  | .createTable k o => o.sent = true → ∀ t ∈ s.table k, t.initialized = true ∨ t.hw = none
  | .createGroup k o => o.sent = true → ∀ g ∈ s.group k, g.initialized = true ∨ g.hw = none
  | .createRule k contexts o => ∀ r ∈ s.rule k, (o.sent = true → r.hw = none)
      ∧ ∀ c ∈ contexts, c.1 ∈ r.actions → c.2.sent = true →
        ∀ n ∈ s.action c.1, n.valid = true ∨ n.hw = none
  | _ => True

instance (s : FlowSpace) : ∀ c, Decidable (s.Keeps c)
  | .createTable _ _ => inferInstanceAs (Decidable (_ → _))
  | .createGroup _ _ => inferInstanceAs (Decidable (_ → _))
  | .createRule _ _ _ => inferInstanceAs (Decidable (∀ _ ∈ _, _))
  | .createFlowTable _ _ _ _ | .addFlowGroup _ _ _ | .addFlowRule _ _ _ _ | .removeFlowRule _ _
  | .removeFlowGroup _ _ | .copyTable _ | .releaseTable _ | .createAction _ _ | .copyAction _
  | .releaseAction _ => isTrue trivial

theorem Owned.step {s : FlowSpace} (hs : s.Owned) {c : FlowCall} (hkeeps : s.Keeps c) :
  (s.step c).Owned
  := by
  cases c with
  | createFlowTable addr level fwd miss => apply hs.createFlowTable
  | createTable k o => apply hs.createTable hkeeps
  | addFlowGroup k addr pos => apply hs.addFlowGroup
  | createGroup k o => apply hs.createGroup hkeeps
  | addFlowRule k addr pos actions => apply hs.addFlowRule
  | createRule k contexts o => apply hs.createRule hkeeps
  | removeFlowRule k rule => apply hs.removeFlowRule
  | removeFlowGroup k group => apply hs.removeFlowGroup
  | copyTable k => apply hs.copyTable
  | releaseTable k => apply hs.releaseTable
  | createAction addr o => apply hs.createAction
  | copyAction a => apply hs.copyAction
  | releaseAction a => apply hs.releaseAction

/-- The HW objects that are with an object. -/
def held (s : FlowSpace) : List Nat :=
  s.rules.filterMap RuleNode.hw ++ s.groups.filterMap GroupNode.hw
    ++ s.tables.filterMap TableNode.hw ++ s.actions.filterMap ActionNode.hw

theorem num_items (s : FlowSpace) (ρ : FlowRefs) :
  (s.items ρ).filterMap Item.num = s.held
  := by
  simp only [items, List.filterMap_append, List.filterMap_map]
  rfl

/-- A HW object is with one object, or one destroy command was sent for it, for a HW rule before
the one for its HW group, and for a HW group before the one for its HW table.  A rule is in a group
that is there, and a group in a table that is there; when the application has no pointers to tables,
there are none. -/
structure TornDown (s : FlowSpace) : Prop where
  once : ∀ i < s.made, s.log.count i + s.held.count i = 1
  ordered : ∀ l ∈ s.contains, Before l.1 l.2 s.log
  groups : ∀ r ∈ s.rules, ∃ g ∈ s.groups, g.addr = r.group
  tables : ∀ g ∈ s.groups, ∃ t ∈ s.tables, t.addr = g.table
  released : (∀ t ∈ s.tables, t.app = 0) → s.tables = []

theorem Owned.tornDown {s : FlowSpace} (hs : s.Owned) :
  s.TornDown
  := by
  constructor
  · intro i hi
    have honce := (hs.refs.once i).trans (if_pos hi)
    rw [← s.num_items contained]
    apply honce
  · intro l hl
    apply (hs.refs.ordered l hl).1
  · intro r hr
    apply (exists_item_iff (.group, r.group)).mp
    apply hs.refs.refs _ (ruleItem_mem hr)
    apply List.mem_singleton_self
  · intro g hg
    apply (exists_item_iff (.table, g.table)).mp
    apply hs.refs.refs _ (groupItem_mem hg)
    apply List.mem_singleton_self
  · apply hs.chained.eq_nil (nodup_tables hs.refs) hs.pointed

/-- In a run in which no `create` sends its command for an object that has a HW object, the HW
objects are torn down in order. -/
theorem tornDown_run {calls calls' : List FlowCall} (hkeeps : Along step Keeps empty calls)
    (hinitial : calls' <+: calls) :
  (run step empty calls').TornDown
  := by
  obtain ⟨rest, rfl⟩ := hinitial
  have howned : (run step empty calls').Owned := by
    apply inv_run_of_along _ hkeeps.left Owned.empty
    intro s c hkeeps hs
    apply hs.step hkeeps
  apply howned.tornDown

/-- A table with a group and a rule, all created; its last pointer is released. -/
theorem tornDown_releaseTable :
  let calls : List FlowCall := [.createFlowTable 1 1 false none, .createTable 1 .created,
    .addFlowGroup 1 2 0, .createGroup 2 .created, .createAction 4 (.refused .ok),
    .addFlowRule 2 3 0 [4], .createRule 3 [] .created, .releaseTable 1]
  Along step Keeps empty calls ∧ (run step empty calls).log = [2, 1, 0]
    ∧ (run step empty calls).TornDown
  := ⟨by decide, by decide, tornDown_run (by decide) List.prefix_rfl⟩

/-- The rule is created a second time and the device refuses the command: no command destroys its
first HW object. -/
theorem not_tornDown_createRule_twice :
  ¬ (run step empty [.createFlowTable 1 1 false none, .createTable 1 .created,
    .addFlowGroup 1 2 0, .createGroup 2 .created, .createAction 4 (.refused .ok),
    .addFlowRule 2 3 0 [4], .createRule 3 [] .created, .createRule 3 [] .failed,
    .releaseTable 1]).TornDown
  := by
  intro h
  have honce := h.once 2 (by decide)
  apply absurd honce (by decide)

end FlowSpace

end Dpcp
