import Dpcp.Flow.Teardown

/-!
# HW objects that are used by others

A HW rule uses the contexts of its modify header and reformat actions, and a HW table uses the HW
table to which it forwards.  The rule and the table hold pointers to them, in `m_actions` and in
`m_attr`, but these members go before the base class destroys the HW object.  When theirs is the
last pointer, the context or the miss table is destroyed while the HW rule or the HW table is there.

It does not come to that as long as the application keeps a pointer to an action that has a context,
and to a table, until the rules and tables that hold it are gone.  An action without a context can
be given up earlier, if none is made for it later.
-/

namespace Dpcp

open Machine Keyed Ledger References

/-- A rule refers to its actions, and a table to its miss table. -/
def FlowRefs.used : FlowRefs where
  rule _ actions := actions.map (.action, ·)
  group _ := []
  table miss := miss.toList.map (.table, ·)
  rule_subset _ _ := List.subset_cons_self _ _
  group_subset _ := List.nil_subset _
  table_subset _ := List.Subset.refl _

theorem FlowRefs.mem_used_rule {group a : Nat} {actions : List Nat} :
  (.action, a) ∈ used.rule group actions ↔ a ∈ actions
  := by
  simp [used]

/-- If an action has a context, then the application has a pointer to it. -/
def ActionNode.Kept (n : ActionNode) : Prop :=
  n.hw ≠ none → 0 < n.app

namespace FlowSpace

open FlowRefs

/-! ### The tables that go -/

/-- A table to which the application has a pointer stays. -/
theorem dying_eq_nil {newer tables : List TableNode} {k : Nat}
    (happ : ∀ t ∈ tables, t.addr = k → 0 < t.app) :
  dying newer k tables = []
  := by
  induction tables generalizing newer with
  | nil => rfl
  | cons t older ih =>
      rw [dying]
      split
      · rename_i hk
        apply if_neg
        rintro ⟨hzero, -⟩
        have hpos := happ t List.mem_cons_self hk
        omega
      · apply ih
        intro u hu
        apply happ u (List.mem_cons_of_mem t hu)

/-- A table that nothing points to goes alone if the application has pointers to the others. -/
theorem dying_eq_singleton {newer tables : List TableNode} {t : TableNode} (ht : t ∈ tables)
    (hnodup : (tables.map TableNode.addr).Nodup) (hzero : t.app = 0)
    (hfree : ∀ u ∈ newer ++ tables, u.miss ≠ some t.addr)
    (hothers : ∀ u ∈ tables, u.addr ≠ t.addr → 0 < u.app) :
  dying newer t.addr tables = [t]
  := by
  induction tables generalizing newer with
  | nil => cases ht
  | cons u older ih =>
      have hfresh := addr_ne_of_nodup hnodup
      obtain ⟨-, hnodup⟩ := List.nodup_cons.mp hnodup
      have holder := fun v hv => hothers v (List.mem_cons_of_mem u hv)
      rw [dying]
      split
      · rename_i hk
        obtain rfl : t = u := by
          rcases List.mem_cons.mp ht with htu | ht
          · apply htu
          · cases hfresh t ht hk.symm
        rw [if_pos ⟨hzero, fun v hv => hfree v (List.mem_append_left _ hv)⟩]
        split
        · rw [dying_eq_nil]
          intro v hv _
          apply holder v hv (hfresh v hv)
        · rfl
      · rename_i hk
        have ht : t ∈ older := List.mem_of_ne_of_mem (fun h => hk (congrArg _ h.symm)) ht
        apply ih ht hnodup _ holder
        intro v hv
        apply hfree v (List.perm_middle.symm.subset hv)

/-! ### Pointers of the application -/

/-- The application gives up a pointer to the object under `k`.  It has pointers to the others, and
to this one too unless the pointer was the last. -/
theorem app_release {α : Type} (addr app : α → Nat) {f : α → α}
    (haddr : ∀ x, addr (f x) = addr x) (happ : ∀ x, app (f x) = app x - 1) {l : List α}
    (hl : ∀ x ∈ l, 0 < app x) (k : Nat) :
  (∀ x ∈ update addr k f l, 0 < app x)
    ∨ ∃ x ∈ l, addr x = k ∧ app x = 1 ∧ ∀ y ∈ update addr k f l, addr y ≠ k → 0 < app y
  := by
  by_cases hlast : ∃ x ∈ l, addr x = k ∧ app x = 1
  · obtain ⟨x, hx, hkey, hone⟩ := hlast
    refine .inr ⟨x, hx, hkey, hone, ?_⟩
    apply forall_mem_update
    · intro y hy _ _
      apply hl y hy
    · intro y _ hkey hne
      rw [haddr] at hne
      cases hne hkey
  · left
    apply forall_mem_update
    · intro x hx _
      apply hl x hx
    · intro x hx hkey
      have hpos := hl x hx
      have hne : app x ≠ 1 := fun hone => hlast ⟨x, hx, hkey, hone⟩
      rw [happ]
      omega

/-! ### Destructors -/

/-- A rule without actions can end before an action goes that has no context. -/
theorem endRule_freeAction {s : FlowSpace} (hkept : ∀ n ∈ s.actions, n.Kept) {r : RuleNode}
    (hclear : ∀ r' ∈ s.rules, r'.addr = r.addr → r'.actions = []) (a : Nat) :
  (s.freeAction a).endRule r = (s.endRule r).freeAction a
  := by
  have hholds : (∀ r' ∈ (s.endRule r).rules, a ∉ r'.actions) ↔ ∀ r' ∈ s.rules, a ∉ r'.actions := by
    constructor
    · intro h r' hr'
      by_cases haddr : r'.addr = r.addr
      · rw [hclear r' hr' haddr]
        apply List.not_mem_nil
      · apply h r' (mem_remove.mpr ⟨hr', haddr⟩)
    · intro h r' hr'
      apply h r' (mem_remove.mp hr').1
  have haction : (s.endRule r).action a = s.action a := rfl
  rw [freeAction, freeAction, haction]
  cases hn : s.action a with
  | none => rfl
  | some n =>
      by_cases hlast : n.app = 0 ∧ ∀ r' ∈ s.rules, a ∉ r'.actions
      · have hhw : n.hw = none := by
          by_contra hhw
          have hpos := hkept n (lookup_eq_some hn).1 hhw
          omega
        dsimp only
        rw [if_pos hlast, if_pos (And.imp_right hholds.mpr hlast)]
        simp only [endRule, endAction, hhw, Option.toList_none, List.append_nil]
      · have hlast' : ¬ (n.app = 0 ∧ ∀ r' ∈ (s.endRule r).rules, a ∉ r'.actions) :=
          fun h => hlast (And.imp_right hholds.mp h)
        dsimp only
        rw [if_neg hlast, if_neg hlast']

theorem kept_freeAction {s : FlowSpace} (hkept : ∀ n ∈ s.actions, n.Kept) (a : Nat) :
  ∀ n ∈ (s.freeAction a).actions, n.Kept
  := by
  obtain h | ⟨m, -, h, -⟩ := s.freeAction_cases a <;> rw [h]
  · apply hkept
  · intro n hn
    apply hkept n (mem_remove.mp hn).1

/-- The destructor of a rule, as if the actions went last. -/
theorem destructRule_eq_freeActions {s : FlowSpace} (hkept : ∀ n ∈ s.actions, n.Kept)
    (r : RuleNode) :
  s.destructRule r = r.actions.foldl freeAction (s.endRule r)
  := by
  have hcomm (l : List Nat) : ∀ s : FlowSpace, (∀ n ∈ s.actions, n.Kept) →
      (∀ r' ∈ s.rules, r'.addr = r.addr → r'.actions = []) →
      (l.foldl freeAction s).endRule r = l.foldl freeAction (s.endRule r) := by
    induction l with
    | nil =>
        intro s _ _
        rfl
    | cons a l ih =>
        intro s hkept hclear
        have hrules : (s.freeAction a).rules = s.rules :=
          congrArg Prod.fst (aroundActions_freeAction s a)
        rw [List.foldl_cons, List.foldl_cons, ← endRule_freeAction hkept hclear]
        apply ih _ (kept_freeAction hkept a)
        rw [hrules]
        apply hclear
  have hremove : remove RuleNode.addr r.addr (s.clearActions r).rules
      = remove RuleNode.addr r.addr s.rules := by
    apply remove_update
    intro r
    rfl
  have hend : (s.clearActions r).endRule r = s.endRule r := by
    rw [endRule, hremove]
    rfl
  rw [destructRule, hcomm r.actions (s.clearActions r) hkept, hend]
  apply forall_mem_update
  · intro r' _ hne haddr
    cases hne haddr
  · intro r' _ _ _
    rfl

/-- The objects use others that are there, and the application has pointers to the actions with
contexts. -/
structure Shared (links : List (Nat × Nat)) (s : FlowSpace) : Prop where
  refs : Inv (s.space used links)
  actions : ∀ n ∈ s.actions, n.Kept

namespace Shared

variable {s : FlowSpace} {links : List (Nat × Nat)} (hs : s.Shared links)

include hs

theorem freeAction (a : Nat) :
  (s.freeAction a).Shared links
  := by
  refine ⟨?_, kept_freeAction hs.actions a⟩
  obtain h | ⟨n, hn, h, -, hfree⟩ := s.freeAction_cases a <;> rw [h]
  · apply hs.refs
  · apply inv_endAction hs.refs hn
    intro r hr hmem
    apply hfree r hr (mem_used_rule.mp hmem)

theorem destructRule {r : RuleNode} (hr : r ∈ s.rules) :
  (s.destructRule r).Shared links
  := by
  have hend : (s.endRule r).Shared links := ⟨inv_endRule hs.refs hr, hs.actions⟩
  rw [destructRule_eq_freeActions hs.actions]
  apply inv_run (I := Shared links) _ hend
  intro s a hs
  apply hs.freeAction

theorem destructGroup {g : GroupNode} (hg : g ∈ s.groups) :
  (s.destructGroup g).Shared links
  := by
  let rules := s.rules.filter fun r => r.group = g.addr
  have hrules : (rules.foldl FlowSpace.destructRule s).Shared links := by
    apply inv_foldl_filter rules_destructRule (P := Shared links) _ _ (nodup_rules hs.refs) hs
    intro s r hr hs
    apply hs.destructRule hr
  have hgroups : (rules.foldl FlowSpace.destructRule s).groups = s.groups :=
    congrArg Prod.fst (aroundRules_destructRules s rules)
  refine ⟨inv_endGroup hrules.refs ?_ ?_, hrules.actions⟩
  · rw [hgroups]
    apply hg
  · intro r _ hmem
    obtain ⟨a, -, hkey⟩ := List.mem_map.mp hmem
    cases hkey

theorem destructTable {t : TableNode} (ht : t ∈ s.tables)
    (hfree : ∀ t' ∈ s.tables, t'.miss ≠ some t.addr) :
  (s.destructTable t).Shared links
  := by
  let groups := s.groups.filter fun g => g.table = t.addr
  have hgroups : (groups.foldl FlowSpace.destructGroup s).Shared links := by
    apply inv_foldl_filter groups_destructGroup (P := Shared links) _ _ (nodup_groups hs.refs) hs
    intro s g hg hs
    apply hs.destructGroup hg
  have htables : (groups.foldl FlowSpace.destructGroup s).tables = s.tables :=
    congrArg Prod.fst (aroundGroups_destructGroups s groups)
  refine ⟨inv_endTable hgroups.refs ?_ ?_ ?_, hgroups.actions⟩
  · rw [htables]
    apply ht
  · intro g _ hmem
    cases hmem
  · rw [htables]
    intro t' ht' hmem
    obtain ⟨k, hk, hkey⟩ := List.mem_map.mp hmem
    obtain ⟨-, rfl⟩ := Prod.mk.inj hkey
    apply hfree t' ht' (Option.mem_toList.mp hk)

end Shared

/-! ### Calls -/

/-- The objects use others that are there, and the application has pointers to the tables and to the
actions with contexts. -/
structure Backed (s : FlowSpace) : Prop extends s.Shared s.uses where
  tables : ∀ t ∈ s.tables, 0 < t.app

namespace Backed

theorem empty : FlowSpace.empty.Backed where
  refs := Inv.empty
  actions := List.forall_mem_nil _
  tables := List.forall_mem_nil _

variable {s : FlowSpace} (hs : s.Backed)

include hs

/-- A call that leaves the tables, the actions and the links as they are. -/
theorem around {s' : FlowSpace} (hs' : s'.Shared s.uses)
    (haround : s'.aroundGroups = s.aroundGroups) :
  s'.Backed
  := by
  obtain ⟨htables, hlinks⟩ := Prod.mk.inj haround
  obtain ⟨-, huses⟩ := Prod.mk.inj hlinks
  constructor
  · rw [huses]
    apply hs'
  · rw [htables]
    apply hs.tables

theorem createFlowTable (addr level : Nat) (fwd : Bool) (miss : Option Nat) :
  (s.createFlowTable addr level fwd miss).2.Backed
  := by
  obtain h | ⟨haddr, hmiss, h⟩ := s.createFlowTable_cases addr level fwd miss <;> rw [h]
  · apply hs
  · refine ⟨⟨inv_newTable hs.refs haddr hmiss rfl, hs.actions⟩, ?_⟩
    intro t ht
    rcases List.mem_cons.mp ht with rfl | ht
    · apply Nat.one_pos
    · apply hs.tables t ht

theorem createTable {k : Nat} {o : Outcome}
    (hkeeps : o.sent = true → ∀ t ∈ s.table k, t.initialized = true ∨ t.hw = none) :
  (s.createTable k o).2.Backed
  := by
  obtain h | ⟨t, ht, hinit, h⟩ := s.createTable_cases k o <;> rw [h]
  · apply hs
  · obtain ⟨hmem, rfl⟩ := lookup_eq_some ht
    refine ⟨⟨inv_hwTable hs.refs o hmem ?_ ?_, hs.actions⟩, ?_⟩
    · intro hsent
      apply (hkeeps hsent t ht).resolve_left hinit
    · intro j hj
      obtain ⟨m, hm, hj⟩ := Option.bind_eq_some_iff.mp (Option.mem_toList.mp hj)
      rw [missTable] at hm
      split at hm
      · obtain ⟨k, hk, hm⟩ := Option.bind_eq_some_iff.mp hm
        obtain ⟨hmem', rfl⟩ := lookup_eq_some hm
        refine ⟨_, tableItem_mem hmem', ?_, hj⟩
        apply List.mem_map_of_mem (Option.mem_toList.mpr hk)
      · cases hm
    · apply forall_mem_update
      · intro u hu _
        apply hs.tables u hu
      · intro u hu _
        apply hs.tables u hu

theorem addFlowGroup (k addr pos : Nat) :
  (s.addFlowGroup k addr pos).2.Backed
  := by
  obtain h | ⟨htable, haddr, h⟩ := s.addFlowGroup_cases k addr pos <;> rw [h]
  · apply hs
  · exact ⟨⟨inv_newGroup hs.refs haddr htable rfl pos, hs.actions⟩, hs.tables⟩

theorem addFlowRule (k addr pos : Nat) (actions : List Nat) :
  (s.addFlowRule k addr pos actions).2.Backed
  := by
  obtain h | ⟨hgroup, haddr, hactions, h⟩ := s.addFlowRule_cases k addr pos actions <;> rw [h]
  · apply hs
  · exact ⟨⟨inv_newRule hs.refs haddr hgroup hactions rfl pos, hs.actions⟩, hs.tables⟩

theorem createGroup {k : Nat} {o : Outcome}
    (hkeeps : o.sent = true → ∀ g ∈ s.group k, g.initialized = true ∨ g.hw = none) :
  (s.createGroup k o).2.Backed
  := by
  obtain h | ⟨g, _, hg, hinit, -, h⟩ := s.createGroup_cases k o <;> rw [h]
  · apply hs
  · obtain ⟨hmem, rfl⟩ := lookup_eq_some hg
    have hhw : o.sent = true → g.hw = none := by
      intro hsent
      apply (hkeeps hsent g hg).resolve_left hinit
    have hrefs := inv_hwGroup hs.refs o hmem hhw (List.forall_mem_nil _)
    rw [Outcome.links_nil] at hrefs
    exact ⟨⟨hrefs, hs.actions⟩, hs.tables⟩

theorem removeFlowRule (k rule : Nat) :
  (s.removeFlowRule k rule).2.Backed
  := by
  obtain h | ⟨r, hr, h⟩ := s.removeFlowRule_cases k rule <;> rw [h]
  · apply hs
  · apply hs.around (hs.toShared.destructRule hr)
    apply congrArg Prod.snd (aroundRules_destructRule s r)

theorem removeFlowGroup (k group : Nat) :
  (s.removeFlowGroup k group).2.Backed
  := by
  obtain h | ⟨g, hg, h⟩ := s.removeFlowGroup_cases k group <;> rw [h]
  · apply hs
  · apply hs.around (hs.toShared.destructGroup hg)
    apply aroundGroups_destructGroup

theorem copyTable (k : Nat) :
  (s.copyTable k).Backed
  := by
  refine ⟨⟨inv_appTable hs.refs k (· + 1), hs.actions⟩, ?_⟩
  apply forall_mem_update
  · intro t ht _
    apply hs.tables t ht
  · intro t _ _
    apply Nat.succ_pos

theorem createAction (addr : Nat) (o : Outcome) :
  (s.createAction addr o).Backed
  := by
  refine hs.around ⟨inv_createAction hs.refs o addr, ?_⟩ (s.aroundGroups_createAction addr o)
  rw [FlowSpace.createAction]
  split
  · apply hs.actions
  · intro n hn
    rcases List.mem_cons.mp hn with rfl | hn
    · intro _
      apply Nat.one_pos
    · apply hs.actions n hn

theorem copyAction (a : Nat) :
  (s.copyAction a).Backed
  := by
  refine ⟨⟨inv_appAction hs.refs a (· + 1), ?_⟩, hs.tables⟩
  apply forall_mem_update
  · intro n hn _
    apply hs.actions n hn
  · intro n _ _ _
    apply Nat.succ_pos

/-- The application gives up a pointer to a table, and not the last while a table forwards to it. -/
theorem releaseTable {k : Nat}
    (hkeeps : ∀ t ∈ s.table k, t.app = 1 → ∀ t' ∈ s.tables, t'.miss ≠ some k) :
  (s.releaseTable k).Backed
  := by
  let f (t : TableNode) : TableNode := { t with app := t.app - 1 }
  let s₁ : FlowSpace := { s with tables := update TableNode.addr k f s.tables }
  have hshared : s₁.Shared s.uses := ⟨inv_appTable hs.refs k (· - 1), hs.actions⟩
  have hrelease : s.releaseTable k = (dying [] k s₁.tables).reverse.foldl destructTable s₁ := rfl
  obtain hall | ⟨t, ht, rfl, happ, hothers⟩ :=
    app_release TableNode.addr TableNode.app (f := f) (fun _ => rfl) (fun _ => rfl) hs.tables k
  · have hgone : dying [] k s₁.tables = [] := dying_eq_nil fun t ht _ => hall t ht
    rw [hrelease, hgone]
    exact ⟨hshared, hall⟩
  · have hmem : f t ∈ s₁.tables := mem_update.mpr ⟨t, ht, if_pos rfl⟩
    have hlookup : s.table t.addr = some t := lookup_of_mem (nodup_tables hs.refs) ht
    have hfree : ∀ u ∈ s₁.tables, u.miss ≠ some t.addr := by
      apply forall_mem_update
      · intro u hu _
        apply hkeeps t hlookup happ u hu
      · intro u hu _
        apply hkeeps t hlookup happ u hu
    have hgone : dying [] t.addr s₁.tables = [f t] := by
      apply dying_eq_singleton hmem (nodup_tables hshared.refs) _ hfree hothers
      dsimp only [f]
      omega
    rw [hrelease, hgone]
    have huses : (s₁.destructTable (f t)).uses = s.uses :=
      congrArg Prod.snd (links_destructTables s₁ [f t])
    change (s₁.destructTable (f t)).Backed
    constructor
    · rw [huses]
      apply hshared.destructTable hmem hfree
    · rw [tables_destructTable]
      intro u hu
      obtain ⟨hu, hne⟩ := mem_remove.mp hu
      apply hothers u hu hne

/-- The application gives up a pointer to an action, and not the last while there is a context and a
rule holds the action. -/
theorem releaseAction {a : Nat}
    (hkeeps : ∀ n ∈ s.action a, n.app = 1 → n.hw = none ∨ ∀ r ∈ s.rules, a ∉ r.actions) :
  (s.releaseAction a).Backed
  := by
  let f (n : ActionNode) : ActionNode := { n with app := n.app - 1 }
  let s₁ : FlowSpace := { s with actions := update ActionNode.addr a f s.actions }
  have hrefs : Inv (s₁.space used s.uses) := inv_appAction hs.refs a (· - 1)
  have hrelease : s.releaseAction a = s₁.freeAction a := rfl
  have haround := congrArg (fun around => around.2.2) (aroundActions_freeAction s₁ a)
  rw [hrelease]
  by_cases hlast : ∃ n ∈ s.actions, n.addr = a ∧ n.app = 1 ∧ n.hw ≠ none
  · -- the action has a context, so no rule has it and it goes
    obtain ⟨n, hn, rfl, happ, hhw⟩ := hlast
    have hfree : ∀ r ∈ s.rules, n.addr ∉ r.actions :=
      (hkeeps n (lookup_of_mem (nodup_actions hs.refs) hn) happ).resolve_left hhw
    have hmem : f n ∈ s₁.actions := mem_update.mpr ⟨n, hn, if_pos rfl⟩
    have hend : s₁.freeAction n.addr = s₁.endAction (f n) := by
      have hlookup : s₁.action n.addr = some (f n) := lookup_of_mem (nodup_actions hrefs) hmem
      have hzero : (f n).app = 0 := by
        dsimp only [f]
        omega
      rw [freeAction, hlookup]
      apply if_pos ⟨hzero, hfree⟩
    apply hs.around _ haround
    rw [hend]
    refine ⟨inv_endAction hrefs hmem ?_, ?_⟩
    · intro r hr hmem
      apply hfree r hr (mem_used_rule.mp hmem)
    · intro m hm
      obtain ⟨hm, hne⟩ := mem_remove.mp hm
      obtain ⟨m', hm', rfl⟩ := mem_update.mp hm
      by_cases haddr : m'.addr = n.addr
      · rw [if_pos haddr] at hne
        cases hne haddr
      · rw [if_neg haddr]
        apply hs.actions m' hm'
  · have hshared : s₁.Shared s.uses := by
      refine ⟨hrefs, ?_⟩
      apply forall_mem_update
      · intro n hn _
        apply hs.actions n hn
      · intro n hn haddr hhw
        have hpos := hs.actions n hn hhw
        have hne : n.app ≠ 1 := fun hone => hlast ⟨n, hn, haddr, hone, hhw⟩
        dsimp only [f]
        omega
    apply hs.around (hshared.freeAction a) haround

omit hs in
/-- If the application has pointers to the actions whose contexts are made, then it has pointers to
the actions with contexts afterwards. -/
theorem kept_applyActions {s : FlowSpace} (hnodup : (s.actions.map ActionNode.addr).Nodup)
    (hkept : ∀ n ∈ s.actions, n.Kept) {contexts : List (Nat × Outcome)}
    (hheld : ∀ c ∈ contexts, c.2.sent = true → ∀ n ∈ s.action c.1, n.valid = true ∨ 0 < n.app) :
  ∀ n ∈ (s.applyActions contexts).2.actions, n.Kept
  := by
  induction contexts generalizing s with
  | nil => apply hkept
  | cons c contexts ih =>
      obtain ⟨a, o⟩ := c
      have hrest := fun c hc => hheld c (List.mem_cons_of_mem (a, o) hc)
      obtain h | ⟨n, hn, hvalid, h⟩ := s.applyActions_cases a o contexts <;> rw [h]
      · apply ih hnodup hkept hrest
      · have hmade : ∀ m ∈ (s.hwAction a o).actions, m.Kept := by
          apply forall_mem_update
          · intro m hm _
            apply hkept m hm
          · rintro m hm rfl hhw
            obtain rfl : m = n := Option.some.inj ((lookup_of_mem hnodup hm).symm.trans hn)
            cases o with
            | refused ret => apply hkept m hm hhw
            | failed => cases hhw rfl
            | unreported => apply (hheld _ List.mem_cons_self rfl m hn).resolve_left hvalid
            | created => apply (hheld _ List.mem_cons_self rfl m hn).resolve_left hvalid
        split
        · have hkeys : (s.hwAction a o).actions.map ActionNode.addr
              = s.actions.map ActionNode.addr := by
            apply map_update
            intro m
            rfl
          apply ih (hkeys ▸ hnodup) hmade
          intro c hc hsent m hm
          let f (n : ActionNode) : ActionNode :=
            { n with hw := o.hw n.hw s.made, valid := o.marks n.valid }
          have hm : lookup ActionNode.addr c.1 (update ActionNode.addr a f s.actions) = some m := hm
          rw [lookup_update (f := f) fun n => rfl] at hm
          obtain ⟨m', hm', rfl⟩ := Option.map_eq_some_iff.mp hm
          split
          · rename_i haddr
            -- the action whose context is made was not valid
            obtain rfl : m' = n := by
              have hkey := (lookup_eq_some hm').2
              rw [← hkey, haddr] at hm'
              exact Option.some.inj (hm'.symm.trans hn)
            exact .inr ((hrest c hc hsent m' hm').resolve_left hvalid)
          · apply hrest c hc hsent m' hm'
        · apply hmade

theorem createRule {k : Nat} {contexts : List (Nat × Outcome)} {o : Outcome}
    (hkeeps : ∀ r ∈ s.rule k, (o.sent = true → r.hw = none)
      ∧ ∀ c ∈ contexts, c.1 ∈ r.actions → c.2.sent = true →
        ∀ n ∈ s.action c.1, n.valid = true ∨ n.hw = none ∧ 0 < n.app) :
  (s.createRule k contexts o).2.Backed
  := by
  obtain h | ⟨r, s', hr, hs', h⟩ := s.createRule_cases k contexts o
  · rw [h]
    apply hs
  · obtain ⟨hhw, hcontexts⟩ := hkeeps r hr
    have haround := aroundActions_applyActions s (contexts.filter fun c => c.1 ∈ r.actions)
    have happlied : s'.Backed := by
      have hmade (c : Nat × Outcome) (hc : c ∈ contexts.filter fun c => c.1 ∈ r.actions) :
          c.2.sent = true → ∀ n ∈ s.action c.1, n.valid = true ∨ n.hw = none ∧ 0 < n.app := by
        obtain ⟨hc, hmem⟩ := List.mem_filter.mp hc
        apply hcontexts c hc (by simpa using hmem)
      rw [← hs']
      apply hs.around ⟨inv_applyActions hs.refs _,
        kept_applyActions (nodup_actions hs.refs) hs.actions _⟩
      · apply congrArg (fun around => around.2.2) haround
      · intro c hc hsent n hn
        apply (hmade c hc hsent n hn).imp_right And.left
      · intro c hc hsent n hn
        apply (hmade c hc hsent n hn).imp_right And.right
    rw [hs'] at haround
    have hrules : s'.rules = s.rules := congrArg Prod.fst haround
    rcases h with h | h <;> rw [h]
    · apply happlied
    · obtain ⟨hmem, rfl⟩ := lookup_eq_some hr
      rw [← hrules] at hmem
      refine ⟨⟨inv_hwRule happlied.refs o hmem hhw ?_, happlied.actions⟩, happlied.tables⟩
      intro j hj
      obtain ⟨a, ha, hbind⟩ := List.mem_filterMap.mp hj
      obtain ⟨n, hn, hnum⟩ := Option.bind_eq_some_iff.mp hbind
      obtain ⟨hmem', rfl⟩ := lookup_eq_some hn
      exact ⟨_, actionItem_mem hmem', List.mem_map_of_mem ha, hnum⟩

end Backed

/-! ### Runs -/

/-- No `create` sends its command for an object that has a HW object, or for an action to which the
application has no pointer.  The application does not give up its last pointer to a table that
another has as its miss table, or to an action that has a context and that a rule has. -/
def KeepsUsed (s : FlowSpace) : FlowCall → Prop
  | .releaseTable k => ∀ t ∈ s.table k, t.app = 1 → ∀ t' ∈ s.tables, t'.miss ≠ some k
  | .releaseAction a => ∀ n ∈ s.action a, n.app = 1 → n.hw = none ∨ ∀ r ∈ s.rules, a ∉ r.actions
  | .createRule k contexts o => ∀ r ∈ s.rule k, (o.sent = true → r.hw = none)
      ∧ ∀ c ∈ contexts, c.1 ∈ r.actions → c.2.sent = true →
        ∀ n ∈ s.action c.1, n.valid = true ∨ n.hw = none ∧ 0 < n.app
  | c => s.Keeps c

instance (s : FlowSpace) : ∀ c, Decidable (s.KeepsUsed c)
  | .releaseTable _ => inferInstanceAs (Decidable (∀ _ ∈ _, _))
  | .releaseAction _ => inferInstanceAs (Decidable (∀ _ ∈ _, _))
  | .createTable k o => inferInstanceAs (Decidable (s.Keeps (.createTable k o)))
  | .createGroup k o => inferInstanceAs (Decidable (s.Keeps (.createGroup k o)))
  | .createRule _ _ _ => inferInstanceAs (Decidable (∀ _ ∈ _, _))
  | .createFlowTable _ _ _ _ | .addFlowGroup _ _ _ | .addFlowRule _ _ _ _ | .removeFlowRule _ _
  | .removeFlowGroup _ _ | .copyTable _ | .createAction _ _ | .copyAction _ => isTrue trivial

theorem Backed.step {s : FlowSpace} (hs : s.Backed) {c : FlowCall} (hkeeps : s.KeepsUsed c) :
  (s.step c).Backed
  := by
  cases c with
  | createFlowTable addr level fwd miss => apply hs.createFlowTable
  | createTable k o => apply hs.createTable hkeeps
  | addFlowGroup k addr pos => apply hs.addFlowGroup
  | createGroup k o => apply hs.createGroup hkeeps
  | addFlowRule k addr pos actions => apply hs.addFlowRule
  | createRule k contexts o => apply hs.createRule hkeeps
  | removeFlowRule k rule => apply hs.removeFlowRule
  | removeFlowGroup k group => apply hs.removeFlowGroup
  | copyTable k => apply hs.copyTable
  | releaseTable k => apply hs.releaseTable hkeeps
  | createAction addr o => apply hs.createAction
  | copyAction a => apply hs.copyAction
  | releaseAction a => apply hs.releaseAction hkeeps

/-- No command destroys a HW object that another one uses: a context of a HW rule, or the HW table
to which a HW table forwards. -/
def UsersFirst (s : FlowSpace) : Prop :=
  ∀ l ∈ s.uses, Before l.1 l.2 s.log

instance (s : FlowSpace) : Decidable s.UsersFirst :=
  inferInstanceAs (Decidable (∀ _ ∈ _, _))

/-- In a run in which the application keeps a pointer to an action with a context, and to a table,
until the rules and tables that hold it are gone, users are destroyed first. -/
theorem usersFirst_run {calls calls' : List FlowCall} (hkeeps : Along step KeepsUsed empty calls)
    (hinitial : calls' <+: calls) :
  (run step empty calls').UsersFirst
  := by
  obtain ⟨rest, rfl⟩ := hinitial
  have hbacked : (run step empty calls').Backed := by
    apply inv_run_of_along _ hkeeps.left Backed.empty
    intro s c hkeeps hs
    apply hs.step hkeeps
  intro l hl
  apply (hbacked.refs.ordered l hl).1

/-- A table forwards to another one and has a rule with a reformat action; the application gives up
its pointers to the first table, then to the action and to the second table. -/
theorem usersFirst_release :
  let calls : List FlowCall := [.createFlowTable 1 2 false none, .createTable 1 .created,
    .createFlowTable 2 1 true (some 1), .createTable 2 .created, .addFlowGroup 2 3 0,
    .createGroup 3 .created, .createAction 4 .created, .createAction 5 (.refused .ok),
    .addFlowRule 3 6 0 [4, 5], .createRule 6 [] .created, .releaseTable 2, .releaseAction 4,
    .releaseTable 1]
  Along step KeepsUsed empty calls ∧ (run step empty calls).uses = [(4, 3), (1, 0)]
    ∧ (run step empty calls).log = [4, 2, 1, 3, 0] ∧ (run step empty calls).UsersFirst
  := ⟨by decide, by decide, by decide, usersFirst_run (by decide) List.prefix_rfl⟩

/-- The application gives up its pointer to the action before the rule is removed: the context is
destroyed while the HW rule is there. -/
theorem not_usersFirst_releaseAction :
  ¬ (run step empty [.createFlowTable 1 1 false none, .createTable 1 .created,
    .addFlowGroup 1 2 0, .createGroup 2 .created, .createAction 4 .created,
    .createAction 5 (.refused .ok), .addFlowRule 2 3 0 [4, 5], .createRule 3 [] .created,
    .releaseAction 4, .removeFlowRule 2 3]).UsersFirst
  := by
  decide

end FlowSpace

end Dpcp
