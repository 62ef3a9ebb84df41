import Dpcp.Flow.Table
import Dpcp.Machine.Keyed
import Dpcp.Machine.Run

/-!
# Tables, groups, rules and actions together

The application has pointers to tables and actions.  A table holds its groups and its miss table, a
group holds its rules, and a rule holds its actions.  An object goes when the last pointer to it
goes; its destructor gives up what it holds, and its base class destroys its HW object last.

Here an object is its address with the pointers it holds, whether it is marked as created, and the
number of its HW object.  How a `create` ends is an argument of the call; `create_outcome` of the
three classes says how it comes about.  HW objects are numbered as they are made, and the destroy
commands are kept in the order in which they are sent.

The sets of groups and rules have no order of their own: a new element goes to any place of the
list, so that a destructor can come upon the elements in any order.
-/

namespace Dpcp

open Machine Keyed

/-- A `flow_rule_ex_prm`, in the `m_rules` of `group`, with its `m_actions`. -/
structure RuleNode where
  addr : Nat
  group : Nat
  actions : List Nat
  hw : Option Nat

/-- A `flow_group_prm`, in the `m_groups` of `table`. -/
structure GroupNode where
  addr : Nat
  table : Nat
  initialized : Bool
  hw : Option Nat

/-- A `flow_table_prm`; `fwd` tells whether it forwards to its miss table, `app` counts the pointers
of the application. -/
structure TableNode where
  addr : Nat
  level : Nat
  fwd : Bool
  miss : Option Nat
  app : Nat
  initialized : Bool
  hw : Option Nat

/-- A `flow_action`; `valid` is the `m_is_valid` of an action that has a HW object. -/
structure ActionNode where
  addr : Nat
  app : Nat
  valid : Bool
  hw : Option Nat

/-- What there is.  The tables come with the newest first.  `made` counts the HW objects that were
made, `log` has those for which a destroy command was sent.  `contains` has the HW rules and groups
with the HW group and table they were made in, `uses` the HW rules and tables with the contexts and
the miss table they were made to use. -/
structure FlowSpace where
  tables : List TableNode
  groups : List GroupNode
  rules : List RuleNode
  actions : List ActionNode
  made : Nat
  log : List Nat
  contains : List (Nat × Nat)
  uses : List (Nat × Nat)

namespace Outcome

/-- A command is sent. -/
def sent : Outcome → Bool
  | refused _ => false
  | _ => true

/-- The HW object that is made, under the number `n`. -/
def new (n : Nat) : Outcome → Option Nat
  | unreported => some n
  | created => some n
  | _ => none

/-- The HW object an object has afterwards, if it had `hw`. -/
def hw (hw : Option Nat) (n : Nat) : Outcome → Option Nat
  | refused _ => hw
  | o => o.new n

/-- The number of HW objects after a creation. -/
def count (n : Nat) (o : Outcome) : Nat :=
  if (o.new n).isSome then n + 1 else n

/-- A new HW object beside others that it is made in or uses. -/
def links (n : Nat) (others : List Nat) (o : Outcome) : List (Nat × Nat) :=
  (o.new n).toList.flatMap fun i => others.map fun j => (i, j)

end Outcome

namespace FlowSpace

/-- Nothing. -/
def empty : FlowSpace :=
  ⟨[], [], [], [], 0, [], [], []⟩

/-- The objects under an address. -/
def table (s : FlowSpace) (k : Nat) : Option TableNode := lookup TableNode.addr k s.tables
def group (s : FlowSpace) (k : Nat) : Option GroupNode := lookup GroupNode.addr k s.groups
def rule (s : FlowSpace) (k : Nat) : Option RuleNode := lookup RuleNode.addr k s.rules
def action (s : FlowSpace) (k : Nat) : Option ActionNode := lookup ActionNode.addr k s.actions

/-- A list with an element put at a place. -/
def insert {α : Type} (pos : Nat) (x : α) (l : List α) : List α :=
  l.take pos ++ x :: l.drop pos

/-! ### Destructors -/

/-- The base class of an action destroys the HW object, and the action is gone; likewise for the
others. -/
def endAction (s : FlowSpace) (n : ActionNode) : FlowSpace :=
  { s with actions := remove ActionNode.addr n.addr s.actions, log := s.log ++ n.hw.toList }

def endRule (s : FlowSpace) (r : RuleNode) : FlowSpace :=
  { s with rules := remove RuleNode.addr r.addr s.rules, log := s.log ++ r.hw.toList }

def endGroup (s : FlowSpace) (g : GroupNode) : FlowSpace :=
  { s with groups := remove GroupNode.addr g.addr s.groups, log := s.log ++ g.hw.toList }

def endTable (s : FlowSpace) (t : TableNode) : FlowSpace :=
  { s with tables := remove TableNode.addr t.addr s.tables, log := s.log ++ t.hw.toList }

/-- A pointer to the action was given up.  The action goes if it was the last. -/
def freeAction (s : FlowSpace) (a : Nat) : FlowSpace :=
  match s.action a with
  | none => s
  | some n => if n.app = 0 ∧ ∀ r ∈ s.rules, a ∉ r.actions then s.endAction n else s

/-- The pointers of `m_actions` are given up. -/
def clearActions (s : FlowSpace) (r : RuleNode) : FlowSpace :=
  { s with rules := update RuleNode.addr r.addr (fun r => { r with actions := [] }) s.rules }

/-- The destructor of a rule: `m_actions` goes first, the base class last. -/
def destructRule (s : FlowSpace) (r : RuleNode) : FlowSpace :=
  (r.actions.foldl freeAction (s.clearActions r)).endRule r

/-- The destructor of a group: `m_rules`, and then the base class. -/
def destructGroup (s : FlowSpace) (g : GroupNode) : FlowSpace :=
  ((s.rules.filter fun r => r.group = g.addr).foldl destructRule s).endGroup g

/-- The destructor of a table: `m_groups`, and then the base class. -/
def destructTable (s : FlowSpace) (t : TableNode) : FlowSpace :=
  ((s.groups.filter fun g => g.table = t.addr).foldl destructGroup s).endTable t

/-- The tables that go when a pointer to the table `k` was given up, the table itself first.  Its
`m_attr` gives up a pointer to the miss table, which is an older table; `newer` are the newer
tables that stay. -/
def dying (newer : List TableNode) (k : Nat) : List TableNode → List TableNode
  | [] => []
  | t :: older =>
      if t.addr = k then
        if t.app = 0 ∧ ∀ t' ∈ newer, t'.miss ≠ some k then
          t :: match t.miss with
            | some miss => dying newer miss older
            | none => []
        else []
      else dying (t :: newer) k older

/-! ### Calls -/

/-- `adapter::create_flow_table`, when the type and the capabilities allow it.  An address that is
in use stands for a failed allocation. -/
def createFlowTable (s : FlowSpace) (addr level : Nat) (fwd : Bool) (miss : Option Nat) :
    Result FlowSpace :=
  if level = 0 then
    (.errInvalidParam, s)
  -- the application has a pointer to the miss table, so it is there
  else if (s.table addr).isSome ∨ miss.any (fun k => (s.table k).isNone) then
    (.errNoMemory, s)
  else
    (.ok, { s with tables := ⟨addr, level, fwd, miss, 1, false, none⟩ :: s.tables })

/-- The miss table of a table that forwards to it. -/
def missTable (s : FlowSpace) (t : TableNode) : Option TableNode :=
  if t.fwd then t.miss.bind s.table else none

/-- `flow_table_prm::create`, with the check of `set_miss_action`. -/
def createTable (s : FlowSpace) (k : Nat) (o : Outcome) : Result FlowSpace :=
  match s.table k with
  | none => (.errInvalidParam, s)
  | some t =>
      if t.initialized then
        (.ok, s)
      else if t.fwd ∧ ¬ (s.missTable t).any (fun m => m.initialized ∧ t.level < m.level) then
        (.errInvalidParam, s)
      else
        (o.status, { s with
          tables := update TableNode.addr k (fun t =>
            { t with hw := o.hw t.hw s.made, initialized := o.marks t.initialized }) s.tables
          made := o.count s.made
          uses := o.links s.made ((s.missTable t).bind TableNode.hw).toList ++ s.uses })

/-- `flow_table_prm::add_flow_group`, with `create_flow_group`. -/
def addFlowGroup (s : FlowSpace) (k addr pos : Nat) : Result FlowSpace :=
  match s.table k with
  | none => (.errInvalidParam, s)
  | some t =>
      if !t.initialized then
        (.errNotApplied, s)
      else if (s.group addr).isSome then
        (.errNoMemory, s)
      else
        (.ok, { s with groups := insert pos ⟨addr, k, false, none⟩ s.groups })

/-- `flow_group_prm::create`. -/
def createGroup (s : FlowSpace) (k : Nat) (o : Outcome) : Result FlowSpace :=
  match s.group k with
  | none => (.errInvalidParam, s)
  | some g =>
      if g.initialized then
        (.errNoMemory, s)
      else
        match s.table g.table with
        | none => (.errInvalidParam, s)
        | some t =>
            if !t.initialized then
              (.errInvalidParam, s)
            else
              (o.status, { s with
                groups := update GroupNode.addr k (fun g =>
                  { g with hw := o.hw g.hw s.made, initialized := o.marks g.initialized }) s.groups
                made := o.count s.made
                contains := o.links s.made t.hw.toList ++ s.contains })

/-- `flow_group_prm::add_flow_rule`, with `create_flow_rule_ex`; `actions` are those that
`verify_flow_actions` puts in the map. -/
def addFlowRule (s : FlowSpace) (k addr pos : Nat) (actions : List Nat) : Result FlowSpace :=
  match s.group k with
  | none => (.errInvalidParam, s)
  | some g =>
      if !g.initialized then
        (.errNotApplied, s)
      -- the application has pointers to the actions, so they are there
      else if (s.rule addr).isSome ∨ ∃ a ∈ actions, (s.action a).isNone then
        (.errNoMemory, s)
      else
        (.ok, { s with rules := insert pos ⟨addr, k, actions, none⟩ s.rules })

/-- The loop of `flow_rule_ex_prm::create` over the actions: `flow_action_modify::apply` creates the
context of an action that is not valid yet.  `contexts` are the actions that come to that, with how
it ends. -/
def applyActions (s : FlowSpace) : List (Nat × Outcome) → Result FlowSpace
  | [] => (.ok, s)
  | (a, o) :: contexts =>
      match s.action a with
      | none => applyActions s contexts
      | some n =>
          if n.valid then
            applyActions s contexts
          else
            let s := { s with
              actions := update ActionNode.addr a (fun n =>
                { n with hw := o.hw n.hw s.made, valid := o.marks n.valid }) s.actions
              made := o.count s.made }
            if o.status = .ok then applyActions s contexts else (o.status, s)

/-- `flow_rule_ex_prm::create`, which does not look whether the rule was created before. -/
def createRule (s : FlowSpace) (k : Nat) (contexts : List (Nat × Outcome)) (o : Outcome) :
    Result FlowSpace :=
  match s.rule k with
  | none => (.errInvalidParam, s)
  | some r =>
      match s.applyActions (contexts.filter fun c => c.1 ∈ r.actions) with
      | (.ok, s) =>
          (o.status, { s with
            rules := update RuleNode.addr k (fun r => { r with hw := o.hw r.hw s.made }) s.rules
            made := o.count s.made
            contains := o.links s.made ((s.group r.group).bind GroupNode.hw).toList ++ s.contains
            uses := o.links s.made (r.actions.filterMap fun a => (s.action a).bind ActionNode.hw)
              ++ s.uses })
      | r => r

/-- `flow_group::remove_flow_rule`. -/
def removeFlowRule (s : FlowSpace) (k rule : Nat) : Result FlowSpace :=
  match s.group k with
  | none => (.errInvalidParam, s)
  | some g =>
      if !g.initialized then
        (.errNotApplied, s)
      else
        match s.rule rule with
        | some r => if r.group = k then (.ok, s.destructRule r) else (.errInvalidParam, s)
        | none => (.errInvalidParam, s)

/-- `flow_table::remove_flow_group`. -/
def removeFlowGroup (s : FlowSpace) (k group : Nat) : Result FlowSpace :=
  match s.table k with
  | none => (.errInvalidParam, s)
  | some t =>
      if !t.initialized then
        (.errNotApplied, s)
      else
        match s.group group with
        | some g => if g.table = k then (.ok, s.destructGroup g) else (.errInvalidParam, s)
        | none => (.errInvalidParam, s)

/-- The application copies a pointer to a table. -/
def copyTable (s : FlowSpace) (k : Nat) : FlowSpace :=
  { s with tables := update TableNode.addr k (fun t => { t with app := t.app + 1 }) s.tables }

/-- The application gives up a pointer to a table. -/
def releaseTable (s : FlowSpace) (k : Nat) : FlowSpace :=
  let s := { s with
    tables := update TableNode.addr k (fun t => { t with app := t.app - 1 }) s.tables }
  (dying [] k s.tables).reverse.foldl destructTable s

/-- A function of `flow_action_generator`.  The constructor of a reformat action creates its
context; the others send no command. -/
def createAction (s : FlowSpace) (addr : Nat) (o : Outcome) : FlowSpace :=
  if (s.action addr).isSome then
    s
  else
    { s with
      actions := ⟨addr, 1, o.marks false, o.hw none s.made⟩ :: s.actions
      made := o.count s.made }

/-- The application copies a pointer to an action. -/
def copyAction (s : FlowSpace) (a : Nat) : FlowSpace :=
  { s with actions := update ActionNode.addr a (fun n => { n with app := n.app + 1 }) s.actions }

/-- The application gives up a pointer to an action. -/
def releaseAction (s : FlowSpace) (a : Nat) : FlowSpace :=
  let s := { s with
    actions := update ActionNode.addr a (fun n => { n with app := n.app - 1 }) s.actions }
  s.freeAction a

/-! ### What a call can do -/

/-- A command of a `create` was sent or refused: a rule has what came of it, under the next number;
likewise for the others, which also have a mark. -/
def hwRule (s : FlowSpace) (k : Nat) (o : Outcome) : FlowSpace :=
  { s with
    rules := update RuleNode.addr k (fun r => { r with hw := o.hw r.hw s.made }) s.rules
    made := o.count s.made }

def hwGroup (s : FlowSpace) (k : Nat) (o : Outcome) : FlowSpace :=
  { s with
    groups := update GroupNode.addr k (fun g =>
      { g with hw := o.hw g.hw s.made, initialized := o.marks g.initialized }) s.groups
    made := o.count s.made }

def hwTable (s : FlowSpace) (k : Nat) (o : Outcome) : FlowSpace :=
  { s with
    tables := update TableNode.addr k (fun t =>
      { t with hw := o.hw t.hw s.made, initialized := o.marks t.initialized }) s.tables
    made := o.count s.made }

def hwAction (s : FlowSpace) (a : Nat) (o : Outcome) : FlowSpace :=
  { s with
    actions := update ActionNode.addr a (fun n =>
      { n with hw := o.hw n.hw s.made, valid := o.marks n.valid }) s.actions
    made := o.count s.made }

section Cases

variable (s : FlowSpace)

theorem createFlowTable_cases (addr level : Nat) (fwd : Bool) (miss : Option Nat) :
  (s.createFlowTable addr level fwd miss).2 = s
    ∨ s.table addr = none ∧ (∀ k, miss = some k → ∃ t ∈ s.tables, t.addr = k)
      ∧ (s.createFlowTable addr level fwd miss).2
        = { s with tables := ⟨addr, level, fwd, miss, 1, false, none⟩ :: s.tables }
  := by
  rw [createFlowTable]
  split
  · exact .inl rfl
  · split
    · exact .inl rfl
    · rename_i h
      obtain ⟨haddr, hmiss⟩ := not_or.mp h
      refine .inr ⟨Option.not_isSome_iff_eq_none.mp haddr, ?_, rfl⟩
      rintro k rfl
      obtain ⟨t, ht⟩ := Option.ne_none_iff_exists'.mp (by simpa using hmiss)
      exact ⟨t, lookup_eq_some ht⟩

theorem createTable_cases (k : Nat) (o : Outcome) :
  (s.createTable k o).2 = s
    ∨ ∃ t, s.table k = some t ∧ ¬ t.initialized = true
      ∧ (s.createTable k o).2 = { s.hwTable k o with
        uses := o.links s.made ((s.missTable t).bind TableNode.hw).toList ++ s.uses }
  := by
  rw [createTable]
  split
  · exact .inl rfl
  · rename_i t ht
    split
    · exact .inl rfl
    · rename_i hinit
      split
      · exact .inl rfl
      · exact .inr ⟨t, ht, hinit, rfl⟩

theorem addFlowGroup_cases (k addr pos : Nat) :
  (s.addFlowGroup k addr pos).2 = s
    ∨ (∃ t ∈ s.tables, t.addr = k) ∧ s.group addr = none
      ∧ (s.addFlowGroup k addr pos).2
        = { s with groups := insert pos ⟨addr, k, false, none⟩ s.groups }
  := by
  rw [addFlowGroup]
  split
  · exact .inl rfl
  · rename_i t ht
    split
    · exact .inl rfl
    · split
      · exact .inl rfl
      · rename_i haddr
        exact .inr ⟨⟨t, lookup_eq_some ht⟩, Option.not_isSome_iff_eq_none.mp haddr, rfl⟩

theorem createGroup_cases (k : Nat) (o : Outcome) :
  (s.createGroup k o).2 = s
    ∨ ∃ g t, s.group k = some g ∧ ¬ g.initialized = true ∧ s.table g.table = some t
      ∧ (s.createGroup k o).2
        = { s.hwGroup k o with contains := o.links s.made t.hw.toList ++ s.contains }
  := by
  rw [createGroup]
  split
  · exact .inl rfl
  · rename_i g hg
    split
    · exact .inl rfl
    · rename_i hinit
      split
      · exact .inl rfl
      · rename_i t ht
        split
        · exact .inl rfl
        · exact .inr ⟨g, t, hg, hinit, ht, rfl⟩

theorem addFlowRule_cases (k addr pos : Nat) (actions : List Nat) :
  (s.addFlowRule k addr pos actions).2 = s
    ∨ (∃ g ∈ s.groups, g.addr = k) ∧ s.rule addr = none
      ∧ (∀ a ∈ actions, ∃ n ∈ s.actions, n.addr = a)
      ∧ (s.addFlowRule k addr pos actions).2
        = { s with rules := insert pos ⟨addr, k, actions, none⟩ s.rules }
  := by
  rw [addFlowRule]
  split
  · exact .inl rfl
  · rename_i g hg
    split
    · exact .inl rfl
    · split
      · exact .inl rfl
      · rename_i h
        obtain ⟨haddr, hactions⟩ := not_or.mp h
        refine .inr ⟨⟨g, lookup_eq_some hg⟩, Option.not_isSome_iff_eq_none.mp haddr, ?_, rfl⟩
        intro a ha
        obtain ⟨n, hn⟩ := Option.ne_none_iff_exists'.mp fun hnone =>
          hactions ⟨a, ha, Option.isNone_iff_eq_none.mpr hnone⟩
        exact ⟨n, lookup_eq_some hn⟩

/-- One turn of the loop over the actions. -/
theorem applyActions_cases (a : Nat) (o : Outcome) (contexts : List (Nat × Outcome)) :
  s.applyActions ((a, o) :: contexts) = s.applyActions contexts
    ∨ ∃ n, s.action a = some n ∧ ¬ n.valid = true
      ∧ s.applyActions ((a, o) :: contexts)
        = if o.status = .ok then (s.hwAction a o).applyActions contexts
          else (o.status, s.hwAction a o)
  := by
  rw [applyActions]
  split
  · exact .inl rfl
  · rename_i n hn
    split
    · exact .inl rfl
    · rename_i hvalid
      exact .inr ⟨n, hn, hvalid, rfl⟩

theorem createRule_cases (k : Nat) (contexts : List (Nat × Outcome)) (o : Outcome) :
  (s.createRule k contexts o).2 = s
    ∨ ∃ r s', s.rule k = some r
      ∧ (s.applyActions (contexts.filter fun c => c.1 ∈ r.actions)).2 = s'
      ∧ ((s.createRule k contexts o).2 = s'
        ∨ (s.createRule k contexts o).2 = { s'.hwRule k o with
          contains := o.links s'.made ((s'.group r.group).bind GroupNode.hw).toList ++ s'.contains
          uses := o.links s'.made (r.actions.filterMap fun a => (s'.action a).bind ActionNode.hw)
            ++ s'.uses })
  := by
  rw [createRule]
  split
  · exact .inl rfl
  · rename_i r hr
    right
    refine ⟨r, _, hr, rfl, ?_⟩
    split
    · rename_i s' hs'
      rw [hs']
      exact .inr rfl
    · exact .inl rfl

theorem removeFlowRule_cases (k rule : Nat) :
  (s.removeFlowRule k rule).2 = s
    ∨ ∃ r ∈ s.rules, (s.removeFlowRule k rule).2 = s.destructRule r
  := by
  rw [removeFlowRule]
  split
  · exact .inl rfl
  · split
    · exact .inl rfl
    · split
      · rename_i r hr
        split
        · exact .inr ⟨r, (lookup_eq_some hr).1, rfl⟩
        · exact .inl rfl
      · exact .inl rfl

theorem removeFlowGroup_cases (k group : Nat) :
  (s.removeFlowGroup k group).2 = s
    ∨ ∃ g ∈ s.groups, (s.removeFlowGroup k group).2 = s.destructGroup g
  := by
  rw [removeFlowGroup]
  split
  · exact .inl rfl
  · split
    · exact .inl rfl
    · split
      · rename_i g hg
        split
        · exact .inr ⟨g, (lookup_eq_some hg).1, rfl⟩
        · exact .inl rfl
      · exact .inl rfl

theorem freeAction_cases (a : Nat) :
  s.freeAction a = s ∨ ∃ n ∈ s.actions, s.freeAction a = s.endAction n
    ∧ n.app = 0 ∧ ∀ r ∈ s.rules, n.addr ∉ r.actions
  := by
  rw [freeAction]
  split
  · exact .inl rfl
  · rename_i n hn
    obtain ⟨hmem, rfl⟩ := lookup_eq_some hn
    split
    · rename_i hfree
      exact .inr ⟨n, hmem, rfl, hfree⟩
    · exact .inl rfl

end Cases

end FlowSpace

/-- A call, with what the world outside decides during it. -/
inductive FlowCall where
  | createFlowTable (addr level : Nat) (fwd : Bool) (miss : Option Nat)
  | createTable (k : Nat) (o : Outcome)
  | addFlowGroup (k addr pos : Nat)
  | createGroup (k : Nat) (o : Outcome)
  | addFlowRule (k addr pos : Nat) (actions : List Nat)
  | createRule (k : Nat) (contexts : List (Nat × Outcome)) (o : Outcome)
  | removeFlowRule (k rule : Nat)
  | removeFlowGroup (k group : Nat)
  | copyTable (k : Nat)
  | releaseTable (k : Nat)
  | createAction (addr : Nat) (o : Outcome)
  | copyAction (a : Nat)
  | releaseAction (a : Nat)

namespace FlowSpace

/-- What there is after a call. -/
def step (s : FlowSpace) : FlowCall → FlowSpace
  | .createFlowTable addr level fwd miss => (s.createFlowTable addr level fwd miss).2
  | .createTable k o => (s.createTable k o).2
  | .addFlowGroup k addr pos => (s.addFlowGroup k addr pos).2
  | .createGroup k o => (s.createGroup k o).2
  | .addFlowRule k addr pos actions => (s.addFlowRule k addr pos actions).2
  | .createRule k contexts o => (s.createRule k contexts o).2
  | .removeFlowRule k rule => (s.removeFlowRule k rule).2
  | .removeFlowGroup k group => (s.removeFlowGroup k group).2
  | .copyTable k => s.copyTable k
  | .releaseTable k => s.releaseTable k
  | .createAction addr o => s.createAction addr o
  | .copyAction a => s.copyAction a
  | .releaseAction a => s.releaseAction a

end FlowSpace

end Dpcp
