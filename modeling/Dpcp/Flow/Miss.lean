import Dpcp.Flow.Chain

/-!
# Miss tables over the calls on tables

A table that is created with the miss action `FT_MISS_ACTION_FWD` forwards what it does not match to
its miss table.  The pointer to the miss table is in the attributes of the table, which are copied
when the table is made and never written again; `flow_table_prm::create` looks at the miss table
once.

Here the application makes, creates, copies and gives up tables in any order, and the device answers
as it likes.  Tables are numbered as they are made, and a pointer to a table is its number, so that
a table is never taken for another one.
-/

namespace Dpcp

open Machine Keyed Bits Dcmd Prm

/-! ### The tables of an adapter -/

/-- The capabilities of a type of flow tables, as far as `create_flow_table` looks at them. -/
structure FlowTableTypeCapabilities where
  isFlowTableSupported : Bool
  maxLogSizeFlowTable : BitVec 8
  maxFlowTableLevel : BitVec 32

/-- `FT_RX` of `enum flow_table_type`. -/
def ftRx : BitVec 32 := 0x0

/-- `adapter::verify_flow_table_receive_attr`. -/
def verifyFlowTableReceiveAttr (caps : FlowTableTypeCapabilities) (attr : FlowTableAttr) :
    Status :=
  if !caps.isFlowTableSupported then
    .errCreate
  else if caps.maxLogSizeFlowTable < attr.logSize then
    .errInvalidParam
  else if caps.maxFlowTableLevel < attr.level.setWidth 32 then
    .errInvalidParam
  else
    .ok

/-- A flow table, of one of the two classes.  A root table is created as soon as it is made. -/
inductive FlowTableObj where
  | prm (table : DevxTable)
  | kernel (type : BitVec 32)

namespace FlowTableObj

/-- `DEFAULT_LEVEL` of `flow_table_kernel`. -/
def defaultLevel : BitVec 8 := 64

/-- The pointer cast to `flow_table_prm`. -/
def toPrm : FlowTableObj → Option DevxTable
  | prm t => some t
  | kernel _ => none

/-- `m_is_initialized`. -/
def isInitialized : FlowTableObj → Bool
  | prm t => t.mIsInitialized
  | kernel _ => true

def level : FlowTableObj → BitVec 8
  | prm t => t.mAttr.level
  | kernel _ => defaultLevel

/-- The table is created, with the miss action `FT_MISS_ACTION_FWD`. -/
def forwards : FlowTableObj → Bool
  | prm t =>
      match t.mAttr.defMissAction with
      | .fwd => t.mIsInitialized
      | _ => false
  | kernel _ => false

end FlowTableObj

/-- A table under its number, with the table in `m_attr.table_miss`; `app` counts the pointers of
the application, and for a root table also the one of the adapter. -/
structure HeldTable where
  num : Nat
  obj : FlowTableObj
  tableMiss : Option Nat
  app : Nat

/-- The pointers of a table and to it. -/
def HeldTable.node (t : HeldTable) : TableNode where
  addr := t.num
  level := 0
  fwd := false
  miss := t.tableMiss
  app := t.app
  initialized := false
  hw := none

/-- The tables, with the newest first, and how many were made. -/
structure TableSpace where
  tables : List HeldTable
  made : Nat

namespace TableSpace

/-- Nothing. -/
def empty : TableSpace :=
  ⟨[], 0⟩

/-- The table under a number. -/
def table (s : TableSpace) (k : Nat) : Option HeldTable :=
  lookup HeldTable.num k s.tables

/-- The tables without those that go. -/
def without (gone : List TableNode) (tables : List HeldTable) : List HeldTable :=
  tables.filter fun t => ∀ d ∈ gone, t.num ≠ d.addr

/-- A new table, to which there is one pointer. -/
def add (s : TableSpace) (obj : FlowTableObj) (tableMiss : Option Nat) : TableSpace :=
  ⟨⟨s.made, obj, tableMiss, 1⟩ :: s.tables, s.made + 1⟩

/-- A pointer to a table is copied. -/
def copy (s : TableSpace) (k : Nat) : TableSpace :=
  { s with tables := update HeldTable.num k (fun t => { t with app := t.app + 1 }) s.tables }

/-- A pointer to a table is given up. -/
def release (s : TableSpace) (k : Nat) : TableSpace :=
  let tables := update HeldTable.num k (fun t => { t with app := t.app - 1 }) s.tables
  { s with tables := without (FlowSpace.dying [] k (tables.map HeldTable.node)) tables }

/-- `adapter::create_flow_table`, of an adapter with the context `ctx` and the capabilities `caps`.
The attributes have the pointer `tableMiss`, and `table` is what the pointer was that is reset. -/
def createFlowTable (s : TableSpace) (ctx : Bool) (caps : FlowTableTypeCapabilities)
    (attr : FlowTableAttr) (tableMiss table : Option Nat) (alloc : Bool) : Result TableSpace :=
  if attr.level = 0 then
    (.errInvalidParam, s)
  else
    let ret := if attr.type = ftRx then verifyFlowTableReceiveAttr caps attr else .errNoSupport
    if ret ≠ .ok then
      (ret, s)
    else
      -- the attributes are copied to the new table before the old pointer is given up
      let s' := if alloc then s.add (.prm (.new ctx attr)) tableMiss else s
      (if alloc then .ok else .errNoMemory, table.elim s' s'.release)

/-- What `m_attr.table_miss` of a table points to, if it is a PRM table. -/
def missTable (s : TableSpace) (t : HeldTable) : Option DevxTable :=
  (t.tableMiss.bind s.table).bind fun m => m.obj.toPrm

/-- `flow_table_prm::create`, or `flow_table_kernel::create`. -/
def create (s : TableSpace) (k : Nat) (device : Device) : Result TableSpace :=
  match s.table k with
  | none => (.errInvalidParam, s)
  | some t =>
      match t.obj with
      | .kernel _ => (.ok, s)
      | .prm obj =>
          let (ret, obj) := obj.create (s.missTable t) device
          (ret, { s with
            tables := update HeldTable.num k (fun t => { t with obj := .prm obj }) s.tables })

end TableSpace

/-- A call on tables.  `newRootTable` is the part of `adapter::get_root_table` that makes a root
table; otherwise a pointer is copied. -/
inductive TableCall where
  | createFlowTable (ctx : Bool) (caps : FlowTableTypeCapabilities) (attr : FlowTableAttr)
      (tableMiss table : Option Nat) (alloc : Bool)
  | newRootTable (type : BitVec 32)
  | create (k : Nat) (device : Device)
  | copy (k : Nat)
  | release (k : Nat)

/-- The tables to which a call has pointers. -/
def TableCall.pointers : TableCall → List Nat
  | createFlowTable _ _ _ tableMiss table _ => tableMiss.toList ++ table.toList
  | newRootTable _ => []
  | create k _ => [k]
  | copy k => [k]
  | release k => [k]

namespace TableSpace

/-- A call that can be made. -/
def exec (s : TableSpace) : TableCall → Result TableSpace
  | .createFlowTable ctx caps attr tableMiss table alloc =>
      s.createFlowTable ctx caps attr tableMiss table alloc
  | .newRootTable type => (.ok, s.add (.kernel type) none)
  | .create k device => s.create k device
  | .copy k => (.ok, s.copy k)
  | .release k => (.ok, s.release k)

/-- A call.  A table to which there is a pointer is there. -/
def call (s : TableSpace) (c : TableCall) : Result TableSpace :=
  if ∀ k ∈ c.pointers, (s.table k).isSome then s.exec c else (.errInvalidParam, s)

/-- What there is after a call. -/
def step (s : TableSpace) (c : TableCall) : TableSpace :=
  (s.call c).2

end TableSpace

/-! ### What becomes of a table -/

/-- A command with the miss action `FT_MISS_ACTION_FWD` is sent only if there is a miss table,
created and of a higher level. -/
theorem DevxTable.miss_of_command {t : DevxTable} {tableMiss : Option DevxTable} {c : Obj.Command}
    (h : t.command tableMiss = .ok c) (hfwd : t.mAttr.defMissAction = .fwd) :
  ∃ miss, tableMiss = some miss ∧ miss.mIsInitialized = true
    ∧ t.mAttr.level < miss.mAttr.level
  := by
  obtain ⟨m, hmiss, -⟩ := mailbox_of_command h
  rcases setMissAction_cases hmiss with ⟨hdef, -⟩ | ⟨-, miss, htable, hinit, hlevel, -⟩
  · cases hfwd.symm.trans hdef
  · exact ⟨miss, htable, hinit, hlevel⟩

/-- The attributes stay, and so does the mark of a table that was created.  A table that is created
only now and forwards has looked at its miss table. -/
theorem DevxTable.create_spec (t : DevxTable) (tableMiss : Option DevxTable) (device : Device) :
  let t' := (t.create tableMiss device).2
  t'.mAttr = t.mAttr ∧ (t.mIsInitialized = true → t'.mIsInitialized = true)
    ∧ (t'.mIsInitialized = true → t.mAttr.defMissAction = .fwd → t.mIsInitialized = true
      ∨ ∃ miss, tableMiss = some miss ∧ miss.mIsInitialized = true
        ∧ t.mAttr.level < miss.mAttr.level)
  := by
  intro t'
  cases hcommand : t.command tableMiss with
  | error ret =>
      have ht' : t' = t := by
        simp only [t', create, hcommand]
      rw [ht']
      exact ⟨rfl, id, fun hinit _ => .inl hinit⟩
  | ok c =>
      simp only [t', create, hcommand]
      refine ⟨?_, ?_, fun _ hfwd => .inr (miss_of_command hcommand hfwd)⟩
      · split <;> rfl
      · intro hinit
        split
        · rfl
        · apply hinit

namespace FlowTableObj

theorem forwards_prm {t : DevxTable} :
  (prm t).forwards = true ↔ t.mAttr.defMissAction = .fwd ∧ t.mIsInitialized = true
  := by
  rw [forwards]
  split
  · rename_i hfwd
    simp [hfwd]
  · rename_i hother
    constructor
    · nofun
    · intro h
      cases hother h.1

theorem level_of_toPrm {obj : FlowTableObj} {t : DevxTable} (h : obj.toPrm = some t) :
  obj.level = t.mAttr.level
  := by
  cases obj <;> cases h
  rfl

end FlowTableObj

/-- The table at a later time: its class and its attributes are the same, and it is still created
if it was. -/
def FlowTableObj.Later : FlowTableObj → FlowTableObj → Prop
  | prm t, prm t' => t'.mAttr = t.mAttr ∧ (t.mIsInitialized = true → t'.mIsInitialized = true)
  | kernel type, kernel type' => type = type'
  | _, _ => False

namespace FlowTableObj

theorem Later.refl (obj : FlowTableObj) :
  obj.Later obj
  := by
  cases obj with
  | prm t => exact ⟨rfl, id⟩
  | kernel type => exact rfl

theorem Later.trans {a b c : FlowTableObj} (hab : a.Later b) (hbc : b.Later c) :
  a.Later c
  := by
  cases a <;> cases b <;> cases c <;> try contradiction
  · exact ⟨hbc.1.trans hab.1, hbc.2 ∘ hab.2⟩
  · apply Eq.trans hab hbc

variable {obj obj' : FlowTableObj} (h : obj.Later obj')

include h

theorem Later.level :
  obj'.level = obj.level
  := by
  cases obj <;> cases obj' <;> try contradiction
  · apply congrArg FlowTableAttr.level h.1
  · rfl

theorem Later.isInitialized (hinit : obj.isInitialized = true) :
  obj'.isInitialized = true
  := by
  cases obj <;> cases obj' <;> try contradiction
  · apply h.2 hinit
  · rfl

/-- A PRM table that was created is one later on. -/
theorem Later.toPrm {t : DevxTable} (ht : obj.toPrm = some t) (hinit : t.mIsInitialized = true) :
  ∃ t', obj'.toPrm = some t' ∧ t'.mIsInitialized = true
  := by
  cases obj <;> cases obj' <;> try contradiction
  cases ht
  exact ⟨_, rfl, h.2 hinit⟩

end FlowTableObj

/-- A table at a later time. -/
structure HeldTable.Later (t t' : HeldTable) : Prop where
  num : t'.num = t.num
  tableMiss : t'.tableMiss = t.tableMiss
  obj : t.obj.Later t'.obj

/-- The miss table of the first table is the second one, which is a PRM table, created and of a
higher level. -/
structure HeldTable.LinksTo (t m : HeldTable) : Prop where
  tableMiss : t.tableMiss = some m.num
  created : ∃ p, m.obj.toPrm = some p ∧ p.mIsInitialized = true
  level : t.obj.level < m.obj.level

namespace HeldTable

theorem Later.refl (t : HeldTable) :
  t.Later t
  := ⟨rfl, rfl, .refl t.obj⟩

theorem Later.trans {a b c : HeldTable} (hab : a.Later b) (hbc : b.Later c) :
  a.Later c
  := ⟨hbc.num.trans hab.num, hbc.tableMiss.trans hab.tableMiss, hab.obj.trans hbc.obj⟩

/-- A link is there as long as the two tables are. -/
theorem LinksTo.later {t t' m m' : HeldTable} (h : t.LinksTo m) (ht : t.Later t')
    (hm : m.Later m') :
  t'.LinksTo m'
  := by
  obtain ⟨p, hp, hinit⟩ := h.created
  constructor
  · rw [ht.tableMiss, hm.num]
    apply h.tableMiss
  · apply hm.obj.toPrm hp hinit
  · rw [ht.obj.level, hm.obj.level]
    apply h.level

end HeldTable

namespace TableSpace

/-- The second state comes after the first: a table that is in both is the same one. -/
structure Later (s s' : TableSpace) : Prop where
  made : s.made ≤ s'.made
  old : ∀ t' ∈ s'.tables, t'.num < s.made → ∃ t ∈ s.tables, t.Later t'

theorem Later.refl (s : TableSpace) :
  s.Later s
  := ⟨Nat.le_refl s.made, fun t ht _ => ⟨t, ht, .refl t⟩⟩

theorem Later.trans {a b c : TableSpace} (hab : a.Later b) (hbc : b.Later c) :
  a.Later c
  := by
  refine ⟨Nat.le_trans hab.made hbc.made, ?_⟩
  intro t'' ht'' hnum
  obtain ⟨t', ht', hlater'⟩ := hbc.old t'' ht'' (Nat.lt_of_lt_of_le hnum hab.made)
  rw [hlater'.num] at hnum
  obtain ⟨t, ht, hlater⟩ := hab.old t' ht' hnum
  exact ⟨t, ht, hlater.trans hlater'⟩

/-- A change of one table. -/
theorem Later.update {s : TableSpace} {k : Nat} {f : HeldTable → HeldTable}
    (hf : ∀ t ∈ s.tables, t.num = k → t.Later (f t)) :
  s.Later { s with tables := Keyed.update HeldTable.num k f s.tables }
  := by
  refine ⟨Nat.le_refl s.made, ?_⟩
  apply forall_mem_update
  · intro t ht _ _
    exact ⟨t, ht, .refl t⟩
  · intro t ht hkey _
    exact ⟨t, ht, hf t ht hkey⟩

/-! ### Calls -/

/-- Tables have numbers of their own and point to older tables, every table is pointed to, and a
table that forwards has a link. -/
structure Linked (s : TableSpace) : Prop where
  nodup : (s.tables.map HeldTable.num).Nodup
  fresh : ∀ t ∈ s.tables, t.num < s.made
  chained : Chained (s.tables.map HeldTable.node)
  pointed : ∀ t ∈ s.tables.map HeldTable.node, Pointed (s.tables.map HeldTable.node) t
  forwards : ∀ t ∈ s.tables, t.obj.forwards = true → ∃ m ∈ s.tables, t.LinksTo m

/-- The miss table of a table is there. -/
theorem miss_of_chained {tables : List HeldTable} (h : Chained (tables.map HeldTable.node))
    {t : HeldTable} (ht : t ∈ tables) {k : Nat} (hk : t.tableMiss = some k) :
  ∃ m ∈ tables, m.num = k
  := by
  obtain ⟨node, hnode, hnum⟩ := h.of_mem (List.mem_map_of_mem ht) hk
  obtain ⟨m, hm, rfl⟩ := List.mem_map.mp hnode
  exact ⟨m, hm, hnum⟩

/-- The miss table that `create` looks at. -/
theorem missTable_eq_some {s : TableSpace} {t : HeldTable} {miss : DevxTable}
    (h : s.missTable t = some miss) :
  ∃ m ∈ s.tables, t.tableMiss = some m.num ∧ m.obj.toPrm = some miss
  := by
  obtain ⟨m, hm, hprm⟩ := Option.bind_eq_some_iff.mp h
  obtain ⟨k, hk, hlookup⟩ := Option.bind_eq_some_iff.mp hm
  obtain ⟨hmem, rfl⟩ := lookup_eq_some hlookup
  exact ⟨m, hmem, hk, hprm⟩

/-- The pointers of the tables, when the application has more or fewer of them to one. -/
theorem map_node_app (k : Nat) (app : Nat → Nat) (tables : List HeldTable) :
  (Keyed.update HeldTable.num k (fun t => { t with app := app t.app }) tables).map HeldTable.node
    = Keyed.update TableNode.addr k (fun t => { t with app := app t.app })
      (tables.map HeldTable.node)
  := by
  symm
  apply update_map <;> intro t
  · exact Iff.rfl
  · rfl

/-- A table that is there when a pointer was given up was there before. -/
theorem mem_release {s : TableSpace} {k : Nat} {t : HeldTable} (ht : t ∈ (s.release k).tables) :
  ∃ u ∈ s.tables, u.num = t.num ∧ u.obj = t.obj ∧ u.Later t
  := by
  obtain ⟨u, hu, rfl⟩ := mem_update.mp (List.mem_of_mem_filter ht)
  refine ⟨u, hu, ?_⟩
  split
  · exact ⟨rfl, rfl, rfl, rfl, .refl u.obj⟩
  · exact ⟨rfl, rfl, .refl u⟩

theorem Later.release (s : TableSpace) (k : Nat) :
  s.Later (s.release k)
  := by
  refine ⟨Nat.le_refl s.made, ?_⟩
  intro t ht _
  obtain ⟨u, hu, -, -, hlater⟩ := mem_release ht
  exact ⟨u, hu, hlater⟩

namespace Linked

theorem empty : TableSpace.empty.Linked where
  nodup := List.nodup_nil
  fresh := List.forall_mem_nil _
  chained := trivial
  pointed := List.forall_mem_nil _
  forwards := List.forall_mem_nil _

variable {s : TableSpace} (hs : s.Linked)

include hs

/-- A link stays as long as the table from which it leads. -/
theorem links_later {s' : TableSpace} (hlater : s.Later s')
    (hchained : Chained (s'.tables.map HeldTable.node)) {t m t' : HeldTable} (hm : m ∈ s.tables)
    (hlinks : t.LinksTo m) (ht' : t' ∈ s'.tables) (ht : t.Later t') :
  ∃ m' ∈ s'.tables, m'.num = m.num ∧ t'.LinksTo m'
  := by
  have hmiss : t'.tableMiss = some m.num := ht.tableMiss.trans hlinks.tableMiss
  obtain ⟨m', hm', hnum⟩ := miss_of_chained hchained ht' hmiss
  obtain ⟨m₀, hm₀, hlater₀⟩ := hlater.old m' hm' (hnum ▸ hs.fresh m hm)
  obtain rfl : m₀ = m := eq_of_key hs.nodup hm₀ hm (hlater₀.num.symm.trans hnum)
  exact ⟨m', hm', hnum, hlinks.later ht hlater₀⟩

/-- The next state is in order if the pointers are, and if a table that forwards from now on has a
link. -/
theorem of_later {s' : TableSpace} (hlater : s.Later s')
    (hnodup : (s'.tables.map HeldTable.num).Nodup) (hfresh : ∀ t ∈ s'.tables, t.num < s'.made)
    (hchained : Chained (s'.tables.map HeldTable.node))
    (hpointed : ∀ t ∈ s'.tables.map HeldTable.node, Pointed (s'.tables.map HeldTable.node) t)
    (hnew : ∀ t' ∈ s'.tables, t'.obj.forwards = true →
      (∃ t ∈ s.tables, t.num = t'.num ∧ t.obj.forwards = true) ∨ ∃ m ∈ s'.tables, t'.LinksTo m) :
  s'.Linked
  := by
  refine ⟨hnodup, hfresh, hchained, hpointed, ?_⟩
  intro t' ht' hforwards
  rcases hnew t' ht' hforwards with ⟨t, ht, hnum, hforwards⟩ | hlinks
  · obtain ⟨t₀, ht₀, hlater₀⟩ := hlater.old t' ht' (hnum ▸ hs.fresh t ht)
    obtain rfl : t₀ = t := eq_of_key hs.nodup ht₀ ht (hlater₀.num.symm.trans hnum.symm)
    obtain ⟨m, hm, hlinks⟩ := hs.forwards t₀ ht hforwards
    obtain ⟨m', hm', -, hlinks'⟩ := hs.links_later hlater hchained hm hlinks ht' hlater₀
    exact ⟨m', hm', hlinks'⟩
  · apply hlinks

/-- A new table that does not forward. -/
theorem add {obj : FlowTableObj} (hobj : obj.forwards = false) {tableMiss : Option Nat}
    (hmiss : ∀ k, tableMiss = some k → (s.table k).isSome) :
  (s.add obj tableMiss).Linked ∧ s.Later (s.add obj tableMiss)
  := by
  have hlater : s.Later (s.add obj tableMiss) := by
    refine ⟨Nat.le_succ s.made, ?_⟩
    intro t ht hnum
    rcases List.mem_cons.mp ht with rfl | ht
    · cases Nat.lt_irrefl _ hnum
    · exact ⟨t, ht, .refl t⟩
  refine ⟨hs.of_later hlater ?_ ?_ ?_ ?_ ?_, hlater⟩
  · apply List.nodup_cons.mpr ⟨_, hs.nodup⟩
    intro hmem
    obtain ⟨t, ht, hnum⟩ := List.mem_map.mp hmem
    apply Nat.ne_of_lt (hs.fresh t ht) hnum
  · intro t ht
    rcases List.mem_cons.mp ht with rfl | ht
    · apply Nat.lt_succ_self
    · apply Nat.lt_succ_of_lt (hs.fresh t ht)
  · refine ⟨?_, hs.chained⟩
    intro k hk
    obtain ⟨m, hm⟩ := Option.isSome_iff_exists.mp (hmiss k hk)
    obtain ⟨hmem, hnum⟩ := lookup_eq_some hm
    exact ⟨m.node, List.mem_map_of_mem hmem, hnum⟩
  · intro node hnode
    rcases List.mem_cons.mp hnode with rfl | hnode
    · exact .inl Nat.one_pos
    · apply (hs.pointed node hnode).mono
      apply List.subset_cons_self
  · intro t ht hforwards
    rcases List.mem_cons.mp ht with rfl | ht
    · rw [hobj] at hforwards
      cases hforwards
    · exact .inl ⟨t, ht, rfl, hforwards⟩

/-- A change of one table, if the pointers stay in order. -/
theorem update {k : Nat} {f : HeldTable → HeldTable}
    (hf : ∀ t ∈ s.tables, t.num = k → t.Later (f t))
    (hchained : Chained ((update HeldTable.num k f s.tables).map HeldTable.node))
    (hpointed : ∀ t ∈ (Keyed.update HeldTable.num k f s.tables).map HeldTable.node,
      Pointed ((Keyed.update HeldTable.num k f s.tables).map HeldTable.node) t)
    (hnew : ∀ t ∈ s.tables, t.num = k → (f t).obj.forwards = true →
      t.obj.forwards = true ∨ ∃ m ∈ s.tables, (f t).LinksTo m) :
  let s' := { s with tables := Keyed.update HeldTable.num k f s.tables }
  s'.Linked ∧ s.Later s'
  := by
  intro s'
  have hlater : s.Later s' := Later.update hf
  have hnum : s'.tables.map HeldTable.num = s.tables.map HeldTable.num := by
    simp only [s', Keyed.update, List.map_map]
    apply List.map_congr_left
    intro t ht
    by_cases hkey : t.num = k
    · simp [hkey, (hf t ht hkey).num]
    · simp [hkey]
  refine ⟨hs.of_later hlater (hnum ▸ hs.nodup) ?_ hchained hpointed ?_, hlater⟩
  · apply forall_mem_update
    · intro t ht _
      apply hs.fresh t ht
    · intro t ht hkey
      rw [(hf t ht hkey).num]
      apply hs.fresh t ht
  · apply forall_mem_update
    · intro t ht _ hforwards
      exact .inl ⟨t, ht, rfl, hforwards⟩
    · intro t ht hkey hforwards
      rcases hnew t ht hkey hforwards with hforwards | ⟨m, hm, hlinks⟩
      · exact .inl ⟨t, ht, (hf t ht hkey).num.symm, hforwards⟩
      · have hm' : m.Later (if m.num = k then f m else m) := by
          split
          · rename_i hkey
            apply hf m hm hkey
          · apply HeldTable.Later.refl
        exact .inr ⟨_, mem_update.mpr ⟨m, hm, rfl⟩, hlinks.later (.refl _) hm'⟩

theorem copy (k : Nat) :
  (s.copy k).Linked ∧ s.Later (s.copy k)
  := by
  have hnodes := map_node_app k (· + 1) s.tables
  apply hs.update
  · intro t _ _
    exact ⟨rfl, rfl, .refl t.obj⟩
  · rw [hnodes]
    apply hs.chained.update <;> intro t <;> rfl
  · rw [hnodes]
    intro node' hnode'
    obtain ⟨node, hnode, rfl⟩ := mem_update.mp hnode'
    apply (hs.pointed node hnode).update <;> intro t
    · rfl
    · rfl
    · apply Nat.le_succ
  · intro t _ _ hforwards
    exact .inl hforwards

/-- The tables that stay when a pointer was given up. -/
theorem release (k : Nat) :
  (s.release k).Linked ∧ s.Later (s.release k)
  := by
  let f (t : HeldTable) : HeldTable := { t with app := t.app - 1 }
  let tables := Keyed.update HeldTable.num k f s.tables
  let gone := FlowSpace.dying [] k (tables.map HeldTable.node)
  have hnodes := map_node_app k (· - 1) s.tables
  have hstaying : (s.release k).tables.map HeldTable.node
      = staying gone (tables.map HeldTable.node) := by
    rw [staying, List.filter_map]
    rfl
  have hlater := Later.release s k
  obtain ⟨hchained, hparted⟩ : Chained (tables.map HeldTable.node)
      ∧ Parted [] (tables.map HeldTable.node)
        (FlowSpace.dying [] k (tables.map HeldTable.node)) := by
    rw [hnodes]
    apply FlowSpace.dying_released hs.chained _ hs.pointed
    rw [List.map_map]
    apply hs.nodup
  refine ⟨hs.of_later hlater ?_ ?_ ?_ ?_ ?_, hlater⟩
  · apply List.Nodup.sublist (List.filter_sublist.map _)
    have hnum : tables.map HeldTable.num = s.tables.map HeldTable.num := by
      apply map_update
      intro t
      rfl
    apply hnum ▸ hs.nodup
  · intro t ht
    obtain ⟨u, hu, hnum, -⟩ := mem_release ht
    rw [← hnum]
    apply hs.fresh u hu
  · rw [hstaying]
    apply hparted.chained hchained
  · rw [hstaying]
    apply hparted.pointed
  · intro t ht hforwards
    obtain ⟨u, hu, hnum, hobj, -⟩ := mem_release ht
    exact .inl ⟨u, hu, hnum, hobj ▸ hforwards⟩

theorem create (k : Nat) (device : Device) :
  (s.create k device).2.Linked ∧ s.Later (s.create k device).2
  := by
  have hself : s.Linked ∧ s.Later s := ⟨hs, .refl s⟩
  rw [TableSpace.create]
  split
  · apply hself
  · rename_i t ht
    split
    · apply hself
    · rename_i p hp
      obtain ⟨hattr, hinit, hnew⟩ := p.create_spec (s.missTable t) device
      obtain ⟨hmem, rfl⟩ := lookup_eq_some ht
      have hone {u : HeldTable} (hu : u ∈ s.tables) (hnum : u.num = t.num) : u = t :=
        eq_of_key hs.nodup hu hmem hnum
      have hnode (obj : FlowTableObj) : (Keyed.update HeldTable.num t.num
          (fun t => { t with obj := obj }) s.tables).map HeldTable.node
            = s.tables.map HeldTable.node := by
        apply map_update
        intro t
        rfl
      apply hs.update
      · intro u hu hnum
        obtain rfl := hone hu hnum
        refine ⟨rfl, rfl, ?_⟩
        rw [hp]
        exact ⟨hattr, hinit⟩
      · rw [hnode]
        apply hs.chained
      · rw [hnode]
        apply hs.pointed
      · intro u hu hnum hforwards
        obtain rfl := hone hu hnum
        obtain ⟨hfwd, hcreated⟩ := FlowTableObj.forwards_prm.mp hforwards
        rw [hattr] at hfwd
        rcases hnew hcreated hfwd with hinit | ⟨miss, hmiss, hcreated, hlevel⟩
        · left
          rw [hp]
          apply FlowTableObj.forwards_prm.mpr ⟨hfwd, hinit⟩
        · right
          obtain ⟨m, hm, hpointer, hprm⟩ := missTable_eq_some hmiss
          refine ⟨m, hm, hpointer, ⟨miss, hprm, hcreated⟩, ?_⟩
          rw [FlowTableObj.level_of_toPrm hprm, FlowTableObj.level, hattr]
          apply hlevel

theorem createFlowTable {ctx : Bool} {caps : FlowTableTypeCapabilities} {attr : FlowTableAttr}
    {tableMiss : Option Nat} (table : Option Nat) {alloc : Bool}
    (hmiss : ∀ k, tableMiss = some k → (s.table k).isSome) :
  let s' := (s.createFlowTable ctx caps attr tableMiss table alloc).2
  s'.Linked ∧ s.Later s'
  := by
  have hself : s.Linked ∧ s.Later s := ⟨hs, .refl s⟩
  have hmade (s' : TableSpace) (h : s'.Linked ∧ s.Later s') :
      (table.elim s' s'.release).Linked ∧ s.Later (table.elim s' s'.release) := by
    obtain ⟨hs', hlater⟩ := h
    cases table with
    | none => exact ⟨hs', hlater⟩
    | some k => exact ⟨(hs'.release k).1, hlater.trans (hs'.release k).2⟩
  simp only [TableSpace.createFlowTable]
  generalize (if attr.type = ftRx then verifyFlowTableReceiveAttr caps attr
    else .errNoSupport) = ret
  split
  · apply hself
  · split
    · apply hself
    · apply hmade
      split
      · apply hs.add _ hmiss
        simp only [FlowTableObj.forwards, DevxTable.new]
        split <;> rfl
      · apply hself

/-- A call leaves the tables in order, and those that stay are the same. -/
theorem step (c : TableCall) :
  (s.step c).Linked ∧ s.Later (s.step c)
  := by
  rw [TableSpace.step, call]
  split
  · rename_i hpointers
    cases c with
    | createFlowTable ctx caps attr tableMiss table alloc =>
        apply hs.createFlowTable
        intro k hk
        apply hpointers k
        apply List.mem_append_left
        apply Option.mem_toList.mpr hk
    | newRootTable type =>
        apply hs.add rfl
        intro k hk
        cases hk
    | create k device => apply hs.create
    | copy k => apply hs.copy
    | release k => apply hs.release
  · exact ⟨hs, .refl s⟩

end Linked

/-! ### Runs -/

/-- The tables stay in order over a run, and those that stay are the same. -/
theorem Linked.run {s : TableSpace} (hs : s.Linked) (calls : List TableCall) :
  (run TableSpace.step s calls).Linked ∧ s.Later (run TableSpace.step s calls)
  := by
  apply inv_run (I := fun s' => s'.Linked ∧ s.Later s') _ ⟨hs, .refl s⟩
  rintro s' c ⟨hs', hlater⟩
  exact ⟨(hs'.step c).1, hlater.trans (hs'.step c).2⟩

/-- The table to which a packet goes that the table `k` does not match. -/
def next (s : TableSpace) (k : Nat) : Option Nat :=
  (s.table k).bind fun t => if t.obj.forwards then t.tableMiss else none

/-- The level of the table `k`. -/
def rank (s : TableSpace) (k : Nat) : Nat :=
  (s.table k).elim 0 fun t => t.obj.level.toNat

theorem Linked.rank_next {s : TableSpace} (hs : s.Linked) {k j : Nat} (h : s.next k = some j) :
  s.rank k < s.rank j
  := by
  obtain ⟨t, ht, hmiss⟩ := Option.bind_eq_some_iff.mp h
  split at hmiss
  · rename_i hforwards
    obtain ⟨m, hm, hlinks⟩ := hs.forwards t (lookup_eq_some ht).1 hforwards
    obtain rfl : m.num = j := Option.some.inj (hlinks.tableMiss.symm.trans hmiss)
    have hmiss : s.table m.num = some m := lookup_of_mem hs.nodup hm
    simp only [rank, ht, hmiss, Option.elim_some]
    apply hlinks.level
  · cases hmiss

theorem rank_le (s : TableSpace) (k : Nat) :
  s.rank k ≤ 255
  := by
  rw [rank]
  cases s.table k with
  | none => apply Nat.zero_le
  | some t => apply Nat.le_of_lt_succ t.obj.level.isLt

/-- Whatever calls were made, a table that forwards has a created PRM table of a higher level as its
miss table, which is there as long as it is itself, whatever calls are made then; and following miss
tables does not lead back, and ends after at most 255 tables. -/
theorem miss_chain_ends (calls calls' : List TableCall) :
  let s := Machine.run step empty calls
  let s' := Machine.run step s calls'
  (∀ t ∈ s.tables, t.obj.forwards = true → ∃ m ∈ s.tables, t.LinksTo m
    ∧ ∀ t' ∈ s'.tables, t'.num = t.num → ∃ m' ∈ s'.tables, m'.num = m.num ∧ t'.LinksTo m')
  ∧ ∀ k n j, follow s.next n k = some j → n ≤ 255 ∧ (0 < n → j ≠ k)
  := by
  intro s s'
  obtain ⟨hs, -⟩ := Linked.empty.run calls
  obtain ⟨hs', hlater⟩ := hs.run calls'
  constructor
  · intro t ht hforwards
    obtain ⟨m, hm, hlinks⟩ := hs.forwards t ht hforwards
    refine ⟨m, hm, hlinks, ?_⟩
    intro t' ht' hnum
    obtain ⟨t₀, ht₀, hlater₀⟩ := hlater.old t' ht' (hnum ▸ hs.fresh t ht)
    obtain rfl : t₀ = t := eq_of_key hs.nodup ht₀ ht (hlater₀.num.symm.trans hnum)
    apply hs.links_later hlater hs'.chained hm hlinks ht' hlater₀
  · intro k n j h
    have hrank := rank_follow (fun _ _ => hs.rank_next) h
    have hle := rank_le (Machine.run step empty calls) j
    constructor
    · omega
    · rintro hpos rfl
      omega

/-- A table of level 1 that forwards to one of level 2, whose pointer the application has given
up. -/
example :
  let attr (level : BitVec 8) (miss : FlowTableMissAction) : FlowTableAttr :=
    ⟨0, 4, level, ftRx, .normal, miss⟩
  let s := Machine.run step empty
    [.createFlowTable true ⟨true, 8, 64⟩ (attr 2 .dflt) none none true,
      .create 0 fun _ _ => ⟨true, zeros⟩,
      .createFlowTable true ⟨true, 8, 64⟩ (attr 1 .fwd) (some 0) (some 0) true,
      .create 1 fun _ _ => ⟨true, zeros⟩]
  follow s.next 1 1 = some 0 ∧ follow s.next 2 1 = none
  := by
  decide

end TableSpace

end Dpcp
