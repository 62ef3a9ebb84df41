import Dpcp.Flow.RuleKernel
import Dpcp.Flow.Table
import Dpcp.Machine.Run
import Dpcp.Transport.Tir

/-!
# Forward actions that rules share

A `flow_action_fwd` has pointers to its destinations.  Each rule of a PRM table that applies it
reads the ids of the destinations anew.  The first rule of the root table that applies it has it
keep the handles of the destinations, and later rules of the root table get those.

The objects that the device makes for the destinations are numbered.  A destination that is
destroyed keeps its id, and its handle is null from then on.  Whether the two kinds of rules forward
to the same objects is then a matter of what happened to the destinations before and after the first
rule of the root table.
-/

namespace Dpcp

open Bits Dcmd Prm Machine

/-- A `forwardable_obj`, by its dynamic type. -/
inductive Destination where
  | tir (t : Cached TirAttr)
  | table (t : DevxTable)

/-- A call on a destination. -/
inductive DestCall where
  | createTir (attr : TirAttr) (device : Device) (answers : Answers)
  | createTable (tableMiss : Option DevxTable) (device : Device)
  | destroy

namespace Destination

def base : Destination → Obj
  | tir t => t.base
  | table t => t.base

/-- The destination as the action sees it. -/
def obj : Destination → ForwardableObj
  | tir t => ⟨t.base, .tir⟩
  | table t => ⟨t.base, .flowTable⟩

theorem base_obj (d : Destination) :
  d.obj.base = d.base
  := by
  cases d with
  | tir t => rfl
  | table t => rfl

/-- What becomes of a destination. -/
def call : Destination → DestCall → Destination
  | tir t, .createTir attr device answers =>
      ((Tir.create t attr device answers).map fun r => tir r.2).getD (tir t)
  | table t, .createTable tableMiss device => table (t.create tableMiss device).2
  | tir t, .destroy => tir { t with base := t.base.destroy.2 }
  | table t, .destroy => table { t with base := t.base.destroy.2 }
  | d, _ => d

/-- What the device replies to the call, if the call has it make an object. -/
def reply : Destination → DestCall → Option Reply
  | tir t, .createTir attr device _ =>
      if t.base.mObjHandle || !t.base.mCtx then none
      else some (device (Tir.createMailbox attr) CreateTirIn.bytes)
  | table t, .createTable tableMiss device =>
      match t.command tableMiss with
      | .ok c => if t.base.mCtx then some (device c.mailbox c.inlen) else none
      | .error _ => none
  | _, _ => none

/-- The destination is new. -/
def Fresh (d : Destination) : Prop :=
  ∃ ctx, d = tir (Tir.new ctx) ∨ ∃ attr, d = table (.new ctx attr)

/-- The object has what the device replied. -/
structure Takes (o : Obj) (r : Reply) : Prop where
  objHandle : o.mObjHandle = r.handle
  handle : o.mHandle = r.handle
  id : o.mId = devxGet r.out 0 StatusOut.id

/-- The object is what it was, but may be destroyed. -/
structure Keeps (o o' : Obj) : Prop where
  objHandle : o'.mObjHandle = o.mObjHandle
  handle : o'.mHandle = true → o.mHandle = true
  id : o'.mId = o.mId

end Destination

/-- What a creation does to an object. -/
theorem Obj.create_takes (o : Obj) (device : Device) (m : Memory) (inlen outlen : Nat)
    (hlen : ¬ (inlen < 16 ∨ outlen < 16)) (out : Memory) :
  let o' := (o.create device (some m) inlen out outlen).2.1
  if o.mCtx then Destination.Takes o' (device m inlen) else o' = o
  := by
  cases hctx : o.mCtx with
  | false => simp [create, hctx]
  | true =>
      simp only [create, hctx, hlen, Bool.not_true, Bool.false_eq_true, if_false, if_true]
      split
      · exact ⟨rfl, rfl, rfl⟩
      · exact ⟨rfl, rfl, rfl⟩

/-- A cached object that has no handle is created as any other, and then queried. -/
theorem Cached.create_base {A : Type} {k : CachedKind A} {c : Cached A}
    (hhandle : c.base.mObjHandle = false) (attr : A) (device : Device) (answers : Answers) :
  ∃ ret c', c.create k attr device answers = some (ret, c')
    ∧ c'.base.Alike (c.base.create device (some (k.createMailbox attr)) k.createIn zeros
      k.createOut).2.1
  := by
  have hnone : c.base.getHandle ≠ .ok := by simp [Obj.getHandle, hhandle]
  simp only [create, if_neg hnone]
  generalize hmade : c.base.create device (some (k.createMailbox attr)) k.createIn zeros k.createOut
    = made
  obtain ⟨ret, base, out⟩ := made
  cases ret with
  | ok =>
      obtain ⟨hlive, -⟩ := Obj.create_eq_ok hmade
      simp only [Obj.getId_of_live hlive]
      rw [Obj.live, Bool.and_eq_true] at hlive
      generalize (if k.flags c.mAttr = 0 then k.blank else c.mAttr) = mAttr
      obtain ⟨⟨ret, c', out'⟩, hquery⟩ := Option.isSome_iff_exists.mp
        (query_isSome (k := k) ⟨base, mAttr, base.mId⟩ mAttr answers)
      rw [hquery]
      refine ⟨_, _, rfl, ?_⟩
      rcases query_cases hquery with ⟨hnone, -⟩ | ⟨-, -, -, rfl, -⟩ | ⟨-, -, halike, -⟩
      · rw [hlive.1] at hnone
        cases hnone
      · apply Obj.Alike.refl
      · apply halike
  | _ => exact ⟨_, _, rfl, .refl base⟩

namespace Destination

theorem Takes.alike {o o' : Obj} {r : Reply} (h : Takes o r) (halike : o'.Alike o) :
  Takes o' r
  := ⟨halike.objHandle.trans h.objHandle, halike.handle.trans h.handle, halike.id.trans h.id⟩

theorem Keeps.refl (o : Obj) :
  Keeps o o
  := ⟨rfl, fun h => h, rfl⟩

theorem Keeps.destroy (o : Obj) :
  Keeps o o.destroy.2
  := by
  rw [Obj.destroy]
  split
  · refine ⟨rfl, ?_, rfl⟩
    intro h
    cases h
  · apply Keeps.refl

theorem base_createTir (t : Cached TirAttr) (attr : TirAttr) (device : Device) (answers : Answers) :
  match (tir t).reply (.createTir attr device answers) with
  | some r => Takes ((tir t).call (.createTir attr device answers)).base r
  | none => Keeps t.base ((tir t).call (.createTir attr device answers)).base
  := by
  have htakes := t.base.create_takes device (Tir.createMailbox attr) CreateTirIn.bytes
    CreateTirOut.bytes (by decide) zeros
  cases hhandle : t.base.mObjHandle with
  | true =>
      have hcall : (tir t).call (.createTir attr device answers) = tir t := by
        simp [call, Tir.create, Cached.create, Obj.getHandle, hhandle]
      simp only [reply, hhandle, hcall, Bool.true_or, if_true]
      apply Keeps.refl
  | false =>
      obtain ⟨ret, t', hcreate, halike⟩ := Cached.create_base (k := Tir.kind) hhandle attr device
        answers
      have hcall : (tir t).call (.createTir attr device answers) = tir t' := by
        simp [call, Tir.create, hcreate]
      simp only [reply, hhandle, hcall, Bool.false_or]
      cases hctx : t.base.mCtx with
      | true =>
          rw [hctx, if_pos rfl] at htakes
          apply htakes.alike halike
      | false =>
          rw [hctx, if_neg Bool.false_ne_true] at htakes
          have halike : t'.base.Alike t.base := htakes ▸ halike
          exact ⟨halike.objHandle, fun h => halike.handle ▸ h, halike.id⟩

theorem length_of_command {t : DevxTable} {tableMiss : Option DevxTable} {c : Obj.Command}
    (h : t.command tableMiss = .ok c) :
  ¬ (c.inlen < 16 ∨ c.outlen < 16)
  := by
  simp only [DevxTable.command] at h
  split at h
  · cases h
  · split at h
    · cases h
      simp [CreateFlowTableIn.bytes, CreateFlowTableOut.bytes]
    · cases h

theorem base_createTable (t : DevxTable) (tableMiss : Option DevxTable) (device : Device) :
  match (table t).reply (.createTable tableMiss device) with
  | some r => Takes ((table t).call (.createTable tableMiss device)).base r
  | none => Keeps t.base ((table t).call (.createTable tableMiss device)).base
  := by
  cases hcommand : t.command tableMiss with
  | error ret =>
      simp only [reply, call, DevxTable.create, hcommand]
      apply Keeps.refl
  | ok c =>
      have hbase : (t.create tableMiss device).2.base
          = (t.base.create device (some c.mailbox) c.inlen zeros c.outlen).2.1 := by
        simp only [DevxTable.create, hcommand]
        split <;> rfl
      have htakes := t.base.create_takes device c.mailbox c.inlen c.outlen
        (length_of_command hcommand) zeros
      rw [← hbase] at htakes
      simp only [reply, call, hcommand]
      cases hctx : t.base.mCtx with
      | true =>
          rw [hctx, if_pos rfl] at htakes
          apply htakes
      | false =>
          rw [hctx, if_neg Bool.false_ne_true] at htakes
          simp only [Bool.false_eq_true, if_false, base, htakes]
          apply Keeps.refl

/-- A call has the destination take what the device replied, or keeps it. -/
theorem base_call (d : Destination) (c : DestCall) :
  match d.reply c with
  | some r => Takes (d.call c).base r
  | none => Keeps d.base (d.call c).base
  := by
  cases d with
  | tir t =>
      cases c with
      | createTir attr device answers => apply base_createTir
      | createTable tableMiss device => apply Keeps.refl
      | destroy => apply Keeps.destroy
  | table t =>
      cases c with
      | createTir attr device answers => apply Keeps.refl
      | createTable tableMiss device => apply base_createTable
      | destroy => apply Keeps.destroy

end Destination

/-! ### The action -/

/-- A forward action with its destinations.  `hw` is the object of the device for which a
destination has its id, with the number `ids`, and `made` counts those objects. -/
structure SharedForward where
  obj : Nat → Destination
  hw : Nat → Option Nat
  ids : Nat → BitVec 32
  made : Nat
  mDests : List Nat
  /-- The handles that `m_root_action_fwd` keeps. -/
  mRootActionFwd : Option (List (Option Nat))

/-- What can be done: a call on a destination, or a rule of the root table that applies the
action. -/
inductive ForwardCall where
  | dest (k : Nat) (c : DestCall)
  | rootRule (env : RootEnv) (desc : FlowDesc)

namespace SharedForward

/-- The action as `apply` sees it. -/
def action (s : SharedForward) : FlowActionFwd :=
  ⟨s.mDests.map fun k => (s.obj k).obj, s.mRootActionFwd.isSome⟩

/-- The handle that `get_handle` returns, null after `destroy`. -/
def handle (s : SharedForward) (k : Nat) : Option Nat :=
  if (s.obj k).base.mHandle then s.hw k else none

/-- The handles that a rule of the root table gets. -/
def passed (s : SharedForward) : List (Option Nat) :=
  s.mRootActionFwd.getD (s.mDests.map s.handle)

/-- The objects whose ids a rule of a PRM table gets. -/
def written (s : SharedForward) : List (Option Nat) :=
  s.mDests.map s.hw

/-- A call on a destination. -/
def onDest (s : SharedForward) (k : Nat) (c : DestCall) : SharedForward :=
  let s' := { s with obj := Function.update s.obj k ((s.obj k).call c) }
  match (s.obj k).reply c with
  | none => s'
  | some r =>
      if r.handle then
        { s' with
          hw := Function.update s.hw k (some s.made)
          ids := Function.update s.ids s.made (devxGet r.out 0 StatusOut.id)
          made := s.made + 1 }
      else
        { s' with hw := Function.update s.hw k none }

/-- A rule of the root table applies the action. -/
def rootRule (s : SharedForward) (env : RootEnv) (desc : FlowDesc) : SharedForward :=
  match s.action.applyRoot env desc with
  | (.ok, _) => { s with mRootActionFwd := some s.passed }
  | _ => s

def step (s : SharedForward) : ForwardCall → SharedForward
  | .dest k c => s.onDest k c
  | .rootRule env desc => s.rootRule env desc

/-- The device is asked for an object for `k`, with this reply. -/
def replies (s : SharedForward) (k : Nat) : ForwardCall → Option Reply
  | .dest j c => if j = k then (s.obj k).reply c else none
  | .rootRule _ _ => none

/-- A destination that can be asked for its id has the one of the object that was made for it. -/
structure Named (o : Obj) (hw : Option Nat) (ids : Nat → BitVec 32) (made : Nat) : Prop where
  handle : o.mHandle = true → o.mObjHandle = true
  id : o.mObjHandle = true → ∃ n, hw = some n ∧ o.mId = ids n
  lt : ∀ n, hw = some n → n < made

namespace Named

variable {o : Obj} {hw : Option Nat} {ids : Nat → BitVec 32} {made : Nat}

/-- A destination without an object. -/
theorem of_none (ids : Nat → BitVec 32) (made : Nat) (hhandle : o.mHandle = false)
    (hobj : o.mObjHandle = false) :
  Named o none ids made
  := by
  refine ⟨?_, ?_, nofun⟩
  · intro h
    rw [hhandle] at h
    cases h
  · intro h
    rw [hobj] at h
    cases h

theorem keeps (h : Named o hw ids made) {o' : Obj} (hkeeps : Destination.Keeps o o') :
  Named o' hw ids made
  := by
  refine ⟨?_, ?_, h.lt⟩
  · intro hhandle
    rw [hkeeps.objHandle]
    apply h.handle (hkeeps.handle hhandle)
  · intro hobj
    rw [hkeeps.objHandle] at hobj
    rw [hkeeps.id]
    apply h.id hobj

/-- An object that is made for another destination. -/
theorem made_succ (h : Named o hw ids made) (id : BitVec 32) :
  Named o hw (Function.update ids made id) (made + 1)
  := by
  refine ⟨h.handle, ?_, fun n hn => Nat.lt_succ_of_lt (h.lt n hn)⟩
  intro hobj
  obtain ⟨n, rfl, hid⟩ := h.id hobj
  refine ⟨n, rfl, ?_⟩
  rw [Function.update_of_ne (h.lt n rfl).ne, hid]

/-- The object that is made for this one. -/
theorem takes {r : Reply} (htakes : Destination.Takes o r) :
  Named o (some made) (Function.update ids made (devxGet r.out 0 StatusOut.id)) (made + 1)
  := by
  refine ⟨?_, ?_, ?_⟩
  · rw [htakes.handle, htakes.objHandle]
    exact fun h => h
  · intro _
    refine ⟨made, rfl, ?_⟩
    rw [Function.update_self, htakes.id]
  · rintro n ⟨⟩
    apply Nat.lt_succ_self

/-- A call that concerns one destination. -/
theorem update {obj : Nat → Destination} {hws : Nat → Option Nat}
    (h : ∀ j, Named (obj j).base (hws j) ids made) {k : Nat} {d : Destination}
    (hd : Named d.base hw ids made) (j : Nat) :
  Named (Function.update obj k d j).base (Function.update hws k hw j) ids made
  := by
  by_cases hj : j = k
  · subst hj
    rw [Function.update_self, Function.update_self]
    apply hd
  · rw [Function.update_of_ne hj, Function.update_of_ne hj]
    apply h j

end Named

/-- The destinations have the ids of the objects that were made for them. -/
def Labelled (s : SharedForward) : Prop :=
  ∀ k, Named (s.obj k).base (s.hw k) s.ids s.made

/-- The action of new destinations. -/
structure Fresh (s : SharedForward) : Prop where
  obj : ∀ k, (s.obj k).Fresh
  hw : ∀ k, s.hw k = none
  root : s.mRootActionFwd = none

theorem Fresh.labelled {s : SharedForward} (hs : s.Fresh) :
  s.Labelled
  := by
  intro k
  rw [hs.hw k]
  obtain ⟨ctx, htir | ⟨attr, htable⟩⟩ := hs.obj k
  · rw [htir]
    exact Named.of_none _ _ rfl rfl
  · rw [htable]
    exact Named.of_none _ _ rfl rfl

theorem Labelled.onDest {s : SharedForward} (hs : s.Labelled) (k : Nat) (c : DestCall) :
  (s.onDest k c).Labelled
  := by
  have hcall := (s.obj k).base_call c
  rw [SharedForward.onDest]
  cases hreply : (s.obj k).reply c with
  | none =>
      rw [hreply] at hcall
      have hupdate := Named.update (k := k) hs ((hs k).keeps hcall)
      rw [Function.update_eq_self] at hupdate
      apply hupdate
  | some r =>
      rw [hreply] at hcall
      simp only
      cases hhandle : r.handle with
      | false =>
          apply Named.update hs
          apply Named.of_none _ _ (hcall.handle.trans hhandle) (hcall.objHandle.trans hhandle)
      | true =>
          apply Named.update (fun j => (hs j).made_succ _)
          apply Named.takes hcall

theorem Labelled.step {s : SharedForward} (hs : s.Labelled) (c : ForwardCall) :
  (s.step c).Labelled
  := by
  cases c with
  | dest k c => apply hs.onDest
  | rootRule env desc =>
      rw [SharedForward.step, SharedForward.rootRule]
      split
      · apply hs
      · apply hs

theorem Labelled.run {s : SharedForward} (hs : s.Labelled) (l : List ForwardCall) :
  (Machine.run SharedForward.step s l).Labelled
  := inv_run (I := Labelled) (fun _ c h => h.step c) hs l

/-! ### The objects that rules get -/

section Objects

variable {s : SharedForward} {k n : Nat}

/-- A call that the device has no part in leaves a destination with its object. -/
theorem hw_step_of_none {c : ForwardCall} (h : s.replies k c = none) :
  (s.step c).hw k = s.hw k
  := by
  cases c with
  | rootRule env desc =>
      rw [step, rootRule]
      split
      · rfl
      · rfl
  | dest j c =>
      rw [step, onDest]
      by_cases hj : j = k
      · subst hj
        rw [replies, if_pos rfl] at h
        rw [h]
      · cases (s.obj j).reply c with
        | none => rfl
        | some r =>
            cases hhandle : r.handle with
            | false => simp [hhandle, Function.update_of_ne (Ne.symm hj)]
            | true => simp [hhandle, Function.update_of_ne (Ne.symm hj)]

/-- The object that is made for a destination is a new one. -/
theorem hw_step_of_some {c : ForwardCall} {r : Reply} (h : s.replies k c = some r)
    (hn : n < s.made) :
  (s.step c).hw k ≠ some n
  := by
  cases c with
  | rootRule env desc => cases h
  | dest j c =>
      rw [replies] at h
      split at h
      case isTrue hj =>
        subst hj
        rw [step, onDest, h]
        cases hhandle : r.handle with
        | false => simp [hhandle]
        | true => simp [hhandle, hn.ne']
      case isFalse => cases h

theorem made_le_step (s : SharedForward) (c : ForwardCall) :
  s.made ≤ (s.step c).made
  := by
  cases c with
  | rootRule env desc =>
      rw [step, rootRule]
      split
      · apply Nat.le_refl
      · apply Nat.le_refl
  | dest j c =>
      rw [step, onDest]
      cases (s.obj j).reply c with
      | none => apply Nat.le_refl
      | some r =>
          cases hhandle : r.handle with
          | false => simp [hhandle]
          | true => simp [hhandle]

/-- An object that a destination has no longer does not come back. -/
theorem hw_run_ne (hn : n < s.made) (hne : s.hw k ≠ some n) (l : List ForwardCall) :
  (run step s l).hw k ≠ some n
  := by
  let Lost (s : SharedForward) : Prop := n < s.made ∧ s.hw k ≠ some n
  have hlost : Lost (run step s l) := by
    apply inv_run (I := Lost) _ ⟨hn, hne⟩
    rintro s c ⟨hn, hne⟩
    refine ⟨hn.trans_le (s.made_le_step c), ?_⟩
    cases hreply : s.replies k c with
    | none =>
        rw [hw_step_of_none hreply]
        apply hne
    | some r =>
        apply hw_step_of_some hreply hn
  apply hlost.2

/-- A destination has the same object after a run just if the device was never asked for another
one. -/
theorem hw_run_iff (hhw : s.hw k = some n) (hn : n < s.made) (l : List ForwardCall) :
  (run step s l).hw k = some n ↔ Along step (fun s c => s.replies k c = none) s l
  := by
  induction l generalizing s with
  | nil => exact iff_of_true hhw trivial
  | cons c l ih =>
      have hmade := hn.trans_le (s.made_le_step c)
      rw [run_cons, Along]
      cases hreply : s.replies k c with
      | none =>
          rw [ih ((hw_step_of_none hreply).trans hhw) hmade]
          simp
      | some r =>
          have hrun := hw_run_ne hmade (hw_step_of_some hreply hn) l
          simp [hrun]

end Objects

/-! ### The rules -/

section Rules

variable {s : SharedForward}

theorem objHandle_of_setDests {m m' : Memory} {p : Nat} {l : List Nat}
    (h : FlowActionFwd.setDests m p (l.map fun k => (s.obj k).obj) = (.ok, m')) :
  ∀ k ∈ l, (s.obj k).base.mObjHandle = true
  := by
  induction l generalizing m p with
  | nil => simp
  | cons k l ih =>
      rw [List.map_cons, FlowActionFwd.setDests, Obj.getId, Destination.base_obj] at h
      cases hobj : (s.obj k).base.mObjHandle with
      | false =>
          rw [hobj] at h
          cases h
      | true =>
          rw [hobj] at h
          rw [List.forall_mem_cons]
          exact ⟨hobj, ih h⟩

/-- A rule of a PRM table gets the ids of destinations that all have one. -/
theorem objHandle_of_apply {m m' : Memory} (h : s.action.apply m = (.ok, m')) :
  ∀ k ∈ s.mDests, (s.obj k).base.mObjHandle = true
  := by
  rw [FlowActionFwd.apply, Result.andThen_eq_ok] at h
  obtain ⟨m₁, hdests, -⟩ := h
  apply objHandle_of_setDests hdests

/-- The first rule of the root table gets the handles of destinations that all have one. -/
theorem objHandle_of_applyRoot (hroot : s.mRootActionFwd = none) {env : RootEnv} {desc : FlowDesc}
    (h : (s.action.applyRoot env desc).1 = .ok) :
  ∀ k ∈ s.mDests, (s.obj k).base.mObjHandle = true
  := by
  have hfalse : s.action.mRootActionFwd = false := by simp [action, hroot]
  simp only [FlowActionFwd.applyRoot, hfalse, Bool.false_eq_true, if_false] at h
  split at h
  · cases h
  case isFalse hall =>
    simpa [action, Destination.base_obj] using hall

/-- What the first rule of the root table gets is kept. -/
theorem rootRule_eq {env : RootEnv} {desc : FlowDesc}
    (h : (s.action.applyRoot env desc).1 = .ok) :
  s.rootRule env desc = { s with mRootActionFwd := some s.passed }
  := by
  rw [rootRule]
  split
  · rfl
  case h_2 hne =>
    rcases hmade : s.action.applyRoot env desc with ⟨ret, a⟩
    rw [hmade] at h
    cases h
    cases hne _ hmade

theorem onDest_action (s : SharedForward) (k : Nat) (c : DestCall) :
  (s.onDest k c).mDests = s.mDests ∧ (s.onDest k c).mRootActionFwd = s.mRootActionFwd
  := by
  rw [onDest]
  cases (s.obj k).reply c with
  | none => exact ⟨rfl, rfl⟩
  | some r =>
      simp only
      split
      · exact ⟨rfl, rfl⟩
      · exact ⟨rfl, rfl⟩

theorem mDests_step (s : SharedForward) (c : ForwardCall) :
  (s.step c).mDests = s.mDests
  := by
  cases c with
  | dest k c => apply (s.onDest_action k c).1
  | rootRule env desc =>
      rw [step, rootRule]
      split
      · rfl
      · rfl

/-- What the rules of the root table get does not change once it is kept. -/
theorem mRootActionFwd_run {handles : List (Option Nat)} (h : s.mRootActionFwd = some handles)
    (l : List ForwardCall) :
  (run step s l).mRootActionFwd = some handles
  := by
  apply inv_run (I := fun s : SharedForward => s.mRootActionFwd = some handles) _ h
  intro s c h
  cases c with
  | dest k c => rw [step, (s.onDest_action k c).2, h]
  | rootRule env desc =>
      rw [step, rootRule, passed, h]
      split
      · rfl
      · apply h

end Rules

/-- A rule of the root table and a later rule of a PRM table apply one action.  The first forwards
to the objects whose handles the destinations had at the first rule of the root table, and the
second to those whose ids they have now.  These are the same objects just if no destination had
been destroyed before the first rule of the root table, and the device has made no other object for
one since. -/
theorem shared_forward_same_iff {start : SharedForward} (hstart : start.Fresh)
    {l l' : List ForwardCall} {env : RootEnv} {desc : FlowDesc} {m m' : Memory}
    (hfirst : (run step start l).mRootActionFwd = none)
    (hroot : ((run step start l).action.applyRoot env desc).1 = .ok)
    (hprm : (run step start (l ++ .rootRule env desc :: l')).action.apply m = (.ok, m')) :
  let s₁ := run step start l
  let s := run step start (l ++ .rootRule env desc :: l')
  s.passed = s₁.mDests.map s₁.handle
    ∧ (∀ k ∈ s.mDests, ∃ n, s.hw k = some n ∧ (s.obj k).base.getId 0 = (.ok, s.ids n))
    ∧ (s.passed = s.written ↔ ∀ k ∈ s₁.mDests, (s₁.obj k).base.mHandle = true
      ∧ Along step (fun s c => s.replies k c = none) (s₁.rootRule env desc) l')
  := by
  intro s₁ s
  have hlabelled₁ : s₁.Labelled := hstart.labelled.run l
  have hlabelled : s.Labelled := hstart.labelled.run _
  have hrun : s = run step (s₁.rootRule env desc) l' := by
    simp only [s, run_append]
    rfl
  have hkept : s₁.rootRule env desc = { s₁ with mRootActionFwd := some s₁.passed } :=
    rootRule_eq hroot
  have hroots : s.mRootActionFwd = some s₁.passed := by
    rw [hrun]
    apply mRootActionFwd_run
    rw [hkept]
  have hpassed : s.passed = s₁.mDests.map s₁.handle := by
    rw [passed, hroots, Option.getD_some, passed, hfirst]
    rfl
  have hdests : s.mDests = s₁.mDests := by
    rw [hrun, run_eq mDests_step, hkept]
  have hobj₁ := objHandle_of_applyRoot hfirst hroot
  have hobj := objHandle_of_apply hprm
  refine ⟨hpassed, ?_, ?_⟩
  · intro k hk
    obtain ⟨n, hn, hid⟩ := (hlabelled k).id (hobj k hk)
    refine ⟨n, hn, ?_⟩
    rw [Obj.getId, hobj k hk, if_pos rfl, hid]
  · rw [hpassed, written, hdests, List.map_inj_left]
    apply forall₂_congr
    intro k hk
    obtain ⟨n, hn, -⟩ := (hlabelled₁ k).id (hobj₁ k hk)
    obtain ⟨n', hn', -⟩ := (hlabelled k).id (hobj k (hdests ▸ hk))
    have hsame : s.hw k = some n ↔ Along step (fun s c => s.replies k c = none)
        (s₁.rootRule env desc) l' := by
      rw [hrun]
      apply hw_run_iff
      · rw [hkept]
        apply hn
      · rw [hkept]
        apply (hlabelled₁ k).lt n hn
    rw [← hsame, handle]
    cases hhandle : (s₁.obj k).base.mHandle with
    | true => simp [hn, eq_comm]
    | false => simp [hn']

/-- A TIR that nothing has been done to, and an action that forwards to it. -/
def newTir : SharedForward :=
  ⟨fun _ => .tir (Tir.new true), fun _ => none, fun _ => 0, 0, [0], none⟩

/-- The TIR is created and destroyed. -/
def gone : List ForwardCall :=
  [.dest 0 (.createTir Tir.kind.blank (fun _ _ => ⟨true, zeros⟩) fun _ _ => ⟨false, zeros⟩),
    .dest 0 .destroy]

theorem shared_forward_gone :
  let s := run step newTir (gone ++ [.rootRule acceptingRoot .new])
  (s.action.apply zeros).1 = .ok ∧ s.passed = [none] ∧ ¬ s.passed = s.written
  := by
  intro s
  have hstart : newTir.Fresh := ⟨fun _ => ⟨true, .inl rfl⟩, fun _ => rfl, rfl⟩
  have hroot : ((run step newTir gone).action.applyRoot acceptingRoot .new).1 = .ok := by decide
  have hprm : (s.action.apply zeros).1 = .ok := by rfl
  obtain ⟨hpassed, -, hsame⟩ := shared_forward_same_iff hstart rfl hroot (Prod.ext hprm rfl)
  refine ⟨hprm, hpassed, ?_⟩
  rw [hsame]
  intro h
  cases (h 0 List.mem_cons_self).1

end SharedForward

end Dpcp
