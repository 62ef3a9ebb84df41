import Dpcp.Queue.Pacing

/-!
# The states of the queues

`rq::modify_state` and `sq::modify_state` name the state that the queue has, as they remember it,
and ask for a new one; then they ask which state the queue has now, and remember that.
`pp_sq::modify` always names the ready state, and remembers nothing.

The device changes the state of a queue only in a MODIFY that succeeds, to whatever state it likes;
it is right about the state in a QUERY that succeeds.
-/

namespace Dpcp

open Bits Dcmd Prm

/-- What `rq::modify_state` and `sq::modify_state` differ in: the opcodes, and the layouts of their
mailboxes.  The state that is named has four bits, as the one in the context, and no bit in common
with what else is set. -/
structure StateKind where
  modifyOpcode : BitVec 32
  modifyIn : Nat
  modifyOut : Nat
  opcode : Field
  state : Field
  number : Field
  ctx : Nat
  ctxState : Field
  queryOpcode : BitVec 32
  queryIn : Nat
  queryOut : Nat
  queryOpcodeField : Field
  queryNumber : Field
  queryContext : Nat
  state_size : state.size = 4
  ctxState_size : ctxState.size = 4
  apart : (state.apart 0 number 0 && state.apart 0 ctxState ctx && state.apart 0 opcode 0) = true
  status_apart : StatusOut.status.apart 0 ctxState queryContext = true
  modify_len : ¬ (modifyIn < 16 ∨ modifyOut < 16)
  query_len : ¬ (queryIn < 16 ∨ queryOut < 16)

namespace StateKind

/-- `RQ_RST` and `SQ_RST`. -/
def rst : BitVec 32 := Queue.rst

/-- `RQ_RDY` and `SQ_RDY`. -/
def rdy : BitVec 32 := 0x1

/-- `RQ_ERR` and `SQ_ERR`. -/
def err : BitVec 32 := 0x3

/-- `class rq`.  The context is looked up in `create_rq_in`. -/
def rq : StateKind where
  modifyOpcode := 0x909
  modifyIn := ModifyRqIn.bytes
  modifyOut := ModifyRqOut.bytes
  opcode := ModifyRqIn.opcode
  state := ModifyRqIn.rqState
  number := ModifyRqIn.rqn
  ctx := CreateRqIn.ctx
  ctxState := Rqc.state
  queryOpcode := 0x90b
  queryIn := QueryRqIn.bytes
  queryOut := QueryRqOut.bytes
  queryOpcodeField := QueryRqIn.opcode
  queryNumber := QueryRqIn.rqn
  queryContext := QueryRqOut.rqContext
  state_size := rfl
  ctxState_size := rfl
  apart := rfl
  status_apart := rfl
  modify_len := by decide
  query_len := by decide

/-- `class sq`.  The context is looked up in `create_sq_in`. -/
def sq : StateKind where
  modifyOpcode := PpSq.mlx5CmdOpModifySq
  modifyIn := ModifySqIn.bytes
  modifyOut := ModifySqOut.bytes
  opcode := ModifySqIn.opcode
  state := ModifySqIn.sqState
  number := ModifySqIn.sqn
  ctx := CreateSqIn.ctx
  ctxState := Sqc.state
  queryOpcode := 0x907
  queryIn := QuerySqIn.bytes
  queryOut := QuerySqOut.bytes
  queryOpcodeField := QuerySqIn.opcode
  queryNumber := QuerySqIn.sqn
  queryContext := QuerySqOut.sqContext
  state_size := rfl
  ctxState_size := rfl
  apart := rfl
  status_apart := rfl
  modify_len := by decide
  query_len := by decide

variable (k : StateKind)

/-- The mailbox of the MODIFY. -/
def modifyMailbox (number mState newState : BitVec 32) : Memory :=
  let m := zeros
  let m := devxSet m 0 k.state mState
  let m := devxSet m 0 k.number number
  let m := devxSet m k.ctx k.ctxState newState
  devxSet m 0 k.opcode k.modifyOpcode

/-- The mailbox of the QUERY. -/
def queryMailbox (number : BitVec 32) : Memory :=
  let m := zeros
  let m := devxSet m 0 k.queryNumber number
  devxSet m 0 k.queryOpcodeField k.queryOpcode

/-- The transitions that are refused: from reset to error, and from error to ready. -/
def Refused (mState newState : BitVec 32) : Prop :=
  newState = err ∧ mState = rst ∨ newState = rdy ∧ mState = err

instance (mState newState : BitVec 32) : Decidable (Refused mState newState) :=
  inferInstanceAs (Decidable (_ ∨ _))

/-- `rq::modify_state` and `sq::modify_state`, on the members `base` and `mState`; `modifies` and
`queries` are the answers to the MODIFY and to the QUERY.  The mailbox of the MODIFY is there if it
was sent. -/
def modifyState (base : Obj) (mState newState : BitVec 32) (modifies queries : Answers) :
    Option (Status × Obj × BitVec 32 × Option Memory) :=
  if Refused mState newState then
    some (.errInvalidParam, base, mState, none)
  else
    match base.getId 0 with
    | (.ok, number) =>
        if number = 0 then
          some (.errInvalidId, base, mState, none)
        else do
          let m := k.modifyMailbox number mState newState
          let sent := if base.mCtx then some m else none
          let (ret, base, _) ← base.modify modifies m k.modifyIn zeros k.modifyOut
          match ret with
          | .ok => do
              let (ret, base, out) ←
                base.query queries (k.queryMailbox number) k.queryIn zeros k.queryOut
              match ret with
              | .ok =>
                  let curState := devxGet out k.queryContext k.ctxState
                  some (if newState ≠ curState then .errModify else .ok, base, curState, sent)
              | ret => some (ret, base, mState, sent)
          | ret => some (ret, base, mState, sent)
    | _ => some (.errInvalidId, base, mState, none)

variable {k}

/-- The state that a MODIFY names. -/
theorem devxGet_modifyMailbox (number mState newState : BitVec 32) :
  devxGet (k.modifyMailbox number mState newState) 0 k.state = mState &&& lowMask 4
  := by
  have happart := k.apart
  rw [Bool.and_eq_true, Bool.and_eq_true] at happart
  obtain ⟨⟨hnumber, hctx⟩, hopcode⟩ := happart
  simp only [modifyMailbox]
  rw [devxGet_devxSet_of_apart _ _ hopcode, devxGet_devxSet_of_apart _ _ hctx,
    devxGet_devxSet_of_apart _ _ hnumber, devxGet_devxSet_self, k.state_size]

/-- `modify_state` comes to the MODIFY. -/
def Sends (base : Obj) (mState newState : BitVec 32) : Prop :=
  ¬ Refused mState newState ∧ base.mObjHandle = true ∧ base.mId ≠ 0 ∧ base.mCtx = true

theorem modifyState_of_not_sends {base : Obj} {mState newState : BitVec 32}
    (h : ¬ Sends base mState newState) (modifies queries : Answers) :
  ∃ ret base', k.modifyState base mState newState modifies queries
    = some (ret, base', mState, none)
  := by
  rw [modifyState]
  by_cases hrefused : Refused mState newState
  · rw [if_pos hrefused]
    exact ⟨_, _, rfl⟩
  · rw [if_neg hrefused]
    by_cases hhandle : base.mObjHandle = true
    · rw [Obj.getId, if_pos hhandle]
      by_cases hid : base.mId = 0
      · simp only [hid, if_true]
        exact ⟨_, _, rfl⟩
      · have hctx : base.mCtx = false := by
          by_contra hctx
          exact h ⟨hrefused, hhandle, hid, by simpa using hctx⟩
        simp only [if_neg hid, Obj.modify, Obj.command, hctx, Bool.not_false, if_true,
          Option.bind_eq_bind, Option.bind_some, Bool.false_eq_true, if_false]
        exact ⟨_, _, rfl⟩
    · rw [Obj.getId, if_neg hhandle]
      exact ⟨_, _, rfl⟩

/-- What `modify_state` remembers when it comes to the MODIFY: the state that the QUERY reports, if
both commands succeed. -/
theorem modifyState_of_sends {base : Obj} {mState newState : BitVec 32}
    (h : Sends base mState newState) (modify query : Answer) :
  ∃ ret base', k.modifyState base mState newState (fun _ _ => modify) (fun _ _ => query)
    = some (ret, base',
      if modify.Ok ∧ query.Ok then devxGet query.out k.queryContext k.ctxState else mState,
      some (k.modifyMailbox base.mId mState newState))
  := by
  obtain ⟨hrefused, hhandle, hid, hctx⟩ := h
  have hsends := Obj.command_eq hctx hhandle k.modify_len .errModify (fun _ _ => modify)
    (k.modifyMailbox base.mId mState newState) zeros
  rw [modifyState, if_neg hrefused, Obj.getId, if_pos hhandle]
  simp only [if_neg hid, Obj.modify, hsends, hctx, if_true, Option.bind_eq_bind, Option.bind_some]
  by_cases hmodify : modify.Ok
  · have hqueries := Obj.command_eq (o := base.remember modify.out) hctx hhandle k.query_len
      .errQuery (fun _ _ => query) (k.queryMailbox base.mId) zeros
    simp only [if_pos hmodify, Obj.query, hqueries, Option.bind_some]
    by_cases hquery : query.Ok
    · simp only [hmodify, hquery, and_self, if_true]
      exact ⟨_, _, rfl⟩
    · simp only [hquery, and_false, if_false]
      exact ⟨_, _, rfl⟩
  · simp only [hmodify, false_and, if_false]
    exact ⟨_, _, rfl⟩

end StateKind

/-- The MODIFY of `pp_sq::modify` names the ready state. -/
theorem PpSq.devxGet_state_modifyMailbox (sqn ppIdx : BitVec 32) :
  devxGet (modifyMailbox sqn ppIdx) 0 ModifySqIn.sqState = sqRdy
  := by
  simp only [modifyMailbox]
  rw [devxGet_devxSet_of_apart _ _ rfl, devxGet_devxSet_of_apart _ _ rfl,
    devxGet_devxSet_of_apart _ _ rfl, devxGet_devxSet_self]
  rfl

/-! ### A queue and the device -/

/-- A queue with a state: a receive queue, of whatever class, by its members, or a `pp_sq`, the one
class of send queues. -/
inductive StateQueue where
  | rq (base : Obj) (mState : BitVec 32)
  | sq (q : PpSq)

namespace StateQueue

def kind : StateQueue → StateKind
  | rq _ _ => .rq
  | sq _ => .sq

def base : StateQueue → Obj
  | rq base _ => base
  | sq q => q.queue.base

def mState : StateQueue → BitVec 32
  | rq _ mState => mState
  | sq q => q.queue.mState

/-- The queue with other members. -/
def update (base : Obj) (mState : BitVec 32) : StateQueue → StateQueue
  | rq _ _ => rq base mState
  | sq q => sq { q with queue := { q.queue with base := base, mState := mState } }

/-- `modify_state`. -/
def modifyState (q : StateQueue) (newState : BitVec 32) (modifies queries : Answers) :
    Option (Status × StateQueue × Option Memory) :=
  (q.kind.modifyState q.base q.mState newState modifies queries).map
    fun (ret, base, mState, sent) => (ret, q.update base mState, sent)

end StateQueue

/-- A queue, the state it has in the device, and the MODIFY commands that were sent, each with the
state that the queue then had. -/
structure StateWorld where
  queue : StateQueue
  dev : BitVec 4
  sent : List (Memory × BitVec 4)

/-- A call, with what the device answers to the MODIFY and to the QUERY, and the state `becomes`
that the queue has after a MODIFY that succeeds. -/
inductive StateCall where
  | modifyState (newState : BitVec 32) (modify : Answer) (becomes : BitVec 4) (query : Answer)
  | modify (attr : SqAttr) (pacing : PpEnv) (modify : Answer) (becomes : BitVec 4)

namespace StateWorld

/-- A queue that was just created is in the reset state. -/
def new (queue : StateQueue) : StateWorld :=
  ⟨queue, 0, []⟩

/-- The answer to a QUERY, with the state of the queue filled in. -/
def reports (k : StateKind) (dev : BitVec 4) (query : Answer) : Answer :=
  ⟨query.err, devxSet query.out k.queryContext k.ctxState (dev.setWidth 32)⟩

/-- The world after a call that leaves `queue` and has sent `sent`. -/
def exec (w : StateWorld) (queue : StateQueue) (sent : Option Memory) (modify : Answer)
    (becomes : BitVec 4) : StateWorld where
  queue := queue
  dev := if sent.isSome ∧ modify.Ok then becomes else w.dev
  sent := w.sent ++ sent.toList.map fun m => (m, w.dev)

/-- One call.  A receive queue has no `modify`. -/
def step (w : StateWorld) : StateCall → StateWorld
  | .modifyState newState modify becomes query =>
      (w.queue.modifyState newState (fun _ _ => modify) fun _ _ =>
          reports w.queue.kind becomes query).elim w
        fun (_, queue, sent) => w.exec queue sent modify becomes
  | .modify attr pacing modify becomes =>
      match w.queue with
      | .rq _ _ => w
      | .sq q =>
          (q.modify attr pacing fun _ _ => modify).elim w
            fun (_, q, _, sent) => w.exec (.sq q) sent modify becomes

/-- The state that is remembered is the one in the device, and every MODIFY named the state that the
queue had. -/
def Good (w : StateWorld) : Prop :=
  w.queue.mState = w.dev.setWidth 32
    ∧ ∀ sent ∈ w.sent, devxGet sent.1 0 w.queue.kind.state = sent.2.setWidth 32

/-- The calls that keep it so: a QUERY after a MODIFY that changed the state does not fail, and
`pp_sq::modify` sends its MODIFY only to a queue that is ready and stays so. -/
def Keeps (w : StateWorld) : StateCall → Prop
  | .modifyState newState modify becomes query =>
      StateKind.Sends w.queue.base w.queue.mState newState → modify.Ok → query.Ok ∨ becomes = w.dev
  | .modify attr pacing modify becomes => ∀ q, w.queue = .sq q → q.Paces attr pacing →
      w.dev = 1 ∧ (modify.Ok → becomes = 1)

theorem ok_reports_iff (k : StateKind) (dev : BitVec 4) (query : Answer) :
  (reports k dev query).Ok ↔ query.Ok
  := by
  rw [Answer.Ok, reports, devxGet_devxSet_of_apart _ _ k.status_apart]
  exact Iff.rfl

/-- A state of four bits is not cut off. -/
theorem setWidth_and_lowMask (dev : BitVec 4) :
  dev.setWidth 32 &&& lowMask 4 = dev.setWidth 32
  := by
  apply BitVec.eq_of_toNat_eq
  have hlt : dev.toNat < 2 ^ 4 := dev.isLt
  rw [BitVec.toNat_and, toNat_lowMask (by decide), Nat.and_two_pow_sub_one_eq_mod,
    BitVec.toNat_setWidth_of_le (by decide), Nat.mod_eq_of_lt hlt]

theorem setWidth_inj {x y : BitVec 4} :
  x.setWidth 32 = y.setWidth 32 ↔ x = y
  := by
  constructor
  · intro h
    have htoNat := congrArg BitVec.toNat h
    rw [BitVec.toNat_setWidth_of_le (by decide), BitVec.toNat_setWidth_of_le (by decide)] at htoNat
    apply BitVec.eq_of_toNat_eq htoNat
  · rintro rfl
    rfl

theorem devxGet_reports (k : StateKind) (dev : BitVec 4) (query : Answer) :
  devxGet (reports k dev query).out k.queryContext k.ctxState = dev.setWidth 32
  := by
  rw [reports, devxGet_devxSet_self, k.ctxState_size, setWidth_and_lowMask]

/-- The world after a call that sent nothing and remembers the same state. -/
theorem good_exec_none {w : StateWorld} (h : w.Good) {queue : StateQueue}
    (hkind : queue.kind = w.queue.kind) (hstate : queue.mState = w.queue.mState) (modify : Answer)
    (becomes : BitVec 4) :
  (w.exec queue none modify becomes).Good
  := by
  simp only [exec, Good, Option.isSome_none, Bool.false_eq_true, false_and, if_false,
    Option.toList_none, List.map_nil, List.append_nil, hkind, hstate]
  apply h

/-- The world after a call that sent a MODIFY. -/
theorem good_exec_some_iff {w : StateWorld} (h : w.Good) {queue : StateQueue}
    (hkind : queue.kind = w.queue.kind) (m : Memory) (modify : Answer) (becomes : BitVec 4) :
  (w.exec queue (some m) modify becomes).Good
    ↔ queue.mState = (if modify.Ok then becomes else w.dev).setWidth 32
      ∧ devxGet m 0 w.queue.kind.state = w.dev.setWidth 32
  := by
  simp only [exec, Good, Option.isSome_some, true_and, Option.toList_some, List.map_cons,
    List.map_nil, hkind]
  apply and_congr_right
  intro _
  constructor
  · intro hsent
    apply hsent (m, w.dev) (List.mem_append_right _ (List.mem_singleton_self _))
  · intro hnamed sent hmem
    rcases List.mem_append.mp hmem with hmem | hmem
    · apply h.2 sent hmem
    · rw [List.mem_singleton.mp hmem]
      apply hnamed

theorem good_modifyState_iff {w : StateWorld} (h : w.Good) (newState : BitVec 32)
    (modify : Answer) (becomes : BitVec 4) (query : Answer) :
  (w.step (.modifyState newState modify becomes query)).Good
    ↔ w.Keeps (.modifyState newState modify becomes query)
  := by
  have hupdate (base : Obj) (mState : BitVec 32) :
      (w.queue.update base mState).kind = w.queue.kind
        ∧ (w.queue.update base mState).mState = mState := by
    cases w.queue <;> exact ⟨rfl, rfl⟩
  rw [step, StateQueue.modifyState, Keeps]
  by_cases hsends : StateKind.Sends w.queue.base w.queue.mState newState
  · obtain ⟨ret, base, hmodify⟩ := StateKind.modifyState_of_sends (k := w.queue.kind) hsends modify
      (reports w.queue.kind becomes query)
    obtain ⟨hkind, hstate⟩ := hupdate base (if modify.Ok ∧ (reports w.queue.kind becomes query).Ok
      then devxGet (reports w.queue.kind becomes query).out w.queue.kind.queryContext
        w.queue.kind.ctxState else w.queue.mState)
    have hdrop : (StateKind.Sends w.queue.base w.queue.mState newState → modify.Ok →
        query.Ok ∨ becomes = w.dev) ↔ (modify.Ok → query.Ok ∨ becomes = w.dev) :=
      ⟨fun hkeeps => hkeeps hsends, fun hkeeps _ => hkeeps⟩
    rw [hdrop, hmodify, Option.map_some, Option.elim_some, good_exec_some_iff h hkind, hstate,
      StateKind.devxGet_modifyMailbox, devxGet_reports, h.1, setWidth_and_lowMask,
      and_iff_left rfl]
    simp only [ok_reports_iff]
    by_cases hmodify : modify.Ok
    · by_cases hquery : query.Ok
      · simp [hmodify, hquery]
      · simp only [hmodify, hquery, and_false, if_false, if_true, setWidth_inj, forall_true_left,
          false_or]
        exact eq_comm
    · simp [hmodify]
  · obtain ⟨ret, base, hmodify⟩ := StateKind.modifyState_of_not_sends (k := w.queue.kind) hsends
      (fun _ _ => modify) (fun _ _ => reports w.queue.kind becomes query)
    obtain ⟨hkind, hstate⟩ := hupdate base w.queue.mState
    rw [hmodify, Option.map_some, Option.elim_some]
    constructor
    · intro _ hsent
      cases hsends hsent
    · intro _
      apply good_exec_none h hkind hstate

/-- A MODIFY that names the ready state keeps the states the same just if the queue is ready and
stays so. -/
theorem ready_iff {c : Prop} [Decidable c] {dev becomes : BitVec 4} :
  dev = (if c then becomes else dev) ∧ 1 = dev ↔ dev = 1 ∧ (c → becomes = 1)
  := by
  constructor
  · rintro ⟨hdev, hone⟩
    refine ⟨hone.symm, ?_⟩
    intro hc
    rw [if_pos hc] at hdev
    rw [← hdev, hone]
  · rintro ⟨hone, hbecomes⟩
    refine ⟨?_, hone.symm⟩
    split
    · rename_i hc
      rw [hone, hbecomes hc]
    · rfl

theorem good_modify_iff {w : StateWorld} (h : w.Good) (attr : SqAttr) (pacing : PpEnv)
    (modify : Answer) (becomes : BitVec 4) :
  (w.step (.modify attr pacing modify becomes)).Good ↔ w.Keeps (.modify attr pacing modify becomes)
  := by
  rw [step, Keeps]
  cases hqueue : w.queue with
  | rq base mState => simp [h]
  | sq q =>
      have hkind (q' : PpSq) : (StateQueue.sq q').kind = w.queue.kind := by
        rw [hqueue]
        rfl
      simp only [StateQueue.sq.injEq, forall_eq']
      by_cases hpaces : q.Paces attr pacing
      · obtain ⟨⟨pp, hmake⟩, hreaches⟩ := id hpaces
        obtain ⟨ret, q', hmodify, hstate, -⟩ := PpSq.modify_of_reaches hmake hreaches modify
        have hready : devxGet
            (PpSq.modifyMailbox q.queue.base.mId (PpSq.indexOf pp &&& 0xFFFF)) 0 w.queue.kind.state
              = (1 : BitVec 4).setWidth 32 := by
          rw [hqueue]
          apply PpSq.devxGet_state_modifyMailbox
        have hkept : (StateQueue.sq q').mState = w.dev.setWidth 32 := by
          rw [← h.1, hqueue]
          apply hstate
        rw [hmodify, Option.elim_some, good_exec_some_iff h (hkind q'), hready, hkept,
          setWidth_inj, setWidth_inj, ready_iff]
        simp only [hpaces, forall_true_left]
      · obtain ⟨ret, q', pp, hmodify, hstate, -⟩ :=
          PpSq.modify_of_not_paces hpaces fun _ _ => modify
        simp only [hpaces, false_implies, iff_true]
        rw [hmodify, Option.elim_some]
        apply good_exec_none h (hkind q')
        rw [hqueue]
        apply hstate

/-- In every run of calls on a queue in the reset state, whatever commands fail, the state that is
remembered is the one in the device after every call, and every MODIFY names the state that the
queue has, exactly if every call of the run keeps it so. -/
theorem queue_state_iff (queue : StateQueue) (hqueue : queue.mState = StateKind.rst)
    (calls : List StateCall) :
  (∀ calls', calls' <+: calls → (Machine.run step (new queue) calls').Good)
    ↔ Machine.Along step Keeps (new queue) calls
  := by
  apply Machine.forall_prefix_iff_along (I := fun _ => True)
  · intro w call _ _ h
    cases call with
    | modifyState newState modify becomes query => apply good_modifyState_iff h
    | modify attr pacing modify becomes => apply good_modify_iff h
  · intro _ _ _ _ _ _
    trivial
  · trivial
  · exact ⟨hqueue, nofun⟩

/-- A receive queue that was created. -/
def made : StateQueue :=
  .rq ⟨7, true, true, true, 0, 0, by decide⟩ StateKind.rst

/-- It is made ready, and both commands succeed. -/
theorem queue_state_ready :
  (Machine.run step (new made) [.modifyState StateKind.rdy ⟨false, zeros⟩ 1 ⟨false, zeros⟩]).dev = 1
    ∧ ∀ calls', calls' <+: [.modifyState StateKind.rdy ⟨false, zeros⟩ 1 ⟨false, zeros⟩] →
      (Machine.run step (new made) calls').Good
  := by
  refine ⟨by rfl, (queue_state_iff made rfl _).mpr ⟨?_, trivial⟩⟩
  intro _ _
  exact .inl ⟨rfl, rfl⟩

/-- It is made ready, and the QUERY fails: the next call remembers and names the reset state, while
the queue is ready. -/
theorem queue_state_stale :
  (Machine.run step (new made)
      [.modifyState StateKind.rdy ⟨false, zeros⟩ 1 ⟨true, zeros⟩]).queue.mState = StateKind.rst
    ∧ (Machine.run step (new made)
      [.modifyState StateKind.rdy ⟨false, zeros⟩ 1 ⟨true, zeros⟩]).dev = 1
    ∧ (Machine.run step (new made)
      [.modifyState StateKind.rdy ⟨false, zeros⟩ 1 ⟨true, zeros⟩,
        .modifyState StateKind.rdy ⟨true, zeros⟩ 1 ⟨true, zeros⟩]).sent.map
          (fun sent => (devxGet sent.1 0 StateKind.rq.state, sent.2))
      = [(StateKind.rst, 0), (StateKind.rst, 1)]
  := ⟨by rfl, by rfl, by rfl⟩

end StateWorld

end Dpcp
