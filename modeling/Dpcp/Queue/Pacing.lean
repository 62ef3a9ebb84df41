import Dpcp.Machine.Run
import Dpcp.Queue.PpSq

/-!
# Packet pacing

A `pp_sq` has a pacing handle, and its SQ in the device the index of the handle.  `init` and
`modify` allocate a handle and program its index, `modify` then frees the old handle, and the
destructor frees the handle before it destroys the SQ.

The calls are modelled with what they do outside: the handles that they allocate and free, and the
commands that create, modify and destroy an SQ.
-/

namespace Dpcp

open Bits Dcmd Prm

/-- The world outside gives the handle for some context. -/
def PpEnv.Gives (pacing : PpEnv) (newHandle : PpHandle) : Prop :=
  ∃ context, pacing.allocPp context = some newHandle

/-- `class pp_sq`; `mPd` is what `get_pd` of its adapter returns. -/
structure PpSq where
  queue : Queue
  mAttr : SqAttr
  mPd : BitVec 32
  mPp : Option PacketPacing
  mPpIdx : BitVec 32

namespace PpSq

def mlx5CmdOpModifySq : BitVec 32 := 0x905
def sqRdy : BitVec 32 := 0x1

/-- The constructor. -/
def new (ctx : Bool) (pd : BitVec 32) (attr : SqAttr) : PpSq :=
  ⟨.new ctx (wqBufSzBytes attr), attr, pd, none, 0⟩

/-- What the deletion of a `packet_pacing` frees. -/
def frees (pp : Option PacketPacing) : List PpEvent :=
  (handle pp).toList.map .free

/-- The queue as `init` finds it, on the page `sqUar`.  `init` looks neither at the pool of UARs nor
at the ledger. -/
def prep (q : PpSq) (sqUar : UarT) : SqPrep :=
  ⟨⟨q.queue, .new, sqUar, []⟩, q.mPp, q.mPpIdx, []⟩

/-- The queue as `init` leaves it. -/
def inited (q : PpSq) (s : SqPrep) : PpSq :=
  { q with queue := s.queue, mPp := s.mPp, mPpIdx := s.mPpIdx }

/-- The mailbox of `pp_sq::modify`. -/
def modifyMailbox (sqn ppIdx : BitVec 32) : Memory :=
  let m := zeros
  let m := devxSet64 m 0 ModifySqIn.modifyBitmask 0x1
  let m := devxSet m 0 ModifySqIn.sqn sqn
  let m := devxSet m 0 ModifySqIn.sqState sqRdy
  let m := devxSet m ModifySqIn.ctx Sqc.state sqRdy
  let m := devxSet m ModifySqIn.ctx Sqc.packetPacingRateLimitIndex ppIdx
  devxSet m 0 ModifySqIn.opcode mlx5CmdOpModifySq

/-- The second half of `pp_sq::modify`, from where it has made `pp`; `ppIdx` is the index that it
programs.  The old `packet_pacing` is deleted when the device has the new index, and the new one if
it does not come to that.  The mailbox is there if it was sent. -/
def reprogram (q : PpSq) (pp : Option PacketPacing) (ppIdx : BitVec 32) (answers : Answers) :
    Option (Status × PpSq × List PpEvent × Option Memory) :=
  match q.queue.base.getId 0 with
  | (.ok, sqn) =>
      if sqn = 0 then
        some (.errInvalidId, q, frees pp, none)
      else do
        let m := modifyMailbox sqn ppIdx
        let sent := if q.queue.base.mCtx then some m else none
        let (ret, base, _) ←
          q.queue.base.modify answers m ModifySqIn.bytes zeros ModifySqOut.bytes
        let q := { q with queue := { q.queue with base := base } }
        match ret with
        | .ok =>
            some (.ok, { q with mPp := pp, mPpIdx := (pp.map PacketPacing.getIndex).getD 0 },
              .modifySq (rate m ModifySqIn.ctx) :: frees q.mPp, sent)
        | ret => some (ret, q, frees pp, sent)
  | _ => some (.errInvalidId, q, frees pp, none)

/-- `pp_sq::modify`. -/
def modify (q : PpSq) (attr : SqAttr) (pacing : PpEnv) (answers : Answers) :
    Option (Status × PpSq × List PpEvent × Option Memory) :=
  match makePp attr pacing with
  | .error ret => some (ret, q, [], none)
  | .ok none => q.reprogram none 0 answers
  | .ok (some pp) => do
      let (ret, q, events, sent) ← q.reprogram (some pp) (pp.getIndex &&& 0xFFFF) answers
      some (ret, q, (handle (some pp)).toList.map .alloc ++ events, sent)

/-- `pp_sq::destroy`. -/
def destroy (q : PpSq) (destroys : Bool) : PpSq × List PpEvent :=
  ({ q with queue := (q.queue.destroy destroys).2 },
    if q.queue.base.live then [.destroySq destroys] else [])

/-- `pp_sq::~pp_sq`. -/
def delete (q : PpSq) (destroys : Bool) : List PpEvent :=
  frees q.mPp ++ ({ q with mPp := none }.destroy destroys).2

/-! ### The index in the mailboxes -/

theorem rate_devxSet (m : Memory) (p : Nat) (ppIdx : BitVec 32) :
  rate (devxSet m p Sqc.packetPacingRateLimitIndex (ppIdx &&& 0xFFFF)) p = ppIdx.setWidth 16
  := by
  have hmask : lowMask 16 = 0xFFFF := rfl
  rw [rate, devxGet_devxSet_self, Sqc.packetPacingRateLimitIndex, hmask, BitVec.and_assoc,
    BitVec.and_self]
  apply BitVec.eq_of_getLsbD_eq
  intro k hk
  rw [BitVec.getLsbD_setWidth, BitVec.getLsbD_and, BitVec.getLsbD_setWidth, ← hmask,
    getLsbD_lowMask (by decide)]
  simp [hk]

theorem rate_modifyMailbox (sqn ppIdx : BitVec 32) :
  rate (modifyMailbox sqn (ppIdx &&& 0xFFFF)) ModifySqIn.ctx = ppIdx.setWidth 16
  := by
  rw [← rate_devxSet zeros ModifySqIn.ctx]
  simp only [rate, modifyMailbox]
  rw [devxGet_devxSet_of_apart _ _ rfl, devxGet_devxSet_self, devxGet_devxSet_self]

theorem rate_sentMailbox {attr : SqAttr} {pd ppIdx : BitVec 32} {q : Queue} {uar : UarT}
    {m : Memory} (h : sentMailbox attr pd ppIdx q uar = some m) :
  rate m CreateSqIn.ctx = ppIdx.setWidth 16
  := by
  obtain ⟨logWqStride, -, h⟩ := Option.bind_eq_some_iff.mp h
  obtain ⟨logWqeNum, -, h⟩ := Option.bind_eq_some_iff.mp h
  cases h
  rw [← rate_devxSet zeros CreateSqIn.ctx]
  simp (disch := decide) only [rate, mailbox, devxGet_devxSet_of_apart,
    devxGet_devxSet64_of_apart, devxGet_devxSet_self]

/-! ### What the calls do outside -/

/-- The index of a handle; without one it is 0. -/
def indexOfHandle (handle : Option PpHandle) : BitVec 32 :=
  (handle.map PpHandle.index).getD 0

/-- A `packet_pacing` that was made has the index of its handle, which the world outside has
given. -/
theorem handle_of_makePp {attr : SqAttr} {pacing : PpEnv} {pp : Option PacketPacing}
    (h : makePp attr pacing = .ok pp) :
  indexOf pp = indexOfHandle (handle pp)
    ∧ ∀ newHandle, handle pp = some newHandle → pacing.Gives newHandle
  := by
  obtain ⟨ppAttr, -, ⟨-, rfl⟩ | ⟨-, newHandle, halloc, rfl⟩⟩ := makePp_eq_ok h
  · exact ⟨rfl, nofun⟩
  · refine ⟨rfl, ?_⟩
    intro newHandle' h
    cases h
    exact ⟨_, halloc⟩

/-- `create` leaves the pacing as it is; if it comes to the CREATE, then the index of the queue is
programmed. -/
theorem pacing_of_create {attr : SqAttr} {pd : BitVec 32} {env : QueueEnv} {s s' : SqPrep}
    {ret : Status} (h : create attr pd env s = some (ret, s')) :
  s'.mPp = s.mPp ∧ s'.mPpIdx = s.mPpIdx ∧ ∃ events, s'.events = s.events ++ events
    ∧ (events = [] ∨ ∃ made, events = [.createSq made (s.mPpIdx.setWidth 16)])
  := by
  simp only [create] at h
  split at h
  · cases h
    exact ⟨rfl, rfl, [], (List.append_nil _).symm, .inl rfl⟩
  · obtain ⟨m, hm, h⟩ := Option.bind_eq_some_iff.mp h
    rw [rate_sentMailbox hm] at h
    cases h
    refine ⟨rfl, rfl, _, rfl, ?_⟩
    split
    · exact .inr ⟨_, rfl⟩
    · exact .inl rfl

/-- The pacing that `init` leaves in `s'`, with the handle `new` that it has allocated: with a
handle the queue has that and its index, and otherwise what it had in `s`. -/
def Takes (pacing : PpEnv) (new : Option PpHandle) (s s' : SqPrep) : Prop :=
  match new with
  | none => s'.mPp = s.mPp ∧ s'.mPpIdx = s.mPpIdx
  | some newHandle =>
      pacing.Gives newHandle ∧ handle s'.mPp = some newHandle ∧ s'.mPpIdx = newHandle.index

theorem pacing_of_pace {attr : SqAttr} {pd : BitVec 32} {env : QueueEnv} {pacing : PpEnv}
    {s s' : SqPrep} {ret : Status} (h : pace attr pd env pacing s = some (ret, s')) :
  ∃ new events, s'.events = s.events ++ (new.toList.map .alloc ++ events)
    ∧ (events = [] ∨ ∃ made, events = [.createSq made (s'.mPpIdx.setWidth 16)])
    ∧ Takes pacing new s s'
  := by
  rw [pace] at h
  split at h
  · cases h
    exact ⟨none, [], (List.append_nil _).symm, .inl rfl, rfl, rfl⟩
  · obtain ⟨hpp, hidx, events, hevents, hcreate⟩ := pacing_of_create h
    rw [← hidx] at hcreate
    exact ⟨none, events, hevents, hcreate, hpp, hidx⟩
  · rename_i pp hmake
    obtain ⟨ppAttr, -, ⟨-, hnone⟩ | ⟨-, newHandle, halloc, hsome⟩⟩ := makePp_eq_ok hmake
    · cases hnone
    · cases hsome
      obtain ⟨hpp, hidx, events, hevents, hcreate⟩ := pacing_of_create h
      rw [← hidx] at hcreate
      refine ⟨some newHandle, events, ?_, hcreate, ⟨_, halloc⟩, ?_, hidx⟩
      · rw [hevents, List.append_assoc]
        rfl
      · rw [hpp]
        rfl

/-- `init` may allocate a handle, and it may have the device create an SQ with the index that the
queue has then. -/
theorem pacing_of_init {attr : SqAttr} {pd : BitVec 32} {env : QueueEnv} {pacing : PpEnv}
    {s s' : SqPrep} {ret : Status} (h : init attr pd env pacing s = some (ret, s')) :
  ∃ new events, s'.events = s.events ++ (new.toList.map .alloc ++ events)
    ∧ (events = [] ∨ ∃ made, events = [.createSq made (s'.mPpIdx.setWidth 16)])
    ∧ Takes pacing new s s'
  := by
  rw [init] at h
  split at h
  · apply pacing_of_pace h
  · cases h
    exact ⟨none, [], (List.append_nil _).symm, .inl rfl, rfl, rfl⟩

/-- `modify` has an object of the device to send the MODIFY for. -/
def Reaches (q : PpSq) : Prop :=
  q.queue.base.mObjHandle = true ∧ q.queue.base.mId ≠ 0 ∧ q.queue.base.mCtx = true

/-- `modify` comes to the MODIFY. -/
def Paces (q : PpSq) (attr : SqAttr) (pacing : PpEnv) : Prop :=
  (∃ pp, makePp attr pacing = .ok pp) ∧ q.Reaches

/-- `modify` with the `packet_pacing` made. -/
theorem modify_eq {q : PpSq} {attr : SqAttr} {pacing : PpEnv} {pp : Option PacketPacing}
    (hmake : makePp attr pacing = .ok pp) (answers : Answers) :
  q.modify attr pacing answers
    = (q.reprogram pp (indexOf pp &&& 0xFFFF) answers).map
      fun r => (r.1, r.2.1, (handle pp).toList.map .alloc ++ r.2.2.1, r.2.2.2)
  := by
  simp only [modify, hmake]
  cases pp with
  | none => apply Option.map_id'.symm
  | some pp => apply Option.map_eq_bind.symm

/-- Without an object of the device, the new `packet_pacing` is deleted. -/
theorem reprogram_of_not_reaches {q : PpSq} (h : ¬ q.Reaches) (pp : Option PacketPacing)
    (ppIdx : BitVec 32) (answers : Answers) :
  ∃ ret q', q.reprogram pp ppIdx answers = some (ret, q', frees pp, none)
    ∧ q'.queue.mState = q.queue.mState ∧ ret ≠ .ok ∧ q'.mPp = q.mPp ∧ q'.mPpIdx = q.mPpIdx
  := by
  rw [reprogram]
  by_cases hhandle : q.queue.base.mObjHandle = true
  · rw [Obj.getId, if_pos hhandle]
    by_cases hid : q.queue.base.mId = 0
    · simp only [hid, if_true]
      exact ⟨_, _, rfl, rfl, by decide, rfl, rfl⟩
    · have hctx : q.queue.base.mCtx = false := by
        by_contra hctx
        exact h ⟨hhandle, hid, by simpa using hctx⟩
      simp only [if_neg hid, Obj.modify, Obj.command, hctx, Bool.not_false, if_true,
        Option.bind_eq_bind, Option.bind_some, Bool.false_eq_true, if_false]
      exact ⟨_, _, rfl, rfl, by decide, rfl, rfl⟩
  · rw [Obj.getId, if_neg hhandle]
    exact ⟨_, _, rfl, rfl, by decide, rfl, rfl⟩

/-- The MODIFY programs the index and frees the old handle, or else the new one is freed. -/
theorem reprogram_of_reaches {q : PpSq} (h : q.Reaches) (pp : Option PacketPacing)
    (ppIdx : BitVec 32) (answers : Answers) :
  let m := modifyMailbox q.queue.base.mId (ppIdx &&& 0xFFFF)
  ∃ ret q', q.reprogram pp (ppIdx &&& 0xFFFF) answers
      = some (ret, q',
        if (answers m ModifySqIn.bytes).Ok then .modifySq (ppIdx.setWidth 16) :: frees q.mPp
        else frees pp,
        some m)
    ∧ q'.queue.mState = q.queue.mState
    ∧ if (answers m ModifySqIn.bytes).Ok then ret = .ok ∧ q'.mPp = pp ∧ q'.mPpIdx = indexOf pp
      else ret ≠ .ok ∧ q'.mPp = q.mPp ∧ q'.mPpIdx = q.mPpIdx
  := by
  intro m
  obtain ⟨hhandle, hid, hctx⟩ := h
  have hlen : ¬ (ModifySqIn.bytes < 16 ∨ ModifySqOut.bytes < 16) := by decide
  have hsends := Obj.command_eq hctx hhandle hlen .errModify answers m zeros
  rw [reprogram, Obj.getId, if_pos hhandle]
  simp only [if_neg hid, Obj.modify, hsends, m, hctx, if_true, Option.bind_eq_bind,
    Option.bind_some, rate_modifyMailbox]
  by_cases hok : (answers m ModifySqIn.bytes).Ok
  · simp only [m] at hok
    simp only [if_pos hok]
    exact ⟨_, _, rfl, rfl, rfl, rfl, rfl⟩
  · simp only [m] at hok
    simp only [if_neg hok]
    exact ⟨_, _, rfl, rfl, by decide, rfl, rfl⟩

/-- A `modify` that does not come to the MODIFY frees what it has allocated. -/
theorem modify_of_not_paces {q : PpSq} {attr : SqAttr} {pacing : PpEnv} (h : ¬ q.Paces attr pacing)
    (answers : Answers) :
  ∃ ret q' pp, q.modify attr pacing answers
      = some (ret, q', (handle pp).toList.map .alloc ++ frees pp, none)
    ∧ q'.queue.mState = q.queue.mState ∧ q'.mPp = q.mPp ∧ q'.mPpIdx = q.mPpIdx
  := by
  cases hmake : makePp attr pacing with
  | error ret =>
      refine ⟨ret, q, none, ?_, rfl, rfl, rfl⟩
      simp only [modify, hmake]
      rfl
  | ok pp =>
      have hreaches : ¬ q.Reaches := fun hreaches => h ⟨⟨pp, hmake⟩, hreaches⟩
      obtain ⟨ret, q', hreprogram, hstate, -, hpp, hidx⟩ :=
        reprogram_of_not_reaches hreaches pp (indexOf pp &&& 0xFFFF) answers
      refine ⟨ret, q', pp, ?_, hstate, hpp, hidx⟩
      rw [modify_eq hmake, hreprogram]
      rfl

/-- A `modify` that comes to the MODIFY programs the new index and frees the old handle, or else
frees the new one. -/
theorem modify_of_reaches {q : PpSq} {attr : SqAttr} {pacing : PpEnv} {pp : Option PacketPacing}
    (hmake : makePp attr pacing = .ok pp) (h : q.Reaches) (answer : Answer) :
  ∃ ret q', q.modify attr pacing (fun _ _ => answer)
      = some (ret, q', (handle pp).toList.map .alloc
          ++ (if answer.Ok then .modifySq ((indexOf pp).setWidth 16) :: frees q.mPp else frees pp),
        some (modifyMailbox q.queue.base.mId (indexOf pp &&& 0xFFFF)))
    ∧ q'.queue.mState = q.queue.mState
    ∧ if answer.Ok then q'.mPp = pp ∧ q'.mPpIdx = indexOf pp
      else q'.mPp = q.mPp ∧ q'.mPpIdx = q.mPpIdx
  := by
  obtain ⟨ret, q', hreprogram, hstate, hafter⟩ :=
    reprogram_of_reaches h pp (indexOf pp) (fun _ _ => answer)
  refine ⟨ret, q', ?_, hstate, ?_⟩
  · rw [modify_eq hmake, hreprogram]
    rfl
  · split at hafter
    · rename_i hok
      rw [if_pos hok]
      apply hafter.2
    · rename_i hfails
      rw [if_neg hfails]
      apply hafter.2

end PpSq

/-! ### The device -/

/-- The pacing handles that were allocated and not freed, and the indices programmed in the SQs that
are alive: `sq` is the SQ of the `pp_sq`, and `others` are SQs that it has lost. -/
structure PacingHw where
  handles : List PpHandle
  sq : Option (BitVec 16)
  others : List (BitVec 16)
deriving DecidableEq

namespace PacingHw

/-- What an event does. -/
def step (hw : PacingHw) : PpEvent → PacingHw
  | .alloc handle => { hw with handles := handle :: hw.handles }
  | .free handle => { hw with handles := hw.handles.erase handle }
  | .createSq made rate =>
      { hw with sq := if made then some rate else none, others := hw.sq.toList ++ hw.others }
  | .modifySq rate => { hw with sq := hw.sq.map fun _ => rate }
  | .destroySq destroys =>
      { hw with sq := none, others := if destroys then hw.others else hw.sq.toList ++ hw.others }

/-- The states after each of the events. -/
def states (hw : PacingHw) : List PpEvent → List PacingHw
  | [] => []
  | event :: events => hw.step event :: (hw.step event).states events

/-- An SQ that is alive has the index `rate`. -/
def Live (hw : PacingHw) (rate : BitVec 16) : Prop :=
  hw.sq = some rate ∨ rate ∈ hw.others

/-- The index is 0 or that of one of the handles. -/
def Serves (handles : List PpHandle) (rate : BitVec 16) : Prop :=
  rate = 0 ∨ ∃ handle ∈ handles, handle.index = rate.setWidth 32

/-- The index of every SQ that is alive is 0 or that of a handle that was not freed. -/
def Served (hw : PacingHw) : Prop :=
  ∀ rate, hw.Live rate → Serves hw.handles rate

/-- The state after the events. -/
def run (hw : PacingHw) (events : List PpEvent) : PacingHw :=
  Machine.run step hw events

theorem run_append (hw : PacingHw) (l l' : List PpEvent) :
  hw.run (l ++ l') = (hw.run l).run l'
  := Machine.run_append hw l l'

theorem run_cons (hw : PacingHw) (event : PpEvent) (l : List PpEvent) :
  hw.run (event :: l) = (hw.step event).run l
  := rfl

theorem states_append (hw : PacingHw) (l l' : List PpEvent) :
  hw.states (l ++ l') = hw.states l ++ (hw.run l).states l'
  := by
  induction l generalizing hw with
  | nil => rfl
  | cons event l ih =>
      rw [List.cons_append, states, ih]
      rfl

theorem Serves.mono {handles handles' : List PpHandle} {rate : BitVec 16}
    (h : Serves handles rate) (hsub : ∀ handle ∈ handles, handle ∈ handles') :
  Serves handles' rate
  := by
  rcases h with hzero | ⟨handle, hmem, hindex⟩
  · exact .inl hzero
  · exact .inr ⟨handle, hsub handle hmem, hindex⟩

/-- More handles serve the same SQs. -/
theorem Served.mono {hw hw' : PacingHw} (h : hw.Served)
    (hlive : ∀ rate, hw'.Live rate → hw.Live rate)
    (hsub : ∀ handle ∈ hw.handles, handle ∈ hw'.handles) :
  hw'.Served
  := by
  intro rate hrate
  apply (h rate (hlive rate hrate)).mono hsub

theorem run_alloc (hw : PacingHw) (handle : Option PpHandle) :
  hw.run (handle.toList.map .alloc) = { hw with handles := handle.toList ++ hw.handles }
  := by
  cases handle <;> rfl

theorem served_states_alloc {hw : PacingHw} (h : hw.Served) (handle : Option PpHandle) :
  (∀ hw' ∈ hw.states (handle.toList.map .alloc), hw'.Served)
    ∧ (hw.run (handle.toList.map .alloc)).Served
  := by
  have hrun : (hw.run (handle.toList.map .alloc)).Served := by
    rw [run_alloc]
    apply h.mono
    · intro rate hrate
      apply hrate
    · intro handle' hmem
      apply List.mem_append_right _ hmem
  refine ⟨?_, hrun⟩
  cases handle with
  | none => nofun
  | some handle =>
      intro hw' hmem
      rw [List.mem_singleton.mp hmem]
      apply hrun

/-- The handles that are left when a handle was freed. -/
def without (handles : List PpHandle) (handle : Option PpHandle) : List PpHandle :=
  handle.elim handles handles.erase

theorem run_free (hw : PacingHw) (handle : Option PpHandle) :
  hw.run (handle.toList.map .free) = { hw with handles := without hw.handles handle }
  := by
  cases handle <;> rfl

theorem mem_of_mem_without {handles : List PpHandle} {handle : Option PpHandle}
    {handle' : PpHandle} (h : handle' ∈ without handles handle) :
  handle' ∈ handles
  := by
  cases handle with
  | none => apply h
  | some handle => apply List.mem_of_mem_erase h

/-- What is served once a handle was freed was served before. -/
theorem served_of_run_free {hw : PacingHw} {handle : Option PpHandle}
    (h : (hw.run (handle.toList.map .free)).Served) :
  hw.Served
  := by
  rw [run_free] at h
  apply h.mono
  · intro rate hrate
    apply hrate
  · intro handle' hmem
    apply mem_of_mem_without hmem

theorem served_states_free_iff {hw : PacingHw} (h : hw.Served) (handle : Option PpHandle) :
  (∀ hw' ∈ hw.states (handle.toList.map .free), hw'.Served)
    ↔ (hw.run (handle.toList.map .free)).Served
  := by
  cases handle with
  | none => exact ⟨fun _ => h, fun _ => nofun⟩
  | some handle =>
      constructor
      · intro hstates
        apply hstates _ (List.mem_singleton_self _)
      · intro hrun hw' hmem
        rw [List.mem_singleton.mp hmem]
        apply hrun

theorem served_createSq_iff {hw : PacingHw} (h : hw.Served) (made : Bool) (rate : BitVec 16) :
  (hw.step (.createSq made rate)).Served ↔ (made = true → Serves hw.handles rate)
  := by
  constructor
  · rintro hserved rfl
    exact hserved rate (.inl rfl)
  · rintro hmade rate' (hsq | hother)
    · cases made with
      | false => cases hsq
      | true =>
          cases hsq
          apply hmade rfl
    · rcases List.mem_append.mp hother with hold | hother
      · exact h rate' (.inl (Option.mem_toList.mp hold))
      · exact h rate' (.inr hother)

theorem served_destroySq {hw : PacingHw} (h : hw.Served) (destroys : Bool) :
  (hw.step (.destroySq destroys)).Served
  := by
  rintro rate (hsq | hother)
  · cases hsq
  · cases destroys with
    | true => exact h rate (.inr hother)
    | false =>
        rcases List.mem_append.mp hother with hold | hother
        · exact h rate (.inl (Option.mem_toList.mp hold))
        · exact h rate (.inr hother)

/-- The events of `init`. -/
theorem served_init_iff {hw : PacingHw} (h : hw.Served) (handle : Option PpHandle) (made : Bool)
    (rate : BitVec 16) :
  (∀ hw' ∈ hw.states (handle.toList.map .alloc ++ [.createSq made rate]), hw'.Served)
    ↔ (made = true → Serves (handle.toList ++ hw.handles) rate)
  := by
  obtain ⟨hstates, hrun⟩ := served_states_alloc h handle
  have hcreate := served_createSq_iff hrun made rate
  rw [run_alloc] at hcreate
  rw [← hcreate, states_append, run_alloc]
  constructor
  · intro hall
    apply hall _ (List.mem_append_right _ (List.mem_singleton_self _))
  · intro hserved hw' hmem
    rcases List.mem_append.mp hmem with hmem | hmem
    · apply hstates hw' hmem
    · rw [List.mem_singleton.mp hmem]
      apply hserved

/-- The events of a `modify` that succeeds: the SQ has the new index, and the old handle is
freed. -/
theorem served_modify_iff {hw : PacingHw} (h : hw.Served) (new old : Option PpHandle)
    (rate : BitVec 16) :
  (∀ hw' ∈ hw.states (new.toList.map .alloc ++ .modifySq rate :: old.toList.map .free),
      hw'.Served)
    ↔ ∀ rate', (hw.sq ≠ none ∧ rate' = rate ∨ rate' ∈ hw.others) →
      Serves (without (new.toList ++ hw.handles) old) rate'
  := by
  obtain ⟨hstates, -⟩ := served_states_alloc h new
  let hw₁ : PacingHw :=
    { hw with handles := new.toList ++ hw.handles, sq := hw.sq.map fun _ => rate }
  have hlive (rate' : BitVec 16) :
      hw₁.Live rate' ↔ hw.sq ≠ none ∧ rate' = rate ∨ rate' ∈ hw.others := by
    cases hsq : hw.sq <;> simp [hw₁, Live, hsq, eq_comm]
  have hfreed : (∀ rate', (hw.sq ≠ none ∧ rate' = rate ∨ rate' ∈ hw.others) →
      Serves (without (new.toList ++ hw.handles) old) rate')
        ↔ (hw₁.run (old.toList.map .free)).Served := by
    rw [run_free]
    constructor
    · intro hserves rate' hrate'
      apply hserves rate' ((hlive rate').mp hrate')
    · intro hserved rate' hrate'
      apply hserved rate' ((hlive rate').mpr hrate')
  rw [hfreed, states_append, run_alloc]
  constructor
  · intro hall
    have hmodified : hw₁.Served :=
      hall hw₁ (List.mem_append_right _ List.mem_cons_self)
    apply (served_states_free_iff hmodified old).mp
    intro hw' hmem
    apply hall hw' (List.mem_append_right _ (List.mem_cons_of_mem _ hmem))
  · intro hserved hw' hmem
    have hmodified : hw₁.Served := served_of_run_free hserved
    rcases List.mem_append.mp hmem with hmem | hmem
    · apply hstates hw' hmem
    · rcases List.mem_cons.mp hmem with rfl | hmem
      · apply hmodified
      · apply (served_states_free_iff hmodified old).mpr hserved hw' hmem

/-- The events of a `modify` that fails: the new handle is freed again. -/
theorem served_undone {hw : PacingHw} (h : hw.Served) (new : Option PpHandle) :
  ∀ hw' ∈ hw.states (new.toList.map .alloc ++ new.toList.map .free), hw'.Served
  := by
  obtain ⟨hstates, hrun⟩ := served_states_alloc h new
  rw [states_append]
  intro hw' hmem
  rcases List.mem_append.mp hmem with hmem | hmem
  · apply hstates hw' hmem
  · apply (served_states_free_iff hrun new).mpr _ hw' hmem
    rw [run_alloc, run_free]
    cases new with
    | none => apply h
    | some handle =>
        have hback : without ([handle] ++ hw.handles) (some handle) = hw.handles :=
          List.erase_cons_head handle hw.handles
        simp only [Option.toList_some, hback]
        apply h

/-- The events of the destructor: the handle is freed while the SQs are alive. -/
theorem served_delete_iff {hw : PacingHw} (h : hw.Served) (old : Option PpHandle) (live : Bool)
    (destroys : Bool) :
  (∀ hw' ∈ hw.states (old.toList.map .free ++ if live then [.destroySq destroys] else []),
      hw'.Served)
    ↔ ∀ rate, hw.Live rate → Serves (without hw.handles old) rate
  := by
  have hfreed : (∀ rate, hw.Live rate → Serves (without hw.handles old) rate)
      ↔ (hw.run (old.toList.map .free)).Served := by
    rw [run_free]
    exact Iff.rfl
  rw [hfreed, states_append, ← served_states_free_iff h]
  constructor
  · intro hall hw' hmem
    apply hall hw' (List.mem_append_left _ hmem)
  · intro hstates hw' hmem
    rcases List.mem_append.mp hmem with hmem | hmem
    · apply hstates hw' hmem
    · cases live with
      | false => cases hmem
      | true =>
          rw [List.mem_singleton.mp hmem]
          apply served_destroySq ((served_states_free_iff h old).mp hstates)

/-- The last state is the one that the events lead to. -/
theorem run_mem_states (hw : PacingHw) (events : List PpEvent) :
  hw.run events = hw ∨ hw.run events ∈ hw.states events
  := by
  induction events generalizing hw with
  | nil => exact .inl rfl
  | cons event events ih =>
      right
      rw [run_cons, states]
      rcases ih (hw.step event) with hsame | hmem
      · rw [hsame]
        apply List.mem_cons_self
      · apply List.mem_cons_of_mem _ hmem

end PacingHw

end Dpcp
