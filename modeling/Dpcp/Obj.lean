import Dpcp.Api
import Dpcp.Dcmd.Prm

/-!
# HW objects

`class obj`, the base of every object that stands for an object of the device.  A create
command is sent through `dcmd::ctx::create_obj`; what comes back is a parameter, since it is
the device that decides it.
-/

namespace Dpcp

open Bits Dcmd Prm

/-- What comes back from a create command: whether there is an object, and the out mailbox. -/
structure Reply where
  handle : Bool
  out : Memory

/-- The device: its reply to a mailbox and the length of the mailbox. -/
abbrev Device : Type := Memory → Nat → Reply

/-- What comes back from a command on an object of the device: whether the call failed, and the out
mailbox. -/
structure Answer where
  err : Bool
  out : Memory

/-- The command succeeded. -/
def Answer.Ok (answer : Answer) : Prop :=
  answer.err = false ∧ devxGet answer.out 0 StatusOut.status = 0

instance (answer : Answer) : Decidable answer.Ok :=
  inferInstanceAs (Decidable (_ ∧ _))

/-- The device as an object sees it: its answer to a mailbox and the length of the mailbox. -/
abbrev Answers : Type := Memory → Nat → Answer

/-- The numbers the device gives to the objects it makes are not zero. -/
def Device.Numbers (device : Device) : Prop :=
  ∀ m len, (device m len).handle = true → devxGet (device m len).out 0 StatusOut.status = 0 →
    devxGet (device m len).out 0 StatusOut.id ≠ 0

/-- `class obj`.  `mObjHandle` tells whether there is a `dcmd::obj`, and `mHandle` whether that
still has its handle of the device.  The id always comes out of the 24 bits of
`status_out.id`. -/
structure Obj where
  mId : BitVec 32
  mObjHandle : Bool
  mHandle : Bool
  mCtx : Bool
  mLastStatus : BitVec 32
  mLastSyndrome : BitVec 32
  idFits : mId.toNat < 2 ^ 24

namespace Obj

/-- The constructor of `obj`. -/
def new (ctx : Bool) : Obj :=
  ⟨0, false, false, ctx, 0, 0, by decide⟩

/-- `obj::get_id`; `id` is what the output parameter held. -/
def getId (o : Obj) (id : BitVec 32) : Result (BitVec 32) :=
  if o.mObjHandle then (.ok, o.mId) else (.errInvalidId, id)

/-- `obj::get_handle`, by its status. -/
def getHandle (o : Obj) : Status :=
  if o.mObjHandle then .ok else .errCreate

/-- The object of the device is there, and the next `destroy` sends a command for it. -/
def live (o : Obj) : Bool :=
  o.mObjHandle && o.mHandle

/-- `obj::destroy`, with `dcmd::obj::destroy`.  What the device answers is not looked at. -/
def destroy (o : Obj) : Result Obj :=
  (.ok, if o.mObjHandle then { o with mHandle := false } else o)

@[simp]
theorem live_destroy (o : Obj) :
  o.destroy.2.live = false
  := by
  cases h : o.mObjHandle <;> simp [destroy, live, h]

/-- `obj::create`, which also leaves the out mailbox to its caller. -/
def create (o : Obj) (device : Device) (mailbox : Option Memory) (inlen : Nat) (out : Memory)
    (outlen : Nat) : Status × Obj × Memory :=
  if !o.mCtx then
    (.errNoContext, o, out)
  else
    match mailbox with
    | none => (.errInvalidParam, o, out)
    | some m =>
        if inlen < 16 ∨ outlen < 16 then
          (.errInvalidParam, o, out)
        else
          let reply := device m inlen
          let o : Obj :=
            { o with
              mObjHandle := reply.handle
              mHandle := reply.handle
              mLastStatus := devxGet reply.out 0 StatusOut.status
              mLastSyndrome := devxGet reply.out 0 StatusOut.syndrome
              mId := devxGet reply.out 0 StatusOut.id
              idFits := devxGet_lt reply.out 0 StatusOut.id }
          if !reply.handle ∨ o.mLastStatus ≠ 0 then
            (.errCreate, o, reply.out)
          else
            (.ok, o, reply.out)

/-- A creation that succeeds has a context and sent its mailbox, and the object has the handle and
the number of what the device made. -/
theorem sent_of_create {o o' : Obj} {device : Device} {mailbox : Option Memory} {out out' : Memory}
    {inlen outlen : Nat} (h : o.create device mailbox inlen out outlen = (.ok, o', out')) :
  o'.mCtx = true ∧ ∃ m, mailbox = some m
    ∧ o'.live = true ∧ (device m inlen).handle = true
    ∧ devxGet (device m inlen).out 0 StatusOut.status = 0
    ∧ o'.mId = devxGet (device m inlen).out 0 StatusOut.id
  := by
  simp only [create] at h
  split at h
  · cases h
  · rename_i hctx
    cases mailbox with
    | none => cases h
    | some m =>
        simp only at h
        split at h
        · cases h
        · split at h
          · cases h
          · rename_i hreply
            cases h
            refine ⟨by simpa using hctx, m, rfl, ?_⟩
            simpa [live] using hreply

/-- After a creation the object has the handle and the number of what the device made. -/
theorem create_eq_ok {o o' : Obj} {device : Device} {m out out' : Memory} {inlen outlen : Nat}
    (h : o.create device (some m) inlen out outlen = (.ok, o', out')) :
  o'.live = true ∧ (device m inlen).handle = true
    ∧ devxGet (device m inlen).out 0 StatusOut.status = 0
    ∧ o'.mId = devxGet (device m inlen).out 0 StatusOut.id
  := by
  obtain ⟨-, _, hmailbox, hmade⟩ := sent_of_create h
  cases hmailbox
  apply hmade

theorem getId_of_live {o : Obj} (h : o.live = true) (id : BitVec 32) :
  o.getId id = (.ok, o.mId)
  := by
  rw [live, Bool.and_eq_true] at h
  rw [getId, if_pos h.1]

/-- `obj::modify` and `obj::query`, which return `failure` if the command fails.  Without a
`dcmd::obj` there is no result. -/
def command (failure : Status) (o : Obj) (answers : Answers) (m : Memory) (inlen : Nat)
    (out : Memory) (outlen : Nat) : Option (Status × Obj × Memory) :=
  if !o.mCtx then
    some (.errNoContext, o, out)
  else if inlen < 16 ∨ outlen < 16 then
    some (.errInvalidParam, o, out)
  else if !o.mObjHandle then
    none
  else
    let answer := answers m inlen
    let o :=
      { o with
        mLastStatus := devxGet answer.out 0 StatusOut.status
        mLastSyndrome := devxGet answer.out 0 StatusOut.syndrome }
    if answer.err ∨ o.mLastStatus ≠ 0 then
      some (failure, o, answer.out)
    else
      some (.ok, o, answer.out)

/-- `obj::modify`. -/
def modify : Obj → Answers → Memory → Nat → Memory → Nat → Option (Status × Obj × Memory) :=
  command .errModify

/-- `obj::query`. -/
def query : Obj → Answers → Memory → Nat → Memory → Nat → Option (Status × Obj × Memory) :=
  command .errQuery

/-- The object after a command with the out mailbox `out`. -/
def remember (o : Obj) (out : Memory) : Obj :=
  { o with
    mLastStatus := devxGet out 0 StatusOut.status
    mLastSyndrome := devxGet out 0 StatusOut.syndrome }

/-- What a command comes to: an error before it is sent, which leaves the object as it is, or what
the device answers. -/
theorem command_cases {failure : Status} {o o' : Obj} {answers : Answers} {m out out' : Memory}
    {inlen outlen : Nat} {ret : Status}
    (h : o.command failure answers m inlen out outlen = some (ret, o', out')) :
  ret ≠ .ok ∧ o' = o
    ∨ ret = (if (answers m inlen).Ok then .ok else failure)
      ∧ o' = o.remember (answers m inlen).out ∧ out' = (answers m inlen).out
  := by
  simp only [command] at h
  split at h
  · cases h
    exact .inl ⟨by decide, rfl⟩
  · split at h
    · cases h
      exact .inl ⟨by decide, rfl⟩
    · split at h
      · cases h
      · split at h
        · rename_i herr
          cases h
          have hnot : ¬ (answers m inlen).Ok := by
            simpa [Answer.Ok, or_iff_not_imp_left] using herr
          exact .inr ⟨(if_neg hnot).symm, rfl, rfl⟩
        · rename_i hok
          cases h
          have hok : (answers m inlen).Ok := by
            simpa [Answer.Ok] using hok
          exact .inr ⟨(if_pos hok).symm, rfl, rfl⟩

/-- The objects differ only in what they remember of the last command. -/
structure Alike (o o' : Obj) : Prop where
  id : o.mId = o'.mId
  objHandle : o.mObjHandle = o'.mObjHandle
  handle : o.mHandle = o'.mHandle
  ctx : o.mCtx = o'.mCtx

theorem Alike.refl (o : Obj) :
  o.Alike o
  := ⟨rfl, rfl, rfl, rfl⟩

theorem Alike.trans {o o' o'' : Obj} (h : o.Alike o') (h' : o'.Alike o'') :
  o.Alike o''
  := ⟨h.id.trans h'.id, h.objHandle.trans h'.objHandle, h.handle.trans h'.handle,
    h.ctx.trans h'.ctx⟩

theorem Alike.getHandle {o o' : Obj} (h : o.Alike o') :
  o.getHandle = o'.getHandle
  := by
  rw [Obj.getHandle, Obj.getHandle, h.objHandle]

theorem Alike.getId {o o' : Obj} (h : o.Alike o') (id : BitVec 32) :
  o.getId id = o'.getId id
  := by
  rw [Obj.getId, Obj.getId, h.objHandle, h.id]

/-- A command leaves the object as it is, apart from what it remembers. -/
theorem alike_of_command {failure : Status} {o o' : Obj} {answers : Answers} {m out out' : Memory}
    {inlen outlen : Nat} {ret : Status}
    (h : o.command failure answers m inlen out outlen = some (ret, o', out')) :
  o'.Alike o
  := by
  rcases command_cases h with ⟨-, rfl⟩ | ⟨-, rfl, -⟩
  · apply Alike.refl
  · exact ⟨rfl, rfl, rfl, rfl⟩

/-- What a command does does not depend on the last one. -/
theorem Alike.command {o o' : Obj} (h : o.Alike o') (failure : Status) (answers : Answers)
    (m : Memory) (inlen : Nat) (out : Memory) (outlen : Nat) :
  Option.Rel (fun r r' => r.1 = r'.1 ∧ r.2.1.Alike r'.2.1 ∧ r.2.2 = r'.2.2)
    (o.command failure answers m inlen out outlen)
    (o'.command failure answers m inlen out outlen)
  := by
  simp only [Obj.command, h.ctx, h.objHandle]
  split
  · exact .some ⟨rfl, h, rfl⟩
  · split
    · exact .some ⟨rfl, h, rfl⟩
    · split
      · exact .none
      · split
        · exact .some ⟨rfl, ⟨h.id, rfl, h.handle, rfl⟩, rfl⟩
        · exact .some ⟨rfl, ⟨h.id, rfl, h.handle, rfl⟩, rfl⟩

/-- A creation does not depend on the last command either. -/
theorem Alike.create {o o' : Obj} (h : o.Alike o') (device : Device) (mailbox : Option Memory)
    (inlen : Nat) (out : Memory) (outlen : Nat) :
  (o.create device mailbox inlen out outlen).1 = (o'.create device mailbox inlen out outlen).1
    ∧ (o.create device mailbox inlen out outlen).2.1.Alike
      (o'.create device mailbox inlen out outlen).2.1
  := by
  simp only [Obj.create, h.ctx]
  split
  · exact ⟨rfl, h⟩
  · split
    · exact ⟨rfl, h⟩
    · split
      · exact ⟨rfl, h⟩
      · split
        · exact ⟨rfl, ⟨rfl, rfl, rfl, rfl⟩⟩
        · exact ⟨rfl, ⟨rfl, rfl, rfl, rfl⟩⟩

/-- A command that succeeds was answered so. -/
theorem command_eq_ok {failure : Status} (hfailure : failure ≠ .ok) {o o' : Obj}
    {answers : Answers} {m out out' : Memory} {inlen outlen : Nat}
    (h : o.command failure answers m inlen out outlen = some (.ok, o', out')) :
  (answers m inlen).Ok ∧ out' = (answers m inlen).out
  := by
  rcases command_cases h with ⟨hret, -⟩ | ⟨hret, -, hout⟩
  · cases hret rfl
  · split at hret
    · rename_i hok
      exact ⟨hok, hout⟩
    · cases hfailure hret.symm

/-- With a `dcmd::obj` a command has a result. -/
theorem command_isSome {o : Obj} (h : o.mObjHandle = true) (failure : Status) (answers : Answers)
    (m : Memory) (inlen : Nat) (out : Memory) (outlen : Nat) :
  (o.command failure answers m inlen out outlen).isSome = true
  := by
  simp only [command, h]
  split
  · rfl
  · split
    · rfl
    · rw [if_neg (by decide)]
      split <;> rfl

/-- With a context and a `dcmd::obj`, a command is sent, and its status tells whether it
succeeded. -/
theorem command_eq {o : Obj} (hctx : o.mCtx = true) (hhandle : o.mObjHandle = true)
    {inlen outlen : Nat} (hlen : ¬ (inlen < 16 ∨ outlen < 16)) (failure : Status)
    (answers : Answers) (m out : Memory) :
  o.command failure answers m inlen out outlen
    = some (if (answers m inlen).Ok then .ok else failure, o.remember (answers m inlen).out,
      (answers m inlen).out)
  := by
  have hctx : ¬ (!o.mCtx) = true := by simp [hctx]
  have hhandle : ¬ (!o.mObjHandle) = true := by simp [hhandle]
  rw [command, if_neg hctx, if_neg hlen, if_neg hhandle]
  by_cases hok : (answers m inlen).Ok
  · rw [if_pos hok]
    apply if_neg
    simpa [Answer.Ok] using hok
  · rw [if_neg hok]
    apply if_pos
    simpa [Answer.Ok, or_iff_not_imp_left] using hok

/-- A command to create an object: the mailbox, and the lengths of the mailbox and of the output. -/
structure Command where
  mailbox : Memory
  inlen : Nat
  outlen : Nat

/-- The object after a function that sent the command, if it came to that. -/
def send (o : Obj) (device : Device) : Option Command → Obj
  | none => o
  | some c => (o.create device (some c.mailbox) c.inlen zeros c.outlen).2.1

end Obj

end Dpcp
