import Dpcp.Machine.Run
import Dpcp.Obj

/-!
# Completion channels

A `comp_channel` tells a program that a completion has arrived in a CQ.  The program binds the
channel to a CQ, requests a notification, gets it, and requests the next one.  `bind`, `unbind`,
`request` and `flush` all have a CQ as an argument, and all but `bind` leave it unused: a
`dcmd::compchannel` works with the CQ that was last passed to its `bind`.

On Linux a request is `ibv_req_notify_cq`, on the object of the device, which the channel takes for
a CQ of the verbs library.  What the library makes of that is its own affair: the channel is
modelled with the calls that the library gets.  On Windows a request is `devx_overlapped_io_park`,
which waits in the background, and `devx_overlapped_io_flush` ends what waits for a CQ.

For each of the two systems the calls on a channel are the steps of a machine, together with the
completions that arrive.
-/

namespace Dpcp

open Machine

/-- A CQ as it is passed to a channel, with the number of the CQ of the device. -/
structure CqRef where
  base : Obj
  number : Nat

namespace CqRef

/-- `obj::get_handle` of the CQ, by the number of the CQ of the device: none for a null handle. -/
def getHandle (cq : CqRef) : Status × Option Nat :=
  (cq.base.getHandle, if cq.base.mHandle then some cq.number else none)

/-- The CQ of the device, if there is one. -/
def handle (cq : CqRef) : Option Nat :=
  if cq.base.live then some cq.number else none

end CqRef

/-- The errors of `dcmd`. -/
inductive DcmdStatus where
  | eok
  | eio
  | einval
  | enotsup
deriving DecidableEq

/-- What a call of verbs or DevX returns: zero, `-ECANCELED` or another error. -/
inductive IoResult where
  | ok
  | canceled
  | failed
deriving DecidableEq

/-- What happens to a channel: a call, with what the system below returns, or a completion in a CQ
of the device. -/
inductive ChannelEvent where
  | bind (cq : CqRef) (result : IoResult)
  | unbind (cq : CqRef)
  | request (cq : CqRef) (result : IoResult)
  | flush (cq : CqRef)
  | complete (n : Nat)

/-! ### Linux -/

/-- A call of the verbs library: `ibv_req_notify_cq` or `ibv_ack_cq_events`. -/
inductive LinuxCall where
  | reqNotifyCq (cq : Nat) (solicitedOnly : Bool)
  | ackCqEvents (cq nevents : Nat)
deriving DecidableEq

/-- `dcmd::compchannel` on Linux. -/
structure LinuxChannel where
  mCqObj : Option Nat
  mBinded : Bool
  mSolicited : Bool

namespace LinuxChannel

/-- The constructor of `compchannel`, where `ibv_create_comp_channel` succeeds. -/
def new : LinuxChannel :=
  ⟨none, false, false⟩

/-- `compchannel::bind`, with the calls of the library. -/
def bind (cc : LinuxChannel) (cqObj : Option Nat) (solicitedOnly : Bool) (result : IoResult) :
    DcmdStatus × LinuxChannel × List LinuxCall :=
  match cqObj with
  | none => (.einval, cc, [])
  | some n =>
      let cc := { cc with mCqObj := some n, mSolicited := solicitedOnly }
      if result = .ok then
        (.eok, { cc with mBinded := true }, [.reqNotifyCq n solicitedOnly])
      else
        (.eio, cc, [.reqNotifyCq n solicitedOnly])

/-- `compchannel::unbind`. -/
def unbind (cc : LinuxChannel) : DcmdStatus × LinuxChannel :=
  (.eok, { cc with mBinded := false })

/-- `compchannel::request`, with the calls of the library; there is no result for a null CQ. -/
def request (cc : LinuxChannel) (result : IoResult) : Option (DcmdStatus × List LinuxCall) :=
  cc.mCqObj.map fun n =>
    (if result = .ok then .eok else .eio, [.reqNotifyCq n cc.mSolicited])

/-- `compchannel::flush`, by the calls of the library. -/
def flush (cc : LinuxChannel) (nevents : Nat) : List LinuxCall :=
  match cc.mCqObj with
  | some n => if nevents ≠ 0 then [.ackCqEvents n nevents] else []
  | none => []

end LinuxChannel

/-- A channel on Linux, with the calls that the verbs library has got. -/
structure LinuxEvents where
  cc : LinuxChannel
  calls : List LinuxCall

namespace LinuxEvents

def new : LinuxEvents :=
  ⟨.new, []⟩

/-- `comp_channel::bind`. -/
def bind (s : LinuxEvents) (cq : CqRef) (result : IoResult) : Status × LinuxEvents :=
  match cq.getHandle with
  | (.ok, objH) =>
      let (err, cc, calls) := s.cc.bind objH false result
      (if err = .eok then .ok else .errNoDevices, ⟨cc, s.calls ++ calls⟩)
  | (ret, _) => (ret, s)

/-- `comp_channel::unbind`. -/
def unbind (s : LinuxEvents) : Status × LinuxEvents :=
  let (err, cc) := s.cc.unbind
  (if err = .eok then .ok else .errNoContext, { s with cc })

/-- `comp_channel::request`; there is no result without a CQ. -/
def request (s : LinuxEvents) (result : IoResult) : Option (Status × LinuxEvents) :=
  (s.cc.request result).map fun (err, calls) =>
    (if err = .eok then .ok else .errNoContext, { s with calls := s.calls ++ calls })

/-- `comp_channel::flush`. -/
def flush (s : LinuxEvents) : LinuxEvents :=
  { s with calls := s.calls ++ s.cc.flush 0 }

/-- The next state.  A request without a CQ ends the program, and completions do not come to the
channel. -/
def step (s : LinuxEvents) : ChannelEvent → LinuxEvents
  | .bind cq result => (s.bind cq result).2
  | .unbind _ => s.unbind.2
  | .request _ result => ((s.request result).map Prod.snd).getD s
  | .flush _ => s.flush
  | .complete _ => s

/-- A CQ without a handle is not bound. -/
theorem bind_of_none {cq : CqRef} (h : cq.handle = none) (s : LinuxEvents) (result : IoResult) :
  (s.bind cq result).2 = s
  := by
  rw [CqRef.handle, Obj.live] at h
  cases hobj : cq.base.mObjHandle with
  | false => simp [bind, CqRef.getHandle, Obj.getHandle, hobj]
  | true =>
      have hhandle : cq.base.mHandle = false := by simpa [hobj] using h
      simp [bind, CqRef.getHandle, Obj.getHandle, hobj, hhandle, LinuxChannel.bind]

/-- A CQ with a handle is the one that the channel works with from then on, whatever the library
returns. -/
theorem bind_of_some {cq : CqRef} {n : Nat} (h : cq.handle = some n) (s : LinuxEvents)
    (result : IoResult) :
  (s.bind cq result).2
    = ⟨⟨some n, if result = .ok then true else s.cc.mBinded, false⟩,
      s.calls ++ [.reqNotifyCq n false]⟩
  := by
  obtain ⟨hlive, rfl⟩ : cq.base.live = true ∧ cq.number = n := by simpa [CqRef.handle] using h
  rw [Obj.live, Bool.and_eq_true] at hlive
  simp only [bind, CqRef.getHandle, Obj.getHandle, hlive, if_true, LinuxChannel.bind]
  split
  · rfl
  · rfl

/-- `flush` has nothing to do, as it is always called with no events. -/
theorem flush_eq (s : LinuxEvents) :
  s.flush = s
  := by
  obtain ⟨⟨mCqObj, mBinded, mSolicited⟩, calls⟩ := s
  cases mCqObj <;> simp [flush, LinuxChannel.flush]

end LinuxEvents

/-! ### The CQ that was last bound -/

/-- The CQ that an event passes to `bind`, if it does and the CQ has a handle. -/
def ChannelEvent.bound : ChannelEvent → Option Nat
  | .bind cq _ => cq.handle
  | _ => none

/-- The CQ that was last passed to `bind`, after these events. -/
def lastBound : List ChannelEvent → Option Nat
  | [] => none
  | e :: l => (lastBound l).or e.bound

/-- The CQ for which an event asks the verbs library, where `last` was last passed to `bind`. -/
def ChannelEvent.asks (last : Option Nat) : ChannelEvent → Option Nat
  | .bind cq _ => cq.handle
  | .request _ _ => last
  | _ => none

/-- The CQs for which the events ask the verbs library, where `last` was last passed to `bind`. -/
def asked : Option Nat → List ChannelEvent → List Nat
  | _, [] => []
  | last, e :: l => (e.asks last).toList ++ asked (e.bound.or last) l

namespace LinuxEvents

/-- What every event does: the channel works with the CQ that is bound, if there is one, and never
for solicited events only; the library is asked for the CQ that is bound, or for the one that
was. -/
theorem step_spec {s : LinuxEvents} (hsolicited : s.cc.mSolicited = false) (e : ChannelEvent) :
  (s.step e).cc.mCqObj = e.bound.or s.cc.mCqObj ∧ (s.step e).cc.mSolicited = false
    ∧ (s.step e).calls = s.calls
      ++ (e.asks s.cc.mCqObj).toList.map fun n => .reqNotifyCq n false
  := by
  cases e with
  | bind cq result =>
      rw [step, ChannelEvent.bound, ChannelEvent.asks]
      cases hhandle : cq.handle with
      | none =>
          rw [bind_of_none hhandle]
          exact ⟨rfl, hsolicited, (List.append_nil _).symm⟩
      | some n =>
          rw [bind_of_some hhandle]
          exact ⟨rfl, rfl, rfl⟩
  | unbind cq => exact ⟨rfl, hsolicited, (List.append_nil _).symm⟩
  | flush cq =>
      rw [step, flush_eq]
      exact ⟨rfl, hsolicited, (List.append_nil _).symm⟩
  | request cq result =>
      simp only [step, request, LinuxChannel.request, ChannelEvent.asks, ChannelEvent.bound]
      cases hcq : s.cc.mCqObj with
      | none => exact ⟨hcq, hsolicited, (List.append_nil _).symm⟩
      | some m =>
          refine ⟨hcq, hsolicited, ?_⟩
          rw [hsolicited]
          rfl
  | complete n => exact ⟨rfl, hsolicited, (List.append_nil _).symm⟩

/-- The channel is no more than the CQ that was last passed to `bind`. -/
theorem run_spec {s : LinuxEvents} (hsolicited : s.cc.mSolicited = false) (l : List ChannelEvent) :
  (run step s l).cc.mCqObj = (lastBound l).or s.cc.mCqObj
    ∧ (run step s l).cc.mSolicited = false
    ∧ (run step s l).calls
      = s.calls ++ (asked s.cc.mCqObj l).map fun n => .reqNotifyCq n false
  := by
  induction l generalizing s with
  | nil => exact ⟨rfl, hsolicited, (List.append_nil _).symm⟩
  | cons e l ih =>
      obtain ⟨hcq, hsolicited, hcalls⟩ := step_spec hsolicited e
      obtain ⟨hcq', hsolicited', hcalls'⟩ := ih hsolicited
      refine ⟨?_, hsolicited', ?_⟩
      · rw [run_cons, hcq', hcq, lastBound, Option.or_assoc]
      · rw [run_cons, hcalls', hcalls, hcq, asked, List.map_append, List.append_assoc]

/-- A request that succeeds asks the library for the CQ that it is made for. -/
def Asks (s : LinuxEvents) (cq : CqRef) : Prop :=
  ∀ n s', cq.handle = some n → s.request .ok = some (.ok, s') →
    s'.calls = s.calls ++ [.reqNotifyCq n false]

theorem asks_iff {s : LinuxEvents} (hsolicited : s.cc.mSolicited = false) (cq : CqRef) :
  s.Asks cq ↔ ∀ m n, s.cc.mCqObj = some m → cq.handle = some n → n = m
  := by
  constructor
  · intro h m n hm hn
    have hcalls := h n { s with calls := s.calls ++ [.reqNotifyCq m s.cc.mSolicited] } hn
      (by rw [request, LinuxChannel.request, hm]; rfl)
    have hcall := List.append_cancel_left hcalls
    rw [hsolicited] at hcall
    cases hcall
    rfl
  · intro h n s' hn hrequest
    obtain ⟨⟨err, calls⟩, hchannel, heq⟩ := Option.map_eq_some_iff.mp hrequest
    obtain ⟨m, hm, hcalls⟩ := Option.map_eq_some_iff.mp hchannel
    obtain ⟨-, rfl⟩ := Prod.mk.inj heq
    obtain ⟨-, rfl⟩ := Prod.mk.inj hcalls
    rw [hsolicited, h m n hm hn]

/-- In every run on Linux, the verbs library is called for a notification once for every CQ with a
handle that is passed to `bind`, and once in every request, for the CQ that was last passed to
`bind`, whatever the library returned then; and it is not called for anything else.  So every
request asks for the CQ that it is made for just if every request is made for the CQ that was last
passed to `bind`. -/
theorem linux_requests_asked_iff (l : List ChannelEvent) :
  (run step new l).calls = (asked none l).map (fun n => .reqNotifyCq n false)
    ∧ ((∀ l' cq, l' ++ [.request cq .ok] <+: l → (run step new l').Asks cq)
      ↔ ∀ l' cq, l' ++ [.request cq .ok] <+: l →
        ∀ m n, lastBound l' = some m → cq.handle = some n → n = m)
  := by
  have hspec (l : List ChannelEvent) := run_spec (s := new) rfl l
  refine ⟨(hspec l).2.2, ?_⟩
  have hasks (l' : List ChannelEvent) (cq : CqRef) : (run step new l').Asks cq
      ↔ ∀ m n, lastBound l' = some m → cq.handle = some n → n = m := by
    have hbound : (run step new l').cc.mCqObj = lastBound l' :=
      (hspec l').1.trans Option.or_none
    rw [asks_iff (hspec l').2.1, hbound]
  simp only [hasks]

end LinuxEvents

/-! ### Windows -/

/-- `dcmd::compchannel` on Windows.  There is no CQ before the first `bind`. -/
structure WindowsChannel where
  mCqObj : Option Nat
  mBinded : Bool
  mAdapterShutdown : Bool

/-- A channel on Windows with the CQs for which a request waits. -/
structure WindowsEvents where
  cc : WindowsChannel
  parked : Nat → Bool

namespace WindowsEvents

def new : WindowsEvents :=
  ⟨⟨none, false, false⟩, fun _ => false⟩

/-- `comp_channel::bind`, with `compchannel::bind`; `result` is that of
`devx_overlapped_io_enable`. -/
def bind (s : WindowsEvents) (cq : CqRef) (result : IoResult) : Status × WindowsEvents :=
  match cq.getHandle with
  | (.ok, none) => (.errNoDevices, s)
  | (.ok, some n) =>
      let cc := { s.cc with mCqObj := some n }
      if result = .ok then (.ok, { s with cc := { cc with mBinded := true } })
      else (.errNoDevices, { s with cc })
  | (ret, _) => (ret, s)

/-- `compchannel::flush`: nothing waits for the CQ any longer. -/
def flush (s : WindowsEvents) : WindowsEvents :=
  match s.cc.mBinded, s.cc.mCqObj with
  | true, some n => { s with parked := Function.update s.parked n false }
  | _, _ => s

/-- `comp_channel::unbind`, with `compchannel::unbind`. -/
def unbind (s : WindowsEvents) : Status × WindowsEvents :=
  let s := s.flush
  (.ok, { s with cc := { s.cc with mBinded := false } })

/-- `comp_channel::request`, with `compchannel::request`; there is no result without a CQ. -/
def request (s : WindowsEvents) (result : IoResult) : Option (Status × WindowsEvents) :=
  s.cc.mCqObj.map fun n =>
    match result with
    | .ok => (.ok, { s with parked := Function.update s.parked n true })
    | .canceled => (.errNoContext, { s with cc := { s.cc with mAdapterShutdown := true } })
    | .failed => (.errNoContext, s)

/-- A completion arrives in a CQ: what waits for it ends. -/
def complete (s : WindowsEvents) (n : Nat) : WindowsEvents :=
  { s with parked := Function.update s.parked n false }

def step (s : WindowsEvents) : ChannelEvent → WindowsEvents
  | .bind cq result => (s.bind cq result).2
  | .unbind _ => s.unbind.2
  | .request _ result => ((s.request result).map Prod.snd).getD s
  | .flush _ => s.flush
  | .complete n => s.complete n

/-- Nothing waits but for the CQ that the channel is bound to. -/
def Tidy (s : WindowsEvents) : Prop :=
  ∀ n, s.parked n = true → s.cc.mCqObj = some n ∧ s.cc.mBinded = true

/-- The call is no `bind` to a CQ while a request waits for another one, and no request on a channel
that is not bound. -/
def InOrder (s : WindowsEvents) : ChannelEvent → Prop
  | .bind cq _ => ∀ n k, cq.handle = some n → s.parked k = true → k = n
  | .request _ .ok => s.cc.mCqObj.isSome → s.cc.mBinded = true
  | _ => True

theorem flush_eq (s : WindowsEvents) :
  s.flush.cc = s.cc ∧ ∀ n, s.flush.parked n = true ↔ s.parked n = true
    ∧ ¬ (s.cc.mCqObj = some n ∧ s.cc.mBinded = true)
  := by
  rw [flush]
  cases hbinded : s.cc.mBinded with
  | false => simp
  | true =>
      cases hcq : s.cc.mCqObj with
      | none => simp
      | some m =>
          refine ⟨rfl, ?_⟩
          intro n
          by_cases hn : n = m
          · simp [hn]
          · simp [Function.update_of_ne hn, Ne.symm hn]

/-- `unbind` leaves nothing that waits just if nothing waits but for the CQ that the channel is
bound to. -/
theorem tidy_iff (s : WindowsEvents) :
  s.Tidy ↔ ∀ n, s.unbind.2.parked n = false
  := by
  have hparked (n : Nat) : s.unbind.2.parked n = s.flush.parked n := rfl
  simp only [Tidy, hparked]
  apply forall_congr'
  intro n
  rw [← Bool.not_eq_true, (s.flush_eq).2 n]
  tauto

theorem bind_of_none {cq : CqRef} (h : cq.handle = none) (s : WindowsEvents) (result : IoResult) :
  (s.bind cq result).2 = s
  := by
  rw [CqRef.handle, Obj.live] at h
  cases hobj : cq.base.mObjHandle with
  | false => simp [bind, CqRef.getHandle, Obj.getHandle, hobj]
  | true =>
      have hhandle : cq.base.mHandle = false := by simpa [hobj] using h
      simp [bind, CqRef.getHandle, Obj.getHandle, hobj, hhandle]

theorem bind_of_some {cq : CqRef} {n : Nat} (h : cq.handle = some n) (s : WindowsEvents)
    (result : IoResult) :
  (s.bind cq result).2 = { s with cc :=
    ⟨some n, if result = .ok then true else s.cc.mBinded, s.cc.mAdapterShutdown⟩ }
  := by
  obtain ⟨hlive, rfl⟩ : cq.base.live = true ∧ cq.number = n := by simpa [CqRef.handle] using h
  rw [Obj.live, Bool.and_eq_true] at hlive
  simp only [bind, CqRef.getHandle, Obj.getHandle, hlive, if_true]
  split
  · rfl
  · rfl

theorem Tidy.flush {s : WindowsEvents} (hs : s.Tidy) (n : Nat) :
  s.flush.parked n = false
  := (tidy_iff s).mp hs n

/-- From a state where nothing waits but for the CQ that the channel is bound to, a call that is in
order is one that leads to such a state. -/
theorem tidy_step_iff {s : WindowsEvents} (hs : s.Tidy) (e : ChannelEvent) :
  (s.step e).Tidy ↔ s.InOrder e
  := by
  cases e with
  | bind cq result =>
      rw [step, InOrder]
      cases hhandle : cq.handle with
      | none =>
          rw [bind_of_none hhandle]
          refine iff_of_true hs ?_
          intro n k h
          cases h
      | some m =>
          rw [bind_of_some hhandle]
          constructor
          · rintro h n k ⟨⟩ hk
            obtain ⟨heq, -⟩ := h k hk
            cases heq
            rfl
          · intro h k hk
            obtain ⟨-, hbinded⟩ := hs k hk
            refine ⟨congrArg some (h m k rfl hk).symm, ?_⟩
            simp only [hbinded, ite_self]
  | unbind cq =>
      refine iff_of_true ?_ trivial
      intro n hn
      rw [step, (tidy_iff s).mp hs n] at hn
      cases hn
  | flush cq =>
      refine iff_of_true ?_ trivial
      intro n hn
      rw [step, hs.flush n] at hn
      cases hn
  | request cq result =>
      rw [step, request]
      cases hcq : s.cc.mCqObj with
      | none =>
          refine iff_of_true hs ?_
          cases result with
          | ok => simp [InOrder, hcq]
          | _ => trivial
      | some m =>
          cases result with
          | ok =>
              simp only [InOrder, hcq]
              constructor
              · intro h _
                apply (h m _).2
                exact Function.update_self m true s.parked
              · intro h n hn
                by_cases hnm : n = m
                · exact ⟨hnm ▸ hcq, h rfl⟩
                · apply hs n
                  simpa [Function.update_of_ne hnm] using hn
          | _ => exact iff_of_true hs trivial
  | complete n =>
      refine iff_of_true ?_ trivial
      intro k hk
      by_cases hkn : k = n
      · subst hkn
        simp [step, complete] at hk
      · apply hs k
        simpa [step, complete, Function.update_of_ne hkn] using hk

/-- In every run on Windows, `unbind` would leave nothing that waits, whenever it is called, just if
the channel is never bound to a CQ while a request waits for another one, and no request is made
while it is not bound. -/
theorem windows_unbind_quiet_iff (l : List ChannelEvent) :
  (∀ l', l' <+: l → ∀ n, (run step new l').unbind.2.parked n = false)
    ↔ Along step InOrder new l
  := by
  simp only [← tidy_iff]
  apply forall_prefix_iff_along (I := fun _ => True) _ _ trivial
  · intro n hn
    cases hn
  · intro s e _ _ hs
    apply tidy_step_iff hs
  · intro _ _ _ _ _ _
    trivial

end WindowsEvents

end Dpcp
