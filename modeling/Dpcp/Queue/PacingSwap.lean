import Dpcp.Queue.Pacing

/-!
# Exchanging the pacing handle

`pp_sq::modify` allocates a handle, programs its index and frees the old handle, and it can fail at
each of these steps; a MODIFY that the device refuses programs nothing.  A call that fails has
undone what it did: the queue has its old handle and index, and the world outside is as it was.  A
call that succeeds has exchanged the handles, and the old one was freed when the device had the new
index.
-/

namespace Dpcp

open Bits Dcmd Prm

namespace PpSq

/-! ### One call -/

/-- A call that led from `q` to `q'` with the events `events` has left nothing behind. -/
structure Undone (q q' : PpSq) (events : List PpEvent) : Prop where
  pp : q'.mPp = q.mPp
  ppIdx : q'.mPpIdx = q.mPpIdx
  hw : ∀ hw : PacingHw, hw.run events = hw
  freed : ∀ handle, .alloc handle ∈ events → events.count (.free handle) = 1

/-- A call that led from `q` to `q'` with the events `events` has allocated the new handle,
programmed its index and then freed the old handle. -/
structure Swapped (q q' : PpSq) (events : List PpEvent) : Prop where
  order : events = (handle q'.mPp).toList.map .alloc
    ++ .modifySq (q'.mPpIdx.setWidth 16) :: (handle q.mPp).toList.map .free
  ppIdx : q'.mPpIdx = indexOfHandle (handle q'.mPp)
  freed : ∀ old, handle q.mPp = some old → events.count (.free old) = 1

/-- The second half of `modify` fails, and the new `packet_pacing` is deleted, or it programs the
index of the new one and deletes the old one. -/
theorem reprogram_cases (q : PpSq) (pp : Option PacketPacing) (ppIdx : BitVec 32)
    (answers : Answers) :
  (∃ ret q' sent, ret ≠ .ok
      ∧ q.reprogram pp (ppIdx &&& 0xFFFF) answers = some (ret, q', frees pp, sent)
      ∧ q'.mPp = q.mPp ∧ q'.mPpIdx = q.mPpIdx)
    ∨ ∃ q' sent, q.reprogram pp (ppIdx &&& 0xFFFF) answers
        = some (.ok, q', .modifySq (ppIdx.setWidth 16) :: frees q.mPp, sent)
      ∧ q'.mPp = pp ∧ q'.mPpIdx = indexOf pp
  := by
  by_cases hreaches : q.Reaches
  · obtain ⟨ret, q', hreprogram, -, hafter⟩ := reprogram_of_reaches hreaches pp ppIdx answers
    rw [hreprogram]
    split at hafter
    · rename_i hok
      obtain ⟨rfl, hpp, hidx⟩ := hafter
      rw [if_pos hok]
      exact .inr ⟨q', _, rfl, hpp, hidx⟩
    · rename_i hfails
      obtain ⟨hret, hpp, hidx⟩ := hafter
      rw [if_neg hfails]
      exact .inl ⟨ret, q', _, hret, rfl, hpp, hidx⟩
  · obtain ⟨ret, q', hreprogram, -, hret, hpp, hidx⟩ :=
      reprogram_of_not_reaches hreaches pp (ppIdx &&& 0xFFFF) answers
    exact .inl ⟨ret, q', none, hret, hreprogram, hpp, hidx⟩

/-- Allocating a handle and freeing it again leaves nothing behind. -/
theorem undone_of_events {q q' : PpSq} (hpp : q'.mPp = q.mPp) (hidx : q'.mPpIdx = q.mPpIdx)
    (handle : Option PpHandle) :
  Undone q q' (handle.toList.map .alloc ++ handle.toList.map .free)
  := by
  refine ⟨hpp, hidx, ?_, ?_⟩
  · intro hw
    cases handle with
    | none => rfl
    | some handle =>
        simp [PacingHw.run, PacingHw.step, Machine.run]
  · intro handle' hmem
    cases handle with
    | none => cases hmem
    | some handle =>
        have hsame : handle' = handle := by simpa using hmem
        rw [hsame]
        simp

/-- A new handle, its index, and then the old handle. -/
theorem swapped_of_events {q q' : PpSq} (hidx : q'.mPpIdx = indexOfHandle (handle q'.mPp)) :
  Swapped q q' ((handle q'.mPp).toList.map .alloc
    ++ .modifySq (q'.mPpIdx.setWidth 16) :: (handle q.mPp).toList.map .free)
  := by
  refine ⟨rfl, hidx, ?_⟩
  intro old hold
  rw [hold, List.count_append, List.count_eq_zero_of_not_mem]
  · simp
  · simp

/-- A call of `modify` fails and leaves nothing behind, or it succeeds and exchanges the
handles. -/
theorem modify_cases (q : PpSq) (attr : SqAttr) (pacing : PpEnv) (answers : Answers) :
  ∃ ret q' events sent, q.modify attr pacing answers = some (ret, q', events, sent)
    ∧ (ret ≠ .ok ∧ Undone q q' events ∨ ret = .ok ∧ Swapped q q' events)
  := by
  cases hmake : makePp attr pacing with
  | error ret =>
      refine ⟨ret, q, [], none, ?_, Or.inl ⟨?_, ?_⟩⟩
      · simp only [modify, hmake]
      · rintro rfl
        apply makePp_ne_ok hmake
      · apply undone_of_events rfl rfl none
  | ok pp =>
      rcases q.reprogram_cases pp (indexOf pp) answers with
        ⟨ret, q', sent, hret, hreprogram, hpp, hidx⟩ | ⟨q', sent, hreprogram, rfl, hidx⟩
      · refine ⟨ret, q', (handle pp).toList.map .alloc ++ frees pp, sent, ?_, Or.inl ⟨hret, ?_⟩⟩
        · rw [modify_eq hmake, hreprogram]
          rfl
        · apply undone_of_events hpp hidx
      · refine ⟨.ok, q', (handle q'.mPp).toList.map .alloc
          ++ .modifySq (q'.mPpIdx.setWidth 16) :: frees q.mPp, sent, ?_, Or.inr ⟨rfl, ?_⟩⟩
        · rw [modify_eq hmake, hreprogram, hidx]
          rfl
        · apply swapped_of_events
          rw [hidx, (handle_of_makePp hmake).1]

/-- Every call of `modify` returns.  If it fails, then the queue has the handle and the index it
had, the device has the index it had, and a handle that was allocated has been freed once.  If it
succeeds, then the old handle was freed once, after the device had got the new index, and the queue
has the index of its handle. -/
theorem modify_undone_or_swapped (q : PpSq) (attr : SqAttr) (pacing : PpEnv) (answers : Answers) :
  ∃ ret q' events sent, q.modify attr pacing answers = some (ret, q', events, sent)
    ∧ (ret ≠ .ok → Undone q q' events) ∧ (ret = .ok → Swapped q q' events)
  := by
  obtain ⟨ret, q', events, sent, hmodify, hcases⟩ := q.modify_cases attr pacing answers
  refine ⟨ret, q', events, sent, hmodify, ?_⟩
  rcases hcases with ⟨hret, hundone⟩ | ⟨hret, hswapped⟩
  · exact ⟨fun _ => hundone, fun hok => absurd hok hret⟩
  · exact ⟨fun hfail => absurd hret hfail, fun _ => hswapped⟩

/-! ### Any number of calls -/

/-- A call of `modify`, with what the world outside decides during it. -/
structure ModifyCall where
  attr : SqAttr
  pacing : PpEnv
  answers : Answers

/-- The queue and the world outside after a call. -/
def modifyStep (s : PpSq × PacingHw) (call : ModifyCall) : PpSq × PacingHw :=
  match s.1.modify call.attr call.pacing call.answers with
  | some (_, q, events, _) => (q, s.2.run events)
  | none => s

/-- The only handle is the one of the queue, and its index is what the queue and the device
have. -/
structure Paced (s : PpSq × PacingHw) : Prop where
  handles : s.2.handles = (handle s.1.mPp).toList
  ppIdx : s.1.mPpIdx = indexOfHandle (handle s.1.mPp)
  rate : ∀ rate, s.2.sq = some rate → rate = s.1.mPpIdx.setWidth 16

/-- An exchange of handles leaves the new one. -/
theorem paced_of_swapped {q q' : PpSq} {events : List PpEvent} (h : Swapped q q' events)
    {hw : PacingHw} (hpaced : Paced (q, hw)) :
  Paced (q', hw.run events)
  := by
  have hhandles : hw.handles = (handle q.mPp).toList := hpaced.handles
  have hrun : hw.run events =
      { hw with
        handles := (handle q'.mPp).toList
        sq := hw.sq.map fun _ => q'.mPpIdx.setWidth 16 } := by
    have hleft : PacingHw.without ((handle q'.mPp).toList ++ (handle q.mPp).toList) (handle q.mPp)
        = (handle q'.mPp).toList := by
      cases handle q.mPp with
      | none => simp [PacingHw.without]
      | some old =>
          cases handle q'.mPp with
          | none => simp [PacingHw.without]
          | some new => by_cases hnew : new = old <;> simp [PacingHw.without, hnew]
    rw [h.order, PacingHw.run_append, PacingHw.run_cons, PacingHw.run_alloc, PacingHw.run_free]
    simp only [PacingHw.step, hhandles, hleft]
  rw [hrun]
  refine ⟨rfl, h.ppIdx, ?_⟩
  intro rate hrate
  obtain ⟨rate', -, rfl⟩ := Option.map_eq_some_iff.mp hrate
  rfl

/-- After any number of calls of `modify`, whatever fails, the only handle is the one of the queue,
and its index is what the queue and the device have. -/
theorem paced_run {s : PpSq × PacingHw} (h : Paced s) (calls : List ModifyCall) :
  Paced (Machine.run modifyStep s calls)
  := by
  apply Machine.inv_run _ h
  rintro ⟨q, hw⟩ call hpaced
  obtain ⟨ret, q', events, sent, hmodify, hcases⟩ :=
    q.modify_cases call.attr call.pacing call.answers
  have hstep : modifyStep (q, hw) call = (q', hw.run events) := by
    simp only [modifyStep, hmodify]
  rw [hstep]
  rcases hcases with ⟨-, hundone⟩ | ⟨-, hswapped⟩
  · rw [hundone.hw]
    refine ⟨?_, ?_, ?_⟩ <;> simp only [hundone.pp, hundone.ppIdx]
    · apply hpaced.handles
    · apply hpaced.ppIdx
    · apply hpaced.rate
  · apply paced_of_swapped hswapped hpaced

end PpSq

end Dpcp
