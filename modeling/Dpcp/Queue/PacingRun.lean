import Dpcp.Queue.Pacing

/-!
# The lives of pacing handles

The SQ in the device has the index of a pacing handle, and must not outlive the handle.  `init` and
`modify` see to that, as long as the indices that the world outside gives fit into 16 bits.  The
destructor does not: it frees the handle of the queue before it destroys the SQ.

The calls that are asked for are told by what they are given and by the state before them.  That
they leave every SQ with an index of a handle follows from an invariant: the queue has the index of
its own handle, and that handle was not freed.
-/

namespace Dpcp

open Bits Dcmd

/-! ### The handles that are needed -/

/-- An index of 16 bits is not cut off. -/
theorem setWidth_of_narrow {index : BitVec 32} (h : index.toNat < 2 ^ 16) :
  (index.setWidth 16).setWidth 32 = index
  := by
  apply BitVec.eq_of_toNat_eq
  rw [BitVec.toNat_setWidth_of_le (by decide), BitVec.toNat_setWidth, Nat.mod_eq_of_lt h]

namespace PacingHw

/-- The index of a handle is served by the handle. -/
theorem serves_indexOfHandle {handles : List PpHandle} {handle : Option PpHandle}
    (hnarrow : ∀ h ∈ handles, h.index.toNat < 2 ^ 16) (hmem : ∀ h, handle = some h → h ∈ handles) :
  Serves handles ((PpSq.indexOfHandle handle).setWidth 16)
  := by
  cases handle with
  | none => exact .inl rfl
  | some handle =>
      have hhandle := hmem handle rfl
      exact .inr ⟨handle, hhandle, (setWidth_of_narrow (hnarrow handle hhandle)).symm⟩

/-- An index that is not that of the handle is served when the handle was freed. -/
theorem Serves.without {handles : List PpHandle} {rate : BitVec 16} (h : Serves handles rate)
    {old : Option PpHandle}
    (hspares : ∀ handle, old = some handle → handle.index ≠ 0 → handle.index.setWidth 16 ≠ rate) :
  Serves (PacingHw.without handles old) rate
  := by
  rcases h with hzero | ⟨handle, hmem, hindex⟩
  · exact .inl hzero
  · cases old with
    | none => exact .inr ⟨handle, hmem, hindex⟩
    | some old =>
        by_cases hold : handle = old
        · subst hold
          have hrate : handle.index.setWidth 16 = rate := by
            rw [hindex, BitVec.setWidth_setWidth_of_le _ (by decide), BitVec.setWidth_eq]
          by_cases hzero : handle.index = 0
          · left
            rw [← hrate, hzero]
            rfl
          · cases hspares handle rfl hzero hrate
        · exact .inr ⟨handle, (List.mem_erase_of_ne hold).mpr hmem, hindex⟩

/-- A new handle is there when an old one was freed. -/
theorem mem_without_new {handles : List PpHandle} {new old : Option PpHandle}
    (hold : ∀ handle, old = some handle → handle ∈ handles) {handle : PpHandle}
    (hnew : new = some handle) :
  handle ∈ without (new.toList ++ handles) old
  := by
  subst hnew
  cases old with
  | none => apply List.mem_cons_self
  | some old =>
      change handle ∈ (handle :: handles).erase old
      by_cases heq : handle = old
      · rw [heq, List.erase_cons_head]
        apply hold old rfl
      · apply (List.mem_erase_of_ne heq).mpr List.mem_cons_self

/-- If no two handles have one index, then the index of a handle is not served once it was
freed. -/
theorem not_serves_without {handles : List PpHandle}
    (hdistinct : (handles.map PpHandle.index).Nodup) {old : PpHandle} (hold : old ∈ handles)
    (hnarrow : old.index.toNat < 2 ^ 16) (hne : old.index ≠ 0) :
  ¬ Serves (without handles (some old)) (old.index.setWidth 16)
  := by
  rintro (hzero | ⟨handle, hmem, hindex⟩)
  · apply hne
    rw [← setWidth_of_narrow hnarrow, hzero]
    rfl
  · rw [setWidth_of_narrow hnarrow] at hindex
    obtain rfl : handle = old :=
      List.inj_on_of_nodup_map hdistinct (List.mem_of_mem_erase hmem) hold hindex
    apply (List.Nodup.of_map _ hdistinct).not_mem_erase hmem

end PacingHw

/-! ### Runs -/

/-- A call on a `pp_sq`, with what the world outside decides. -/
inductive PpCall where
  | init (sqUar : UarT) (env : QueueEnv) (pacing : PpEnv)
  | modify (attr : SqAttr) (pacing : PpEnv) (answer : Answer)
  | destroy (destroys : Bool)
  | delete (destroys : Bool)

/-- The world outside gives the handle during the call. -/
def PpCall.Gives (handle : PpHandle) : PpCall → Prop
  | init _ _ pacing => pacing.Gives handle
  | modify _ pacing _ => pacing.Gives handle
  | destroy _ => False
  | delete _ => False

/-- A `pp_sq`, until it is deleted, with the device and the states that the device has been in. -/
structure PacingRun where
  sq : Option PpSq
  hw : PacingHw
  seen : List PacingHw

namespace PacingRun

/-- A new `pp_sq`. -/
def new (q : PpSq) : PacingRun :=
  ⟨some q, ⟨[], none, []⟩, [⟨[], none, []⟩]⟩

/-- A call leaves `sq`, and does `events` outside. -/
def exec (s : PacingRun) (sq : Option PpSq) (events : List PpEvent) : PacingRun :=
  ⟨sq, s.hw.run events, s.seen ++ s.hw.states events⟩

/-- One call. -/
def step (s : PacingRun) (call : PpCall) : PacingRun :=
  s.sq.elim s fun q =>
    match call with
    | .init sqUar env pacing =>
        (PpSq.init q.mAttr q.mPd env pacing (q.prep sqUar)).elim s fun (_, p) =>
          s.exec (some (q.inited p)) p.events
    | .modify attr pacing answer =>
        (q.modify attr pacing fun _ _ => answer).elim s fun (_, q, events, _) =>
          s.exec (some q) events
    | .destroy destroys => s.exec (some (q.destroy destroys).1) (q.destroy destroys).2
    | .delete destroys => s.exec none (q.delete destroys)

/-- In every state that the device has been in, the index of every SQ was 0 or that of a handle that
was not freed. -/
def Good (s : PacingRun) : Prop :=
  ∀ hw ∈ s.seen, hw.Served

open PacingHw PpSq

/-- The call does not free a handle that an SQ needs.  A `modify` that succeeds frees the handle of
the queue: no SQ that the queue has lost may have its index.  So does the destructor: no SQ at all
may have its index, and that of the queue is to be destroyed before. -/
def Spares (s : PacingRun) : PpCall → Prop
  | .modify attr pacing answer => GetsPacing attr pacing → answer.Ok →
      ∀ q, s.sq = some q → q.Reaches → ∀ old, handle q.mPp = some old → old.index ≠ 0 →
        old.index.setWidth 16 ∉ s.hw.others
  | .delete _ =>
      ∀ q, s.sq = some q → ∀ old, handle q.mPp = some old → old.index ≠ 0 →
        ¬ s.hw.Live (old.index.setWidth 16)
  | _ => True

/-- The calls that are asked for: they are given indices of 16 bits, and free no handle that an SQ
needs. -/
def Keeps (s : PacingRun) (call : PpCall) : Prop :=
  (∀ handle, call.Gives handle → handle.index.toNat < 2 ^ 16) ∧ s.Spares call

/-- The world outside gives indices of 16 bits that no other handle has. -/
def Fresh (s : PacingRun) (call : PpCall) : Prop :=
  ∀ handle, call.Gives handle → handle.index.toNat < 2 ^ 16
    ∧ ∀ other ∈ s.hw.handles, other.index ≠ handle.index

/-! ### What ties the index to the handle -/

/-- The queue has the index of its handle, and the handle was not freed. -/
structure Holds (handles : List PpHandle) (q : PpSq) : Prop where
  ppIdx : q.mPpIdx = indexOfHandle (handle q.mPp)
  handle : ∀ old, handle q.mPp = some old → old ∈ handles

theorem Holds.of_eq {handles : List PpHandle} {q q' : PpSq} (h : Holds handles q)
    (hpp : q'.mPp = q.mPp) (hidx : q'.mPpIdx = q.mPpIdx) :
  Holds handles q'
  := by
  constructor
  · rw [hidx, hpp, h.ppIdx]
  · rw [hpp]
    apply h.handle

/-- What a call on the queue `q` comes to. -/
inductive Outcome (s : PacingRun) (q : PpSq) : PpCall → PacingRun → Prop where
  | hangs {sqUar : UarT} {env : QueueEnv} {pacing : PpEnv} :
      Outcome s q (.init sqUar env pacing) s
  | inits {sqUar : UarT} {env : QueueEnv} {pacing : PpEnv} {q' : PpSq} {new : Option PpHandle}
      {events : List PpEvent} (hgiven : ∀ newHandle, new = some newHandle → pacing.Gives newHandle)
      (hholds : Holds (new.toList ++ s.hw.handles) q')
      (hevents : events = [] ∨ ∃ made, events = [.createSq made (q'.mPpIdx.setWidth 16)]) :
      Outcome s q (.init sqUar env pacing)
        (s.exec (some q') (new.toList.map .alloc ++ events))
  | swaps {attr : SqAttr} {pacing : PpEnv} {answer : Answer} {q' : PpSq}
      (hgets : GetsPacing attr pacing) (hreaches : q.Reaches) (hok : answer.Ok)
      (hgiven : ∀ newHandle, handle q'.mPp = some newHandle → pacing.Gives newHandle)
      (hidx : q'.mPpIdx = indexOfHandle (handle q'.mPp)) :
      Outcome s q (.modify attr pacing answer)
        (s.exec (some q') ((handle q'.mPp).toList.map .alloc
          ++ .modifySq (q'.mPpIdx.setWidth 16) :: (handle q.mPp).toList.map .free))
  | undoes {attr : SqAttr} {pacing : PpEnv} {answer : Answer} {q' : PpSq} {new : Option PpHandle}
      (hno : ¬ (GetsPacing attr pacing ∧ q.Reaches ∧ answer.Ok)) (hholds : Holds s.hw.handles q') :
      Outcome s q (.modify attr pacing answer)
        (s.exec (some q') (new.toList.map .alloc ++ new.toList.map .free))
  | destroys {destroys live : Bool} {q' : PpSq} (hholds : Holds s.hw.handles q') :
      Outcome s q (.destroy destroys)
        (s.exec (some q') (if live then [.destroySq destroys] else []))
  | deletes {destroys live : Bool} :
      Outcome s q (.delete destroys)
        (s.exec none ((handle q.mPp).toList.map .free
          ++ if live then [.destroySq destroys] else []))

theorem outcome_init {s : PacingRun} {q : PpSq} (hq : s.sq = some q) (h : Holds s.hw.handles q)
    (sqUar : UarT) (env : QueueEnv) (pacing : PpEnv) :
  Outcome s q (.init sqUar env pacing) (s.step (.init sqUar env pacing))
  := by
  simp only [step, hq, Option.elim_some]
  cases hinit : PpSq.init q.mAttr q.mPd env pacing (q.prep sqUar) with
  | none => apply Outcome.hangs
  | some r =>
      obtain ⟨ret, p⟩ := r
      obtain ⟨new, events, hevents, hcreate, htakes⟩ := pacing_of_init hinit
      have hevents : p.events = new.toList.map .alloc ++ events := hevents
      rw [Option.elim_some, hevents]
      cases new with
      | none =>
          obtain ⟨hpp, hidx⟩ := htakes
          exact .inits nofun (h.of_eq hpp hidx) hcreate
      | some newHandle =>
          obtain ⟨hgives, hhandle, hidx⟩ := htakes
          apply Outcome.inits _ _ hcreate
          · intro newHandle' hnew
            cases hnew
            apply hgives
          · constructor
            · rw [inited, hhandle, hidx]
              rfl
            · intro old hold
              cases hhandle.symm.trans hold
              apply List.mem_cons_self

theorem outcome_modify {s : PacingRun} {q : PpSq} (hq : s.sq = some q) (h : Holds s.hw.handles q)
    (attr : SqAttr) (pacing : PpEnv) (answer : Answer) :
  Outcome s q (.modify attr pacing answer) (s.step (.modify attr pacing answer))
  := by
  simp only [step, hq, Option.elim_some]
  by_cases hpaces : q.Paces attr pacing
  · obtain ⟨⟨pp, hmake⟩, hreaches⟩ := hpaces
    obtain ⟨ret, q', hmodify, -, hafter⟩ := modify_of_reaches hmake hreaches answer
    rw [hmodify, Option.elim_some]
    by_cases hok : answer.Ok
    · rw [if_pos hok] at hafter ⊢
      obtain ⟨rfl, hidx⟩ := hafter
      obtain ⟨hindex, hgives⟩ := handle_of_makePp hmake
      rw [← hidx]
      apply Outcome.swaps ((makePp_ok_iff attr pacing).mp ⟨_, hmake⟩) hreaches hok hgives
      rw [hidx, hindex]
    · rw [if_neg hok] at hafter ⊢
      exact .undoes (fun hall => hok hall.2.2) (h.of_eq hafter.1 hafter.2)
  · obtain ⟨ret, q', pp, hmodify, -, hpp, hidx⟩ := modify_of_not_paces hpaces fun _ _ => answer
    rw [hmodify, Option.elim_some]
    apply Outcome.undoes _ (h.of_eq hpp hidx)
    rintro ⟨hgets, hreaches, -⟩
    apply hpaces ⟨(makePp_ok_iff attr pacing).mpr hgets, hreaches⟩

/-- A call on a queue that holds its handle. -/
theorem outcome_step {s : PacingRun} {q : PpSq} (hq : s.sq = some q) (h : Holds s.hw.handles q)
    (call : PpCall) :
  Outcome s q call (s.step call)
  := by
  cases call with
  | init sqUar env pacing => apply outcome_init hq h
  | modify attr pacing answer => apply outcome_modify hq h
  | destroy destroys =>
      simp only [step, hq, Option.elim_some]
      exact .destroys (h.of_eq rfl rfl)
  | delete destroys =>
      simp only [step, hq, Option.elim_some]
      apply Outcome.deletes

/-- Every call frees a handle at most, after it has got one at most, and leaves a queue that holds
its handle. -/
theorem Outcome.exchanges {s s' : PacingRun} {q : PpSq} {call : PpCall} (h : Outcome s q call s')
    (hq : s.sq = some q) (hholds : Holds s.hw.handles q) :
  ∃ new old, s'.hw.handles = without (new.toList ++ s.hw.handles) old
    ∧ (∀ newHandle, new = some newHandle → call.Gives newHandle)
    ∧ ∀ q', s'.sq = some q' → Holds s'.hw.handles q'
  := by
  cases h with
  | hangs =>
      refine ⟨none, none, rfl, nofun, ?_⟩
      intro q' hq'
      cases hq.symm.trans hq'
      apply hholds
  | @inits _ _ _ q' new events hgiven hholds' hevents =>
      have hhandles : (s.hw.run (new.toList.map .alloc ++ events)).handles
          = new.toList ++ s.hw.handles := by
        rw [run_append, run_alloc]
        rcases hevents with rfl | ⟨made, rfl⟩ <;> rfl
      refine ⟨new, none, hhandles, hgiven, ?_⟩
      intro q'' hq''
      cases hq''
      rw [exec, hhandles]
      apply hholds'
  | @swaps _ _ _ q' _ _ _ hgiven hidx =>
      have hhandles : (s.hw.run ((handle q'.mPp).toList.map .alloc
          ++ .modifySq (q'.mPpIdx.setWidth 16) :: (handle q.mPp).toList.map .free)).handles
            = without ((handle q'.mPp).toList ++ s.hw.handles) (handle q.mPp) := by
        rw [run_append, run_cons, run_alloc, run_free]
        rfl
      refine ⟨handle q'.mPp, handle q.mPp, hhandles, hgiven, ?_⟩
      intro q'' hq''
      cases hq''
      rw [exec, hhandles]
      exact ⟨hidx, fun new hnew => mem_without_new hholds.handle hnew⟩
  | @undoes _ _ _ q' new hno hholds' =>
      have hrun : s.hw.run (new.toList.map .alloc ++ new.toList.map .free) = s.hw := by
        cases new with
        | none => rfl
        | some new => simp [PacingHw.run, PacingHw.step, Machine.run]
      refine ⟨none, none, ?_, nofun, ?_⟩
      · rw [exec, hrun]
        rfl
      · intro q'' hq''
        cases hq''
        rw [exec, hrun]
        apply hholds'
  | @destroys destroys live q' hholds' =>
      have hhandles : (s.hw.run (if live then [.destroySq destroys] else [])).handles
          = s.hw.handles := by
        cases live <;> rfl
      refine ⟨none, none, hhandles, nofun, ?_⟩
      intro q'' hq''
      cases hq''
      rw [exec, hhandles]
      apply hholds'
  | @deletes destroys live =>
      refine ⟨none, handle q.mPp, ?_, nofun, ?_⟩
      · rw [exec, run_append, run_free]
        cases live <;> rfl
      · intro q' hq'
        cases hq'

/-- What every call with indices of 16 bits keeps. -/
structure Tied (s : PacingRun) : Prop where
  seen : s.hw ∈ s.seen
  narrow : ∀ handle ∈ s.hw.handles, handle.index.toNat < 2 ^ 16
  holds : ∀ q, s.sq = some q → Holds s.hw.handles q

/-- The handles that a call leaves, and the queue. -/
theorem Tied.exchanges {s : PacingRun} (h : s.Tied) (call : PpCall) :
  ∃ new old, (s.step call).hw.handles = without (new.toList ++ s.hw.handles) old
    ∧ (∀ newHandle, new = some newHandle → call.Gives newHandle)
    ∧ ∀ q', (s.step call).sq = some q' → Holds (s.step call).hw.handles q'
  := by
  cases hq : s.sq with
  | none =>
      have hstep : s.step call = s := by
        rw [step, hq, Option.elim_none]
      rw [hstep]
      exact ⟨none, none, rfl, nofun, h.holds⟩
  | some q => apply (outcome_step hq (h.holds q hq) call).exchanges hq (h.holds q hq)

theorem seen_exec {s : PacingRun} (h : s.hw ∈ s.seen) (sq : Option PpSq) (events : List PpEvent) :
  (s.exec sq events).hw ∈ (s.exec sq events).seen
  := by
  rcases s.hw.run_mem_states events with hsame | hmem
  · apply List.mem_append_left
    rw [exec, hsame]
    apply h
  · apply List.mem_append_right _ hmem

theorem Outcome.seen {s s' : PacingRun} {q : PpSq} {call : PpCall} (h : Outcome s q call s')
    (hseen : s.hw ∈ s.seen) :
  s'.hw ∈ s'.seen
  := by
  cases h with
  | hangs => apply hseen
  | inits | swaps | undoes | destroys | deletes => apply seen_exec hseen

/-- The handles are all of 16 bits, with the new one among them. -/
theorem Tied.narrow_append {s : PacingRun} (h : s.Tied) {call : PpCall}
    (hnarrow : ∀ handle, call.Gives handle → handle.index.toNat < 2 ^ 16) {new : Option PpHandle}
    (hgiven : ∀ newHandle, new = some newHandle → call.Gives newHandle) :
  ∀ handle ∈ new.toList ++ s.hw.handles, handle.index.toNat < 2 ^ 16
  := by
  intro handle hmem
  rcases List.mem_append.mp hmem with hnew | hmem
  · apply hnarrow handle (hgiven handle (Option.mem_toList.mp hnew))
  · apply h.narrow handle hmem

/-- Whatever is allocated or freed, the queue holds its handle. -/
theorem Tied.step {s : PacingRun} (h : s.Tied) {call : PpCall}
    (hnarrow : ∀ handle, call.Gives handle → handle.index.toNat < 2 ^ 16) :
  (s.step call).Tied
  := by
  obtain ⟨new, old, hhandles, hgiven, hholds⟩ := h.exchanges call
  refine ⟨?_, ?_, hholds⟩
  · cases hq : s.sq with
    | none =>
        rw [PacingRun.step, hq]
        apply h.seen
    | some q => apply (outcome_step hq (h.holds q hq) call).seen h.seen
  · intro handle hmem
    rw [hhandles] at hmem
    apply h.narrow_append hnarrow hgiven handle (mem_of_mem_without hmem)

/-- No two handles have one index. -/
def Distinct (s : PacingRun) : Prop :=
  (s.hw.handles.map PpHandle.index).Nodup

theorem Distinct.cons {s : PacingRun} (h : s.Distinct) {call : PpCall} (hfresh : s.Fresh call)
    {new : Option PpHandle} (hgiven : ∀ newHandle, new = some newHandle → call.Gives newHandle) :
  ((new.toList ++ s.hw.handles).map PpHandle.index).Nodup
  := by
  cases new with
  | none => apply h
  | some new =>
      apply List.Nodup.cons _ h
      intro hmem
      obtain ⟨other, hother, hindex⟩ := List.mem_map.mp hmem
      apply (hfresh new (hgiven new rfl)).2 other hother hindex

theorem Distinct.step {s : PacingRun} (h : s.Distinct) (htied : s.Tied) {call : PpCall}
    (hfresh : s.Fresh call) :
  (s.step call).Distinct
  := by
  obtain ⟨new, old, hhandles, hgiven, -⟩ := htied.exchanges call
  have hdistinct := h.cons hfresh hgiven
  rw [Distinct, hhandles]
  cases old with
  | none => apply hdistinct
  | some old => apply hdistinct.sublist (List.erase_sublist.map _)

/-! ### What the calls leave -/

theorem good_exec_iff {s : PacingRun} (h : s.Good) (sq : Option PpSq) (events : List PpEvent) :
  (s.exec sq events).Good ↔ ∀ hw ∈ s.hw.states events, hw.Served
  := by
  constructor
  · intro hgood hw hmem
    apply hgood hw (List.mem_append_right _ hmem)
  · intro hstates hw hmem
    rcases List.mem_append.mp hmem with hseen | hnew
    · apply h hw hseen
    · apply hstates hw hnew

/-- A call that is asked for leaves every SQ with an index of a handle that was not freed. -/
theorem good_step {s : PacingRun} (htied : s.Tied) (h : s.Good) {call : PpCall}
    (hkeeps : s.Keeps call) :
  (s.step call).Good
  := by
  have hserved : s.hw.Served := h s.hw htied.seen
  obtain ⟨hnarrow, hspares⟩ := hkeeps
  cases hq : s.sq with
  | none =>
      rw [step, hq]
      apply h
  | some q =>
      have hholds := htied.holds q hq
      have houtcome := outcome_step hq hholds call
      generalize s.step call = s' at houtcome ⊢
      cases houtcome with
      | hangs => apply h
      | @inits _ _ _ q' new events hgiven hholds' hevents =>
          rw [good_exec_iff h]
          rcases hevents with rfl | ⟨made, rfl⟩
          · rw [List.append_nil]
            apply (served_states_alloc hserved new).1
          · rw [served_init_iff hserved]
            intro _
            rw [hholds'.ppIdx]
            apply serves_indexOfHandle (htied.narrow_append hnarrow hgiven) hholds'.handle
      | @swaps _ _ _ q' hgets hreaches hok hgiven hidx =>
          rw [good_exec_iff h, served_modify_iff hserved]
          rintro rate (⟨-, rfl⟩ | hother)
          · rw [hidx]
            apply serves_indexOfHandle
            · intro handle hmem
              apply htied.narrow_append hnarrow hgiven handle (mem_of_mem_without hmem)
            · intro handle hnew
              apply mem_without_new hholds.handle hnew
          · have hserves := (hserved rate (.inr hother)).mono fun _ hmem =>
              List.mem_append_right (handle q'.mPp).toList hmem
            apply hserves.without
            rintro old hold hne rfl
            apply hspares hgets hok q hq hreaches old hold hne hother
      | undoes =>
          rw [good_exec_iff h]
          apply served_undone hserved
      | @destroys destroys live q' hholds' =>
          rw [good_exec_iff h]
          cases live with
          | false => nofun
          | true =>
              intro hw hmem
              rw [List.mem_singleton.mp hmem]
              apply served_destroySq hserved
      | deletes =>
          rw [good_exec_iff h, served_delete_iff hserved]
          intro rate hlive
          apply (hserved rate hlive).without
          rintro old hold hne rfl
          apply hspares q hq old hold hne hlive

/-- If no two handles have one index, then only the calls that are asked for do. -/
theorem spares_of_good_step {s : PacingRun} (htied : s.Tied) (hdistinct : s.Distinct) (h : s.Good)
    {call : PpCall} (hfresh : s.Fresh call) (hgood : (s.step call).Good) :
  s.Spares call
  := by
  have hserved : s.hw.Served := h s.hw htied.seen
  cases call with
  | init sqUar env pacing => trivial
  | modify attr pacing answer =>
      intro hgets hok q hq hreaches old hold hne hmem
      have hholds := htied.holds q hq
      have hold' := hholds.handle old hold
      have houtcome := outcome_step hq hholds (.modify attr pacing answer)
      generalize s.step (.modify attr pacing answer) = s' at houtcome hgood
      cases houtcome with
      | undoes hno => apply hno ⟨hgets, hreaches, hok⟩
      | swaps _ _ _ hgiven _ =>
          rw [good_exec_iff h, served_modify_iff hserved] at hgood
          have hserves := hgood _ (.inr hmem)
          rw [hold] at hserves
          apply not_serves_without (hdistinct.cons hfresh hgiven) _ (htied.narrow old hold') hne
            hserves
          apply List.mem_append_right _ hold'
  | destroy destroys => trivial
  | delete destroys =>
      intro q hq old hold hne hlive
      have hholds := htied.holds q hq
      have hold' := hholds.handle old hold
      have houtcome := outcome_step hq hholds (.delete destroys)
      generalize s.step (.delete destroys) = s' at houtcome hgood
      cases houtcome with
      | deletes =>
          rw [good_exec_iff h, served_delete_iff hserved] at hgood
          have hserves := hgood _ hlive
          rw [hold] at hserves
          apply not_serves_without hdistinct hold' (htied.narrow old hold') hne hserves

theorem good_new (q : PpSq) :
  (new q).Good
  := by
  intro hw hmem rate hrate
  rw [List.mem_singleton.mp hmem] at hrate
  rcases hrate with hsq | hother
  · cases hsq
  · cases hother

theorem tied_new {q : PpSq} (hpp : q.mPp = none) (hidx : q.mPpIdx = 0) :
  (new q).Tied
  := by
  refine ⟨List.mem_singleton_self _, nofun, ?_⟩
  rintro q' hq'
  cases hq'
  constructor
  · rw [hpp, hidx]
    rfl
  · intro old hold
    rw [hpp] at hold
    cases hold

/-- In every state that the device is in during a run on a `pp_sq` without pacing, the index of
every SQ that is alive is 0 or that of a handle that was not freed, if every call of the run is one
that is asked for.  If the world outside gives each index to one handle at a time, it is so only if
every call is one that is asked for. -/
theorem pacing_served_iff_keeps {q : PpSq} (hpp : q.mPp = none) (hidx : q.mPpIdx = 0)
    (calls : List PpCall) :
  (Machine.Along step Keeps (new q) calls →
      ∀ calls', calls' <+: calls → (Machine.run step (new q) calls').Good)
    ∧ (Machine.Along step Fresh (new q) calls →
      (∀ calls', calls' <+: calls → (Machine.run step (new q) calls').Good) →
        Machine.Along step Keeps (new q) calls)
  := by
  have htied := tied_new hpp hidx
  constructor
  · rintro hkeeps calls' ⟨rest, rfl⟩
    apply And.right
    apply Machine.inv_run_of_along (I := fun s => s.Tied ∧ s.Good) _ hkeeps.left
      ⟨htied, good_new q⟩
    rintro s call hcall ⟨hs, hgood⟩
    exact ⟨hs.step hcall.1, good_step hs hgood hcall⟩
  · intro hfresh hgood
    apply Machine.along_of_forall_prefix (I := fun s => s.Tied ∧ s.Distinct) _ _ hfresh
      ⟨htied, List.nodup_nil⟩ hgood
    · rintro s call hcall ⟨hs, hdistinct⟩ h hstep
      exact ⟨fun handle hgives => (hcall handle hgives).1,
        spares_of_good_step hs hdistinct h hcall hstep⟩
    · rintro s call hcall ⟨hs, hdistinct⟩
      exact ⟨hs.step fun handle hgives => (hcall handle hgives).1, hdistinct.step hs hcall⟩

/-- A `pp_sq` for a rate of 1000. -/
def paced : PpSq :=
  .new true 1 ⟨some (.packetPacing ⟨1000, 0, 0⟩), 1, 1, 1, 64, 4, 0⟩

/-- A world that gives the index 5. -/
def fifth : PpEnv :=
  ⟨true, fun _ => some ⟨0x3000, 5⟩⟩

/-- It is created, with a pacing handle of index 5, destroyed and then deleted: the handle is freed
when there is no SQ. -/
theorem pacing_served_destroyed :
  (∀ hw ∈ (Machine.run step (new paced)
      [.init ⟨0x2000, 0x2800, 7⟩ .generous fifth, .destroy true, .delete true]).seen, hw.Served)
    ∧ (Machine.run step (new paced)
      [.init ⟨0x2000, 0x2800, 7⟩ .generous fifth, .destroy true, .delete true]).seen
    = [⟨[], none, []⟩, ⟨[⟨0x3000, 5⟩], none, []⟩, ⟨[⟨0x3000, 5⟩], some 5, []⟩,
      ⟨[⟨0x3000, 5⟩], none, []⟩, ⟨[], none, []⟩]
  := by
  refine ⟨?_, rfl⟩
  apply (pacing_served_iff_keeps rfl rfl _).1 _ _ (List.prefix_refl _)
  refine ⟨⟨?_, trivial⟩, ⟨nofun, trivial⟩, ⟨nofun, ?_⟩, trivial⟩
  · rintro handle ⟨context, hgives⟩
    cases hgives
    decide
  · rintro q hq old hold hne (hsq | hother)
    · cases hsq
    · cases hother

/-- It is created, with a pacing handle of index 5, and then deleted: the handle is freed while the
SQ still has its index. -/
theorem pacing_freed_before_destroy :
  (Machine.run step (new paced)
      [.init ⟨0x2000, 0x2800, 7⟩ .generous ⟨true, fun _ => some ⟨0x3000, 5⟩⟩, .delete true]).seen
    = [⟨[], none, []⟩, ⟨[⟨0x3000, 5⟩], none, []⟩, ⟨[⟨0x3000, 5⟩], some 5, []⟩, ⟨[], some 5, []⟩,
      ⟨[], none, []⟩]
    ∧ ¬ PacingHw.Served ⟨[], some 5, []⟩
  := by
  refine ⟨by rfl, ?_⟩
  intro h
  rcases h 5 (.inl rfl) with hzero | ⟨handle, hmem, -⟩
  · cases hzero
  · cases hmem

end PacingRun

end Dpcp
