import Dpcp.Transport.Cached

/-!
# Transport interface send objects

`tis` with all that its attributes hold.  There is no `modify`, so that the context of the device is
the one that `create` gave it.

`create` writes four attributes and `query` reads three: that a TIS is for NVMe over TCP is not read
back.
-/

namespace Dpcp

open Bits Dcmd Prm

/-- `struct tis::attr`. -/
structure TisAttr where
  flags : BitVec 32
  tlsEn : BitVec 1
  nvmeotcp : BitVec 1
  transportDomain : BitVec 24
  pd : BitVec 24
deriving DecidableEq

/-- The bits of the flags of `tis::attr`. -/
def tisAttrTransportDomain : Nat := 1
def tisAttrTls : Nat := 2
def tisAttrPd : Nat := 3
def tisAttrNvmeotcp : Nat := 4

namespace Tis

def mlx5CmdOpCreateTis : BitVec 32 := 0x912
def mlx5CmdOpQueryTis : BitVec 32 := 0x915

/-- The mailbox of `tis::create`. -/
def createMailbox (attr : TisAttr) : Memory :=
  let m := zeros
  let m := devxSet m 0 CreateTisIn.opcode mlx5CmdOpCreateTis
  let p := CreateTisIn.ctx
  let m := devxSetIf (attr.flags.getLsbD tisAttrTransportDomain) p
    [(Tisc.transportDomain, attr.transportDomain.setWidth 32)] m
  let m := devxSetIf (attr.flags.getLsbD tisAttrTls) p [(Tisc.tlsEn, attr.tlsEn.setWidth 32)] m
  let m := devxSetIf (attr.flags.getLsbD tisAttrPd) p [(Tisc.pd, attr.pd.setWidth 32)] m
  devxSetIf (attr.flags.getLsbD tisAttrNvmeotcp) p
    [(Tisc.nvmeotcpEn, attr.nvmeotcp.setWidth 32)] m

/-- The mailbox of `tis::query`. -/
def queryMailbox (tisn : BitVec 32) : Memory :=
  let m := zeros
  let m := devxSet m 0 QueryTisIn.opcode mlx5CmdOpQueryTis
  devxSet m 0 QueryTisIn.tisn tisn

/-- The flags of all attributes that `query` reads. -/
def readFlags : BitVec 32 :=
  BitVec.twoPow 32 tisAttrTransportDomain ||| BitVec.twoPow 32 tisAttrTls
    ||| BitVec.twoPow 32 tisAttrPd

/-- The attributes `attr` after `query` has read the context at `p`. -/
def readContext (attr : TisAttr) (m : Memory) (p : Nat) : TisAttr :=
  { attr with
    flags := attr.flags ||| readFlags
    transportDomain := (devxGet m p Tisc.transportDomain).setWidth 24
    tlsEn := (devxGet m p Tisc.tlsEn).setWidth 1
    pd := (devxGet m p Tisc.pd).setWidth 24 }

/-- `class tis`. -/
def kind : CachedKind TisAttr where
  flags := TisAttr.flags
  blank := ⟨0, 0, 0, 0, 0⟩
  createMailbox := createMailbox
  createIn := CreateTisIn.bytes
  createOut := CreateTisOut.bytes
  createContext := CreateTisIn.ctx
  queryMailbox := queryMailbox
  queryIn := QueryTisIn.bytes
  queryOut := QueryTisOut.bytes
  queryContext := QueryTisOut.tisContext
  fill attr out := readContext attr out QueryTisOut.tisContext
  view ctx := readContext ⟨0, 0, 0, 0, 0⟩ ctx 0
  flags_blank := rfl
  flags_view _ := by
    have hflags : (0 ||| readFlags : BitVec 32) ≠ 0 := by decide
    apply hflags
  fill_blank out := by
    simp only [readContext, devxGet_slice, Nat.add_zero]

/-- `tis::tis`. -/
def new : Bool → Cached TisAttr :=
  Cached.new kind

/-- `tis::create`. -/
def create : Cached TisAttr → TisAttr → Device → Answers → Option (Result (Cached TisAttr)) :=
  Cached.create kind

/-- `tis::query`. -/
def query : Cached TisAttr → TisAttr → Answers → Option (Status × Cached TisAttr × TisAttr) :=
  Cached.query kind

/-- A call, with what the device answers; the context in the answer to a QUERY is the one it has. -/
inductive Call where
  | create (attr : TisAttr) (device : Device) (answer : Answer)
  | query (out : TisAttr) (answer : Answer)

/-- One call. -/
def step (w : Cached.World TisAttr) : Call → Cached.World TisAttr
  | .create attr device answer => w.create kind attr device answer
  | .query out answer => w.query kind out answer

theorem coherent_step (w : Cached.World TisAttr) (call : Call) (h : w.Coherent kind) :
  (step w call).Coherent kind
  := by
  cases call with
  | create attr device answer => apply h.create
  | query out answer => apply h.query

theorem holds_step {ctx : Memory} (w : Cached.World TisAttr) (call : Call) (h : w.Holds kind ctx) :
  (step w call).Holds kind ctx
  := by
  cases call with
  | create attr device answer => apply h.create
  | query out answer => apply h.query

/-- The attributes flagged in `made` are flagged in `attr`, with the same values. -/
structure Echoes (made attr : TisAttr) : Prop where
  transportDomain : made.flags.getLsbD tisAttrTransportDomain = true →
    attr.flags.getLsbD tisAttrTransportDomain = true ∧ attr.transportDomain = made.transportDomain
  tlsEn : made.flags.getLsbD tisAttrTls = true →
    attr.flags.getLsbD tisAttrTls = true ∧ attr.tlsEn = made.tlsEn
  pd : made.flags.getLsbD tisAttrPd = true →
    attr.flags.getLsbD tisAttrPd = true ∧ attr.pd = made.pd
  nvmeotcp : made.flags.getLsbD tisAttrNvmeotcp = true →
    attr.flags.getLsbD tisAttrNvmeotcp = true ∧ attr.nvmeotcp = made.nvmeotcp

/-- The context of the mailbox, read in the mailbox. -/
theorem view_createdContext (attr : TisAttr) :
  kind.view (Cached.createdContext kind attr)
    = readContext ⟨0, 0, 0, 0, 0⟩ (createMailbox attr) CreateTisIn.ctx
  := by
  simp only [kind, Cached.createdContext, readContext, devxGet_slice, Nat.add_zero]

/-- What is read from the context is what `create` was asked for, unless that was NVMe over TCP. -/
theorem echoes_created_iff (attr : TisAttr) :
  Echoes attr (kind.view (Cached.createdContext kind attr))
    ↔ attr.flags.getLsbD tisAttrNvmeotcp = false
  := by
  rw [view_createdContext]
  constructor
  · intro h
    by_contra hflag
    obtain ⟨hread, -⟩ := h.nvmeotcp (by simpa using hflag)
    have hunread : (0 ||| readFlags : BitVec 32).getLsbD tisAttrNvmeotcp = false := rfl
    cases hunread.symm.trans hread
  · intro hno
    constructor <;> intro hflag <;> simp only [readContext, createMailbox]
    · refine ⟨rfl, ?_⟩
      rw [devxGet_devxSetIf_of_apart _ _ rfl, devxGet_devxSetIf_of_apart _ _ rfl,
        devxGet_devxSetIf_of_apart _ _ rfl, hflag]
      apply setWidth_devxGet_devxSetIf _ _ Tisc.transportDomain attr.transportDomain [] [] rfl rfl
    · refine ⟨rfl, ?_⟩
      rw [devxGet_devxSetIf_of_apart _ _ rfl, devxGet_devxSetIf_of_apart _ _ rfl, hflag]
      apply setWidth_devxGet_devxSetIf _ _ Tisc.tlsEn attr.tlsEn [] [] rfl rfl
    · refine ⟨rfl, ?_⟩
      rw [devxGet_devxSetIf_of_apart _ _ rfl, hflag]
      apply setWidth_devxGet_devxSetIf _ _ Tisc.pd attr.pd [] [] rfl rfl
    · cases hno.symm.trans hflag

/-- After a creation that succeeded, whatever was called before and is called after it, every query
succeeds and reports the attributes that were flagged, with their values, exactly if NVMe over TCP
was not flagged. -/
theorem tis_query_echoes_iff (ctx : Bool) (calls : List Call) (w : Cached.World TisAttr)
    (hw : w = Machine.run step (.new kind ctx) calls) (attr : TisAttr) (device : Device)
    (answer : Answer) (obj : Cached TisAttr)
    (hcreate : create w.obj attr device
      (Cached.echo kind (Cached.createdContext kind attr) answer) = some (.ok, obj)) :
  (∀ later out answer', ∃ attr',
      (Machine.run step (step w (.create attr device answer)) later).report kind out answer'
        = some (.ok, attr') ∧ Echoes attr attr')
    ↔ attr.flags.getLsbD tisAttrNvmeotcp = false
  := by
  have hcoherent : w.Coherent kind :=
    hw ▸ Machine.inv_run coherent_step (Cached.World.coherent_new ctx) calls
  have hholds (later : List Call) :
      (Machine.run step (step w (.create attr device answer)) later).Holds kind
        (Cached.createdContext kind attr) :=
    Machine.inv_run holds_step (Cached.World.holds_of_create hcoherent hcreate) later
  rw [← echoes_created_iff]
  constructor
  · intro h
    obtain ⟨attr', hreport, hechoes⟩ := h [] kind.blank ⟨false, zeros⟩
    rw [(hholds []).report] at hreport
    cases hreport
    apply hechoes
  · intro hechoes later out answer'
    exact ⟨_, (hholds later).report out answer', hechoes⟩

/-- A TIS with TLS can be created, and all its attributes are read back. -/
theorem tis_query_echoes_tls :
  (step (.new kind true) (.create ⟨0x4, 1, 0, 0, 0⟩ (fun _ _ => ⟨true, zeros⟩)
      ⟨false, zeros⟩)).obj.base.mObjHandle = true
    ∧ ∀ later out answer', ∃ attr',
      (Machine.run step (step (.new kind true)
          (.create ⟨0x4, 1, 0, 0, 0⟩ (fun _ _ => ⟨true, zeros⟩) ⟨false, zeros⟩)) later).report kind
          out answer' = some (.ok, attr') ∧ Echoes ⟨0x4, 1, 0, 0, 0⟩ attr'
  := by
  refine ⟨by rfl, ?_⟩
  apply (tis_query_echoes_iff true [] _ rfl ⟨0x4, 1, 0, 0, 0⟩ (fun _ _ => ⟨true, zeros⟩)
    ⟨false, zeros⟩ _ rfl).mpr rfl

/-- A TIS for NVMe over TCP: the device has it so, and the query reports neither the flag nor the
value. -/
theorem tis_query_drops_nvmeotcp :
  (step (.new kind true) (.create ⟨0x10, 0, 1, 0, 0⟩ (fun _ _ => ⟨true, zeros⟩)
      ⟨false, zeros⟩)).report kind kind.blank ⟨false, zeros⟩ = some (.ok, ⟨0xe, 0, 0, 0, 0⟩)
    ∧ devxGet (step (.new kind true) (.create ⟨0x10, 0, 1, 0, 0⟩ (fun _ _ => ⟨true, zeros⟩)
      ⟨false, zeros⟩)).ctx 0 Tisc.nvmeotcpEn = 1
    ∧ ¬ Echoes ⟨0x10, 0, 1, 0, 0⟩ ⟨0xe, 0, 0, 0, 0⟩
  := by
  refine ⟨by rfl, by rfl, ?_⟩
  intro h
  cases (h.nvmeotcp rfl).1

end Tis

end Dpcp
