import Dpcp.Machine.Run
import Dpcp.Mkey.Ref

/-!
# Ref mkeys made from one another

`ref_mkey::create` takes the id of the parent before it has looked at the rest, and does not give
it back when a later check fails.  The application has any number of ref mkeys, creates them in
any order, from any parents and more than once, also a ref mkey from itself.

Along with every ref mkey goes the root it has its id from, and whether its last creation failed.
A creation is `Sound` if the interval passes the comparison with the region of the parent and its
end is an address, or if no id comes to stand in the ref mkey.  Nothing is asked about the root:
that a ref mkey lies in the region of its root follows from its parent, which was made before.
-/

namespace Dpcp

namespace RefMkey

/-- `create` comes to take the id of the parent. -/
def Takes (m : RefMkey) (parent : Mkey) : Prop :=
  m.mAddress ≠ 0 ∧ m.mLength ≠ 0 ∧ (parent.getId m.mIdx).1 = .ok

instance (m : RefMkey) (parent : Mkey) : Decidable (m.Takes parent) :=
  inferInstanceAs (Decidable (_ ∧ _))

/-- The mkey reports from every getter that it was not created, and no ref mkey can be created from
it. -/
structure Refused (m : RefMkey) : Prop where
  getId : ∀ id, (m.mkey.getId id).1 = .errCreate
  getAddress : ∀ address, (m.mkey.getAddress address).1 = .errCreate
  getLength : ∀ len, (m.mkey.getLength len).1 = .errCreate
  getFlags : ∀ flags, (m.mkey.getFlags flags).1 = .errCreate
  parent : ∀ child : RefMkey, (child.create (some m.mkey)).1 ≠ .ok

/-- The interval of the mkey lies in the region that `root` reports, over the natural numbers. -/
def Inside (m : RefMkey) (root : ParentMkey) : Prop :=
  ∃ address length, root.mkey.region = some (address, length)
    ∧ address.toNat ≤ m.mAddress.toNat
    ∧ m.mAddress.toNat + m.mLength.toNat ≤ address.toNat + length.toNat

/-- The interval of the mkey passes the comparison with the region that `p` reports, in 64 bits. -/
def Fits (m : RefMkey) (p : ParentMkey) : Prop :=
  ∃ address length, p.mkey.region = some (address, length)
    ∧ address ≤ m.mAddress ∧ m.mAddress + m.mLength ≤ address + length

/-- The end of the interval is an address. -/
def Ends (m : RefMkey) : Prop :=
  m.mAddress.toNat + m.mLength.toNat < 2 ^ 64

instance (m : RefMkey) : Decidable m.Ends :=
  inferInstanceAs (Decidable (_ < _))

/-- An interval that ends at an address and passes the comparison lies in the region. -/
theorem inside_of_fits {m : RefMkey} {p : ParentMkey} (hfits : m.Fits p) (hends : m.Ends) :
  m.Inside p
  := by
  obtain ⟨address, length, hregion, hstart, hend⟩ := hfits
  refine ⟨address, length, hregion, hstart, ?_⟩
  rw [BitVec.le_def, BitVec.toNat_add, BitVec.toNat_add, Nat.mod_eq_of_lt hends] at hend
  apply Nat.le_trans hend (Nat.mod_le _ _)

/-- What lies in a ref mkey lies where the ref mkey does. -/
theorem Inside.trans {m m' : RefMkey} {root : ParentMkey} (h : m.Inside (.ref m'))
    (h' : m'.Inside root) :
  m.Inside root
  := by
  obtain ⟨address, length, hregion, hstart, hend⟩ := h
  obtain ⟨rfl, rfl⟩ := region_of_ref hregion
  obtain ⟨address', length', hregion', hstart', hend'⟩ := h'
  exact ⟨address', length', hregion', Nat.le_trans hstart' hstart, Nat.le_trans hend hend'⟩

end RefMkey

/-- The region of the mkey ends at an address. -/
def ParentMkey.Ends (p : ParentMkey) : Prop :=
  ∀ address length, p.mkey.region = some (address, length) →
    address.toNat + length.toNat < 2 ^ 64

/-- A getter of the id that succeeds gives the index of the mkey. -/
theorem ParentMkey.getId_of_ok {p : ParentMkey} {id : BitVec 32}
    (h : (p.mkey.getId id).1 = .ok) :
  p.mkey.getId id = (.ok, p.idx)
  := by
  cases p with
  | direct m | pattern m => rfl
  | reserved m | externMkey m | ref m =>
      simp only [mkey, ReservedMkey.mkey, RefMkey.mkey, Mkey.indexed] at h ⊢
      split at h
      · cases h
      · rename_i hidx
        rw [if_neg hidx]
        rfl

/-- A getter of the id that fails leaves the output parameter as it was. -/
theorem ParentMkey.getId_of_ne_ok {p : ParentMkey} {id : BitVec 32}
    (h : (p.mkey.getId id).1 ≠ .ok) :
  (p.mkey.getId id).2 = id
  := by
  cases p with
  | direct m | pattern m => cases h rfl
  | reserved m | externMkey m | ref m =>
      simp only [mkey, ReservedMkey.mkey, RefMkey.mkey, Mkey.indexed] at h ⊢
      split
      · rfl
      · rename_i hidx
        rw [if_neg hidx] at h
        cases h rfl

namespace RefMkey

/-- A creation that does not take the id fails and changes nothing. -/
theorem create_of_not_takes {m : RefMkey} {p : ParentMkey} (h : ¬ m.Takes p.mkey) :
  (m.create (some p.mkey)).1 ≠ .ok ∧ (m.create (some p.mkey)).2 = m
  := by
  by_cases hnull : m.mAddress = 0 ∨ m.mLength = 0
  · rw [create, if_pos hnull]
    exact ⟨by simp, rfl⟩
  · obtain ⟨haddress, hlength⟩ := not_or.mp hnull
    have hid : (p.mkey.getId m.mIdx).1 ≠ .ok := fun hid => h ⟨haddress, hlength, hid⟩
    have hidx := ParentMkey.getId_of_ne_ok hid
    generalize hreply : p.mkey.getId m.mIdx = reply at hid hidx
    obtain ⟨ret, idx⟩ := reply
    obtain rfl : idx = m.mIdx := hidx
    rw [create, if_neg hnull, hreply]
    cases ret with
    | ok => cases hid rfl
    | _ => exact ⟨hid, rfl⟩

/-- A creation that takes the id keeps it, whether it then fails or not. -/
theorem create_of_takes {m : RefMkey} {p : ParentMkey} (h : m.Takes p.mkey) :
  ∃ flags, (m.create (some p.mkey)).2 = ⟨m.mAddress, m.mLength, p.idx, flags⟩
  := by
  obtain ⟨haddress, hlength, hid⟩ := h
  have hnull : ¬ (m.mAddress = 0 ∨ m.mLength = 0) := not_or.mpr ⟨haddress, hlength⟩
  simp only [create, if_neg hnull, ParentMkey.getId_of_ok hid]
  split
  · split
    · split
      · split
        · exact ⟨_, rfl⟩
        · exact ⟨_, rfl⟩
      · exact ⟨_, rfl⟩
    · exact ⟨_, rfl⟩
  · exact ⟨_, rfl⟩

/-- Once the id is taken, the creation succeeds just if the interval passes the comparison. -/
theorem create_ok_iff_fits {m : RefMkey} {p : ParentMkey} (h : m.Takes p.mkey) :
  (m.create (some p.mkey)).1 = .ok ↔ m.Fits p
  := by
  constructor
  · intro hok
    obtain ⟨-, -, hfits, -⟩ := create_eq_ok_iff.mp (Prod.ext hok rfl)
    apply hfits
  · intro hfits
    rw [create_eq_ok_iff.mpr ⟨h.1, h.2.1, hfits, rfl⟩]

/-- A ref mkey reports an id just if it has an index. -/
theorem getId_ok_iff {m : RefMkey} {id : BitVec 32} :
  (m.mkey.getId id).1 = .ok ↔ m.mIdx ≠ 0
  := by
  simp only [mkey, Mkey.indexed]
  split <;> simp_all

/-- A ref mkey is refused just if it has no index. -/
theorem refused_iff {m : RefMkey} :
  m.Refused ↔ m.mIdx = 0
  := by
  constructor
  · intro h
    by_contra hidx
    have hid := h.getId 0
    simp only [mkey, Mkey.indexed, if_neg hidx] at hid
    cases hid
  · intro hidx
    have hindexed (address length : BitVec 64) (flags : BitVec 32) :
        (Mkey.indexed 0 address length flags).region = none := rfl
    constructor
    · intro id
      simp [mkey, Mkey.indexed, hidx]
    · intro address
      simp [mkey, Mkey.indexed, hidx]
    · intro len
      simp [mkey, Mkey.indexed, hidx]
    · intro flags
      simp [mkey, Mkey.indexed, hidx]
    · intro child hok
      obtain ⟨address, length, hregion⟩ := region_of_create (Prod.ext hok rfl)
      rw [mkey, hidx, hindexed] at hregion
      cases hregion

end RefMkey

/-! ### The ref mkeys of an application -/

namespace RefGraph

/-- A ref mkey, the mkey that is not a ref mkey from which its id comes, and whether its last
creation failed. -/
structure Ref where
  mkey : RefMkey
  root : Option ParentMkey
  failed : Bool

/-- What the application passes as the parent: null, an mkey that is none of its ref mkeys, or a ref
mkey by its position. -/
inductive Parent where
  | null
  | root (p : ParentMkey)
  | ref (k : Nat)

/-- The mkey the parent points to, with its root. -/
def Parent.find (refs : List Ref) : Parent → Option (ParentMkey × Option ParentMkey)
  | null => none
  | root p => some (p, some p)
  | ref k => refs[k]?.map fun r => (.ref r.mkey, r.root)

/-- `create` on one ref mkey. -/
def Ref.create (r : Ref) : Option (ParentMkey × Option ParentMkey) → Ref
  | none => ⟨(r.mkey.create none).2, r.root, decide ((r.mkey.create none).1 ≠ .ok)⟩
  | some (p, root) =>
      ⟨(r.mkey.create (some p.mkey)).2, if r.mkey.Takes p.mkey then root else r.root,
        decide ((r.mkey.create (some p.mkey)).1 ≠ .ok)⟩

/-- A call of the application. -/
inductive Call where
  | construct (address length : BitVec 64)
  | create (k : Nat) (parent : Parent)

/-- One call.  A new ref mkey stands at the end. -/
def step (refs : List Ref) : Call → List Ref
  | .construct address length => refs ++ [⟨.new address length, none, false⟩]
  | .create k parent =>
      match refs[k]? with
      | none => refs
      | some r => refs.set k (r.create (parent.find refs))

/-- A ref mkey whose creation failed says so and is no parent, and one that reports an id describes
memory in the region of its root. -/
structure Ref.Good (r : Ref) : Prop where
  refused : r.failed = true → r.mkey.Refused
  inside : (∃ id, (r.mkey.mkey.getId id).1 = .ok) → ∃ root, r.root = some root ∧ r.mkey.Inside root

/-- All ref mkeys are in order. -/
def Good (refs : List Ref) : Prop :=
  ∀ r ∈ refs, r.Good

/-- The creations that are asked for: one that does not come to the id is made on a ref mkey without
an id, and for any other the parent has no id, or the interval fits it and ends at an address. -/
def Ref.Sound (r : Ref) : Option ParentMkey → Prop
  | none => r.mkey.mIdx = 0
  | some p =>
      if r.mkey.Takes p.mkey then
        p.idx = 0 ∨ r.mkey.Fits p ∧ r.mkey.Ends
      else
        r.mkey.mIdx = 0

/-- The calls that are asked for. -/
def Sound (refs : List Ref) : Call → Prop
  | .construct _ _ => True
  | .create k parent => ∀ r, refs[k]? = some r → r.Sound ((parent.find refs).map Prod.fst)

/-- An mkey that is passed as the parent and is no ref mkey ends at an address. -/
def Call.RootEnds : Call → Prop
  | .create _ (.root p) => p.Ends
  | _ => True

theorem Ref.good_iff {r : Ref} :
  r.Good ↔ r.mkey.mIdx = 0 ∨ r.failed = false ∧ ∃ root, r.root = some root ∧ r.mkey.Inside root
  := by
  have hid : (∃ id, (r.mkey.mkey.getId id).1 = .ok) ↔ r.mkey.mIdx ≠ 0 := by
    simp only [RefMkey.getId_ok_iff, exists_const]
  constructor
  · intro h
    by_cases hidx : r.mkey.mIdx = 0
    · exact .inl hidx
    · refine .inr ⟨?_, h.inside (hid.mpr hidx)⟩
      cases hfailed : r.failed with
      | false => rfl
      | true => cases hidx (RefMkey.refused_iff.mp (h.refused hfailed))
  · rintro (hidx | ⟨hfailed, hinside⟩)
    · exact ⟨fun _ => RefMkey.refused_iff.mpr hidx, fun h => absurd hidx (hid.mp h)⟩
    · refine ⟨?_, fun _ => hinside⟩
      intro h
      cases hfailed.symm.trans h

/-! ### One creation -/

/-- An interval that lies in the parent lies in the root of the parent, which is in order. -/
theorem Good.inside_root {refs : List Ref} (h : Good refs) {parent : Parent} {p : ParentMkey}
    {root : Option ParentMkey} (hfind : parent.find refs = some (p, root)) (hidx : p.idx ≠ 0)
    {m : RefMkey} (hinside : m.Inside p) :
  ∃ root', root = some root' ∧ m.Inside root'
  := by
  cases parent with
  | null => cases hfind
  | root p' =>
      cases hfind
      exact ⟨p, rfl, hinside⟩
  | ref k =>
      obtain ⟨r, hr, heq⟩ := Option.map_eq_some_iff.mp hfind
      cases heq
      rcases Ref.good_iff.mp (h r (List.mem_of_getElem? hr)) with hnone | ⟨-, root', hroot, hin⟩
      · cases hidx hnone
      · exact ⟨root', hroot, hinside.trans hin⟩

/-- A creation that does not come to the id. -/
theorem Ref.good_create_iff_of_not_takes {r : Ref} {p : ParentMkey} (root : Option ParentMkey)
    (h : ¬ r.mkey.Takes p.mkey) :
  (r.create (some (p, root))).Good ↔ r.mkey.mIdx = 0
  := by
  obtain ⟨hret, hmkey⟩ := RefMkey.create_of_not_takes h
  rw [good_iff]
  simp only [create, hmkey, hret, ne_eq, not_false_eq_true, decide_true, Bool.true_eq_false,
    false_and, or_false]

/-- A creation that takes the id. -/
theorem Ref.good_create_iff_of_takes {r : Ref} {p : ParentMkey} (root : Option ParentMkey)
    (h : r.mkey.Takes p.mkey) :
  (r.create (some (p, root))).Good
    ↔ p.idx = 0 ∨ r.mkey.Fits p ∧ ∃ root', root = some root' ∧ r.mkey.Inside root'
  := by
  obtain ⟨flags, hmkey⟩ := RefMkey.create_of_takes h
  have hok := RefMkey.create_ok_iff_fits h
  rw [good_iff]
  simp only [create, if_pos h, hmkey, RefMkey.Inside, decide_eq_false_iff_not, ne_eq, not_not, hok]

/-- A creation that is asked for leaves its ref mkey in order. -/
theorem Good.create {refs : List Ref} (h : Good refs) {r : Ref} {parent : Parent}
    (hsound : r.Sound ((parent.find refs).map Prod.fst)) :
  (r.create (parent.find refs)).Good
  := by
  cases hfind : parent.find refs with
  | none =>
      rw [hfind] at hsound
      exact Ref.good_iff.mpr (.inl hsound)
  | some found =>
      obtain ⟨p, root⟩ := found
      simp only [hfind, Option.map_some, Ref.Sound] at hsound
      split at hsound
      · rename_i htakes
        rw [Ref.good_create_iff_of_takes root htakes]
        rcases hsound with hidx | ⟨hfits, hends⟩
        · exact .inl hidx
        · by_cases hidx : p.idx = 0
          · exact .inl hidx
          · exact .inr ⟨hfits, h.inside_root hfind hidx (RefMkey.inside_of_fits hfits hends)⟩
      · rename_i htakes
        apply (Ref.good_create_iff_of_not_takes root htakes).mpr hsound

/-- The roots of the ref mkeys end at addresses. -/
def Rooted (refs : List Ref) : Prop :=
  ∀ r ∈ refs, ∀ root, r.root = some root → root.Ends

/-- The root that a parent brings along ends at an address. -/
theorem Rooted.find {refs : List Ref} (h : Rooted refs) {k : Nat} {parent : Parent}
    (hends : (Call.create k parent).RootEnds) {p root : ParentMkey}
    (hfind : parent.find refs = some (p, some root)) :
  root.Ends
  := by
  cases parent with
  | null => cases hfind
  | root p' =>
      cases hfind
      apply hends
  | ref k' =>
      obtain ⟨r, hr, heq⟩ := Option.map_eq_some_iff.mp hfind
      apply h r (List.mem_of_getElem? hr)
      apply congrArg Prod.snd heq

theorem Rooted.step {refs : List Ref} (h : Rooted refs) {c : Call} (hends : c.RootEnds) :
  Rooted (RefGraph.step refs c)
  := by
  cases c with
  | construct address length =>
      intro r hr root hroot
      rcases List.mem_append.mp hr with hr | hr
      · apply h r hr root hroot
      · rw [List.mem_singleton.mp hr] at hroot
        cases hroot
  | create k parent =>
      simp only [RefGraph.step]
      cases hk : refs[k]? with
      | none => apply h
      | some r =>
          have hold := h r (List.mem_of_getElem? hk)
          intro r' hr' root hroot
          rcases List.mem_or_eq_of_mem_set hr' with hr' | rfl
          · apply h r' hr' root hroot
          · cases hfind : parent.find refs with
            | none =>
                rw [hfind] at hroot
                apply hold root hroot
            | some found =>
                obtain ⟨p, root'⟩ := found
                simp only [hfind, Ref.create] at hroot
                split at hroot
                · subst hroot
                  apply h.find hends hfind
                · apply hold root hroot

/-- From ref mkeys in order, a call that is asked for leaves them in order. -/
theorem good_step {refs : List Ref} (c : Call) (hsound : Sound refs c) (h : Good refs) :
  Good (step refs c)
  := by
  cases c with
  | construct address length =>
      intro r hr
      rcases List.mem_append.mp hr with hr | hr
      · apply h r hr
      · rw [List.mem_singleton.mp hr]
        apply Ref.good_iff.mpr (.inl rfl)
  | create k parent =>
      simp only [step]
      cases hk : refs[k]? with
      | none => apply h
      | some r =>
          intro r' hr'
          rcases List.mem_or_eq_of_mem_set hr' with hr' | rfl
          · apply h r' hr'
          · apply h.create (hsound r hk)

end RefGraph

end Dpcp
