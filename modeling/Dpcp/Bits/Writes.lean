import Mathlib.Data.List.Pairwise
import Dpcp.Bits.Memory

/-!
# Lists of writes to a bit string

A `Write` gives a run of consecutive bits their values, and `puts` makes a list of writes
in order.  A bit no write covers keeps its value; when the writes are pairwise disjoint, a
covered bit has the value given by the write that covers it, wherever in the list that
write stands.

`selected` keeps the writes of a list whose condition holds: what a sequence of conditional
writes makes.
-/

namespace Bits

/-- A write of the `size` bits from `pos` on, bit `pos + j` becoming `val j`. -/
structure Write where
  pos : Nat
  size : Nat
  val : Nat → Bool

namespace Write

/-- The bits a write gives a value. -/
def Covers (w : Write) (i : Nat) : Prop :=
  w.pos ≤ i ∧ i < w.pos + w.size

instance (w : Write) (i : Nat) : Decidable (w.Covers i) :=
  inferInstanceAs (Decidable (_ ∧ _))

/-- Two writes with no bit in common. -/
def Disjoint (w w' : Write) : Prop :=
  w.pos + w.size ≤ w'.pos ∨ w'.pos + w'.size ≤ w.pos

instance (w w' : Write) : Decidable (w.Disjoint w') :=
  inferInstanceAs (Decidable (_ ∨ _))

/-- A write inside the bits from `lo` up to `hi`. -/
def Within (lo hi : Nat) (w : Write) : Prop :=
  lo ≤ w.pos ∧ w.pos + w.size ≤ hi

theorem Within.disjoint {lo hi lo' hi' : Nat} {w w' : Write} (h : w.Within lo hi)
    (h' : w'.Within lo' hi') (hle : hi ≤ lo' ∨ hi' ≤ lo) :
  w.Disjoint w'
  := by
  simp only [Within, Disjoint] at *
  omega

theorem Within.mono {lo hi lo' hi' : Nat} {w : Write} (h : w.Within lo hi) (hlo : lo' ≤ lo)
    (hhi : hi ≤ hi') :
  w.Within lo' hi'
  := by
  simp only [Within] at *
  omega

/-- Where a write starts and how long it is. -/
def span (w : Write) : Nat × Nat :=
  (w.pos, w.size)

instance : Std.Symm Write.Disjoint where
  symm _ _ := Or.symm

theorem Disjoint.not_covers {w w' : Write} (h : w.Disjoint w') {i : Nat} (hi : w.Covers i) :
  ¬ w'.Covers i
  := by
  simp only [Disjoint, Covers] at *
  omega

/-- The bit string `s` after the write `w`. -/
def put (s : Nat → Bool) (w : Write) : Nat → Bool :=
  fun i => if w.Covers i then w.val (i - w.pos) else s i

theorem put_of_covers (s : Nat → Bool) {w : Write} {i : Nat} (h : w.Covers i) :
  put s w i = w.val (i - w.pos)
  := if_pos h

theorem put_of_not_covers (s : Nat → Bool) {w : Write} {i : Nat} (h : ¬ w.Covers i) :
  put s w i = s i
  := if_neg h

/-- Disjoint writes commute. -/
theorem put_comm (s : Nat → Bool) {w w' : Write} (h : w.Disjoint w') :
  put (put s w) w' = put (put s w') w
  := by
  funext i
  by_cases hi : w.Covers i
  · rw [put_of_not_covers _ (h.not_covers hi), put_of_covers _ hi, put_of_covers _ hi]
  · rw [put_of_not_covers _ hi]
    by_cases hi' : w'.Covers i
    · rw [put_of_covers _ hi', put_of_covers _ hi']
    · rw [put_of_not_covers _ hi', put_of_not_covers _ hi', put_of_not_covers _ hi]

/-- The write of the bytes `bs` from address `a` on. -/
def ofBytes (a : Nat) (bs : List (BitVec 8)) : Write where
  pos := 8 * a
  size := 8 * bs.length
  val j := (bs.getD (j / 8) 0).getLsbD (7 - j % 8)

end Write

/-- A copy of bytes is one write. -/
theorem bit_copyBytes (m : Memory) (a : Nat) (bs : List (BitVec 8)) :
  bit (copyBytes m a bs) = Write.put (bit m) (Write.ofBytes a bs)
  := by
  funext i
  by_cases h : a ≤ i / 8 ∧ i / 8 < a + bs.length
  · have hcovers : (Write.ofBytes a bs).Covers i := by
      simp only [Write.Covers, Write.ofBytes]
      omega
    have hbyte : i / 8 - a = (i - 8 * a) / 8 := by omega
    have hbit : 7 - i % 8 = 7 - (i - 8 * a) % 8 := by omega
    rw [Write.put_of_covers _ hcovers]
    simp only [bit, copyBytes, if_pos h, Write.ofBytes, hbyte, hbit]
  · have hcovers : ¬ (Write.ofBytes a bs).Covers i := by
      simp only [Write.Covers, Write.ofBytes]
      omega
    rw [Write.put_of_not_covers _ hcovers]
    simp only [bit, copyBytes, if_neg h]

/-- The bit string `s` after the writes `ws`, made in order. -/
def puts (s : Nat → Bool) (ws : List Write) : Nat → Bool :=
  ws.foldl Write.put s

@[simp]
theorem puts_nil (s : Nat → Bool) :
  puts s [] = s
  := rfl

@[simp]
theorem puts_cons (s : Nat → Bool) (w : Write) (ws : List Write) :
  puts s (w :: ws) = puts (Write.put s w) ws
  := rfl

theorem puts_append (s : Nat → Bool) (ws ws' : List Write) :
  puts s (ws ++ ws') = puts (puts s ws) ws'
  := List.foldl_append

/-- A bit covered by no write keeps its value. -/
theorem puts_of_not_covers (s : Nat → Bool) {ws : List Write} {i : Nat}
    (h : ∀ w ∈ ws, ¬ w.Covers i) :
  puts s ws i = s i
  := by
  induction ws generalizing s with
  | nil => rfl
  | cons w ws ih =>
      rw [puts_cons, ih _ (fun w' hw' => h w' (List.mem_cons_of_mem w hw'))]
      apply Write.put_of_not_covers _ (h w List.mem_cons_self)

/-- Writes make the same of a bit that is the same before them. -/
theorem puts_congr {s s' : Nat → Bool} {i : Nat} (h : s i = s' i) (ws : List Write) :
  puts s ws i = puts s' ws i
  := by
  induction ws generalizing s s' with
  | nil => apply h
  | cons w ws ih =>
      apply ih
      simp only [Write.put, h]

/-- A bit covered by one of several pairwise disjoint writes has the value that write
gives it. -/
theorem puts_of_mem (s : Nat → Bool) {ws : List Write} (hws : ws.Pairwise Write.Disjoint)
    {w : Write} (hw : w ∈ ws) {i : Nat} (hi : w.Covers i) :
  puts s ws i = w.val (i - w.pos)
  := by
  induction ws generalizing s with
  | nil => cases hw
  | cons w' ws ih =>
      obtain ⟨hhead, htail⟩ := List.pairwise_cons.mp hws
      rw [puts_cons]
      rcases List.mem_cons.mp hw with rfl | hmem
      · rw [puts_of_not_covers _ (fun w'' hw'' => (hhead w'' hw'').not_covers hi)]
        apply Write.put_of_covers _ hi
      · apply ih _ htail hmem

/-- Among pairwise disjoint writes, bytes that are written are read back. -/
theorem byte_of_puts {m : Memory} {s : Nat → Bool} {ws : List Write} (hm : bit m = puts s ws)
    (hws : ws.Pairwise Write.Disjoint) {a : Nat} {bs : List (BitVec 8)}
    (hmem : Write.ofBytes a bs ∈ ws) {i : Nat} (hi : i < bs.length) :
  m (a + i) = bs[i]
  := by
  apply BitVec.eq_of_getLsbD_eq
  intro k hk
  have hcovers : (Write.ofBytes a bs).Covers (8 * (a + i) + (7 - k)) := by
    simp only [Write.Covers, Write.ofBytes]
    omega
  have hbit := puts_of_mem s hws hmem hcovers
  have hbyte : (8 * (a + i) + (7 - k)) / 8 = a + i := by omega
  have hbyte' : (8 * (a + i) + (7 - k) - 8 * a) / 8 = i := by omega
  have hoff : 7 - (8 * (a + i) + (7 - k)) % 8 = k := by omega
  have hoff' : 7 - (8 * (a + i) + (7 - k) - 8 * a) % 8 = k := by omega
  rw [← hm] at hbit
  simp only [bit, Write.ofBytes, hbyte, hbyte', hoff, hoff'] at hbit
  rw [hbit, List.getD_eq_getElem?_getD, List.getElem?_eq_getElem hi, Option.getD_some]

/-- Pairwise disjoint writes can be made in any order. -/
theorem puts_perm (s : Nat → Bool) {ws ws' : List Write} (hperm : ws.Perm ws')
    (hws : ws.Pairwise Write.Disjoint) :
  puts s ws = puts s ws'
  := by
  apply hperm.foldl_eq'
  intro w hw w' hw' t
  by_cases h : w = w'
  · rw [h]
  · apply Write.put_comm
    apply hws.forall hw hw' h

/-- Writes whose places relative to `b` are pairwise disjoint are pairwise disjoint. -/
theorem disjoint_of_spans {ws : List Write} (b : Nat) (spans : List (Nat × Nat))
    (hspans : ws.map Write.span = spans.map (fun t => (b + t.1, t.2)))
    (h : spans.Pairwise (fun t t' => t.1 + t.2 ≤ t'.1 ∨ t'.1 + t'.2 ≤ t.1)) :
  ws.Pairwise Write.Disjoint
  := by
  have hshift : (spans.map (fun t => (b + t.1, t.2))).Pairwise
      (fun t t' => t.1 + t.2 ≤ t'.1 ∨ t'.1 + t'.2 ≤ t.1) := by
    rw [List.pairwise_map]
    apply h.imp
    intro t t' htt'
    omega
  rw [← hspans, List.pairwise_map] at hshift
  apply hshift

theorem within_of_spans {ws : List Write} (b : Nat) (spans : List (Nat × Nat))
    (hspans : ws.map Write.span = spans.map (fun t => (b + t.1, t.2))) {n : Nat}
    (h : ∀ t ∈ spans, t.1 + t.2 ≤ n) {w : Write} (hw : w ∈ ws) :
  w.Within b (b + n)
  := by
  have hmem : w.span ∈ ws.map Write.span := List.mem_map_of_mem hw
  rw [hspans] at hmem
  obtain ⟨t, ht, hspan⟩ := List.mem_map.mp hmem
  have hle := h t ht
  simp only [Write.span, Prod.mk.injEq] at hspan
  simp only [Write.Within]
  omega

/-! ### Conditional writes -/

/-- The writes of a list of conditional writes that are made. -/
def selected (l : List (Bool × Write)) : List Write :=
  (l.filter Prod.fst).map Prod.snd

@[simp]
theorem selected_nil :
  selected [] = []
  := rfl

theorem selected_append (l l' : List (Bool × Write)) :
  selected (l ++ l') = selected l ++ selected l'
  := by
  simp only [selected, List.filter_append, List.map_append]

theorem mem_selected {l : List (Bool × Write)} {w : Write} :
  w ∈ selected l ↔ (true, w) ∈ l
  := by
  simp [selected]

/-- The first of several conditional writes. -/
theorem puts_selected_cons (s : Nat → Bool) (c : Bool) (w : Write) (l : List (Bool × Write)) :
  puts s (selected ((c, w) :: l)) = puts (if c then Write.put s w else s) (selected l)
  := by
  cases c <;> rfl

/-- The conditional writes `l`, all under the further condition `c`. -/
def guarded (c : Bool) (l : List (Bool × Write)) : List (Bool × Write) :=
  l.map (fun x => (c && x.1, x.2))

theorem map_snd_guarded (c : Bool) (l : List (Bool × Write)) :
  (guarded c l).map Prod.snd = l.map Prod.snd
  := by
  simp [guarded]

theorem selected_guarded_true (l : List (Bool × Write)) :
  selected (guarded true l) = selected l
  := by
  simp [guarded]

theorem selected_guarded_false (l : List (Bool × Write)) :
  selected (guarded false l) = []
  := by
  simp [guarded, selected, List.filter_map, Function.comp_def]

theorem mem_guarded {c : Bool} {l : List (Bool × Write)} {w : Write} :
  (true, w) ∈ guarded c l ↔ c = true ∧ (true, w) ∈ l
  := by
  cases c <;> simp [guarded]

/-- If all writes are pairwise disjoint, so are those that are made. -/
theorem selected_disjoint {l : List (Bool × Write)}
    (h : (l.map Prod.snd).Pairwise Write.Disjoint) :
  (selected l).Pairwise Write.Disjoint
  := by
  apply List.Pairwise.sublist _ h
  apply List.Sublist.map
  apply List.filter_sublist

/-- If all writes are pairwise disjoint, a bit that one of them covers has the value this one gives
it if it is made, and else is as it was. -/
theorem puts_selected (s : Nat → Bool) {l : List (Bool × Write)}
    (hl : (l.map Prod.snd).Pairwise Write.Disjoint) {c : Bool} {w : Write} (hmem : (c, w) ∈ l)
    {i : Nat} (hi : w.Covers i) :
  puts s (selected l) i = if c then w.val (i - w.pos) else s i
  := by
  cases c with
  | true => apply puts_of_mem s (selected_disjoint hl) (mem_selected.mpr hmem) hi
  | false =>
      apply puts_of_not_covers
      intro w' hw'
      rw [List.pairwise_map] at hl
      have hdisjoint : w.Disjoint w' := by
        apply hl.forall hmem (mem_selected.mp hw')
        intro h
        cases congrArg Prod.fst h
      apply hdisjoint.not_covers hi

end Bits
