import Dpcp.Machine.Keyed
import Mathlib.Logic.Relation

/-!
# Things that name one another

Things are made one after the other.  Each gets a key, which no living thing has, and a context, in
which it names others by their keys.  A thing that is gone leaves its key to others.

`Uses` is how things were meant to be connected when they were made, and `Names` is what one finds
under the keys in their contexts.  From a living thing the two lead to the same things exactly if
all that it was meant to lead to lives.
-/

namespace Naming

open Relation

/-- What is known of a thing from when it was made: its key, and the things it was made to use, by
the order in which they were made. -/
structure Birth (κ : Type*) where
  key : κ
  uses : List Nat

/-- A living thing. -/
structure Entry (κ χ : Type*) where
  birth : Nat
  key : κ
  context : χ

/-- The things that were made, and those that live. -/
structure Registry (κ χ : Type*) where
  history : List (Birth κ)
  living : List (Entry κ χ)

namespace Registry

variable {κ χ : Type*}

def new : Registry κ χ :=
  ⟨[], []⟩

/-- A new thing. -/
def make (r : Registry κ χ) (k : κ) (c : χ) (uses : List Nat) : Registry κ χ :=
  ⟨r.history ++ [⟨k, uses⟩], r.living ++ [⟨r.history.length, k, c⟩]⟩

/-- A thing is gone. -/
def kill (r : Registry κ χ) (b : Nat) : Registry κ χ :=
  { r with living := Keyed.remove Entry.birth b r.living }

/-- The key with which a thing was made. -/
def keyOf (r : Registry κ χ) (b : Nat) : Option κ :=
  (r.history[b]?).map Birth.key

/-- No living thing has the key. -/
def Fresh (r : Registry κ χ) (k : κ) : Prop :=
  ∀ e ∈ r.living, e.key ≠ k

instance [DecidableEq κ] (r : Registry κ χ) (k : κ) : Decidable (r.Fresh k) :=
  inferInstanceAs (Decidable (∀ e ∈ r.living, e.key ≠ k))

def Lives (r : Registry κ χ) (b : Nat) : Prop :=
  ∃ e ∈ r.living, e.birth = b

instance (r : Registry κ χ) (b : Nat) : Decidable (r.Lives b) :=
  inferInstanceAs (Decidable (∃ e ∈ r.living, e.birth = b))

/-- The thing `a` was made to use `b`. -/
def Uses (r : Registry κ χ) (a b : Nat) : Prop :=
  b ∈ (r.history[a]?).elim [] Birth.uses

instance (r : Registry κ χ) (a b : Nat) : Decidable (r.Uses a b) :=
  inferInstanceAs (Decidable (b ∈ (r.history[a]?).elim [] Birth.uses))

section Names

variable (names : κ → χ → List κ)

/-- The living thing `a` names a key under which there is `b`. -/
def Names (r : Registry κ χ) (a b : Nat) : Prop :=
  ∃ e ∈ r.living, e.birth = a ∧ ∃ e' ∈ r.living, e'.birth = b ∧ e'.key ∈ names e.key e.context

instance [DecidableEq κ] (r : Registry κ χ) (a b : Nat) : Decidable (r.Names names a b) :=
  inferInstanceAs (Decidable (∃ e ∈ r.living, e.birth = a
    ∧ ∃ e' ∈ r.living, e'.birth = b ∧ e'.key ∈ names e.key e.context))

/-- No two living things have one key, and each names the keys of what it was made to use. -/
structure Sound (r : Registry κ χ) : Prop where
  keys : (r.living.map Entry.key).Nodup
  births : (r.living.map Entry.birth).Nodup
  made : ∀ e ∈ r.living, ∃ uses, r.history[e.birth]? = some ⟨e.key, uses⟩
    ∧ (names e.key e.context).map some = uses.map r.keyOf

variable {names}

theorem sound_new :
  (new : Registry κ χ).Sound names
  := by
  constructor
  · apply List.nodup_nil
  · apply List.nodup_nil
  · intro e he
    cases he

theorem birth_lt {r : Registry κ χ} (h : r.Sound names) {e : Entry κ χ} (he : e ∈ r.living) :
  e.birth < r.history.length
  := by
  obtain ⟨uses, huses, -⟩ := h.made e he
  apply (List.getElem?_eq_some_iff.mp huses).1

/-- A key that was given stays known. -/
theorem keyOf_make {r : Registry κ χ} {k : κ} (k' : κ) (c : χ) (uses : List Nat) {b : Nat}
    (h : r.keyOf b = some k) :
  (r.make k' c uses).keyOf b = some k
  := by
  obtain ⟨birth, hbirth, rfl⟩ := Option.map_eq_some_iff.mp h
  rw [keyOf, make, List.getElem?_append_left (List.getElem?_eq_some_iff.mp hbirth).1, hbirth]
  rfl

theorem map_keyOf_make {r : Registry κ χ} {keys : List κ} {l : List Nat}
    (h : keys.map some = l.map r.keyOf) (k : κ) (c : χ) (uses : List Nat) :
  keys.map some = l.map (r.make k c uses).keyOf
  := by
  rw [h]
  apply List.map_congr_left
  intro b hb
  have hsome : r.keyOf b ∈ keys.map some := by
    rw [h]
    apply List.mem_map_of_mem hb
  obtain ⟨key, -, hkey⟩ := List.mem_map.mp hsome
  rw [← hkey, keyOf_make k c uses hkey.symm]

/-- A new thing with a fresh key that names the keys of what it uses. -/
theorem Sound.make {r : Registry κ χ} (h : r.Sound names) {k : κ} {c : χ} {uses : List Nat}
    (hfresh : r.Fresh k) (huses : (names k c).map some = uses.map r.keyOf) :
  (r.make k c uses).Sound names
  := by
  constructor
  · rw [Registry.make, List.map_append, List.nodup_append']
    refine ⟨h.keys, List.nodup_singleton _, ?_⟩
    intro key hkey hnew
    obtain ⟨e, he, rfl⟩ := List.mem_map.mp hkey
    apply hfresh e he (List.mem_singleton.mp hnew)
  · rw [Registry.make, List.map_append, List.nodup_append']
    refine ⟨h.births, List.nodup_singleton _, ?_⟩
    intro birth hbirth hnew
    obtain ⟨e, he, rfl⟩ := List.mem_map.mp hbirth
    apply Nat.ne_of_lt (birth_lt h he) (List.mem_singleton.mp hnew)
  · intro e he
    rcases List.mem_append.mp he with he | he
    · obtain ⟨old, hold, hnames⟩ := h.made e he
      refine ⟨old, ?_, map_keyOf_make hnames k c uses⟩
      rw [Registry.make, List.getElem?_append_left (birth_lt h he), hold]
    · cases List.mem_singleton.mp he
      refine ⟨uses, ?_, map_keyOf_make huses k c uses⟩
      rw [Registry.make, List.getElem?_append_right (Nat.le_refl _), Nat.sub_self]
      rfl

theorem Sound.kill {r : Registry κ χ} (h : r.Sound names) (b : Nat) :
  (r.kill b).Sound names
  := by
  constructor
  · apply h.keys.sublist (List.filter_sublist.map Entry.key)
  · apply Keyed.nodup_remove h.births
  · intro e he
    apply h.made e (Keyed.mem_remove.mp he).1

/-! ### What one finds -/

/-- The thing that one finds under a name is one that was used, if that one lives. -/
theorem Sound.names_iff_uses {r : Registry κ χ} (h : r.Sound names) {a : Nat} (ha : r.Lives a)
    (huses : ∀ b, r.Uses a b → r.Lives b) (b : Nat) :
  r.Names names a b ↔ r.Uses a b
  := by
  obtain ⟨e, he, rfl⟩ := ha
  obtain ⟨uses, hmade, hnames⟩ := h.made e he
  have husesOf (b : Nat) : r.Uses e.birth b ↔ b ∈ uses := by
    rw [Uses, hmade]
    rfl
  -- a living thing has the key that it was made with
  have hkey {e' : Entry κ χ} (he' : e' ∈ r.living) : r.keyOf e'.birth = some e'.key := by
    obtain ⟨uses', hmade', -⟩ := h.made e' he'
    rw [keyOf, hmade']
    rfl
  constructor
  · rintro ⟨e₀, he₀, hbirth, e', he', rfl, hname⟩
    cases Keyed.eq_of_key h.births he₀ he hbirth
    have hused : some e'.key ∈ uses.map r.keyOf := by
      rw [← hnames]
      apply List.mem_map_of_mem hname
    obtain ⟨u, hu, hukey⟩ := List.mem_map.mp hused
    obtain ⟨e'', he'', rfl⟩ := huses u ((husesOf u).mpr hu)
    rw [hkey he''] at hukey
    cases Keyed.eq_of_key h.keys he'' he' (Option.some.inj hukey)
    apply (husesOf _).mpr hu
  · intro hb
    obtain ⟨e', he', rfl⟩ := huses b hb
    have hnamed : some e'.key ∈ (names e.key e.context).map some := by
      rw [hnames, ← hkey he']
      apply List.mem_map_of_mem ((husesOf _).mp hb)
    obtain ⟨key, hname, hsame⟩ := List.mem_map.mp hnamed
    cases hsame
    exact ⟨e, he, rfl, e', he', rfl, hname⟩

theorem lives_of_path {r : Registry κ χ} {a b : Nat} (ha : r.Lives a)
    (h : ReflTransGen (r.Names names) a b) :
  r.Lives b
  := by
  cases h with
  | refl => apply ha
  | tail _ hlast =>
      obtain ⟨-, -, -, e', he', hbirth, -⟩ := hlast
      exact ⟨e', he', hbirth⟩

/-- From a living thing the names lead where it was meant to lead exactly if all of that lives. -/
theorem Sound.paths_iff {r : Registry κ χ} (h : r.Sound names) {a : Nat} (ha : r.Lives a) :
  (∀ b, ReflTransGen (r.Names names) a b ↔ ReflTransGen r.Uses a b)
    ↔ ∀ b, ReflTransGen r.Uses a b → r.Lives b
  := by
  constructor
  · intro hsame b hb
    apply lives_of_path ha ((hsame b).mpr hb)
  · intro hlive b
    -- at a thing that is meant to be reached, a step of the one relation is a step of the other
    have hstep {c : Nat} (hc : ReflTransGen r.Uses a c) (d : Nat) :
        r.Names names c d ↔ r.Uses c d := by
      apply h.names_iff_uses (hlive c hc)
      intro d hd
      apply hlive d (hc.tail hd)
    constructor
    · intro hpath
      induction hpath with
      | refl => apply ReflTransGen.refl
      | tail _ hlast ih => apply ih.tail ((hstep ih _).mp hlast)
    · intro hpath
      induction hpath with
      | refl => apply ReflTransGen.refl
      | tail hfirst hlast ih => apply ih.tail ((hstep hfirst _).mpr hlast)

end Names

end Registry

end Naming
