import Mathlib.Data.List.Basic
import SmartCard.Desk

/-!
# Slots and steps of a desk

A desk keeps its sessions by strictly ascending slot, so a slot names at most one of them. How many
sessions use a reader is counted over the whole desk; putting a session into a slot and clearing a
slot change that count by the session alone. Steps lead from one desk and world to another.
-/
namespace SmartCard.Desk

variable {ω ε Context Connection Application : Type}
  {d : Desk Context Connection Application} {s t : Session Context Connection Application}
  {slot : Nat}

/-- The slots ascend. -/
def Ascending (d : Desk Context Connection Application) : Prop :=
  d.Pairwise fun e e' => e.1 < e'.1

/-- How many sessions use a reader. -/
def users (d : Desk Context Connection Application) (reader : Nat) : Nat :=
  d.countP fun e => e.2.reader = reader

@[simp] theorem users_nil (reader : Nat) :
    users ([] : Desk Context Connection Application) reader = 0 := rfl

@[simp] theorem users_cons (e : Nat × Session Context Connection Application)
    (d : Desk Context Connection Application) (reader : Nat) :
    users (e :: d) reader = users d reader + if e.2.reader = reader then 1 else 0 := by
  simp [users, List.countP_cons]

/-! ## Looking a slot up -/

@[simp] theorem session?_cons (e : Nat × Session Context Connection Application)
    (d : Desk Context Connection Application) (slot : Nat) :
    session? (e :: d) slot = if slot = e.1 then some e.2 else d.session? slot := by
  obtain ⟨n, t⟩ := e
  rw [session?, List.lookup_cons]
  by_cases h : slot = n
  · simp [h]
  · rw [if_neg h, beq_eq_false_iff_ne.mpr h]
    rfl

theorem mem_of_session? (h : d.session? slot = some s) : (slot, s) ∈ d := by
  induction d with
  | nil => cases h
  | cons e d ih =>
    rw [session?_cons] at h
    split at h
    next he =>
      cases h
      rw [he]
      exact List.mem_cons_self
    next => exact List.mem_cons_of_mem e (ih h)

/-- A slot below all others is empty. -/
theorem session?_eq_none (h : ∀ e ∈ d, slot < e.1) : d.session? slot = none := by
  cases hs : d.session? slot with
  | none => rfl
  | some s => exact absurd (h _ (mem_of_session? hs)) (Nat.lt_irrefl slot)

/-! ## Putting a session into a slot -/

theorem mem_put {e : Nat × Session Context Connection Application} (h : e ∈ d.put slot s) :
    e = (slot, s) ∨ e ∈ d := by
  induction d with
  | nil => exact .inl (List.mem_singleton.mp h)
  | cons x d ih =>
    obtain ⟨n, t⟩ := x
    rw [put] at h
    split at h
    · rcases List.mem_cons.mp h with h | h
      · exact .inl h
      · exact .inr h
    · split at h
      · rcases List.mem_cons.mp h with h | h
        · exact .inl h
        · exact .inr (List.mem_cons_of_mem _ h)
      · rcases List.mem_cons.mp h with h | h
        · exact .inr (h ▸ List.mem_cons_self)
        · exact (ih h).imp_right (List.mem_cons_of_mem _)

theorem Ascending.put (h : d.Ascending) (slot : Nat) (s : Session Context Connection Application) :
    (d.put slot s).Ascending := by
  induction d with
  | nil => exact List.pairwise_singleton _ _
  | cons x d ih =>
    obtain ⟨n, t⟩ := x
    obtain ⟨hn, hd⟩ := List.pairwise_cons.mp h
    rw [Desk.put]
    split
    next hlt =>
      refine List.pairwise_cons.mpr ⟨fun e he => ?_, h⟩
      rcases List.mem_cons.mp he with rfl | he
      · exact hlt
      · exact Nat.lt_trans hlt (hn e he)
    next hge =>
      split
      next heq => exact List.pairwise_cons.mpr ⟨heq ▸ hn, hd⟩
      next hne =>
        refine List.pairwise_cons.mpr ⟨fun e he => ?_, ih hd⟩
        rcases mem_put he with rfl | he
        · show n < slot
          omega
        · exact hn e he

/-- A session in an empty slot is one more user of its reader. -/
theorem users_put (h : d.session? slot = none) (reader : Nat) :
    (d.put slot s).users reader = d.users reader + if s.reader = reader then 1 else 0 := by
  induction d with
  | nil => simp [put]
  | cons x d ih =>
    obtain ⟨n, t⟩ := x
    rw [session?_cons] at h
    split at h
    next => cases h
    next hne =>
      rw [put]
      by_cases hlt : slot < n
      · simp [hlt]
      · have hih := ih h
        simp only [hlt, hne, if_false, users_cons] at hih ⊢
        omega

/-- A session in the place of another one on the same reader leaves the count as it was. -/
theorem users_put_same (hd : d.Ascending) (h : d.session? slot = some t)
    (hr : s.reader = t.reader) (reader : Nat) : (d.put slot s).users reader = d.users reader := by
  induction d with
  | nil => cases h
  | cons x d ih =>
    obtain ⟨n, u⟩ := x
    obtain ⟨hn, hd⟩ := List.pairwise_cons.mp hd
    rw [session?_cons] at h
    rw [put]
    split at h
    next heq =>
      cases h
      simp only at heq
      simp [heq, hr]
    next hne =>
      have hlt : ¬ slot < n := Nat.not_lt.mpr (Nat.le_of_lt (hn _ (mem_of_session? h)))
      have hih := ih hd h
      simp only [hlt, hne, if_false, users_cons, hih]

/-! ## Clearing a slot -/

@[simp] theorem without_cons (e : Nat × Session Context Connection Application)
    (d : Desk Context Connection Application) (slot : Nat) :
    without slot (e :: d) = if e.1 = slot then d.without slot else e :: d.without slot := by
  simp [without, List.filter_cons]

theorem session?_without (d : Desk Context Connection Application) (slot : Nat) :
    (d.without slot).session? slot = none := by
  cases hs : (d.without slot).session? slot with
  | none => rfl
  | some s =>
    have hne := (List.mem_filter.mp (mem_of_session? hs)).2
    simp at hne

theorem without_eq_self (h : d.session? slot = none) : d.without slot = d := by
  induction d with
  | nil => rfl
  | cons e d ih =>
    rw [session?_cons] at h
    split at h
    next => cases h
    next hne => rw [without_cons, if_neg (Ne.symm hne), ih h]

/-- The session of a cleared slot is the only user that is lost. -/
theorem users_without (hd : d.Ascending) (h : d.session? slot = some s) (reader : Nat) :
    (d.without slot).users reader + (if s.reader = reader then 1 else 0) = d.users reader := by
  induction d with
  | nil => cases h
  | cons e d ih =>
    obtain ⟨hn, hd⟩ := List.pairwise_cons.mp hd
    rw [session?_cons] at h
    split at h
    next heq =>
      cases h
      have hrest : without slot d = d := by
        apply without_eq_self
        apply session?_eq_none
        intro e' he'
        rw [heq]
        exact hn e' he'
      rw [without_cons, if_pos heq.symm, hrest, users_cons]
    next hne =>
      have hih := ih hd h
      rw [without_cons, if_neg (Ne.symm hne), users_cons, users_cons]
      omega

/-! ## Steps -/

/-- The desk and the world after some steps. -/
def after (S : Stack ω ε Context Connection Application) (parser : CertificateParser)
    (d : Desk Context Connection Application) (w : ω) :
    List (Nat × Step ω) → Desk Context Connection Application × ω
  | [] => (d, w)
  | (slot, st) :: steps =>
    after S parser (step S parser d slot st w).value.2 (step S parser d slot st w).world steps

end SmartCard.Desk
