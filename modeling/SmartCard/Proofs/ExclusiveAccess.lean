import SmartCard.Proofs.CardWork
import SmartCard.Proofs.DeskSlots
import SmartCard.Proofs.Opening
import SmartCard.Proofs.SimulatedWorld

/-!
# Exclusive access

A driver that refuses to lock a reader twice gives each reader to one session at a time. Sessions
may be opened, used and closed in any order, and cards exchanged in between: a reader is locked
while a session that was opened on it is on the desk, and only then.
-/
namespace SmartCard

open Function

section
variable {ω ε Context Connection Application : Type}

/-- What is relied on of a driver with one lock for each reader: a lock that is held cannot be
taken, and only taking it and giving it back change it. -/
structure Locking (S : Stack ω ε Context Connection Application) where
  locked : ω → Nat → Bool
  reader : Connection → Nat
  connected {c : Context} {r : Nat} {k : Connection} {w : ω} :
    (S.connect c r w).value = .ok k → reader k = r
  taken {k : Connection} {w : ω} : (S.lock k w).value = .ok () →
    locked w (reader k) = false ∧
      locked (S.lock k w).world = update (locked w) (reader k) true
  refused {k : Connection} {w : ω} {f : Fault} : (S.lock k w).value = .error f →
    locked (S.lock k w).world = locked w
  unlock (k : Connection) (w : ω) :
    locked (S.unlock k w).world = update (locked w) (reader k) false
  establish (name : String) (debug : Bool) (w : ω) :
    locked (S.establish name debug w).world = locked w
  detect (c : Context) (r : Nat) (w : ω) : locked (S.detect c r w).world = locked w
  connect (c : Context) (r : Nat) (w : ω) : locked (S.connect c r w).world = locked w
  release (c : Context) (w : ω) : locked (S.release c w).world = locked w
  disconnect (k : Connection) (w : ω) : locked (S.disconnect k w).world = locked w
  bind (k : Connection) (w : ω) : locked (S.bind k w).world = locked w
  unbind (a : Application) (w : ω) : locked (S.unbind a w).world = locked w
  card {k : Connection} {b : Backend Application} {α : Type} {c : Call} {r : Reply ω ε α} :
    CardCall S k b c r → ∀ w, locked (r w).world = locked w

attribute [simp] Locking.unlock Locking.establish Locking.detect Locking.connect Locking.release
  Locking.disconnect Locking.bind Locking.unbind

namespace Locking

variable {S : Stack ω ε Context Connection Application} (L : Locking S)

/-! ## One session -/

/-- Work on a card leaves every lock as it is. -/
theorem work {k : Connection} {b b' : Option (Backend Application)} {w w' : ω}
    {es : List (Entry ε)} (h : Work S k b w es b' w') : L.locked w' = L.locked w := by
  induction h with
  | done => rfl
  | quiet _ _ ih => exact ih
  | call hc _ ih => rw [ih, L.card hc]
  | bind _ ih => rw [ih, L.bind]

/-- Closing gives back the lock of the session and no other. -/
theorem close (s : Session Context Connection Application) (w : ω) :
    L.locked (s.close S w).world = update (L.locked w) (L.reader s.connection) false := by
  cases hb : s.backend with
  | none => simp [Session.close, Backend.unbind, hb, Call.makeSure]
  | some b => cases b <;> simp [Session.close, Backend.unbind, hb, Call.makeSure]

/-- An opening that fails leaves every lock as it was. -/
theorem opening_error {o : Options} {f : Failure} {t : Trace} {w w' : ω}
    (h : Opening S o w (.error f) t w') : L.locked w' = L.locked w := by
  cases h with
  | noContext he => rw [← he.2, L.establish]
  | noReader he => rw [L.release, ← he.2, L.establish]
  | noCard he _ hd => rw [L.release, ← hd.2, L.detect, ← he.2, L.establish]
  | noConnection he _ hd hc =>
    rw [L.release, ← hc.2, L.connect, ← hd.2, L.detect, ← he.2, L.establish]
  | noLock he _ hd hc hl =>
    rw [L.release, L.disconnect, ← hl.2, L.refused hl.1, ← hc.2, L.connect, ← hd.2, L.detect,
      ← he.2, L.establish]

/-- An opening that succeeds took a lock that nobody held. -/
theorem opening_ok {o : Options} {c : Context} {k : Connection} {t : Trace} {w w' : ω}
    (h : Opening S o w (.ok (c, k)) t w') :
    L.reader k = o.reader ∧ L.locked w o.reader = false ∧
      L.locked w' = update (L.locked w) o.reader true := by
  cases h with
  | opened he _ hd hc hl =>
    have hk : L.reader k = o.reader := L.connected hc.1
    obtain ⟨hfree, hheld⟩ := L.taken hl.1
    rw [hl.2, hk] at hheld
    rw [hk] at hfree
    rw [← hc.2, L.connect, ← hd.2, L.detect, ← he.2, L.establish] at hheld hfree
    exact ⟨hk, hfree, hheld⟩

/-! ## Sessions on a desk -/

/-- A reader is locked while one session on the desk is connected to it, and no two ever are. -/
structure Exclusive (d : Desk Context Connection Application) (w : ω) : Prop where
  ascending : d.Ascending
  connections : ∀ e ∈ d, L.reader e.2.connection = e.2.reader
  users : ∀ r, d.users r = (L.locked w r).toNat

/-- What happens to the world by itself leaves the locks alone. -/
def Keeps : Desk.Step ω → Prop
  | .outside change => ∀ w, L.locked (change w) = L.locked w
  | _ => True

variable {L} {d : Desk Context Connection Application} {w w' : ω} {slot : Nat}

theorem exclusive_initial (h : ∀ r, L.locked w r = false) : L.Exclusive [] w where
  ascending := List.Pairwise.nil
  connections := by simp
  users := by simp [h]

namespace Exclusive

theorem outside (h : L.Exclusive d w) (hw : L.locked w' = L.locked w) : L.Exclusive d w' where
  ascending := h.ascending
  connections := h.connections
  users := by rw [hw]; exact h.users

/-- Whoever is on the desk holds the lock. -/
theorem locked_reader (h : L.Exclusive d w) {e : Nat × Session Context Connection Application}
    (he : e ∈ d) : L.locked w e.2.reader = true := by
  have hpos : 0 < d.users e.2.reader := List.countP_pos_iff.mpr ⟨e, he, by simp⟩
  rw [h.users] at hpos
  cases hlocked : L.locked w e.2.reader with
  | true => rfl
  | false =>
    rw [hlocked] at hpos
    cases hpos

/-- A session that is closed and taken off the desk leaves its reader free. -/
theorem close (h : L.Exclusive d w) {s : Session Context Connection Application}
    (hmem : (slot, s) ∈ d) {d' : Desk Context Connection Application} (hsub : d'.Sublist d)
    (hcount : ∀ r, d'.users r + (if s.reader = r then 1 else 0) = d.users r) :
    L.Exclusive d' (s.close S w).world := by
  have hk : L.reader s.connection = s.reader := h.connections _ hmem
  have hlocked : L.locked w s.reader = true := h.locked_reader hmem
  refine ⟨h.ascending.sublist hsub, fun e he => h.connections e (hsub.subset he), fun r => ?_⟩
  have hcount := hcount r
  rw [h.users] at hcount
  rw [L.close, hk]
  by_cases hr : s.reader = r
  · subst hr
    rw [hlocked, if_pos rfl] at hcount
    rw [update_self]
    exact Nat.add_right_cancel hcount
  · rw [if_neg hr] at hcount
    rw [update_of_ne (Ne.symm hr)]
    exact hcount

theorem clear (h : L.Exclusive d w) (slot : Nat) :
    L.Exclusive (d.clear S slot w).value (d.clear S slot w).world ∧
      (d.clear S slot w).value.session? slot = none := by
  rw [Desk.clear]
  cases hs : d.session? slot with
  | none => exact ⟨h, hs⟩
  | some s =>
    have hcount := Desk.users_without h.ascending hs
    exact ⟨h.close (Desk.mem_of_session? hs) List.filter_sublist hcount,
      Desk.session?_without d slot⟩

/-- A session that is opened in an empty slot is the only one on its reader. -/
theorem start (h : L.Exclusive d w) (hslot : d.session? slot = none)
    {s : Session Context Connection Application} {t : Trace}
    (ho : Opening S s.options w (.ok (s.context, s.connection)) t w') :
    L.Exclusive (d.put slot s) w' := by
  obtain ⟨hk, hfree, hheld⟩ := L.opening_ok ho
  refine ⟨h.ascending.put slot s, fun e he => ?_, fun r => ?_⟩
  · rcases Desk.mem_put he with rfl | he
    · exact hk
    · exact h.connections e he
  · have hcount := h.users r
    have hreader : s.reader = s.options.reader := rfl
    rw [Desk.users_put hslot, hheld, hreader]
    by_cases hr : s.options.reader = r
    · subst hr
      rw [hfree] at hcount
      rw [update_self, if_pos rfl, hcount]
      rfl
    · rw [update_of_ne (Ne.symm hr), if_neg hr]
      exact hcount

/-- Work of a session that is on the desk changes neither who uses a reader nor its lock. -/
theorem goes (h : L.Exclusive d w) {s s' : Session Context Connection Application}
    (hslot : d.session? slot = some s) {es : List (Entry ε)}
    (hgo : Session.Goes S s w es s' w') : L.Exclusive (d.put slot s') w' := by
  have hmem : (slot, s) ∈ d := Desk.mem_of_session? hslot
  have hr : s'.reader = s.reader := congrArg Options.reader hgo.options
  refine ⟨h.ascending.put slot s', fun e he => ?_, fun r => ?_⟩
  · rcases Desk.mem_put he with rfl | he
    · have hk : L.reader s.connection = s.reader := h.connections _ hmem
      rw [hgo.connection, hr, hk]
    · exact h.connections e he
  · rw [Desk.users_put_same h.ascending hslot hr, L.work hgo.work]
    exact h.users r

theorem step (h : L.Exclusive d w) (parser : CertificateParser) {st : Desk.Step ω}
    (hst : L.Keeps st) :
    L.Exclusive (d.step S parser slot st w).value.2 (d.step S parser slot st w).world := by
  cases st with
  | start o =>
    obtain ⟨hclear, hslot⟩ := h.clear slot
    simp only [Desk.step, Action.bind_apply]
    generalize d.clear S slot w = c at hclear hslot
    obtain ⟨d', w', es⟩ := c
    obtain ⟨v, hopen, hvalue⟩ := Session.start_opening S parser o w'
    dsimp only at hclear hslot ⊢
    generalize (Session.start S parser o).run w' = r at hopen hvalue
    obtain ⟨value, w'', es'⟩ := r
    dsimp only at hopen hvalue ⊢
    subst hvalue
    cases v with
    | error f => exact hclear.outside (L.opening_error hopen)
    | ok p => exact hclear.start hslot hopen
  | close =>
    simp only [Desk.step]
    cases hs : d.session? slot with
    | none => exact h
    | some s => exact (h.clear slot).1
  | reader =>
    simp only [Desk.step]
    cases hs : d.session? slot with
    | none => exact h
    | some s => exact h
  | perform op =>
    simp only [Desk.step]
    cases hs : d.session? slot with
    | none => exact h
    | some s => exact h.goes hs (Session.goes_perform s op w)
  | outside change => exact h.outside (hst w)

theorem after (h : L.Exclusive d w) (parser : CertificateParser) {steps : List (Nat × Desk.Step ω)}
    (hsteps : ∀ x ∈ steps, L.Keeps x.2) :
    L.Exclusive (d.after S parser w steps).1 (d.after S parser w steps).2 := by
  induction steps generalizing d w with
  | nil => exact h
  | cons x steps ih =>
    obtain ⟨slot, st⟩ := x
    have hstep : L.Exclusive (d.step S parser slot st w).value.2 _ :=
      h.step parser (hsteps _ List.mem_cons_self)
    exact ih hstep fun x hx => hsteps x (List.mem_cons_of_mem _ hx)

/-- When all sessions are closed, every reader is free. -/
theorem closeAll (h : L.Exclusive d w) (r : Nat) :
    L.locked (d.closeAll S w).world r = false := by
  induction d generalizing w with
  | nil =>
    have hcount := h.users r
    cases hlocked : L.locked w r with
    | false => exact hlocked
    | true =>
      rw [hlocked] at hcount
      cases hcount
  | cons e d ih =>
    have hcount (r : Nat) := (Desk.users_cons e d r).symm
    have hmem : (e.1, e.2) ∈ e :: d := List.mem_cons_self
    exact ih (h.close hmem (List.sublist_cons_self e d) hcount)

end Exclusive

/-- After any steps a reader is locked exactly while one session that was opened on it is open, and
there are never two. An opening that fails then, as it does on a locked reader, makes no call to
unlock and leaves every lock as it is. -/
theorem exclusive_access (L : Locking S) (parser : CertificateParser) (w : ω)
    (steps : List (Nat × Desk.Step ω)) (hfree : ∀ r, L.locked w r = false)
    (hsteps : ∀ x ∈ steps, L.Keeps x.2) :
    let p := Desk.after S parser [] w steps
    (∀ r, (L.locked p.2 r = true ↔ p.1.users r = 1) ∧ p.1.users r ≤ 1) ∧
      (∀ o f, ((Session.start S parser o).run p.2).value = .error f →
        L.locked ((Session.start S parser o).run p.2).world = L.locked p.2 ∧
          ∀ m ∈ trace ((Session.start S parser o).run p.2).entries, m.1 ≠ .unlock) ∧
      ∀ o, L.locked p.2 o.reader = true →
        ∃ f, ((Session.start S parser o).run p.2).value = .error f := by
  intro p
  have hp : L.Exclusive p.1 p.2 := (exclusive_initial hfree).after parser hsteps
  refine ⟨fun r => ?_, fun o f hf => ?_, fun o hlocked => ?_⟩
  · rw [hp.users r]
    cases L.locked p.2 r <;> simp
  · obtain ⟨v, hopen, hvalue⟩ := Session.start_opening S parser o p.2
    cases v with
    | error g => exact ⟨L.opening_error hopen, hopen.ne_unlock⟩
    | ok q =>
      rw [hf] at hvalue
      cases hvalue
  · obtain ⟨v, hopen, hvalue⟩ := Session.start_opening S parser o p.2
    cases v with
    | error g => exact ⟨g, hvalue⟩
    | ok q =>
      have hopen := (L.opening_ok hopen).2.1
      rw [hlocked] at hopen
      cases hopen

end Locking

end

/-! ## The simulated stack -/

namespace Simulator

/-- The lock of a reader in the simulator. -/
def locking : Locking stack where
  locked := World.isLocked
  reader := Connection.reader
  connected {_ r k w} h := by
    change (w.connect r).1 = .ok k at h
    rw [World.connect] at h
    split at h
    · cases h
    · cases h
      rfl
  taken {k w} h := by
    change (w.lock k.reader).1 = .ok () at h
    change _ ∧ (w.lock k.reader).2.isLocked = _
    rcases World.lock_spec w k.reader with ⟨f, hf⟩ | ⟨hlen, hfree, hl⟩
    · rw [hf] at h
      cases h
    · rw [hl]
      exact ⟨hfree, World.isLocked_setLocked fun _ => hlen⟩
  refused {k w f} h := by
    change (w.lock k.reader).1 = .error f at h
    change (w.lock k.reader).2.isLocked = _
    rcases World.lock_spec w k.reader with ⟨f, hf⟩ | ⟨_, _, hl⟩
    · rw [hf]
    · rw [hl] at h
      cases h
  unlock k w := World.isLocked_setLocked nofun
  establish _ _ _ := rfl
  detect _ _ _ := rfl
  connect _ r w := by
    change (w.connect r).2.isLocked = _
    rw [World.connect]
    split <;> rfl
  release _ _ := rfl
  disconnect _ _ := rfl
  bind _ _ := rfl
  unbind _ _ := rfl
  card {k _ _ _ _} h w := by
    cases h with
    | select path => exact World.isLocked_congr (World.readers_select w k _)
    | read offset length => exact World.isLocked_congr (World.readers_read w k _ _)
    | privateKeys | certificate | pinLabel | verifyPin | sign | decipher => rfl

/-- A card with an application that is empty. -/
def blank : Card := ⟨true, [], some .empty, []⟩

/-- Two sessions want the first of two readers, whose card is exchanged meanwhile, and another one
comes and goes on the second reader. -/
def rivalry : List (Nat × Desk.Step World) :=
  [(0, .start {}), (1, .start {}), (2, .start { reader := 1 }),
    (0, .outside (World.exchange 0 (some blank))), (1, .start {}), (0, .perform .bind), (2, .close)]

theorem exclusive_access_rivalry :
    let p := Desk.after stack parser [] (.ofCards [some blank, some blank] none) rivalry
    (locking.locked p.2 0 = true ∧ p.1.users 0 = 1) ∧
      (locking.locked p.2 1 = false ∧ p.1.users 1 ≠ 1) ∧
      ∃ f, ((Session.start stack parser {}).run p.2).value = .error f := by
  intro p
  have hlocked : locking.locked p.2 0 = true := by decide +kernel
  have hfree : locking.locked p.2 1 = false := by decide +kernel
  obtain ⟨hone, -, hfails⟩ := locking.exclusive_access parser
    (.ofCards [some blank, some blank] none) rivalry (World.isLocked_ofCards _ _)
    (by simp [rivalry, Locking.Keeps, locking, World.isLocked_exchange])
  refine ⟨⟨hlocked, (hone 0).1.mp hlocked⟩, ⟨hfree, fun hused => ?_⟩, hfails {} hlocked⟩
  have hlocked' := (hone 1).1.mpr hused
  rw [hfree] at hlocked'
  cases hlocked'

end Simulator

end SmartCard
