import SmartCard.Proofs.CardWork

/-!
# Binding comes first

An operation that binds a backend does so before anything else, and goes on as it would on the
session that it has bound. The bind call alone decides which backend that is. What a bound session
answers for the serial number is what it has kept, or what it finds on the card and keeps.
-/
namespace SmartCard

variable {ω ε Context Connection Application α : Type}

/-- The operation binds a backend if there is none. -/
def Operation.binds : Operation → Bool
  | bind | serial => true
  | _ => false

namespace Session

variable {S : Stack ω ε Context Connection Application}
  (s : Session Context Connection Application) {op : Operation} {b : Backend Application}

/-- The session with a backend that is bound. -/
def withBackend (b : Backend Application) : Session Context Connection Application :=
  { s with backend := some b }

theorem withBackend_of_bound (hb : s.backend = some b) : s.withBackend b = s := by
  rw [withBackend, ← hb]

/-- The backend that is bound after binding: the one from before, or the one of the card. -/
def backendAfter (S : Stack ω ε Context Connection Application)
    (s : Session Context Connection Application) (w : ω) : Backend Application :=
  s.backend.getD (.ofAnswer (S.bind s.connection w).value)

theorem backendAfter_of_bound (hb : s.backend = some b) (w : ω) : s.backendAfter S w = b := by
  rw [backendAfter, hb, Option.getD_some]

theorem backendAfter_of_unbound (hb : s.backend = none) (w : ω) :
    s.backendAfter S w = .ofAnswer (S.bind s.connection w).value := by
  rw [backendAfter, hb, Option.getD_none]

/-! ## Binding -/

theorem bind_of_bound (hb : s.backend = some b) (w : ω) : s.bind S w = ⟨(b, s), w, []⟩ := by
  rw [bind, hb]
  rfl

/-- Binding is one call, and its log. -/
theorem bind_of_unbound (hb : s.backend = none) (w : ω) : ∃ ls : List Log,
    s.bind S w =
      let b := Backend.ofAnswer (S.bind s.connection w).value
      ⟨(b, s.withBackend b), (S.bind s.connection w).world,
        .call .bind (faultOf (S.bind s.connection w).value) ::
          ((S.bind s.connection w).entries.map .note ++ ls.map .ofLog)⟩ := by
  obtain ⟨ls, he⟩ := Backend.bind_eq (S := S) (k := s.connection) s.reader w
  let b := Backend.ofAnswer (S.bind s.connection w).value
  refine ⟨ls ++ [⟨.debug, s!"using the {b.name} backend in reader {s.reader}"⟩], ?_⟩
  rw [bind, hb]
  simp [he, withBackend, b]

theorem value_bind (w : ω) :
    (s.bind S w).value = (s.backendAfter S w, s.withBackend (s.backendAfter S w)) := by
  cases hb : s.backend with
  | some b => rw [bind_of_bound s hb, backendAfter_of_bound s hb, withBackend_of_bound s hb]
  | none =>
    obtain ⟨ls, he⟩ := bind_of_unbound (S := S) s hb w
    rw [he, backendAfter_of_unbound s hb]

/-- An operation that binds does so first, and then works as on the session that it has bound. -/
theorem perform_of_binds (hop : op.binds = true) (w : ω) :
    s.perform S op w =
      let p := (s.withBackend (s.backendAfter S w)).perform S op (s.bind S w).world
      ⟨p.value, p.world, (s.bind S w).entries ++ p.entries⟩ := by
  have hbound := bind_of_bound (S := S) (s.withBackend (s.backendAfter S w)) rfl (s.bind S w).world
  cases op with
  | bind => simp only [perform, Action.bind_apply, value_bind, hbound, Action.pure_apply,
      List.append_nil]
  | serial =>
    simp only [perform, serialAndStamp, Action.bind_apply, value_bind, hbound, List.append_assoc,
      List.nil_append]
  | keypair | certificate | sign | decipher => cases hop

/-! ## Operations of bound sessions -/

theorem run_bound (hb : s.backend = some b) (g : Backend Application → Task ω ε α) (w : ω) :
    (s.bound >>= g).run w = (g b).run w := by
  rw [bound, hb]
  rfl

theorem run_unbound (hb : s.backend = none) (g : Backend Application → Task ω ε α) (w : ω) :
    (s.bound >>= g).run w = ⟨.error .notInitialized, w, []⟩ := by
  rw [bound, hb]
  rfl

theorem perform_bind_of_bound (hb : s.backend = some b) (w : ω) :
    s.perform S .bind w = ⟨(.ok .bound, s), w, []⟩ := by
  simp only [perform, Action.bind_apply, bind_of_bound s hb, Action.pure_apply, List.append_nil]

/-- The session that keeps a serial number if there is one. -/
def keeping : Except Failure String → Session Context Connection Application
  | .ok text => { s with serial := some text }
  | .error _ => s

theorem perform_serial_of_kept (hb : s.backend = some b) {text : String}
    (hs : s.serial = some text) (w : ω) :
    s.perform S .serial w = ⟨(.ok (.serial text 0), s), w, []⟩ := by
  simp only [perform, serialAndStamp, Action.bind_apply, bind_of_bound s hb, hs]
  rfl

theorem perform_serial_of_bound (hb : s.backend = some b) (hs : s.serial = none) (w : ω) :
    s.perform S .serial w =
      let o := (WholeFile.resolveSerial S s.connection (b.applicationSerial S w)).run w
      ⟨(o.value.map (.serial · 0), s.keeping o.value), o.world, o.entries⟩ := by
  simp only [perform, serialAndStamp, Action.bind_apply, bind_of_bound s hb, hs,
    Action.look_apply]
  cases ((WholeFile.resolveSerial S s.connection (b.applicationSerial S w)).run w).value with
  | ok text => simp [Except.map, keeping]
  | error f => simp [Except.map, keeping]

end Session

end SmartCard
