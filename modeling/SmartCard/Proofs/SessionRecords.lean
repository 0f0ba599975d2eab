import SmartCard.Proofs.BoundOnce
import SmartCard.Record

/-!
# Records of sessions

A record whose handles are there and whose flags agree with them is the record of a session.
-/
namespace SmartCard

section
variable {ω ε Context Connection Application α β : Type}

namespace Session

/-- The record of a session that is open. -/
def Record.ofSession (s : Session Context Connection Application) :
    Record Context Connection Application :=
  ⟨s.options, some s.context, some s.connection, true, s.backend.isSome, s.backend, s.parser,
    s.serial⟩

variable {S : Stack ω ε Context Connection Application}
  {s : Session Context Connection Application}

/-! ## Methods that leave the record alone -/

namespace Method

/-- On the record of the session the method does what the work does. -/
def Does (s : Session Context Connection Application)
    (m : Method ω ε Context Connection Application α) (t : Task ω ε α) : Prop :=
  ∀ w, m.on (.ofSession s) w =
    ⟨((t.run w).value, .ofSession s), (t.run w).world, (t.run w).entries⟩

namespace Does

theorem work (t : Task ω ε α) : Does s (work t) t := fun w => on_work _ w t

theorem bind {m : Method ω ε Context Connection Application α} {t : Task ω ε α}
    {g : α → Method ω ε Context Connection Application β} {h : α → Task ω ε β}
    (hm : Does s m t) (hg : ∀ a, Does s (g a) (h a)) : Does s (m >>= g) (t >>= h) := by
  intro w
  rw [on_bind, hm, Task.run_bind]
  cases (t.run w).value with
  | ok a => simp only [hg a _]
  | error f => rfl

theorem parts {g : Backend Application × Connection → Method ω ε Context Connection Application α}
    {h : Backend Application → Task ω ε α} (hg : ∀ b, Does s (g (b, s.connection)) (h b)) :
    Does s (Record.parts >>= g) (s.bound >>= h) := by
  intro w
  cases hb : s.backend with
  | none =>
    rw [run_unbound s hb]
    simp [Record.parts, on_bind, Record.ofSession, hb]
  | some b =>
    rw [run_bound s hb, ← hg b w]
    simp [Record.parts, on_bind, Record.ofSession, hb, on_field]

theorem reported {m : Method ω ε Context Connection Application α} {t : Task ω ε α}
    (hm : Does s m t) (operation : String) :
    Does s (m.reported operation) (s.reported operation t) := by
  intro w
  rw [on_reported, hm, run_reported]
  rfl

end Does

end Method

namespace Record

open Method

theorem does_keypair (index : Int) : Does s (keypair S index) (s.keypair S index) := by
  refine .reported (.bind (.work _) fun _ => .parts fun b => ?_) _
  intro w
  simp [on_bind, ofSession]

theorem does_readCertificate (id : String) :
    Does s (readCertificate S id) (s.readCertificate S id) :=
  .reported (.parts fun _ => .work _) _

theorem does_sign (keyId : String) (hash : HashAlgorithm) (ask : Option PinCallback)
    (digest : Octets) :
    Does s (sign S keyId hash ask digest) (s.sign S keyId hash ask digest) :=
  .reported (.bind (.work _) fun _ => .parts fun _ => .work _) _

theorem does_decipher (keyId : String) (ask : Option PinCallback) (data : Octets) :
    Does s (decipher S keyId ask data) (s.decipher S keyId ask data) :=
  .reported (.bind (.work _) fun _ => .parts fun _ => .work _) _

/-! ## Methods that change the record -/

theorem on_bind_ofSession (w : ω) :
    (bind S).on (ofSession s) w =
      let o := s.bind S w
      ⟨(.ok (), ofSession o.value.2), o.world, o.entries⟩ := by
  cases hb : s.backend with
  | some b => simp [bind, Method.on_bind, Session.bind, ofSession, hb]
  | none => simp [bind, Method.on_bind, Session.bind, ofSession, hb, on_field, reader]

theorem on_serialAndStamp_ofSession (w : ω) :
    (serialAndStamp S).on (ofSession s) w =
      let o := s.serialAndStamp S w
      ⟨(o.value.1, ofSession o.value.2), o.world, o.entries⟩ := by
  rw [serialAndStamp, Method.on_bind, on_bind_ofSession, Session.serialAndStamp,
    Action.bind_apply]
  have hvalue := value_bind (S := S) s w
  rcases hbind : s.bind S w with ⟨⟨b, s'⟩, w', es⟩
  have hb : s'.backend = some b := by
    rw [hbind] at hvalue
    cases hvalue
    rfl
  cases hs : s'.serial with
  | some text => simp [Method.on_bind, ofSession, hs]
  | none =>
    simp only [Method.on_bind, on_get, on_work, on_field, ofSession, hs, hb, Option.bind_some,
      Task.run_ofAction, Action.bind_apply, Action.look_apply]
    cases ((WholeFile.resolveSerial S s'.connection (b.applicationSerial S w')).run w').value with
    | ok text => simp
    | error f => simp [hb, hs]

theorem perform_ofSession (op : Operation) (w : ω) :
    (perform S op).on (ofSession s) w =
      let o := s.perform S op w
      ⟨(o.value.1, ofSession o.value.2), o.world, o.entries⟩ := by
  cases op with
  | bind => simp [perform, on_bind_ofSession, Session.perform, Except.map]
  | serial =>
    simp [perform, on_serialAndStamp_ofSession, Session.perform]
  | keypair index => simp [perform, does_keypair index _, Session.perform]
  | certificate id => simp [perform, does_readCertificate id _, Session.perform]
  | sign keyId hash ask digest =>
    simp [perform, does_sign keyId hash ask digest _, Session.perform]
  | decipher keyId ask data =>
    simp [perform, does_decipher keyId ask data _, Session.perform]

/-! ## Whole runs -/

attribute [local simp] Task.run_bind Task.run_call Task.run_recover Task.run_require Task.callOr
  Call.makeSure Except.map Method.on_bind on_field release Backend.unbind in
/-- A record is opened with the same calls as the session, and is the session's. -/
theorem start_eq (parser : CertificateParser) (o : Options) (w : ω) :
    (start S parser o).run w =
      let p := (Session.start S parser o).run w
      ⟨p.value.map ofSession, p.world, p.entries⟩ := by
  rcases hE : S.establish o.appName o.debugTransport w with ⟨v, w', ns⟩
  cases v with
  | error f => simp [start, Session.start, hE]
  | ok c =>
    by_cases hr : o.reader < S.readerCount w' c
    · rcases hD : S.detect c o.reader w' with ⟨v, w'', ns'⟩
      match v with
      | .ok true =>
        rcases hC : S.connect c o.reader w'' with ⟨v, w₃, ns''⟩
        cases v with
        | error f =>
          simp [start, connect, Session.start, Session.connect, hE, hr, hD, hC]
        | ok k =>
          rcases hL : S.lock k w₃ with ⟨v, w₄, ns₃⟩
          cases v with
          | error f =>
            simp [start, connect, Session.start, Session.connect, lockCard, hE, hr, hD, hC, hL]
            rfl
          | ok =>
            simp [start, connect, Session.start, Session.connect, lockCard, hE, hr, hD, hC, hL,
              ofSession]
      | .ok false => simp [start, connect, Session.start, Session.connect, hE, hr, hD]
      | .error f => simp [start, connect, Session.start, Session.connect, hE, hr, hD]
    · simp [start, connect, Session.start, Session.connect, hE, hr]

theorem performAll_ofSession (ops : List Operation) (w : ω) :
    performAll S (ofSession s) ops w =
      let o := s.performAll S ops w
      ⟨ofSession o.value, o.world, o.entries⟩ := by
  induction ops generalizing s w with
  | nil => rfl
  | cons op ops ih => simp [performAll, perform_ofSession, ih, Session.performAll]

theorem value_release (r : Record Context Connection Application) (w : ω) :
    (release S r w).value =
      { r with
        backend := none
        connection := none
        context := none
        locked := r.locked && r.connection.isNone } := by
  cases hk : r.connection with
  | none => cases hc : r.context <;> simp [release, hk, hc]
  | some k =>
    cases hl : r.locked <;> cases hc : r.context <;> simp [release, hk, hl, hc]

/-- What was given back is not given back again. -/
theorem release_release (r : Record Context Connection Application) (w : ω) :
    let o := release S r w
    release S o.value o.world = ⟨o.value, o.world, []⟩ := by
  intro o
  have ho : o.value = _ := value_release r w
  rw [ho]
  simp [release, Backend.unbind]

/-- Closing gives back the whole record. -/
theorem release_ofSession (w : ω) :
    release S (ofSession s) w =
      let o := s.close S w
      ⟨⟨s.options, none, none, false, s.backend.isSome, none, s.parser, s.serial⟩, o.world,
        o.entries⟩ := by
  simp [release, ofSession, close]

theorem run_eq (parser : CertificateParser) (o : Options) (ops : List Operation) :
    run S parser o ops = Session.run S parser o ops := by
  ext w
  simp only [run, Session.run, Action.bind_apply, start_eq]
  cases ((Session.start S parser o).run w).value with
  | error f => simp [Except.map]
  | ok s => simp [Except.map, performAll_ofSession, release_ofSession]

/-! ## Intact records -/

/-- The handles are there, the card is locked, the flag tells whether a backend is bound, and a
serial number is kept only where one is. -/
structure Intact (r : Record Context Connection Application) : Prop where
  context : r.context ≠ none
  connection : r.connection ≠ none
  locked : r.locked = true
  initialized : r.initialized = true ↔ r.backend ≠ none
  serial : r.serial ≠ none → r.initialized = true

variable {r r' : Record Context Connection Application} {w w' : ω} {ops : List Operation}
  {es : List (Entry ε)}

theorem intact_ofSession (h : s.serial ≠ none → s.isInitialized = true) : (ofSession s).Intact where
  context := nofun
  connection := nofun
  locked := rfl
  initialized := Option.isSome_iff_ne_none
  serial := h

/-- An intact record is the record of a session. -/
theorem Intact.exists_session (h : r.Intact) :
    ∃ s, r = ofSession s ∧ (s.serial ≠ none → s.isInitialized = true) := by
  obtain ⟨o, c, k, locked, initialized, b, parser, serial⟩ := r
  obtain ⟨c, rfl⟩ := Option.ne_none_iff_exists'.mp h.context
  obtain ⟨k, rfl⟩ := Option.ne_none_iff_exists'.mp h.connection
  have hinit : initialized = b.isSome :=
    Bool.eq_iff_iff.mpr (h.initialized.trans Option.isSome_iff_ne_none.symm)
  have hlocked : locked = true := h.locked
  refine ⟨⟨o, parser, c, k, b, serial⟩, ?_, fun hs => hinit.symm.trans (h.serial hs)⟩
  rw [hinit, hlocked, ofSession]

/-- An operation leaves a record intact, however it ends. -/
theorem Intact.perform (h : r.Intact) (op : Operation) (w : ω) :
    ((perform S op).on r w).value.2.Intact := by
  obtain ⟨s, rfl, hs⟩ := h.exists_session
  rw [perform_ofSession]
  exact intact_ofSession (isInitialized_of_serial hs op w)

/-- A record that was opened is that of a session with nothing bound or kept. -/
theorem exists_session_of_start {parser : CertificateParser} {o : Options}
    (h : ((start S parser o).run w).value = .ok r) :
    ∃ s, r = ofSession s ∧ ((Session.start S parser o).run w).value = .ok s := by
  rw [start_eq] at h
  dsimp only at h
  cases hs : ((Session.start S parser o).run w).value with
  | error f =>
    rw [hs] at h
    cases h
  | ok s =>
    rw [hs] at h
    cases h
    exact ⟨s, rfl, rfl⟩

/-! ## Records over time -/

/-- What a record comes to by operations one after the other, with their journal. Meanwhile the
world may change in any way. -/
inductive Reaches (S : Stack ω ε Context Connection Application) :
    Record Context Connection Application → ω → List Operation → List (Entry ε) →
      Record Context Connection Application → ω → Prop
  | start (r : Record Context Connection Application) (w : ω) : Reaches S r w [] [] r w
  | outside {r r' : Record Context Connection Application} {w w' : ω} {ops : List Operation}
      {es : List (Entry ε)} (h : Reaches S r w ops es r' w') (w'' : ω) :
      Reaches S r w ops es r' w''
  | perform {r r' : Record Context Connection Application} {w w' : ω} {ops : List Operation}
      {es : List (Entry ε)} (h : Reaches S r w ops es r' w') (op : Operation) :
      Reaches S r w (ops ++ [op]) (es ++ ((perform S op).on r' w').entries)
        ((perform S op).on r' w').value.2 ((perform S op).on r' w').world

theorem Reaches.intact (h : Reaches S r w ops es r' w') (hr : r.Intact) : r'.Intact := by
  induction h with
  | start => exact hr
  | outside _ _ ih => exact ih
  | perform _ op ih => exact ih.perform op _

/-- The record of a session comes to what the session comes to. -/
theorem Reaches.exists_session (h : Reaches S (ofSession s) w ops es r w') :
    ∃ s', r = ofSession s' ∧ Session.Reaches S s w ops es s' w' := by
  generalize hr₀ : ofSession s = r₀ at h
  induction h with
  | start => exact ⟨s, hr₀.symm, .start s _⟩
  | outside _ w'' ih =>
    obtain ⟨s', rfl, h'⟩ := ih
    exact ⟨s', rfl, h'.outside w''⟩
  | perform _ op ih =>
    obtain ⟨s', rfl, h'⟩ := ih
    rw [perform_ofSession]
    exact ⟨_, rfl, h'.perform op⟩

/-! ## The main result -/

/-- What is true of a record that was opened, after operations whose journal, from the opening on,
has the trace. -/
structure Settled (S : Stack ω ε Context Connection Application)
    (r : Record Context Connection Application) (ops : List Operation) (t : Trace)
    (r' : Record Context Connection Application) : Prop where
  intact : r'.Intact
  options : r'.options = r.options
  context : r'.context = r.context
  connection : r'.connection = r.connection
  /-- The lock was taken, and nothing was given back. -/
  held : successes (· = .lock) t = 1 ∧ ∀ m ∈ t, m.1.isTeardown = false
  bound : r'.initialized = true ↔ ∃ op ∈ ops, op.binds = true
  once : times .bind t ≤ 1
  pkcs15 : r'.backendName = some "PKCS#15" ↔ (.bind, none) ∈ t
  dinsig : r'.backendName = some "DINSIG" ↔ ∃ f, (.bind, some f) ∈ t
  /-- Binding does not fail. -/
  binds : ∀ w : ω, ((perform S .bind).on r' w).value.1 = .ok .bound
  /-- The backend is the same ever after. -/
  stays : r'.initialized = true → ∀ (w : ω) (ops' : List Operation) (es' : List (Entry ε))
    (r'' : Record Context Connection Application) (w'' : ω),
    Reaches S r' w ops' es' r'' w'' → r''.backend = r'.backend
  /-- Operations of the backend do not change the record. -/
  unchanged : ∀ (op : Operation) (w : ω), op.binds = false → ((perform S op).on r' w).value.2 = r'
  /-- Looking for the connection finds it. -/
  connected : ∀ w : ω, ∃ k : Connection,
    (field (·.connection) .cardError : Method ω ε Context Connection Application _).on r' w =
      ⟨(.ok k, r'), w, []⟩
  /-- The card is complained about only after it was asked. -/
  cardError : ∀ (op : Operation) (w : ω), ((perform S op).on r' w).value.1 = .error .cardError →
    trace ((perform S op).on r' w).entries ≠ []
  /-- A backend is missed only before one was bound, unless the cardholder says so. -/
  notInitialized : ∀ (op : Operation) (w : ω),
    ((perform S op).on r' w).value.1 = .error .notInitialized →
      (∀ op' ∈ ops, op'.binds = false) ∨
        ∃ text, Entry.prompt text (some .notInitialized) ∈ ((perform S op).on r' w).entries

theorem connected_ofSession (s : Session Context Connection Application) (w : ω) :
    (field (·.connection) .cardError : Method ω ε Context Connection Application _).on
      (ofSession s) w = ⟨(.ok s.connection, ofSession s), w, []⟩ := on_field _ _ _ _

/-- Whatever the driver answers and whatever happens to the card, the record of an open session
stays intact and is bound once. -/
theorem settled_of_reaches {parser : CertificateParser} {o : Options} {w₀ : ω}
    (hr : ((start S parser o).run w₀).value = .ok r)
    (h : Reaches S r ((start S parser o).run w₀).world ops es r' w') :
    Settled S r ops (trace (((start S parser o).run w₀).entries ++ es)) r' := by
  obtain ⟨s, rfl, hs⟩ := exists_session_of_start hr
  obtain ⟨v, hopen, hvalue⟩ := start_opening S parser o w₀
  rw [start_eq] at h ⊢
  obtain ⟨s', rfl, hreach⟩ := h.exists_session
  rw [hs] at hvalue
  cases v with
  | error f => cases hvalue
  | ok p =>
    cases hvalue
    have hkept := hreach.kept rfl rfl
    have hbinding := hkept.binding.behind_opening o
    rw [trace_append, hopen.trace_opened]
    exact {
      intact := intact_ofSession hkept.serial
      options := hkept.options
      context := congrArg some hkept.context
      connection := congrArg some hkept.connection
      held := locked_behind_opening o hkept.working
      bound := hkept.bound
      once := hbinding.times_le
      pkcs15 := hbinding.name_iff.1
      dinsig := hbinding.name_iff.2
      binds := fun w => by
        rw [perform_ofSession]
        rfl
      stays := fun hinit w ops' es' r'' w'' h' => by
        obtain ⟨s'', rfl, hreach'⟩ := h'.exists_session
        obtain ⟨b, hb⟩ := Option.isSome_iff_exists.mp hinit
        exact (hreach'.backend_eq hb).trans hb.symm
      unchanged := fun op w hop => by
        rw [perform_ofSession]
        exact congrArg ofSession (session_of_not_binds hop w)
      connected := fun w => ⟨_, connected_ofSession s' w⟩
      cardError := fun op w hv => by
        have haccounts := accounts_perform (S := S) s' op w
        rw [perform_ofSession] at hv ⊢
        rw [hv] at haccounts
        exact (haccounts.2 rfl).resolve_left Bool.false_ne_true
      notInitialized := fun op w hv => by
        have haccounts := accounts_perform (S := S) s' op w
        rw [perform_ofSession] at hv ⊢
        rw [hv] at haccounts
        refine (haccounts.1 rfl).imp_left fun hnone => ?_
        have hinit : s'.isInitialized = false := (Bool.or_eq_false_iff.mp hnone).2
        intro op' hmem
        cases hop : op'.binds with
        | false => rfl
        | true =>
          rw [hkept.bound.mpr ⟨op', hmem, hop⟩] at hinit
          cases hinit }

end Record

end Session

end

namespace Simulator

open Session

/-- The card is taken away after its application was bound; the backend stays. -/
theorem settled_card_taken_away :
    let p := (Record.start stack parser {}).run (World.ofCards [some (keyed [0x45])] none)
    let r := Record.ofSession fresh
    let q := (Record.perform stack .bind).on r p.world
    let q' := (Record.perform stack .serial).on q.value.2 (q.world.exchange 0 none)
    p.value = .ok r ∧ q'.value.1 = .error .cardError ∧ q'.value.2 = Record.ofSession keySession ∧
      Record.Settled stack r [.bind, .serial] (trace (p.entries ++ (q.entries ++ q'.entries)))
        q'.value.2 := by
  intro p r q q'
  have hopened : p.value = .ok r := rfl
  have hreaches : Record.Reaches stack r p.world [.bind, .serial] (q.entries ++ q'.entries)
      q'.value.2 q'.world :=
    .perform (.outside (.perform (.start r p.world) .bind) (q.world.exchange 0 none)) .serial
  exact ⟨hopened, rfl, rfl, Record.settled_of_reaches hopened hreaches⟩

/-- A record with a bound backend is not initialized if the cardholder's callback says so. -/
theorem not_initialized_though_bound :
    let p := (Record.start stack parser {}).run (World.ofCards [some (keyed [0x45])] none)
    let denial : PinCallback := fun _ => .error .notInitialized
    let sign : Operation := .sign "P15-5015.45" .sha1 (some denial) (List.replicate 20 0xAB)
    p.value = .ok (Record.ofSession fresh) ∧
      ¬ ∀ (ops : List Operation) (es : List (Entry Empty))
        (r : Record Unit Connection Application) (w : World),
        Record.Reaches stack (.ofSession fresh) p.world ops es r w →
          ((Record.perform stack sign).on r w).value.1 = .error .notInitialized →
            ∀ op ∈ ops, op.binds = false := by
  intro p denial sign
  refine ⟨rfl, fun h => ?_⟩
  have hbound := h [.bind] _ _ _ (.perform (.start (.ofSession fresh) p.world) .bind) rfl .bind
    (List.mem_singleton_self _)
  cases hbound

end Simulator

end SmartCard
