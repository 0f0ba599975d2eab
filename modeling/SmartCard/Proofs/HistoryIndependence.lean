import SmartCard.Proofs.BoundOnce
import SmartCard.Proofs.OperationGuards

/-!
# What was done before does not matter

A card that does not change answers every operation as if the session had only just been bound,
whatever was done since. Every operation that reads a file selects it first, so it does not matter
which file an earlier one left behind, or how far that one came. All that a session keeps is the
serial number, and what it keeps is what it would find again.
-/
namespace SmartCard

section
variable {ω ε Context Connection Application α β : Type}

/-! ## Pieces of work -/

/-- Both worlds are usual ones. -/
def Both (usual : ω → Prop) (w w' : ω) : Prop := usual w ∧ usual w'

/-- The piece of work gives the same answer in all usual worlds. -/
def Task.Agrees (usual : ω → Prop) (t : Task ω ε α) : Prop :=
  ∀ w w', usual w → usual w' → (t.run w).value = (t.run w').value

theorem Task.Alike.agrees {usual : ω → Prop} {Q : ω → ω → Prop} {t : Task ω ε α}
    (h : Alike (Both usual) Q t) : Agrees usual t := fun w w' hw hw' => (h w w' ⟨hw, hw'⟩).1

theorem Task.Agrees.map {usual : ω → Prop} {t : Task ω ε α} (h : Agrees usual t) (g : α → β) :
    Agrees usual (g <$> t) := by
  intro w w' hw hw'
  rw [run_map, run_map, h w w' hw hw']

namespace Steady

variable {S : Stack ω ε Context Connection Application} {k : Connection}
  {b : Backend Application} {usual : ω → Prop} {alike : ω → ω → Prop}

/-- Calls other than reads are answered alike, and lead from usual worlds to usual worlds. -/
theorem calls (h : Steady S k b usual alike) {c : Call} {r : Reply ω ε α}
    (hc : CardCall S k b c r) (hne : ∀ offset length, c ≠ .read offset length) (w w' : ω)
    (hw : Both usual w w') :
    (r w).value = (r w').value ∧ ∀ o, (r w).value = .ok o → Both usual (r w).world (r w').world :=
  ⟨h.answers hc hne hw.1 hw.2, fun _ _ => ⟨h.keeps hc hw.1, h.keeps hc hw.2⟩⟩

theorem alike_resolveSerial (h : Steady S k b usual alike) (application : Option String) :
    Task.Alike (Both usual) alike (WholeFile.resolveSerial S k application) := by
  have hgdo : Task.Alike (Both usual) alike (WholeFile.readGdo S k) := by
    refine .bind (.callOr (h.selects _)) fun file => ?_
    refine .bind (.require _ (.refuse _ _)) fun _ => ?_
    refine .bind (.require _ (.refuse _ _)) fun _ => ?_
    refine .bind (.callOr fun w w' hw => h.read hw) fun content => ?_
    exact .bind (.require _ (.refuse _ _)) fun _ => .pure content
  refine .bind hgdo fun gdo => ?_
  split
  · exact .bind (.logAll _) fun _ => .pure _
  · exact .refuse _ _

/-! ### Backends -/

theorem agrees_dinsig_keypair (h : Steady S k b usual alike) (parser : CertificateParser)
    (index : Nat) : Task.Agrees usual (Dinsig.keypair S parser k index) := by
  rw [Dinsig.keypair]
  split
  · refine Task.Alike.agrees (Q := alike) (.bind h.alike_certificate fun c => ?_)
    exact .bind (.keygripOr _ _ _) fun _ => .pure _
  · exact fun _ _ _ _ => rfl

theorem agrees_dinsig_readCertificate (h : Steady S k b usual alike) (id : String) :
    Task.Agrees usual (Dinsig.readCertificate S k id) := by
  rw [Dinsig.readCertificate]
  split
  · exact h.alike_certificate.agrees
  · exact fun _ _ _ _ => rfl

section
variable {a : Application}

theorem alike_pkcs15_certificate (h : Steady S k (.pkcs15 a) usual alike) (id : Octets) :
    Task.Alike (Both usual) (Both usual) (Pkcs15.certificate S a id) :=
  .callOr (h.calls (.certificate a id) nofun)

theorem alike_pkcs15_keypair (h : Steady S k (.pkcs15 a) usual alike) (parser : CertificateParser)
    (index : Nat) :
    Task.Alike (Both usual) (Both usual) (Pkcs15.keypair S parser a index) := by
  refine .bind (.callOr (h.calls (.privateKeys a) nofun)) fun keys => ?_
  split
  · exact .pure none
  · refine .bind (h.alike_pkcs15_certificate _) fun c => ?_
    split
    · exact .bind (.log _ _) fun _ => .throw _
    · exact .bind (.keygripOr _ _ _) fun _ => .pure _

theorem alike_pkcs15_readCertificate (h : Steady S k (.pkcs15 a) usual alike) (certId : String) :
    Task.Alike (Both usual) (Both usual) (Pkcs15.readCertificate S a certId) := by
  refine .bind (.ofExcept _) fun id => ?_
  refine .bind (h.alike_pkcs15_certificate id) fun c => ?_
  split
  · exact .pure _
  · exact .refuse _ _

theorem alike_pkcs15_verifyPin (h : Steady S k (.pkcs15 a) usual alike) (id : Octets)
    (ask : PinCallback) :
    Task.Alike (Both usual) (Both usual) (Pkcs15.verifyPin S a id ask) := by
  refine .bind (.callOr (h.calls (.pinLabel a id) nofun)) fun label => ?_
  refine .bind (.prompt ask _) fun pin => ?_
  exact .callOr (h.calls (.verifyPin a id pin) nofun)

theorem alike_pkcs15_sign (h : Steady S k (.pkcs15 a) usual alike) (keyId : String)
    (hash : HashAlgorithm) (ask : PinCallback) (digest : Octets) :
    Task.Alike (Both usual) (Both usual) (Pkcs15.sign S a keyId hash ask digest) := by
  refine .bind (.ofExcept _) fun id => ?_
  refine .bind (.require _ (.throw _)) fun _ => ?_
  refine .bind (.require _ (.refuse _ _)) fun _ => ?_
  refine .bind (h.alike_pkcs15_verifyPin id ask) fun _ => ?_
  exact .callOr (h.calls (.sign a id hash digest) nofun)

theorem alike_pkcs15_decipher (h : Steady S k (.pkcs15 a) usual alike) (keyId : String)
    (ask : PinCallback) (data : Octets) :
    Task.Alike (Both usual) (Both usual) (Pkcs15.decipher S a keyId ask data) := by
  refine .bind (.ofExcept _) fun id => ?_
  refine .bind (h.alike_pkcs15_verifyPin id ask) fun _ => ?_
  exact .callOr (h.calls (.decipher a id data) nofun)

end

end Steady

/-! ## Operations -/

namespace Session

variable {S : Stack ω ε Context Connection Application}
  {s s' : Session Context Connection Application} {b : Backend Application} {op : Operation}
  {usual : ω → Prop} {alike : ω → ω → Prop} {w w' : ω}

/-- What the backend is left with gives the same answer in all usual worlds. -/
theorem Forwards.agrees {t : Task ω ε Answer} (hf : Forwards S s b op t)
    (h : Steady S s.connection b usual alike) : Task.Agrees usual t := by
  cases hf with
  | keypair index =>
    refine .map ?_ _
    cases b with
    | pkcs15 a => exact (h.alike_pkcs15_keypair s.parser index).agrees
    | dinsig => exact h.agrees_dinsig_keypair s.parser index
  | certificate id =>
    refine .map ?_ _
    cases b with
    | pkcs15 a => exact (h.alike_pkcs15_readCertificate id).agrees
    | dinsig => exact h.agrees_dinsig_readCertificate id
  | sign keyId hash ask digest =>
    refine .map ?_ _
    cases b with
    | pkcs15 a => exact (h.alike_pkcs15_sign keyId hash ask digest).agrees
    | dinsig => exact fun _ _ _ _ => rfl
  | decipher keyId ask data =>
    refine .map ?_ _
    cases b with
    | pkcs15 a => exact (h.alike_pkcs15_decipher keyId ask data).agrees
    | dinsig => exact fun _ _ _ _ => rfl

/-- An operation that does not bind has the same answer in all usual worlds. -/
theorem answer_of_not_binds (hb : s.backend = some b) (h : Steady S s.connection b usual alike)
    (hop : op.binds = false) (hw : usual w) (hw' : usual w') :
    (s.perform S op w).value.1 = (s.perform S op w').value.1 := by
  cases hrefusal : s.refusal? op with
  | some f =>
    obtain ⟨ls, he⟩ := s.perform_of_refusal (S := S) hop hrefusal w
    obtain ⟨ls', he'⟩ := s.perform_of_refusal (S := S) hop hrefusal w'
    rw [he, he']
  | none =>
    obtain ⟨b', t, hb', -, hforwards, hperform⟩ := s.perform_of_passed (S := S) hop hrefusal
    cases hb.symm.trans hb'
    obtain ⟨ls, he⟩ := hperform w
    obtain ⟨ls', he'⟩ := hperform w'
    rw [he, he', hforwards.agrees h w w' hw hw']

/-- The serial number that a resolution finds on the card. -/
def found (S : Stack ω ε Context Connection Application)
    (s : Session Context Connection Application) (b : Backend Application) (w : ω) :
    Except Failure String :=
  ((WholeFile.resolveSerial S s.connection (b.applicationSerial S w)).run w).value

/-- The other session is this one as it was bound, or this one with a serial number that was found
in a usual world. -/
inductive Remembers (S : Stack ω ε Context Connection Application) (b : Backend Application)
    (usual : ω → Prop) (s : Session Context Connection Application) :
    Session Context Connection Application → Prop
  | nothing : Remembers S b usual s s
  | serial {w : ω} {text : String} (hw : usual w) (htext : s.found S b w = .ok text) :
      Remembers S b usual s (s.keeping (.ok text))

theorem Remembers.backend_eq (h : Remembers S b usual s s') : s'.backend = s.backend := by
  cases h <;> rfl

theorem Remembers.connection_eq (h : Remembers S b usual s s') :
    s'.connection = s.connection := by
  cases h <;> rfl

/-- On a session that has kept nothing yet, the serial number is what is found. -/
theorem perform_serial_of_none (hb : s.backend = some b) (hs : s.serial = none) (w : ω) :
    (s.perform S .serial w).value =
      ((s.found S b w).map (.serial · 0), s.keeping (s.found S b w)) := by
  rw [perform_serial_of_bound s hb hs]
  rfl

/-- One operation more, whatever it answers. -/
theorem Remembers.perform (h : Remembers S b usual s s') (hb : s.backend = some b)
    (hs : s.serial = none) (hw : usual w) (op : Operation) :
    Remembers S b usual s (s'.perform S op w).value.2 := by
  have hb' : s'.backend = some b := h.backend_eq.trans hb
  cases hop : op.binds with
  | false =>
    rw [session_of_not_binds hop]
    exact h
  | true =>
    cases op with
    | keypair | certificate | sign | decipher => cases hop
    | bind =>
      rw [perform_bind_of_bound s' hb']
      exact h
    | serial =>
      cases h with
      | nothing =>
        rw [perform_serial_of_none hb hs]
        cases htext : s.found S b w with
        | ok text => exact .serial hw htext
        | error f => exact .nothing
      | serial hw' htext =>
        rw [perform_serial_of_kept (s.keeping _) hb' rfl]
        exact .serial hw' htext

/-- Any operations more; and the world stays a usual one. -/
theorem Remembers.performAll (h : Remembers S b usual s s') (hb : s.backend = some b)
    (hs : s.serial = none) (hsteady : Steady S s.connection b usual alike) (hw : usual w)
    (ops : List Operation) :
    Remembers S b usual s (s'.performAll S ops w).value ∧ usual (s'.performAll S ops w).world := by
  induction ops generalizing s' w with
  | nil => exact ⟨h, hw⟩
  | cons op ops ih =>
    have hwork := (goes_perform (S := S) s' op w).work
    rw [h.backend_eq, hb, h.connection_eq] at hwork
    exact ih (h.perform hb hs hw op) (hsteady.work hwork hw).1

/-- The same number is found in all usual worlds. -/
theorem found_eq (h : Steady S s.connection b usual alike)
    (hserial : ∀ w w', usual w → usual w' → b.applicationSerial S w = b.applicationSerial S w')
    (hw : usual w) (hw' : usual w') : s.found S b w = s.found S b w' := by
  rw [found, found, hserial w w' hw hw']
  exact (h.alike_resolveSerial _).agrees w w' hw hw'

/-- Only the serial number tells the sessions apart, and only one operation looks at it. -/
theorem Remembers.value_perform (h : Remembers S b usual s s') (hop : op.binds = false) (w : ω) :
    (s'.perform S op w).value.1 = (s.perform S op w).value.1 := by
  cases h with
  | nothing => rfl
  | serial =>
    cases op with
    | bind | serial => cases hop
    | keypair | certificate | sign | decipher => rfl

theorem Remembers.exists_found (h : Remembers S b usual s s') (hs : s.serial = none)
    {text : String} (htext : s'.serial = some text) :
    ∃ w, usual w ∧ s.found S b w = .ok text := by
  cases h with
  | nothing =>
    rw [hs] at htext
    cases htext
  | serial hw hfound =>
    cases htext
    exact ⟨_, hw, hfound⟩

/-- What a session answers after all that is what it answers at first. -/
theorem Remembers.answer_eq (h : Remembers S b usual s s') (hb : s.backend = some b)
    (hs : s.serial = none) (hsteady : Steady S s.connection b usual alike)
    (hserial : ∀ w w', usual w → usual w' → b.applicationSerial S w = b.applicationSerial S w')
    (hw : usual w) (hw' : usual w') (op : Operation) :
    (s'.perform S op w').value.1 = (s.perform S op w).value.1 := by
  have hb' : s'.backend = some b := h.backend_eq.trans hb
  cases hop : op.binds with
  | false =>
    rw [h.value_perform hop]
    exact answer_of_not_binds hb hsteady hop hw' hw
  | true =>
    cases op with
    | keypair | certificate | sign | decipher => cases hop
    | bind => rw [perform_bind_of_bound s' hb', perform_bind_of_bound s hb]
    | serial =>
      rw [perform_serial_of_none hb hs]
      cases h with
      | nothing => rw [perform_serial_of_none hb hs, found_eq hsteady hserial hw' hw]
      | serial hw₀ htext =>
        -- What is kept was found in some usual world, so it is what is found now.
        rw [perform_serial_of_kept (s.keeping _) hb' rfl, found_eq hsteady hserial hw hw₀, htext]
        rfl

/-! ## The main result -/

/-- A session that was opened and then bound, in the world that this led to. -/
inductive Started (S : Stack ω ε Context Connection Application) :
    Session Context Connection Application → ω → Prop
  | bind {parser : CertificateParser} {o : Options} {w : ω}
      {s : Session Context Connection Application}
      (hs : ((start S parser o).run w).value = .ok s) :
      Started S (s.perform S .bind ((start S parser o).run w).world).value.2
        (s.perform S .bind ((start S parser o).run w).world).world

theorem Started.serial_eq (h : Started S s w) : s.serial = none := by
  obtain @⟨parser, o, w, s, hs⟩ := h
  obtain ⟨v, -, hvalue⟩ := start_opening S parser o w
  rw [hs] at hvalue
  cases v with
  | error f => cases hvalue
  | ok p =>
    cases hvalue
    rfl

/-- On a card that does not change, what an operation answers does not depend on the operations
before it. A serial number that is kept is the one that would be found. -/
theorem answers_forget_history (hstarted : Started S s w) (hb : s.backend = some b)
    (h : Steady S s.connection b usual alike) (hw : usual w)
    (hserial : ∀ w w', usual w → usual w' → b.applicationSerial S w = b.applicationSerial S w')
    (ops ops' : List Operation) (op : Operation) :
    let p := s.performAll S ops w
    let p' := s.performAll S ops' w
    (p.value.perform S op p.world).value.1 = (p'.value.perform S op p'.world).value.1 ∧
      ∀ text, p.value.serial = some text → s.found S b p.world = .ok text := by
  intro p p'
  have hs : s.serial = none := hstarted.serial_eq
  obtain ⟨hp, hu⟩ := Remembers.nothing.performAll hb hs h hw ops
  obtain ⟨hp', hu'⟩ := Remembers.nothing.performAll hb hs h hw ops'
  refine ⟨?_, fun text htext => ?_⟩
  · rw [hp.answer_eq hb hs h hserial hw hu, hp'.answer_eq hb hs h hserial hw hu']
  · obtain ⟨w₀, hw₀, hfound⟩ := hp.exists_found hs htext
    rw [found_eq h hserial hu hw₀, hfound]

end Session

end

namespace Simulator

/-- A card without an application directory, whose certificate is served one octet at a time until
the second read fails. -/
def brittle : Card where
  present := true
  files := [
    (WholeFile.gdoPath.text,
      ⟨[0x5A, 0x02, 0x12, 0x34], ⟨.workingEf, .transparent, 4⟩, none, none, 0, 4, 0⟩),
    (Dinsig.certPath.text,
      ⟨[1, 2], ⟨.workingEf, .transparent, 2⟩, none, some ⟨.internal, "read error"⟩, 1, 1, 0⟩)]
  application := none
  faults := []

/-- The certificate is left selected and half read before the serial number is asked for, or the
serial number was asked for before, and kept. -/
theorem answers_forget_history_brittle :
    let w := ((Session.start stack parser {}).run (World.ofCards [some brittle] none)).world
    let s := fresh.withBackend .dinsig
    let p := s.performAll stack [.keypair 0] w
    let p' := s.performAll stack [.serial, .keypair 0] w
    (s.perform stack (.keypair 0) w).value.1 = .error .cardError ∧
      (p.value.perform stack .serial p.world).value.1 =
        (p'.value.perform stack .serial p'.world).value.1 ∧
      p'.value.serial = some "1234" ∧ s.found stack .dinsig p'.world = .ok "1234" := by
  intro w s
  have hstarted : Session.Started stack s w :=
    @Session.Started.bind _ _ _ _ _ stack parser {} (World.ofCards [some brittle] none) fresh rfl
  have hsteady := steady s.connection .dinsig w.readers
  have hforget := Session.answers_forget_history hstarted rfl hsteady rfl fun _ _ _ _ => rfl
  have hserial : (s.performAll stack [.serial, .keypair 0] w).value.serial = some "1234" := by
    decide +kernel
  exact ⟨by decide +kernel, (hforget [.keypair 0] [.serial, .keypair 0] .serial).1, hserial,
    (hforget [.serial, .keypair 0] [] .serial).2 _ hserial⟩

end Simulator

end SmartCard
