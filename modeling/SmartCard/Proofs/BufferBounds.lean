import SmartCard.Desk
import SmartCard.Proofs.KeyEnumeration
import SmartCard.Proofs.ReaderAgreement

/-!
# Where no buffer is large enough

A file is read into a buffer for all of it. Only the certificate file of a card without an
application directory can be too large for one: an operation asks for more than a buffer holds just
where it is said to break off. So nothing that is reported of steps asks for more.
-/
namespace SmartCard

section
variable {ω ε Context Connection Application α β : Type}

/-! ## Oversized reads -/

/-- The call asks for more octets than a buffer holds. -/
def Call.isOversized : Call → Bool
  | read _ length => WholeFile.capacity < length
  | _ => false

/-- No call asks for more octets than a buffer holds. -/
def Bounded (t : Trace) : Prop := ∀ m ∈ t, m.1.isOversized = false

theorem Bounded.nil : Bounded [] := List.forall_mem_nil _

theorem Bounded.cons_iff {c : Call} {f : Option Fault} {t : Trace} (hc : c.isOversized = false) :
    Bounded ((c, f) :: t) ↔ Bounded t := List.forall_mem_cons.trans (and_iff_right hc)

theorem Bounded.cons {c : Call} {f : Option Fault} {t : Trace} (hc : c.isOversized = false)
    (ht : Bounded t) : Bounded ((c, f) :: t) := (cons_iff hc).mpr ht

theorem Bounded.append {t t' : Trace} (h : Bounded t) (h' : Bounded t') : Bounded (t ++ t') :=
  fun m hm => (List.mem_append.mp hm).elim (h m) (h' m)

namespace Task

/-- What follows without a call adds nothing to the trace. -/
theorem trace_bind_of_quiet {t : Task ω ε α} {g : α → Task ω ε β}
    (hg : ∀ a w, trace ((g a).run w).entries = []) (w : ω) :
    trace ((t >>= g).run w).entries = trace (t.run w).entries := by
  rw [run_bind]
  cases (t.run w).value with
  | ok a => rw [trace_append, hg, List.append_nil]
  | error f => rfl

/-- The piece of work asks for no more octets than a buffer holds. -/
def Bounded (t : Task ω ε α) : Prop := ∀ w, SmartCard.Bounded (trace (t.run w).entries)

namespace Bounded

theorem of_trace_eq_nil {t : Task ω ε α} (h : ∀ w, trace (t.run w).entries = []) : Bounded t := by
  intro w
  rw [h]
  exact .nil

theorem pure (a : α) : Bounded (pure a : Task ω ε α) := of_trace_eq_nil fun _ => rfl

theorem throw (f : Failure) : Bounded (throw f : Task ω ε α) := of_trace_eq_nil fun _ => rfl

theorem log (level : Level) (text : String) : Bounded (log level text : Task ω ε Unit) :=
  of_trace_eq_nil fun _ => rfl

theorem prompt (ask : PinCallback) (text : String) : Bounded (prompt ask text : Task ω ε _) :=
  of_trace_eq_nil fun _ => rfl

theorem ofExcept (r : Except Failure α) : Bounded (liftM r : Task ω ε α) := by
  cases r <;> exact of_trace_eq_nil fun _ => rfl

theorem keygripOr (text : String) (parser : CertificateParser) (certificate : Octets) :
    Bounded (keygripOr text parser certificate : Task ω ε _) :=
  of_trace_eq_nil (trace_keygripOr text parser certificate)

theorem bind {t : Task ω ε α} {g : α → Task ω ε β} (ht : Bounded t) (hg : ∀ a, Bounded (g a)) :
    Bounded (t >>= g) := by
  intro w
  rw [run_bind]
  cases (t.run w).value with
  | ok a =>
    rw [trace_append]
    exact (ht w).append (hg a _)
  | error f => exact ht w

theorem map {t : Task ω ε α} (ht : Bounded t) (f : α → β) : Bounded (f <$> t) := by
  intro w
  rw [run_map]
  exact ht w

theorem require (condition : Bool) {t : Task ω ε Unit} (ht : Bounded t) :
    Bounded (require condition t) := by
  cases condition with
  | true => exact .pure ()
  | false => exact ht

theorem refuse (text : String) (f : Failure) : Bounded (refuse text f : Task ω ε α) :=
  .bind (.log .error text) fun _ => .throw f

theorem callOr (text : String) (failure : Fault → Failure) {c : Call} (r : Reply ω ε α)
    (hc : c.isOversized = false) : Bounded (callOr text failure c r) := by
  intro w
  rw [Task.callOr, run_call]
  cases (r w).value with
  | ok a => simpa using SmartCard.Bounded.nil.cons hc
  | error f => simpa using SmartCard.Bounded.nil.cons hc

end Bounded

end Task

/-! ## Backends -/

section
variable {S : Stack ω ε Context Connection Application} {k : Connection} {a : Application}

namespace Pkcs15

theorem bounded_certificate (id : Octets) : Task.Bounded (certificate S a id) := .callOr _ _ _ rfl

theorem bounded_keypair (parser : CertificateParser) (index : Nat) :
    Task.Bounded (keypair S parser a index) := by
  refine .bind (.callOr _ _ _ rfl) fun keys => ?_
  split
  · exact .pure none
  · refine .bind (bounded_certificate _) fun c => ?_
    split
    · exact .bind (.log _ _) fun _ => .throw _
    · exact .bind (.keygripOr _ _ _) fun _ => .pure _

theorem bounded_readCertificate (certId : String) :
    Task.Bounded (readCertificate S a certId) := by
  refine .bind (.ofExcept _) fun id => ?_
  refine .bind (bounded_certificate id) fun c => ?_
  split
  · exact .pure _
  · exact .refuse _ _

theorem bounded_verifyPin (id : Octets) (ask : PinCallback) :
    Task.Bounded (verifyPin S a id ask) := by
  refine .bind (.callOr _ _ _ rfl) fun label => ?_
  exact .bind (.prompt _ _) fun pin => .callOr _ _ _ rfl

theorem bounded_sign (keyId : String) (hash : HashAlgorithm) (ask : PinCallback)
    (digest : Octets) : Task.Bounded (sign S a keyId hash ask digest) := by
  refine .bind (.ofExcept _) fun id => ?_
  refine .bind (.require _ (.throw _)) fun _ => ?_
  refine .bind (.require _ (.refuse _ _)) fun _ => ?_
  exact .bind (bounded_verifyPin id ask) fun _ => .callOr _ _ _ rfl

theorem bounded_decipher (keyId : String) (ask : PinCallback) (data : Octets) :
    Task.Bounded (decipher S a keyId ask data) := by
  refine .bind (.ofExcept _) fun id => ?_
  exact .bind (bounded_verifyPin id ask) fun _ => .callOr _ _ _ rfl

end Pkcs15

namespace WholeFile

variable {path : Path} {w : ω}

theorem bounded_readGdo : Task.Bounded (readGdo S k) := by
  intro w
  have h := readGdo_reading S k w
  generalize ((readGdo S k).run w).value = v at h
  generalize trace ((readGdo S k).run w).entries = t at h ⊢
  generalize ((readGdo S k).run w).world = w' at h
  cases h with
  | unselected | unsuitable => exact .cons rfl .nil
  | unread _ hi | partly _ hi | wholly _ hi =>
    have hsize := (isGdo_iff.mp hi).2.2
    refine .cons rfl (.cons (decide_eq_false ?_) .nil)
    rw [capacity]
    omega

theorem bounded_resolveSerial (application : Option String) :
    Task.Bounded (resolveSerial S k application) := by
  intro w
  rw [trace_resolveSerial]
  exact bounded_readGdo w

theorem breaksOff_eq_false_iff : breaksOff S k path w = false ↔ Fits S k path w := by
  rcases hS : S.select k path w with ⟨v, w', ns⟩
  cases v with
  | error f => simp [breaksOff, Fits, Answers, hS]
  | ok info =>
    simp only [breaksOff, Fits, Answers, hS, Bool.and_eq_false_imp, decide_eq_false_iff_not,
      Nat.not_lt, FileInfo.isTransparentWorking_iff]
    constructor
    · rintro h _ _ ⟨⟨⟩, -⟩ htype hstructure
      exact h ⟨htype, hstructure⟩
    · rintro h ⟨htype, hstructure⟩
      exact h info w' ⟨rfl, rfl⟩ htype hstructure

/-- The first read of a file that is to be read asks for all of it, and no other for more. -/
theorem Loop.bounded_iff {size : Nat} {ps : List Octets} {e : LoopEnd} {w' : ω}
    (h : Loop S k size 0 w ps e w') (hsize : 0 < size) :
    Bounded (reads size 0 ps e) ↔ size ≤ capacity := by
  constructor
  · intro hbounded
    have hfirst : ∃ f, (.read 0 size, f) ∈ reads size 0 ps e := by
      cases h with
      | full h => exact absurd hsize (Nat.not_lt.mpr h)
      | empty | fault | piece => exact ⟨_, List.mem_cons_self⟩
    obtain ⟨f, hf⟩ := hfirst
    exact Nat.not_lt.mp (of_decide_eq_false (hbounded _ hf))
  · rintro hfits ⟨c, f⟩ hm
    obtain ⟨n, hn⟩ := List.mem_iff_getElem?.mp hm
    obtain ⟨-, rfl⟩ := h.orderly.placed n c f hn
    refine decide_eq_false ?_
    omega

/-- Reading a file asks for more than a buffer holds just where it would break off. -/
theorem bounded_read_iff :
    Bounded (trace ((read S k path).run w).entries) ↔ breaksOff S k path w = false := by
  rw [breaksOff_eq_false_iff]
  have h := fileReading_read S k path w
  generalize ((read S k path).run w).value = v at h
  generalize trace ((read S k path).run w).entries = t at h ⊢
  generalize ((read S k path).run w).world = w' at h
  cases h with
  | unselected hs =>
    refine iff_of_true (.cons rfl .nil) fun info w'' hs' => ?_
    cases (hs.unique hs').1
  | unsuitable hs hi =>
    refine iff_of_true (.cons rfl .nil) fun info w'' hs' htype hstructure => ?_
    obtain ⟨⟨⟩, -⟩ := hs.unique hs'
    rcases hi with hi | hi | hi
    · exact absurd htype hi
    · exact absurd hstructure hi
    · exact hi ▸ Nat.zero_le _
  | fragmented hs htype hstructure hsize hl =>
    rw [Bounded.cons_iff rfl, hl.bounded_iff hsize]
    constructor
    · intro hfits info' w'' hs' _ _
      obtain ⟨⟨⟩, -⟩ := hs.unique hs'
      exact hfits
    · exact fun h => h _ _ hs htype hstructure

/-- There is no answer just where reading breaks off. -/
theorem value_readBuffered_eq_none_iff :
    (readBuffered S k path w).value = none ↔ breaksOff S k path w = true := by
  by_cases hfits : Fits S k path w
  · rw [readBuffered_of_fits hfits, breaksOff_eq_false_iff.mpr hfits]
    exact iff_of_false (Option.some_ne_none _) Bool.false_ne_true
  · obtain ⟨info, w', hs, htype, hstructure, hlarge⟩ := exists_of_not_fits hfits
    refine iff_of_true (readBuffered_of_brokenOff hs htype hstructure hlarge).1 ?_
    rwa [← Bool.not_eq_false, breaksOff_eq_false_iff]

end WholeFile

namespace Dinsig

variable {w : ω}

theorem bounded_certificate_iff :
    Bounded (trace ((certificate S k).run w).entries) ↔
      WholeFile.breaksOff S k certPath w = false := by
  rw [run_certificate.2, WholeFile.bounded_read_iff]

theorem bounded_keypair_zero_iff {parser : CertificateParser} :
    Bounded (trace ((keypair S parser k 0).run w).entries) ↔
      WholeFile.breaksOff S k certPath w = false := by
  rw [keypair, if_pos rfl, Task.trace_bind_of_quiet, bounded_certificate_iff]
  intro c w
  rw [Task.trace_bind_of_quiet fun _ _ => rfl, Task.trace_keygripOr]

end Dinsig

end

/-! ## Operations -/

namespace Session

variable {S : Stack ω ε Context Connection Application}
  (s : Session Context Connection Application)

theorem bounded_bind (w : ω) : Bounded (trace (s.bind S w).entries) := by
  cases hb : s.backend with
  | some b =>
    rw [bind_of_bound s hb]
    exact .nil
  | none =>
    obtain ⟨ls, he⟩ := bind_of_unbound (S := S) s hb w
    rw [he]
    simpa using Bounded.nil.cons rfl

theorem bounded_of_bound {b : Backend Application} (hb : s.backend = some b) {op : Operation}
    (hop : op.binds = true) (w : ω) : Bounded (trace (s.perform S op w).entries) := by
  cases op with
  | bind =>
    rw [perform_bind_of_bound s hb]
    exact .nil
  | serial =>
    cases hs : s.serial with
    | some text =>
      rw [perform_serial_of_kept s hb hs]
      exact .nil
    | none =>
      rw [perform_serial_of_bound s hb hs]
      exact WholeFile.bounded_resolveSerial _ w
  | keypair | certificate | sign | decipher => cases hop

theorem bounded_of_binds {op : Operation} (hop : op.binds = true) (w : ω) :
    Bounded (trace (s.perform S op w).entries) := by
  rw [perform_of_binds s hop]
  dsimp only
  rw [trace_append]
  exact (bounded_bind s w).append (bounded_of_bound _ rfl hop _)

theorem Forwards.bounded {a : Application} {op : Operation} {t : Task ω ε Answer}
    (h : Forwards S s (.pkcs15 a) op t) : Task.Bounded t := by
  cases h with
  | keypair index => exact (Pkcs15.bounded_keypair _ index).map _
  | certificate id => exact (Pkcs15.bounded_readCertificate id).map _
  | sign keyId hash ask digest => exact (Pkcs15.bounded_sign keyId hash ask digest).map _
  | decipher keyId ask data => exact (Pkcs15.bounded_decipher keyId ask data).map _

/-- What the backend without an application directory is left with reads its file or nothing. -/
theorem Forwards.bounded_dinsig_iff {op : Operation} {t : Task ω ε Answer}
    (h : Forwards S s .dinsig op t) (w : ω) :
    Bounded (trace (t.run w).entries) ↔
      (op.readsFile && WholeFile.breaksOff S s.connection Dinsig.certPath w) = false := by
  cases h with
  | keypair index =>
    rw [Task.run_map, Operation.readsFile]
    by_cases hindex : index = 0
    · subst hindex
      exact Dinsig.bounded_keypair_zero_iff
    · rw [Backend.keypair, Dinsig.keypair, if_neg hindex, decide_eq_false (by omega)]
      exact iff_of_true .nil rfl
  | certificate id =>
    rw [Task.run_map, Operation.readsFile]
    by_cases hid : id = Dinsig.certId
    · subst hid
      exact Dinsig.bounded_certificate_iff
    · rw [Backend.readCertificate, Dinsig.readCertificate, if_neg hid, decide_eq_false hid]
      exact iff_of_true .nil rfl
  | sign | decipher => exact iff_of_true .nil rfl

theorem refusal?_of_readsFile (hb : s.backend = some .dinsig) {op : Operation}
    (hop : op.readsFile = true) : s.refusal? op = none := by
  rw [refusal?, hb]
  cases op with
  | bind | serial | sign | decipher => cases hop
  | keypair index => rw [of_decide_eq_true hop]; rfl
  | certificate => rfl

theorem breaksOff_of_refusal {op : Operation} {f : Failure} (h : s.refusal? op = some f) (w : ω) :
    s.breaksOff S op w = false := by
  rw [breaksOff]
  split
  next hb =>
    cases hop : op.readsFile with
    | true => cases h.symm.trans (refusal?_of_readsFile s hb hop)
    | false => rfl
  next => rfl

/-- An operation asks for more than a buffer holds just where it is said to break off. -/
theorem bounded_perform_iff (op : Operation) (w : ω) :
    Bounded (trace (s.perform S op w).entries) ↔ s.breaksOff S op w = false := by
  cases hop : op.binds with
  | true =>
    refine iff_of_true (bounded_of_binds s hop w) ?_
    rw [breaksOff]
    cases op with
    | bind | serial => split <;> rfl
    | keypair | certificate | sign | decipher => cases hop
  | false =>
    cases hrefusal : s.refusal? op with
    | some f =>
      obtain ⟨ls, he⟩ := s.perform_of_refusal (S := S) hop hrefusal w
      rw [he, trace_logs]
      exact iff_of_true .nil (breaksOff_of_refusal s hrefusal w)
    | none =>
      obtain ⟨b, t, hb, -, hforwards, hperform⟩ := s.perform_of_passed (S := S) hop hrefusal
      obtain ⟨ls, he⟩ := hperform w
      rw [he, trace_append, trace_logs, List.append_nil, breaksOff, hb]
      cases b with
      | pkcs15 a => exact iff_of_true (hforwards.bounded s w) rfl
      | dinsig => exact hforwards.bounded_dinsig_iff s w

theorem bounded_start (parser : CertificateParser) (o : Options) :
    Task.Bounded (start S parser o : Task ω ε (Session Context Connection Application)) := by
  intro w
  obtain ⟨v, hopen, -⟩ := start_opening S parser o w
  generalize trace ((start S parser o).run w).entries = t at hopen ⊢
  generalize ((start S parser o).run w).world = w' at hopen
  cases hopen with
  | noContext => exact .cons rfl .nil
  | noReader => exact .cons rfl (.cons rfl .nil)
  | noCard => exact .cons rfl (.cons rfl (.cons rfl .nil))
  | noConnection | opened => exact .cons rfl (.cons rfl (.cons rfl (.cons rfl .nil)))
  | noLock =>
    exact .cons rfl (.cons rfl (.cons rfl (.cons rfl (.cons rfl (.cons rfl .nil)))))

theorem bounded_close (w : ω) : Bounded (trace (s.close S w).entries) := by
  rw [trace_close]
  rcases s.backend with _ | _ | _
  · exact .cons rfl (.cons rfl (.cons rfl .nil))
  · exact .cons rfl (.cons rfl (.cons rfl (.cons rfl .nil)))
  · exact .cons rfl (.cons rfl (.cons rfl .nil))

end Session

/-! ## Steps in slots -/

namespace Desk

variable {S : Stack ω ε Context Connection Application}
  {d : Desk Context Connection Application} {parser : CertificateParser} {w : ω}

theorem bounded_clear (slot : Nat) (w : ω) : Bounded (trace (clear S slot d w).entries) := by
  rw [clear]
  cases d.session? slot with
  | some s => simpa using s.bounded_close w
  | none => exact .nil

theorem bounded_closeAll (w : ω) : Bounded (trace (closeAll S d w).entries) := by
  induction d generalizing w with
  | nil => exact .nil
  | cons e d ih => simpa [closeAll] using (e.2.bounded_close w).append (ih _)

/-- A step asks for more than a buffer holds just where it is said to break off. -/
theorem bounded_step_iff (slot : Nat) (st : Step ω) :
    Bounded (trace (step S parser d slot st w).entries) ↔ breaksOff S d slot w st = false := by
  cases st with
  | start o =>
    refine iff_of_true ?_ rfl
    rw [step, Action.bind_apply, trace_append, Action.bind_apply, trace_append]
    have hstart := Session.bounded_start (S := S) parser o (clear S slot d w).world
    refine (bounded_clear slot w).append (hstart.append ?_)
    cases ((Session.start S parser o).run (clear S slot d w).world).value <;> exact .nil
  | close =>
    refine iff_of_true ?_ rfl
    rw [step]
    cases d.session? slot with
    | some s => simpa using bounded_clear (d := d) slot w
    | none => exact .nil
  | reader =>
    refine iff_of_true ?_ rfl
    rw [step]
    cases d.session? slot <;> exact .nil
  | perform op =>
    rw [step, breaksOff]
    cases d.session? slot with
    | none => exact iff_of_true .nil rfl
    | some s => simpa using s.bounded_perform_iff op w
  | outside => exact iff_of_true .nil rfl

/-- Nothing in a report, or in the closing after the last one, asks for more than a buffer holds. -/
theorem bounded_of_play {steps : List (Nat × Step ω)}
    {reports : List (Report ε Context Connection Application)} {final : List (Entry ε)}
    (h : play S parser d w steps = some (reports, final)) :
    (∀ r ∈ reports, Bounded (trace r.entries)) ∧ Bounded (trace final) := by
  induction steps generalizing d w reports with
  | nil =>
    cases h
    exact ⟨List.forall_mem_nil _, bounded_closeAll w⟩
  | cons p steps ih =>
    obtain ⟨slot, st⟩ := p
    rw [play] at h
    split at h
    next => cases h
    next hgoes =>
      obtain ⟨⟨reports', final'⟩, hplay, heq⟩ := Option.map_eq_some_iff.mp h
      cases heq
      have hstep : Bounded (trace (step S parser d slot st w).entries) :=
        (bounded_step_iff slot st).mpr (Bool.eq_false_iff.mpr hgoes)
      obtain ⟨hreports, hfinal⟩ := ih hplay
      exact ⟨List.forall_mem_cons.mpr ⟨hstep, hreports⟩, hfinal⟩

end Desk

end

end SmartCard
