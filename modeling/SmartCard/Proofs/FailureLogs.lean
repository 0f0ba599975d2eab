import SmartCard.Proofs.SerialKept

/-!
# What the log says about failures

An operation that fails says so in the log before it returns, and names what it could not do.
Opening a session is as outspoken about every call that fails but one: where no card is detected it
only gives back the context, and all lines are the driver's.
-/
namespace SmartCard

section
variable {ω ε Context Connection Application α β : Type}

/-- The log lines of a journal, the driver's among them. -/
def logs (es : List (Entry ε)) : List Log := es.filterMap Entry.log?

@[simp] theorem logs_call (c : Call) (f : Option Fault) (es : List (Entry ε)) :
    logs (.call c f :: es) = logs es := rfl

@[simp] theorem logs_prompt (text : String) (f : Option Failure) (es : List (Entry ε)) :
    logs (.prompt text f :: es) = logs es := rfl

@[simp] theorem logs_append (es es' : List (Entry ε)) : logs (es ++ es') = logs es ++ logs es' :=
  List.filterMap_append

@[simp] theorem logs_ofLogs (ls : List Log) : logs (ls.map .ofLog : List (Entry ε)) = ls := by
  induction ls with
  | nil => rfl
  | cons l ls ih => exact congrArg (List.cons l) ih

theorem mem_logs {es : List (Entry ε)} {l : Log} (h : .ofLog l ∈ es) : l ∈ logs es :=
  List.mem_filterMap.mpr ⟨_, h, rfl⟩

theorem getLast?_logs {es : List (Entry ε)} {l : Log} (h : es.getLast? = some (.ofLog l)) :
    (logs es).getLast? = some l := by
  obtain ⟨front, rfl⟩ := List.getLast?_eq_some_iff.mp h
  rw [logs, List.filterMap_append]
  exact List.getLast?_concat

theorem eq_error_of_map {g : α → β} {r : Except Failure α} {f : Failure}
    (h : r.map g = .error f) : r = .error f := by
  cases r with
  | ok a => cases h
  | error f' => exact congrArg _ (Except.error.inj h)

/-- The words of a fault behind a text. -/
def Fault.behind (text : String) (f : Fault) : String := s!"{text}: {f.message}"

/-! ## Opening -/

/-- What is said about opening a session that fails with this trace. -/
inductive OpeningComplaint (o : Options) : Failure → Trace → String → Prop
  | noContext (f : Fault) :
      OpeningComplaint o (.ofFault f) [(o.establish, some f)]
        (f.behind "failed to establish SC context")
  | noReader :
      OpeningComplaint o .cardError [(o.establish, none), (.release, none)]
        "no card reader available"
  | noConnection (f : Fault) :
      OpeningComplaint o (.ofFault f)
        [(o.establish, none), (.detect o.reader, none), (.connect o.reader, some f),
          (.release, none)]
        (f.behind s!"failed to connect card in reader {o.reader}")
  | noLock (f : Fault) :
      OpeningComplaint o (.ofFault f)
        [(o.establish, none), (.detect o.reader, none), (.connect o.reader, none),
          (.lock, some f), (.disconnect, none), (.release, none)]
        s!"can't lock card in reader {o.reader}: {f.message}"

/-- No card is detected in the reader, and the journal holds three calls with what the driver notes
about them. -/
inductive Undetected (S : Stack ω ε Context Connection Application) (o : Options) (w : ω) :
    List (Entry ε) → Prop
  | undetected {c : Context} {v : Except Fault Bool} {w' w'' : ω}
      (he : Answers (S.establish o.appName o.debugTransport) w (.ok c) w')
      (hr : o.reader < S.readerCount w' c) (hd : Answers (S.detect c o.reader) w' v w'')
      (hv : v ≠ .ok true) :
      Undetected S o w
        ((o.establish.make (S.establish o.appName o.debugTransport) w).entries ++
          ((Call.detect o.reader).make (S.detect c o.reader) w').entries ++
          (Call.release.makeSure (S.release c) w'').entries)

namespace Session

section
variable (S : Stack ω ε Context Connection Application) {parser : CertificateParser} {o : Options}
  {f : Failure}

attribute [local simp] Task.run_bind Task.run_call Task.run_recover Task.run_require Task.callOr
  Call.make Call.makeSure Except.map Options.establish Fault.behind faultOf

theorem complaint_of_start {w : ω} (h : ((start S parser o).run w).value = .error f) :
    (∃ text, OpeningComplaint o f (trace ((start S parser o).run w).entries) text ∧
      .ofLog ⟨.error, text⟩ ∈ ((start S parser o).run w).entries) ∨
    f = .cardNotPresent ∧ Undetected S o w ((start S parser o).run w).entries := by
  obtain ⟨v, hopening, hv⟩ := start_opening S parser o w
  obtain rfl : v = .error f := eq_error_of_map (hv.symm.trans h)
  generalize trace ((start S parser o).run w).entries = t at hopening ⊢
  generalize ((start S parser o).run w).world = w₀ at hopening
  cases hopening with
  | noContext he => exact .inl ⟨_, .noContext _, by simp [start, he.1]⟩
  | noReader he hr => exact .inl ⟨_, .noReader, by
      simp [start, connect, he.1, he.2, Nat.not_lt.mpr hr]⟩
  | @noCard w' w'' c present he hr hd hpresent =>
    have hquiet := Undetected.undetected he hr hd hpresent
    refine .inr ⟨rfl, ?_⟩
    cases present with
    | error f => simpa [start, connect, he.1, he.2, hr, hd.1, hd.2] using hquiet
    | ok present =>
      cases present with
      | true => exact absurd rfl hpresent
      | false => simpa [start, connect, he.1, he.2, hr, hd.1, hd.2] using hquiet
  | noConnection he hr hd hc =>
    exact .inl ⟨_, .noConnection _, by
      simp [start, connect, he.1, he.2, hr, hd.1, hd.2, hc.1, hc.2]⟩
  | noLock he hr hd hc hl =>
    exact .inl ⟨_, .noLock _, by
      simp [start, connect, lockCard, he.1, he.2, hr, hd.1, hd.2, hc.1, hc.2, hl.1, hl.2]⟩

end

end Session

/-! ## The serial number -/

/-- What is said about a GDO file without a serial number, with the trace of reading it. -/
inductive GdoComplaint : Trace → String → Prop
  | unselected (f : Fault) :
      GdoComplaint [(.select WholeFile.gdoPath, some f)]
        (f.behind "select of the GDO file failed")
  | wrongKind :
      GdoComplaint [(.select WholeFile.gdoPath, none)] "wrong type or structure of GDO file"
  | wrongSize (size : Nat) (hsize : size = 0 ∨ WholeFile.gdoLimit ≤ size) :
      GdoComplaint [(.select WholeFile.gdoPath, none)] s!"unsupported size of GDO file ({size})"
  | unread (size : Nat) (f : Fault) :
      GdoComplaint [(.select WholeFile.gdoPath, none), (.read 0 size, some f)]
        (f.behind "error reading GDO file")
  | partly (size : Nat) :
      GdoComplaint [(.select WholeFile.gdoPath, none), (.read 0 size, none)]
        "short read on GDO file"
  | malformed (size : Nat) :
      GdoComplaint [(.select WholeFile.gdoPath, none), (.read 0 size, none)]
        "invalid structure of GDO file"

namespace WholeFile

variable {S : Stack ω ε Context Connection Application} {k : Connection} {w : ω} {f : Failure}

attribute [local simp] Task.run_bind Task.run_call Task.run_require Task.callOr Fault.behind
  faultOf List.getLast?_cons

theorem complaint_of_readGdo (h : ((readGdo S k).run w).value = .error f) :
    ∃ text, GdoComplaint (trace ((readGdo S k).run w).entries) text ∧
      ((readGdo S k).run w).entries.getLast? = some (.ofLog ⟨.error, text⟩) := by
  have hreading := readGdo_reading S k w
  rw [h] at hreading
  generalize trace ((readGdo S k).run w).entries = t at hreading ⊢
  generalize ((readGdo S k).run w).world = w₀ at hreading
  cases hreading with
  | unselected hs => exact ⟨_, .unselected _, by simp [readGdo, hs.1]⟩
  | @unsuitable info _ hs hi =>
    cases hkind : info.isTransparentWorking with
    | false => exact ⟨_, .wrongKind, by simp [readGdo, hs.1, hkind]⟩
    | true =>
      have hsize : ¬(info.size ≠ 0 ∧ info.size < gdoLimit) := by simpa [isGdo, hkind] using hi
      exact ⟨_, .wrongSize info.size (by omega), by
        simp [readGdo, hs.1, hkind, if_neg hsize]⟩
  | unread hs hi hr =>
    obtain ⟨hkind, hsize⟩ := by simpa [isGdo] using hi
    exact ⟨_, .unread _ _, by simp [readGdo, hs.1, hs.2, hkind, hsize, hr.1]⟩
  | partly hs hi hr hl =>
    obtain ⟨hkind, hsize⟩ := by simpa [isGdo] using hi
    exact ⟨_, .partly _, by simp [readGdo, hs.1, hs.2, hkind, hsize, hr.1, hl]⟩

theorem complaint_of_resolveSerial {application : Option String}
    (h : ((resolveSerial S k application).run w).value = .error f) :
    ∃ text, GdoComplaint (trace ((resolveSerial S k application).run w).entries) text ∧
      ((resolveSerial S k application).run w).entries.getLast? =
        some (.ofLog ⟨.error, text⟩) := by
  rw [trace_resolveSerial]
  have hreading := readGdo_reading S k w
  simp only [resolveSerial, Task.run_bind] at h ⊢
  cases hread : ((readGdo S k).run w).value with
  | error f' => exact complaint_of_readGdo hread
  | ok gdo =>
    rw [hread] at hreading h
    generalize trace ((readGdo S k).run w).entries = t at hreading ⊢
    cases hreading with
    | wholly hs hi hr hl =>
      cases hfound : Serial.findIccsn gdo with
      | ok i => simp [hfound, Except.map] at h
      | error f' => exact ⟨_, .malformed _, by simp [hfound]⟩

end WholeFile

/-! ## Operations of the backend -/

/-- The name under which the result of an operation is logged, if it is. -/
def Operation.reportName? : Operation → Option String
  | keypair _ => some "enum_keypairs"
  | certificate _ => some "read_cert"
  | sign .. => some "sign"
  | decipher .. => some "decipher"
  | bind | serial => none

namespace Session

variable {S : Stack ω ε Context Connection Application}
  {s : Session Context Connection Application} {w : ω} {f : Failure}

theorem resultLogs_map (verbose : Bool) (operation : String) (g : α → β)
    (r : Except Failure α) :
    resultLogs verbose operation (r.map g) = resultLogs verbose operation r := by
  cases r <;> rfl

/-- The result that an operation answers is the one that it reports at its end. -/
theorem perform_reported {op : Operation} {name : String} (hname : op.reportName? = some name)
    (w : ω) : ∃ es, (s.perform S op w).entries =
      es ++ (resultLogs s.options.verbose name (s.perform S op w).value.1).map .ofLog := by
  cases op with
  | bind | serial => cases hname
  | keypair | certificate | sign | decipher =>
    cases hname
    simp only [perform, Action.bind_apply, Action.pure_apply, List.append_nil, resultLogs_map]
    exact ⟨_, congrArg Outcome.entries (run_reported s _ _ w)⟩

theorem complaint_of_serial (h : (s.perform S .serial w).value.1 = .error f) :
    ∃ t text, trace (s.perform S .serial w).entries = trace (s.bind S w).entries ++ t ∧
      GdoComplaint t text ∧
      (s.perform S .serial w).entries.getLast? = some (.ofLog ⟨.error, text⟩) := by
  have hs : s.serial = none := serial_eq_none_of_error h
  rw [perform_of_binds s rfl, perform_serial_of_bound (s.withBackend _) rfl hs] at h ⊢
  dsimp only at h ⊢
  obtain ⟨text, htext, hlast⟩ := WholeFile.complaint_of_resolveSerial (eq_error_of_map h)
  refine ⟨_, text, trace_append _ _, htext, ?_⟩
  rw [List.getLast?_append]
  exact congrArg (Option.or · _) hlast

/-! ## The main result -/

/-- Whatever the driver answers: opening a session says in the log what failed, unless no card is
detected; then it says nothing of its own. Where the serial number is not found, the last line is an
error about the GDO file. Any other operation that fails reports that in its last line, on verbose
sessions as an information. -/
theorem failure_logged (S : Stack ω ε Context Connection Application) :
    (∀ (parser : CertificateParser) (o : Options) (w : ω) (f : Failure),
      let p := (start S parser o).run w
      p.value = .error f →
        (∃ text, OpeningComplaint o f (trace p.entries) text ∧ ⟨.error, text⟩ ∈ logs p.entries) ∨
        f = .cardNotPresent ∧ Undetected S o w p.entries) ∧
    (∀ (s : Session Context Connection Application) (w : ω) (f : Failure),
      let p := s.perform S .serial w
      p.value.1 = .error f →
        ∃ t text, trace p.entries = trace (s.bind S w).entries ++ t ∧ GdoComplaint t text ∧
          (logs p.entries).getLast? = some ⟨.error, text⟩) ∧
    ∀ (s : Session Context Connection Application) (op : Operation) (name : String) (w : ω)
      (f : Failure),
      let p := s.perform S op w
      op.reportName? = some name → p.value.1 = .error f →
        (logs p.entries).getLast? = some ⟨if s.options.verbose then .info else .debug,
          s!"card operation {name} result: {f.message}"⟩ := by
  refine ⟨?_, ?_, ?_⟩
  · intro parser o w f p h
    obtain ⟨text, htext, hmem⟩ | hquiet := complaint_of_start S h
    · exact .inl ⟨text, htext, mem_logs hmem⟩
    · exact .inr hquiet
  · intro s w f p h
    obtain ⟨t, text, htrace, htext, hlast⟩ := complaint_of_serial h
    exact ⟨t, text, htrace, htext, getLast?_logs hlast⟩
  · intro s op name w f p hname h
    obtain ⟨es, he⟩ := perform_reported (S := S) (s := s) hname w
    refine getLast?_logs ?_
    simp only [p] at h ⊢
    rw [he, h]
    cases hverbose : s.options.verbose <;> simp [resultLogs, failureOf, Failure.outcome]

end Session

end

namespace Simulator

/-- A session without a reader, a card without a GDO file and a session without a backend: each
fails, and its log says how. -/
theorem failure_logged_bare :
    let w := World.ofCards [some bare] none
    let o := (Session.start stack parser {}).run (World.ofCards [] none)
    let p := unbound.perform stack .serial w
    let q := unbound.perform stack (.certificate "DINSIG-DF01.C000") w
    o.value = .error .cardError ∧ p.value.1 = .error .cardError ∧
      q.value.1 = .error .notInitialized ∧
      (∃ text, OpeningComplaint {} .cardError (trace o.entries) text ∧
        ⟨.error, text⟩ ∈ logs o.entries) ∧
      (∃ t text, trace p.entries = trace (unbound.bind stack w).entries ++ t ∧
        GdoComplaint t text ∧ (logs p.entries).getLast? = some ⟨.error, text⟩) ∧
      (logs q.entries).getLast? =
        some ⟨.debug, "card operation read_cert result: Card not initialized"⟩ := by
  intro w o p q
  have ho : o.value = .error .cardError := rfl
  have hp : p.value.1 = .error .cardError := by decide +kernel
  have hq : q.value.1 = .error .notInitialized := by decide +kernel
  obtain ⟨hopen, hserial, hoperation⟩ := Session.failure_logged stack
  refine ⟨ho, hp, hq, ?_, hserial unbound w _ hp,
    hoperation unbound (.certificate "DINSIG-DF01.C000") "read_cert" w _ rfl hq⟩
  exact (hopen parser {} (World.ofCards [] none) _ ho).resolve_right nofun

/-- No line is written when the reader is there and holds no card. -/
theorem vacant_reader_unlogged :
    let p := (Session.start stack parser {}).run (World.ofCards [none] none)
    failureOf p.value = some .cardNotPresent ∧ logs p.entries = [] := by
  decide +kernel

end Simulator

end SmartCard
