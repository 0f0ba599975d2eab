import SmartCard.Operation

/-!
# Work on the card

Between opening and closing, a session binds a backend at most once and then makes the calls of
that backend and the reads of files. Every operation and every sequence of operations is such work,
whatever the driver answers, so what each of its steps keeps is kept by all of them.
-/
namespace SmartCard

variable {ω ε Context Connection Application α β : Type}

/-- The calls that a session makes on its connection once the backend is bound. -/
inductive CardCall (S : Stack ω ε Context Connection Application) (k : Connection) :
    Backend Application → {α : Type} → Call → Reply ω ε α → Prop
  | select (b : Backend Application) (path : Path) :
      CardCall S k b (.select path) (S.select k path)
  | read (b : Backend Application) (offset length : Nat) :
      CardCall S k b (.read offset length) (S.read k offset length)
  | privateKeys (a : Application) : CardCall S k (.pkcs15 a) .privateKeys (S.privateKeys a)
  | certificate (a : Application) (id : Octets) :
      CardCall S k (.pkcs15 a) (.certificate id) (S.certificate a id)
  | pinLabel (a : Application) (id : Octets) :
      CardCall S k (.pkcs15 a) (.pinLabel id) (S.pinLabel a id)
  | verifyPin (a : Application) (id : Octets) (pin : String) :
      CardCall S k (.pkcs15 a) (.verifyPin id pin) (S.verifyPin a id pin)
  | sign (a : Application) (id : Octets) (hash : HashAlgorithm) (digest : Octets) :
      CardCall S k (.pkcs15 a) (.sign id hash digest) (S.sign a id hash digest)
  | decipher (a : Application) (id data : Octets) :
      CardCall S k (.pkcs15 a) (.decipher id data) (S.decipher a id data)

/-- The backend that the answer to a bind call leads to. -/
def Backend.ofAnswer : Except Fault Application → Backend Application
  | .ok a => pkcs15 a
  | .error _ => dinsig

/-- Work from one bound backend and world to another, with what it writes down. -/
inductive Work (S : Stack ω ε Context Connection Application) (k : Connection) :
    Option (Backend Application) → ω → List (Entry ε) → Option (Backend Application) → ω → Prop
  | done (b : Option (Backend Application)) (w : ω) : Work S k b w [] b w
  | quiet {b b' : Option (Backend Application)} {w w' : ω} {e : Entry ε} {es : List (Entry ε)}
      (he : e.call? = none) (rest : Work S k b w es b' w') : Work S k b w (e :: es) b' w'
  | call {b : Backend Application} {b' : Option (Backend Application)} {w w' : ω} {α : Type}
      {c : Call} {r : Reply ω ε α} {es : List (Entry ε)} (hc : CardCall S k b c r)
      (rest : Work S k (some b) (r w).world es b' w') :
      Work S k (some b) w (.call c (faultOf (r w).value) :: ((r w).entries.map .note ++ es)) b' w'
  | bind {b' : Option (Backend Application)} {w w' : ω} {es : List (Entry ε)}
      (rest : Work S k (some (.ofAnswer (S.bind k w).value)) (S.bind k w).world es b' w') :
      Work S k none w
        (.call .bind (faultOf (S.bind k w).value) :: ((S.bind k w).entries.map .note ++ es)) b' w'

section
variable {S : Stack ω ε Context Connection Application} {k : Connection}

theorem Work.append {b b' b'' : Option (Backend Application)} {w w' w'' : ω}
    {es es' : List (Entry ε)} (h : Work S k b w es b' w') (h' : Work S k b' w' es' b'' w'') :
    Work S k b w (es ++ es') b'' w'' := by
  induction h with
  | done => exact h'
  | quiet he _ ih => exact .quiet he (ih h')
  | call hc _ ih => simpa using Work.call hc (ih h')
  | bind _ ih => simpa using Work.bind (ih h')

/-- Lines of the log, prompts and the driver's notes are no steps of their own. -/
theorem Work.ofQuiet (b : Option (Backend Application)) (w : ω) {es : List (Entry ε)}
    (h : ∀ e ∈ es, e.call? = none) : Work S k b w es b w := by
  induction es with
  | nil => exact .done b w
  | cons e es ih =>
    exact .quiet (h e List.mem_cons_self) (ih fun x hx => h x (List.mem_cons_of_mem e hx))

theorem Work.ofLogs (b : Option (Backend Application)) (w : ω) (ls : List Log) :
    Work S k b w (ls.map .ofLog) b w := by
  apply Work.ofQuiet
  intro e he
  obtain ⟨l, -, rfl⟩ := List.mem_map.mp he
  rfl

end

/-! ## Pieces of work -/

/-- The piece of work leaves the backend alone and makes only calls of it. -/
def Task.Works (S : Stack ω ε Context Connection Application) (k : Connection)
    (b : Option (Backend Application)) (t : Task ω ε α) : Prop :=
  ∀ w, Work S k b w (t.run w).entries b (t.run w).world

namespace Task.Works

variable {S : Stack ω ε Context Connection Application} {k : Connection}
  {b : Option (Backend Application)}

theorem pure (a : α) : Works S k b (pure a : Task ω ε α) := fun w => .done b w

theorem throw (f : Failure) : Works S k b (throw f : Task ω ε α) := fun w => .done b w

theorem ofExcept (r : Except Failure α) : Works S k b (liftM r : Task ω ε α) :=
  fun w => .done b w

theorem bind {t : Task ω ε α} {g : α → Task ω ε β} (ht : Works S k b t)
    (hg : ∀ a, Works S k b (g a)) : Works S k b (t >>= g) := by
  intro w
  rw [Task.run_bind]
  cases hv : (t.run w).value with
  | ok a => exact (ht w).append (hg a _)
  | error f => exact ht w

theorem recover {t : Task ω ε α} {g : Failure → Task ω ε α} (ht : Works S k b t)
    (hg : ∀ f, Works S k b (g f)) : Works S k b (recover t g) := by
  intro w
  rw [Task.run_recover]
  cases hv : (t.run w).value with
  | ok a => exact ht w
  | error f => exact (ht w).append (hg f _)

theorem logAll (ls : List Log) : Works S k b (logAll ls : Task ω ε Unit) := by
  intro w
  rw [Task.run_logAll]
  exact .ofLogs b w ls

theorem log (level : Level) (text : String) : Works S k b (log level text : Task ω ε Unit) :=
  fun w => .ofLogs b w [⟨level, text⟩]

theorem refuse (text : String) (f : Failure) : Works S k b (refuse text f : Task ω ε α) :=
  fun w => .ofLogs b w [⟨.error, text⟩]

theorem require (condition : Bool) {t : Task ω ε Unit} (ht : Works S k b t) :
    Works S k b (require condition t) := by
  cases condition with
  | true => exact .pure ()
  | false => exact ht

theorem prompt (ask : PinCallback) (text : String) : Works S k b (prompt ask text : Task ω ε _) :=
  fun w => .quiet rfl (.done b w)

theorem keygripOr (text : String) (parser : CertificateParser) (certificate : Octets) :
    Works S k b (keygripOr text parser certificate : Task ω ε _) := by
  apply bind
  · exact fun w => .quiet rfl (.done b w)
  · intro _
    cases parser.keygrip certificate with
    | ok g => exact .pure g
    | error f => exact .refuse text f

end Task.Works

section
variable {S : Stack ω ε Context Connection Application} {k : Connection}
  {b : Backend Application}

theorem Task.Works.call {c : Call} {r : Reply ω ε α} {g : Fault → Task ω ε α}
    (hc : CardCall S k b c r) (hg : ∀ f, Works S k (some b) (g f)) :
    Works S k (some b) (Task.call c r g) := by
  intro w
  rw [Task.run_call]
  cases hv : (r w).value with
  | ok a =>
    have h := Work.call hc (w := w) (.done (some b) _)
    simpa [hv, faultOf] using h
  | error f =>
    have h := Work.call hc (w := w) (hg f _)
    simpa [hv, faultOf] using h

theorem Task.Works.callThrough {c : Call} {r : Reply ω ε α} (hc : CardCall S k b c r) :
    Works S k (some b) (Task.callThrough c r) := .call hc fun f => .throw (.ofFault f)

theorem Task.Works.callOr {c : Call} {r : Reply ω ε α} (hc : CardCall S k b c r) (text : String)
    (failure : Fault → Failure) : Works S k (some b) (Task.callOr text failure c r) :=
  .call hc fun f => .refuse s!"{text}: {f.message}" (failure f)

/-! ## Files -/

theorem WholeFile.works_fragments (size reads start : Nat) :
    Task.Works S k (some b) (WholeFile.fragments S k size reads start) := by
  induction reads generalizing start with
  | zero => exact .pure []
  | succ reads ih =>
    unfold WholeFile.fragments
    split
    · exact .pure []
    · refine .bind (.callThrough (.read b _ _)) fun piece => ?_
      split
      · exact .pure []
      · exact .bind (ih _) fun _ => .pure _

theorem WholeFile.works_read (path : Path) :
    Task.Works S k (some b) (WholeFile.read S k path) := by
  refine .bind (.callThrough (.select b path)) fun file => ?_
  refine .bind (.require _ (.throw .cardError)) fun _ => ?_
  refine .bind (works_fragments file.size file.size 0) fun content => ?_
  exact .bind (.require _ (.throw .cardError)) fun _ => .pure content

theorem WholeFile.works_readGdo : Task.Works S k (some b) (WholeFile.readGdo S k) := by
  refine .bind (.callOr (.select b gdoPath) _ _) fun file => ?_
  refine .bind (.require _ (.refuse _ _)) fun _ => ?_
  refine .bind (.require _ (.refuse _ _)) fun _ => ?_
  refine .bind (.callOr (.read b 0 file.size) _ _) fun content => ?_
  exact .bind (.require _ (.refuse _ _)) fun _ => .pure content

theorem WholeFile.works_resolveSerial (application : Option String) :
    Task.Works S k (some b) (WholeFile.resolveSerial S k application) := by
  refine .bind works_readGdo fun gdo => ?_
  split
  · exact .bind (.logAll _) fun _ => .pure _
  · exact .refuse _ _

end

/-! ## Backends -/

section
variable {S : Stack ω ε Context Connection Application} {k : Connection} {a : Application}

theorem Pkcs15.works_certificate (id : Octets) :
    Task.Works S k (some (.pkcs15 a)) (Pkcs15.certificate S a id) :=
  .callOr (.certificate a id) _ _

theorem Pkcs15.works_keypair (parser : CertificateParser) (index : Nat) :
    Task.Works S k (some (.pkcs15 a)) (Pkcs15.keypair S parser a index) := by
  refine .bind (.callOr (.privateKeys a) _ _) fun keys => ?_
  split
  · exact .pure none
  · refine .bind (works_certificate _) fun c => ?_
    split
    · exact .bind (.log _ _) fun _ => .throw _
    · exact .bind (.keygripOr _ _ _) fun _ => .pure _

theorem Pkcs15.works_readCertificate (certId : String) :
    Task.Works S k (some (.pkcs15 a)) (Pkcs15.readCertificate S a certId) := by
  refine .bind (.ofExcept _) fun id => ?_
  refine .bind (works_certificate id) fun c => ?_
  split
  · exact .pure _
  · exact .refuse _ _

theorem Pkcs15.works_verifyPin (id : Octets) (ask : PinCallback) :
    Task.Works S k (some (.pkcs15 a)) (Pkcs15.verifyPin S a id ask) := by
  refine .bind (.callOr (.pinLabel a id) _ _) fun label => ?_
  refine .bind (.prompt ask _) fun pin => ?_
  exact .callOr (.verifyPin a id pin) _ _

theorem Pkcs15.works_sign (keyId : String) (hash : HashAlgorithm) (ask : PinCallback)
    (digest : Octets) :
    Task.Works S k (some (.pkcs15 a)) (Pkcs15.sign S a keyId hash ask digest) := by
  refine .bind (.ofExcept _) fun id => ?_
  refine .bind (.require _ (.throw _)) fun _ => ?_
  refine .bind (.require _ (.refuse _ _)) fun _ => ?_
  refine .bind (works_verifyPin id ask) fun _ => ?_
  exact .callOr (.sign a id hash digest) _ _

theorem Pkcs15.works_decipher (keyId : String) (ask : PinCallback) (data : Octets) :
    Task.Works S k (some (.pkcs15 a)) (Pkcs15.decipher S a keyId ask data) := by
  refine .bind (.ofExcept _) fun id => ?_
  refine .bind (works_verifyPin id ask) fun _ => ?_
  exact .callOr (.decipher a id data) _ _

end

section
variable {S : Stack ω ε Context Connection Application} {k : Connection}

theorem Dinsig.works_certificate : Task.Works S k (some .dinsig) (Dinsig.certificate S k) :=
  .recover (WholeFile.works_read _) fun f => .refuse _ f

theorem Dinsig.works_keypair (parser : CertificateParser) (index : Nat) :
    Task.Works S k (some .dinsig) (Dinsig.keypair S parser k index) := by
  rw [Dinsig.keypair]
  split
  · refine .bind works_certificate fun c => ?_
    exact .bind (.keygripOr _ _ _) fun _ => .pure _
  · exact .pure none

theorem Dinsig.works_readCertificate (id : String) :
    Task.Works S k (some .dinsig) (Dinsig.readCertificate S k id) := by
  rw [Dinsig.readCertificate]
  split
  · exact works_certificate
  · exact .throw _

namespace Backend

theorem works_keypair (b : Backend Application) (parser : CertificateParser) (index : Nat) :
    Task.Works S k (some b) (b.keypair S parser k index) := by
  cases b with
  | pkcs15 a => exact Pkcs15.works_keypair parser index
  | dinsig => exact Dinsig.works_keypair parser index

theorem works_readCertificate (b : Backend Application) (id : String) :
    Task.Works S k (some b) (b.readCertificate S k id) := by
  cases b with
  | pkcs15 a => exact Pkcs15.works_readCertificate id
  | dinsig => exact Dinsig.works_readCertificate id

theorem works_sign (b : Backend Application) (keyId : String) (hash : HashAlgorithm)
    (ask : PinCallback) (digest : Octets) :
    Task.Works S k (some b) (b.sign S keyId hash ask digest) := by
  cases b with
  | pkcs15 a => exact Pkcs15.works_sign keyId hash ask digest
  | dinsig => exact .throw _

theorem works_decipher (b : Backend Application) (keyId : String) (ask : PinCallback)
    (data : Octets) : Task.Works S k (some b) (b.decipher S keyId ask data) := by
  cases b with
  | pkcs15 a => exact Pkcs15.works_decipher keyId ask data
  | dinsig => exact .throw _

/-- Binding is one call, whose answer decides on the backend; the rest is logged. -/
theorem bind_eq (reader : Nat) (w : ω) : ∃ ls : List Log,
    Backend.bind S k reader w = ⟨.ofAnswer (S.bind k w).value, (S.bind k w).world,
      .call .bind (faultOf (S.bind k w).value) ::
        ((S.bind k w).entries.map .note ++ ls.map .ofLog)⟩ := by
  simp only [Backend.bind, Call.make, Action.bind_apply]
  cases hv : (S.bind k w).value with
  | ok a => exact ⟨[], by simp [ofAnswer]⟩
  | error f => exact ⟨bindLogs reader f, by simp [ofAnswer]⟩

theorem work_bind (reader : Nat) (w : ω) :
    Work S k none w (Backend.bind S k reader w).entries (some (Backend.bind S k reader w).value)
      (Backend.bind S k reader w).world := by
  obtain ⟨ls, he⟩ := bind_eq (S := S) (k := k) reader w
  rw [he]
  exact .bind (.ofLogs _ _ ls)

end Backend

end

/-! ## Operations of a session -/

namespace Session

variable {S : Stack ω ε Context Connection Application}
  (s : Session Context Connection Application)

theorem works_reported {b : Option (Backend Application)} {t : Task ω ε α} (operation : String)
    (ht : Task.Works S s.connection b t) :
    Task.Works S s.connection b (s.reported operation t) := by
  intro w
  rw [run_reported]
  exact (ht w).append (.ofLogs b _ _)

theorem works_arguments (b : Option (Backend Application)) (ask : Option PinCallback)
    (data : Octets) : Task.Works S s.connection b (arguments ask data : Task ω ε PinCallback) := by
  unfold arguments
  split
  · split
    · exact .throw _
    · exact .pure _
  · exact .throw _

/-- What is left to the bound backend works if it works for each backend. -/
theorem works_bound {g : Backend Application → Task ω ε α}
    (hg : ∀ b, Task.Works S s.connection (some b) (g b)) :
    Task.Works S s.connection s.backend (s.bound >>= g) := by
  intro w
  rw [Task.run_bind, bound]
  cases s.backend with
  | none => exact .done none w
  | some b => exact hg b w

theorem works_keypair (index : Int) :
    Task.Works S s.connection s.backend (s.keypair S index) := by
  refine works_reported s _ (.bind (.require _ (.throw _)) fun _ => ?_)
  exact works_bound s fun b => b.works_keypair s.parser index.toNat

theorem works_readCertificate (id : String) :
    Task.Works S s.connection s.backend (s.readCertificate S id) :=
  works_reported s _ (works_bound s fun b => b.works_readCertificate id)

theorem works_sign (keyId : String) (hash : HashAlgorithm) (ask : Option PinCallback)
    (digest : Octets) :
    Task.Works S s.connection s.backend (s.sign S keyId hash ask digest) := by
  refine works_reported s _ (.bind (works_arguments s _ ask digest) fun ask => ?_)
  exact works_bound s fun b => b.works_sign keyId hash ask digest

theorem works_decipher (keyId : String) (ask : Option PinCallback) (data : Octets) :
    Task.Works S s.connection s.backend (s.decipher S keyId ask data) := by
  refine works_reported s _ (.bind (works_arguments s _ ask data) fun ask => ?_)
  exact works_bound s fun b => b.works_decipher keyId ask data

/-- The session after some work: what was acquired is still there, and the work led to the backend
that is bound now. -/
structure Goes (S : Stack ω ε Context Connection Application)
    (s : Session Context Connection Application) (w : ω) (es : List (Entry ε))
    (s' : Session Context Connection Application) (w' : ω) : Prop where
  options : s'.options = s.options
  parser : s'.parser = s.parser
  context : s'.context = s.context
  connection : s'.connection = s.connection
  work : Work S s.connection s.backend w es s'.backend w'

variable {s}

theorem Goes.trans {s' s'' : Session Context Connection Application} {w w' w'' : ω}
    {es es' : List (Entry ε)} (h : Goes S s w es s' w') (h' : Goes S s' w' es' s'' w'') :
    Goes S s w (es ++ es') s'' w'' where
  options := h'.options.trans h.options
  parser := h'.parser.trans h.parser
  context := h'.context.trans h.context
  connection := h'.connection.trans h.connection
  work := h.work.append (h.connection ▸ h'.work)

variable (s)

theorem goes_ofTask {t : Task ω ε α} (ht : Task.Works S s.connection s.backend t) (w : ω) :
    Goes S s w (t.run w).entries s (t.run w).world := ⟨rfl, rfl, rfl, rfl, ht w⟩

theorem goes_bind (w : ω) :
    Goes S s w (s.bind S w).entries (s.bind S w).value.2 (s.bind S w).world ∧
      (s.bind S w).value.2.backend = some (s.bind S w).value.1 := by
  rw [bind]
  cases hb : s.backend with
  | some b => exact ⟨⟨rfl, rfl, rfl, rfl, .done _ w⟩, hb⟩
  | none =>
    refine ⟨⟨rfl, rfl, rfl, rfl, ?_⟩, rfl⟩
    rw [hb]
    exact (Backend.work_bind s.reader w).append (.ofLogs _ _ [_])

theorem goes_serialAndStamp (w : ω) :
    Goes S s w (s.serialAndStamp S w).entries (s.serialAndStamp S w).value.2
      (s.serialAndStamp S w).world := by
  obtain ⟨hgo, hback⟩ := goes_bind (S := S) s w
  simp only [serialAndStamp, Action.bind_apply]
  generalize s.bind S w = o at hgo hback
  obtain ⟨⟨b, t⟩, w', es⟩ := o
  refine hgo.trans ?_
  dsimp only at hback ⊢
  cases t.serial with
  | some text => exact ⟨rfl, rfl, rfl, rfl, .done _ w'⟩
  | none =>
    have hw := WholeFile.works_resolveSerial (S := S) (k := t.connection) (b := b)
      (b.applicationSerial S w') w'
    rw [← hback] at hw
    simp only [Action.bind_apply, Action.look_apply]
    generalize (WholeFile.resolveSerial S t.connection (b.applicationSerial S w')).run w' = r at hw
    obtain ⟨v, w'', es'⟩ := r
    cases v with
    | ok text => exact ⟨rfl, rfl, rfl, rfl, by simpa using hw⟩
    | error f => exact ⟨rfl, rfl, rfl, rfl, by simpa using hw⟩

/-- An operation is work on the card, whatever it answers. -/
theorem goes_perform (op : Operation) (w : ω) :
    Goes S s w (s.perform S op w).entries (s.perform S op w).value.2 (s.perform S op w).world := by
  cases op with
  | bind => simpa [perform] using (goes_bind s w).1
  | serial => simpa [perform] using goes_serialAndStamp s w
  | keypair index => simpa [perform] using goes_ofTask s (works_keypair s index) w
  | certificate id => simpa [perform] using goes_ofTask s (works_readCertificate s id) w
  | sign keyId hash ask digest =>
    simpa [perform] using goes_ofTask s (works_sign s keyId hash ask digest) w
  | decipher keyId ask data =>
    simpa [perform] using goes_ofTask s (works_decipher s keyId ask data) w

/-- So are any operations in any order. -/
theorem goes_performAll (ops : List Operation) (w : ω) :
    Goes S s w (s.performAll S ops w).entries (s.performAll S ops w).value
      (s.performAll S ops w).world := by
  induction ops generalizing s w with
  | nil => exact ⟨rfl, rfl, rfl, rfl, .done _ w⟩
  | cons op ops ih => exact (goes_perform s op w).trans (ih _ _)

end Session

end SmartCard
