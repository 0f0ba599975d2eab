import SmartCard.CommandLine.Program
import SmartCard.Proofs.ReadOnlySessions

/-!
# How runs of the command line end

A run gives out its whole answer or nothing: it succeeds with an answer exactly if that is the
complete one, with all keypairs of the card or the whole certificate, and prints and writes nothing
if it fails. In either case the manager is given back all that the run was granted, and the card is
sent something only while it is locked.
-/
namespace SmartCard.CommandLine

variable {ω ε Context Connection Application α β : Type}

/-! ## Jobs -/

namespace Job

variable {j : Job ω ε α} {g : α → Job ω ε β} {w : ω}

theorem run_bind (j : Job ω ε α) (g : α → Job ω ε β) (w : ω) :
    (j >>= g).run w =
      match (j.run w).value with
      | .ok a =>
        let o := (g a).run (j.run w).world
        ⟨o.value, o.world, (j.run w).entries ++ o.entries⟩
      | .error e => ⟨.error e, (j.run w).world, (j.run w).entries⟩ := by
  simp only [ExceptT.run_bind, Action.bind_apply]
  split <;> simp [*]

@[simp] theorem run_log (level : Level) (text : String) (w : ω) :
    (Job.log level text : Job ω ε Unit).run w = ⟨.ok (), w, [.ofLog ⟨level, text⟩]⟩ := rfl

@[simp] theorem run_lift (x : Action ω (Entry ε) α) (w : ω) :
    (ExceptT.lift x : Job ω ε α).run w = ⟨.ok (x w).value, (x w).world, (x w).entries⟩ := by
  simp

@[simp] theorem run_ofTask (t : Task ω ε α) (w : ω) :
    (Job.ofTask t).run w =
      ⟨(t.run w).value.mapError .card, (t.run w).world, (t.run w).entries⟩ := by
  simp [Job.ofTask]

theorem value_bind_eq_ok_iff {b : β} : ((j >>= g).run w).value = .ok b ↔
    ∃ a, (j.run w).value = .ok a ∧ ((g a).run (j.run w).world).value = .ok b := by
  rw [run_bind]
  cases (j.run w).value with
  | ok a => simp
  | error e => simp

theorem value_ofTask_eq_ok_iff {t : Task ω ε α} {a : α} :
    ((Job.ofTask t : Job ω ε α).run w).value = .ok a ↔ (t.run w).value = .ok a := by
  rw [run_ofTask]
  cases (t.run w).value <;> simp [Except.mapError]

theorem value_decodeArgument_eq_ok_iff {text : String} {o : Octets} :
    ((decodeArgument text : Job ω ε Octets).run w).value = .ok o ↔ Hex.decode text = .ok o := by
  rw [decodeArgument]
  cases Hex.decode text <;> simp

theorem world_decodeArgument (text : String) (w : ω) :
    ((decodeArgument text : Job ω ε Octets).run w).world = w := by
  rw [decodeArgument]
  cases Hex.decode text <;> rfl

theorem value_output_eq_ok_iff {disk : Disk} {path : String} {content : Octets} {out : Output} :
    ((output disk path content : Job ω ε Output).run w).value = .ok out ↔
      ∃ target, disk.target path = .ok target ∧ out = .octets target content := by
  rw [output]
  cases disk.target path <;> simp [eq_comm]

end Job

/-! ## Complete answers -/

/-- The keypairs from an index on are these: all up to the end, without those that have no
certificate. -/
inductive Enumerates (S : Stack ω ε Context Connection Application)
    (s : Session Context Connection Application) : Nat → ω → List Keypair → Prop
  | stop {index : Nat} {w : ω} (hi : index < keyLimit)
      (h : ((s.keypair S index).run w).value = .ok none) : Enumerates S s index w []
  | key {index : Nat} {w : ω} {k : Keypair} {ks : List Keypair} (hi : index < keyLimit)
      (h : ((s.keypair S index).run w).value = .ok (some k))
      (hrest : Enumerates S s (index + 1) ((s.keypair S index).run w).world ks) :
      Enumerates S s index w (k :: ks)
  | skip {index : Nat} {w : ω} {ks : List Keypair} (hi : index < keyLimit)
      (h : ((s.keypair S index).run w).value = .error .missingCertificate)
      (hrest : Enumerates S s (index + 1) ((s.keypair S index).run w).world ks) :
      Enumerates S s index w ks

/-- The output is the complete answer of the session to the command. -/
inductive Completes (S : Stack ω ε Context Connection Application) (disk : Disk)
    (s : Session Context Connection Application) (serial : String) (w : ω) :
    Command → Output → Prop
  | serial : Completes S disk s serial w .serial (.lines [serial])
  | keys {ks : List Keypair} (h : Enumerates S s 0 w ks) :
      Completes S disk s serial w (.keys false) (.lines (ks.map keyLine))
  | json {ks : List Keypair} (h : Enumerates S s 0 w ks) :
      Completes S disk s serial w (.keys true) (.lines [Keypair.jsonList ks])
  | certificate {id : String} {c : Octets}
      (h : ((s.readCertificate S id).run w).value = .ok c) :
      Completes S disk s serial w (.readCert id none) (.lines [Hex.lower c])
  | file {id path : String} {c : Octets} {target : Disk.Target}
      (h : ((s.readCertificate S id).run w).value = .ok c) (hd : disk.target path = .ok target) :
      Completes S disk s serial w (.readCert id (some path)) (.octets target c)
  | signature {keyId digest : String} {hash : HashAlgorithm} {o signature : Octets}
      (hd : Hex.decode digest = .ok o)
      (h : ((s.sign S keyId hash (some noPin) o).run w).value = .ok signature) :
      Completes S disk s serial w (.sign keyId digest hash) (.lines [Hex.lower signature])
  | plain {keyId data : String} {o plain : Octets} (hd : Hex.decode data = .ok o)
      (h : ((s.decipher S keyId (some noPin) o).run w).value = .ok plain) :
      Completes S disk s serial w (.decipher keyId data) (.lines [Hex.lower plain])

/-- The output is the complete answer of a run: that of the session which it opened, with the serial
number that was read first. -/
def IsComplete (S : Stack ω ε Context Connection Application) (parser : CertificateParser)
    (disk : Disk) (a : Arguments) (w : ω) (output : Output) : Prop :=
  let p := (Session.start S parser a.options).run w
  ∃ s, p.value = .ok s ∧
    let q := s.serialAndStamp S p.world
    ∃ serial stamp, q.value.1 = .ok (serial, stamp) ∧
      Completes S disk q.value.2 serial q.world a.command output

section
variable {S : Stack ω ε Context Connection Application}
  {s : Session Context Connection Application} {w : ω}

theorem value_keysFrom_eq_ok_iff {left index : Nat} (hleft : index + left = keyLimit)
    {ks : List Keypair} :
    ((keysFrom S s left index).run w).value = .ok ks ↔ Enumerates S s index w ks := by
  -- Induction on what is left up to the limit; each way to go on is one of the constructors.
  induction left generalizing index w ks with
  | zero =>
    rw [keysFrom]
    constructor
    · nofun
    · intro h
      cases h <;> omega
  | succ left ih =>
    have hi : index < keyLimit := by omega
    have ih (ks : List Keypair) :
        ((keysFrom S s left (index + 1)).run ((s.keypair S index).run w).world).value = .ok ks ↔
          Enumerates S s (index + 1) ((s.keypair S index).run w).world ks := ih (by omega)
    rw [keysFrom, Job.run_bind]
    simp only [Job.run_lift]
    constructor
    · intro h
      cases hv : ((s.keypair S index).run w).value with
      | ok k =>
        rw [hv] at h
        cases k with
        | none =>
          cases h
          exact .stop hi hv
        | some k =>
          obtain ⟨rest, hrest, hks⟩ := Job.value_bind_eq_ok_iff.mp h
          cases hks
          exact .key hi hv ((ih rest).mp hrest)
      | error f =>
        rw [hv] at h
        cases f with
        | missingCertificate =>
          obtain ⟨-, -, hrest⟩ := Job.value_bind_eq_ok_iff.mp h
          exact .skip hi hv ((ih ks).mp hrest)
        | _ => cases h
    · intro h
      cases h with
      | stop _ hv =>
        rw [hv]
        rfl
      | key _ hv hrest =>
        rw [hv]
        exact Job.value_bind_eq_ok_iff.mpr ⟨_, (ih _).mpr hrest, rfl⟩
      | skip _ hv hrest =>
        rw [hv]
        exact Job.value_bind_eq_ok_iff.mpr ⟨(), rfl, (ih _).mpr hrest⟩

theorem value_listKeys_eq_ok_iff {ks : List Keypair} :
    ((listKeys S s).run w).value = .ok ks ↔ Enumerates S s 0 w ks :=
  value_keysFrom_eq_ok_iff (Nat.zero_add keyLimit)

theorem value_execute_eq_ok_iff {disk : Disk} {serial : String} {c : Command} {output : Output} :
    ((execute S disk s serial c).run w).value = .ok output ↔
      Completes S disk s serial w c output := by
  cases c with
  | serial =>
    constructor
    · rintro ⟨⟩
      exact .serial
    · rintro ⟨⟩
      rfl
  | keys json =>
    rw [execute, Job.value_bind_eq_ok_iff]
    simp only [value_listKeys_eq_ok_iff]
    constructor
    · rintro ⟨ks, hks, hout⟩
      cases hout
      cases json with
      | true => exact .json hks
      | false => exact .keys hks
    · intro h
      cases h with
      | keys hks | json hks => exact ⟨_, hks, rfl⟩
  | readCert id path =>
    rw [execute, Job.value_bind_eq_ok_iff]
    simp only [Job.value_ofTask_eq_ok_iff]
    constructor
    · rintro ⟨o, ho, hout⟩
      cases path with
      | none =>
        cases hout
        exact .certificate ho
      | some path =>
        obtain ⟨target, hd, rfl⟩ := Job.value_output_eq_ok_iff.mp hout
        exact .file ho hd
    · intro h
      cases h with
      | certificate ho => exact ⟨_, ho, rfl⟩
      | file ho hd => exact ⟨_, ho, Job.value_output_eq_ok_iff.mpr ⟨_, hd, rfl⟩⟩
  | sign keyId digest hash =>
    rw [execute, Job.value_bind_eq_ok_iff]
    simp only [Job.value_decodeArgument_eq_ok_iff, Job.world_decodeArgument,
      Job.value_bind_eq_ok_iff, Job.value_ofTask_eq_ok_iff]
    constructor
    · rintro ⟨o, hd, signature, hs, hout⟩
      cases hout
      exact .signature hd hs
    · intro h
      cases h with
      | signature hd hs => exact ⟨_, hd, _, hs, rfl⟩
  | decipher keyId data =>
    rw [execute, Job.value_bind_eq_ok_iff]
    simp only [Job.value_decodeArgument_eq_ok_iff, Job.world_decodeArgument,
      Job.value_bind_eq_ok_iff, Job.value_ofTask_eq_ok_iff]
    constructor
    · rintro ⟨o, hd, plain, hp, hout⟩
      cases hout
      exact .plain hd hp
    · intro h
      cases h with
      | plain hd hp => exact ⟨_, hd, _, hp, rfl⟩

theorem value_afterSerial_eq_ok_iff {disk : Disk} {c : Command} {output : Output}
    {r : Except Failure (String × Nat)} :
    ((afterSerial S disk s c r).run w).value = .ok output ↔
      ∃ serial stamp, r = .ok (serial, stamp) ∧ Completes S disk s serial w c output := by
  cases r with
  | error f => simp [afterSerial]
  | ok p =>
    obtain ⟨serial, stamp⟩ := p
    rw [afterSerial, Job.value_bind_eq_ok_iff]
    simp only [Job.run_log, value_execute_eq_ok_iff]
    constructor
    · rintro ⟨-, -, hc⟩
      exact ⟨serial, stamp, rfl, hc⟩
    · rintro ⟨_, _, hr, hc⟩
      cases hr
      exact ⟨(), trivial, hc⟩

section
variable {parser : CertificateParser} {disk : Disk} {a : Arguments}

theorem value_run_of_error {f : Failure}
    (h : ((Session.start S parser a.options).run w).value = .error f) :
    (run S parser disk a w).value = .error (.card f) := by
  simp only [run, Action.bind_apply, h]
  rfl

theorem value_run_of_ok (h : ((Session.start S parser a.options).run w).value = .ok s) :
    (run S parser disk a w).value =
      let q := s.serialAndStamp S ((Session.start S parser a.options).run w).world
      ((afterSerial S disk q.value.2 a.command q.value.1).run q.world).value := by
  simp only [run, Action.bind_apply, h]
  rfl

/-- A run succeeds with the complete answer and with nothing else. -/
theorem value_run_eq_ok_iff {output : Output} :
    (run S parser disk a w).value = .ok output ↔ IsComplete S parser disk a w output := by
  rw [IsComplete]
  cases hs : ((Session.start S parser a.options).run w).value with
  | error f =>
    rw [value_run_of_error hs]
    constructor
    · nofun
    · rintro ⟨s, h, -⟩
      cases h
  | ok s =>
    rw [value_run_of_ok hs]
    simp only [value_afterSerial_eq_ok_iff, Except.ok.injEq, exists_eq_left']

end

end

/-! ## Failures -/

/-- An error of the disk with which the job fails is such as `P` says. -/
def Job.Blames (P : Disk.Error → Prop) (j : Job ω ε α) : Prop :=
  ∀ w d, (j.run w).value = .error (.disk d) → P d

namespace Job.Blames

variable {P : Disk.Error → Prop}

theorem pure (a : α) : Blames P (pure a : Job ω ε α) := nofun

theorem bind {j : Job ω ε α} {g : α → Job ω ε β} (hj : Blames P j) (hg : ∀ a, Blames P (g a)) :
    Blames P (j >>= g) := by
  intro w d
  rw [run_bind]
  cases hv : (j.run w).value with
  | ok a => exact hg a _ d
  | error e =>
    intro h
    cases h
    exact hj w d hv

theorem card (f : Failure) : Blames P (throw (.card f) : Job ω ε α) := nofun

theorem lift (x : Action ω (Entry ε) α) : Blames P (ExceptT.lift x : Job ω ε α) := by
  intro w d
  rw [run_lift]
  nofun

theorem ofTask (t : Task ω ε α) : Blames P (Job.ofTask t) := by
  intro w d
  rw [run_ofTask]
  cases (t.run w).value <;> nofun

theorem decodeArgument (text : String) :
    Blames P (decodeArgument text : Job ω ε Octets) := by
  unfold CommandLine.decodeArgument
  cases Hex.decode text <;> nofun

theorem output {disk : Disk} {path : String} (h : ∀ d, disk.target path = .error d → P d)
    (content : Octets) : Blames P (output disk path content : Job ω ε Output) := by
  unfold CommandLine.output
  cases hd : disk.target path with
  | ok target => nofun
  | error e =>
    intro w _ hv
    cases hv
    exact h e hd

end Job.Blames

/-- The command writes to a file, and that is not possible. -/
def Unwritable (disk : Disk) (c : Command) (d : Disk.Error) : Prop :=
  ∃ id path, c = .readCert id (some path) ∧ disk.target path = .error d

section
variable (S : Stack ω ε Context Connection Application)
  (s : Session Context Connection Application)

theorem blames_keysFrom {P : Disk.Error → Prop} (left index : Nat) :
    Job.Blames P (keysFrom S s left index) := by
  induction left generalizing index with
  | zero => exact .card _
  | succ left ih =>
    refine .bind (.lift _) fun r => ?_
    split
    · exact .pure _
    · exact .bind (ih _) fun _ => .pure _
    · exact .bind (.lift _) fun _ => ih _
    · exact .card _

theorem blames_execute (disk : Disk) (serial : String) (c : Command) :
    Job.Blames (Unwritable disk c) (execute S disk s serial c) := by
  cases c with
  | serial => exact .pure _
  | keys json => exact .bind (blames_keysFrom S s _ _) fun _ => .pure _
  | readCert id path =>
    refine .bind (.ofTask _) fun c => ?_
    cases path with
    | none => exact .pure _
    | some path => exact .output (fun d hd => ⟨id, path, rfl, hd⟩) c
  | sign | decipher =>
    exact .bind (.decodeArgument _) fun _ => .bind (.ofTask _) fun _ => .pure _

theorem blames_afterSerial (disk : Disk) (c : Command) (r : Except Failure (String × Nat)) :
    Job.Blames (Unwritable disk c) (afterSerial S disk s c r) := by
  cases r with
  | error f => exact .card _
  | ok p => exact .bind (.lift _) fun _ => blames_execute S s disk p.1 c

/-- The disk is to blame for nothing but a file that cannot be written. -/
theorem unwritable_of_run_eq {parser : CertificateParser} {disk : Disk} {a : Arguments} {w : ω}
    {d : Disk.Error} (h : (run S parser disk a w).value = .error (.disk d)) :
    Unwritable disk a.command d := by
  cases hs : ((Session.start S parser a.options).run w).value with
  | error f =>
    rw [value_run_of_error hs] at h
    cases h
  | ok s =>
    rw [value_run_of_ok hs] at h
    exact blames_afterSerial S _ disk a.command _ _ d h

end

/-! ## What the manager is asked for -/

/-- All that the job has to do with the manager is to send commands. -/
def Job.Talks (j : Job Pcsc.Manager Pcsc.Event α) : Prop :=
  ∀ m, Pcsc.Talk m (j.run m).entries (j.run m).world

namespace Job.Talks

theorem pure (a : α) : Talks (pure a) := fun m => .done m

theorem throw (e : Error) : Talks (throw e : Job Pcsc.Manager Pcsc.Event α) := fun m => .done m

theorem log (level : Level) (text : String) : Talks (Job.log level text) := fun m => .still m rfl

theorem bind {j : Job Pcsc.Manager Pcsc.Event α} {g : α → Job Pcsc.Manager Pcsc.Event β}
    (hj : Talks j) (hg : ∀ a, Talks (g a)) : Talks (j >>= g) := by
  intro m
  rw [run_bind]
  cases (j.run m).value with
  | ok a => exact (hj m).append (hg a _)
  | error e => exact hj m

theorem ofTask {t : Task Pcsc.Manager Pcsc.Event α}
    (ht : ∀ m, Pcsc.Talk m (t.run m).entries (t.run m).world) : Talks (Job.ofTask t) := by
  intro m
  rw [run_ofTask]
  exact ht m

theorem decodeArgument (text : String) : Talks (decodeArgument text) := by
  unfold CommandLine.decodeArgument
  cases Hex.decode text with
  | ok o => exact .pure o
  | error e => exact .throw _

theorem output (disk : Disk) (path : String) (content : Octets) :
    Talks (output disk path content) := by
  unfold CommandLine.output
  cases disk.target path with
  | ok target => exact .pure _
  | error e => exact .throw _

end Job.Talks

section
variable {t : Session Pcsc.Context Pcsc.Connection Empty}

theorem talk_perform (hk : t.connection.card = some 0) (op : Operation) (m : Pcsc.Manager) :
    Pcsc.Talk m (t.perform Pcsc.stack op m).entries (t.perform Pcsc.stack op m).world :=
  (Pcsc.exchanges_perform t hk op m).1

theorem talks_keysFrom (hk : t.connection.card = some 0) (left index : Nat) :
    Job.Talks (keysFrom Pcsc.stack t left index) := by
  induction left generalizing index with
  | zero => exact .throw _
  | succ left ih =>
    refine .bind (fun m => ?_) fun r => ?_
    · rw [Job.run_lift]
      simpa [Session.perform] using talk_perform hk (.keypair index) m
    · split
      · exact .pure _
      · exact .bind (ih _) fun _ => .pure _
      · exact .bind (.log _ _) fun _ => ih _
      · exact .throw _

theorem talks_execute (hk : t.connection.card = some 0) (disk : Disk) (serial : String)
    (c : Command) : Job.Talks (execute Pcsc.stack disk t serial c) := by
  cases c with
  | serial => exact .pure _
  | keys json => exact .bind (talks_keysFrom hk _ _) fun _ => .pure _
  | readCert id path =>
    refine .bind (.ofTask fun m => ?_) fun c => ?_
    · simpa [Session.perform] using talk_perform hk (.certificate id) m
    · cases path with
      | none => exact .pure _
      | some path => exact .output disk path c
  | sign keyId digest hash =>
    refine .bind (.decodeArgument _) fun o => .bind (.ofTask fun m => ?_) fun _ => .pure _
    simpa [Session.perform] using talk_perform hk (.sign keyId hash (some noPin) o) m
  | decipher keyId data =>
    refine .bind (.decodeArgument _) fun o => .bind (.ofTask fun m => ?_) fun _ => .pure _
    simpa [Session.perform] using talk_perform hk (.decipher keyId (some noPin) o) m

theorem talks_afterSerial (hk : t.connection.card = some 0) (disk : Disk) (c : Command)
    (r : Except Failure (String × Nat)) : Job.Talks (afterSerial Pcsc.stack disk t c r) := by
  cases r with
  | error f => exact .throw _
  | ok p => exact .bind (.log _ _) fun _ => talks_execute hk disk p.1 c

end

/-- What a run asks for, in three parts: calls to get hold of the card, as far as they are granted,
commands to the card if it is locked, and calls that give back what was granted. -/
theorem events_run (parser : CertificateParser) (disk : Disk) (a : Arguments) (s : Pcsc.Script) :
    ∃ reader front work,
      Pcsc.events (run Pcsc.stack parser disk a s.start).entries =
        front ++ work.map .transmit ++ s.undoAll front ∧
      front <+: Pcsc.wanted reader ∧
      (work ≠ [] → .reconnect .exclusive ∈ front ∧ s.grants (.reconnect .exclusive) = true) := by
  simp only [run, Action.bind_apply]
  obtain ⟨reader, ⟨f, front, hv, -, hfront, hevents⟩ | ⟨t, hv, hopened, hevents⟩⟩ :=
    Pcsc.start_cases parser a.options s
  · refine ⟨reader, front, [], ?_, hfront, nofun⟩
    simp [hv, hevents]
  · generalize (Session.start Pcsc.stack parser a.options).run s.start = p at *
    have hgo := Session.goes_serialAndStamp (S := Pcsc.stack) t p.world
    have htalk : Pcsc.Talk p.world (t.serialAndStamp Pcsc.stack p.world).entries
        (t.serialAndStamp Pcsc.stack p.world).world := by
      simpa [Session.perform] using talk_perform hopened.connection .serial p.world
    simp only [hv, Action.bind_apply, Action.pure_apply, List.append_nil]
    generalize t.serialAndStamp Pcsc.stack p.world = q at hgo htalk ⊢
    obtain ⟨⟨r, t'⟩, m, es⟩ := q
    dsimp only at hgo htalk ⊢
    -- The serial number is kept by a session with the same handles, which can be closed as well.
    have hk : t'.connection.card = some 0 := hgo.connection ▸ hopened.connection
    have htalk' := htalk.append (talks_afterSerial hk disk a.command r m)
    generalize (afterSerial Pcsc.stack disk t' a.command r).run m = o at htalk' ⊢
    have hclose := hopened.events_close htalk' hgo.context hgo.connection
    refine ⟨reader, Pcsc.wanted reader, Pcsc.commands (es ++ o.entries), ?_, List.prefix_rfl,
      fun _ => ⟨by simp [Pcsc.wanted], hopened.lock_granted⟩⟩
    rw [Pcsc.events_append, hevents, ← List.append_assoc es, Pcsc.events_append, htalk'.events,
      hclose, List.append_assoc]

/-! ## The main result -/

/-- The run gives out its answer and nothing else, and nothing at all if it fails. -/
def Ending.Gives (e : Ending) : Except Error Output → Prop
  | .error err => e.status = 1 ∧ e.error = some err ∧ e.text = "" ∧ e.octets = none
  | .ok (.text s) => e.status = 0 ∧ e.error = none ∧ e.text = s ∧ e.octets = none
  | .ok (.octets target content) =>
    e.status = 0 ∧ e.error = none ∧ e.text = "" ∧ e.octets = some (target, content)

theorem Ending.gives_ofRun (environment : Option String) (a : Arguments)
    (o : Outcome Pcsc.Manager (Entry Pcsc.Event) (Except Error Output)) :
    (Ending.ofRun environment a o).Gives o.value := by
  rw [Ending.ofRun]
  rcases o.value with err | ⟨s⟩ | ⟨target, content⟩ <;> exact ⟨rfl, rfl, rfl, rfl⟩

theorem Ending.events_ofRun (environment : Option String) (a : Arguments)
    (o : Outcome Pcsc.Manager (Entry Pcsc.Event) (Except Error Output)) :
    (Ending.ofRun environment a o).events = Pcsc.events o.entries := by
  rw [Ending.ofRun]
  rcases o.value with err | ⟨s⟩ | ⟨target, content⟩ <;> rfl

/-- Whatever the manager and the card answer, a run gives out its complete answer or nothing. It
fails for the disk only if the certificate is to go to a file that cannot be written. What it asks
of the manager ends with giving back all that was granted, and commands are sent to the card only
while it is locked. -/
theorem runs_give_all_or_nothing (environment : Option String) (parser : CertificateParser)
    (disk : Disk) (a : Arguments) (s : Pcsc.Script) :
    let e := Ending.ofRun environment a (run Pcsc.stack parser disk a s.start)
    (∃ r, e.Gives r ∧
      (∀ output, r = .ok output ↔ IsComplete Pcsc.stack parser disk a s.start output) ∧
      ∀ d, r = .error (.disk d) → Unwritable disk a.command d) ∧
    ∃ reader front work,
      e.events = front ++ work.map .transmit ++ s.undoAll front ∧
      front <+: Pcsc.wanted reader ∧
      (work ≠ [] → .reconnect .exclusive ∈ front ∧ s.grants (.reconnect .exclusive) = true) := by
  intro e
  refine ⟨⟨_, Ending.gives_ofRun environment a _, fun output => value_run_eq_ok_iff,
    fun d => unwritable_of_run_eq _⟩, ?_⟩
  have hevents := Ending.events_ofRun environment a (run Pcsc.stack parser disk a s.start)
  rw [hevents]
  exact events_run parser disk a s

/-- A card with a serial number and a certificate, which the manager does not let go of at once. -/
def stubborn : Pcsc.Script where
  readers := [⟨"Reader", true, none, none⟩]
  establish := none
  list := none
  release := some .cantDispose
  disconnect := some .removedCard
  reconnects := []
  responses := [.ok [0x62, 0x07, 0x80, 0x02, 0x00, 0x04, 0x82, 0x01, 0x01, 0x90, 0x00],
    .ok [0x5A, 0x02, 0x12, 0x34, 0x90, 0x00],
    .ok [0x62, 0x07, 0x80, 0x02, 0x00, 0x02, 0x82, 0x01, 0x01, 0x90, 0x00],
    .ok [0xAA, 0xBB, 0x90, 0x00]]

/-- The certificate of that card on the standard output, or in a file. -/
def stubbornCertificate (path : Option String) : Arguments where
  reader := 0
  verbose := false
  debugTransport := false
  command := .readCert Dinsig.certId path

/-- The certificate is printed in full, and the card and the context are given back at the second
attempt. -/
theorem runs_give_all_or_nothing_stubborn :
    let a := stubbornCertificate none
    let e := Ending.ofRun none a (run Pcsc.stack Certificate.publicKey .usual a stubborn.start)
    e.text = "aabb\n" ∧
      IsComplete Pcsc.stack Certificate.publicKey .usual a stubborn.start (.text "aabb\n") ∧
      e.events = Pcsc.wanted 0 ++
        ([.select WholeFile.gdoPath, .readBinary 0 4, .select Dinsig.certPath,
          .readBinary 0 2] : List Pcsc.Command).map (.transmit ·.octets) ++
        [.reconnect .shared, .disconnect .leave, .disconnect .reset, .release, .release] := by
  intro a e
  have htext : e.text = "aabb\n" := by decide +kernel
  have herror : e.error = none := by decide +kernel
  obtain ⟨⟨r, hgives, hcomplete, -⟩, -⟩ :=
    runs_give_all_or_nothing none Certificate.publicKey .usual a stubborn
  refine ⟨htext, (hcomplete _).mp ?_, by decide +kernel⟩
  rcases r with err | ⟨text⟩ | ⟨target, content⟩
  · exact absurd (herror.symm.trans hgives.2.1) nofun
  · rw [← hgives.2.2.1.symm.trans htext]
  · exact absurd (hgives.2.2.1.symm.trans htext) (by decide)

/-- A certificate that the card gives is lost if there is nowhere to write it. -/
theorem certificate_not_given_without_directory :
    let e path := Ending.ofRun none (stubbornCertificate path)
      (run Pcsc.stack Certificate.publicKey .usual (stubbornCertificate path) stubborn.start)
    (e none).Gives (.ok (.text "aabb\n")) ∧
      (e (some "/nonexistent/x")).Gives (.error (.disk .notFound)) ∧
      ¬∃ output, (e (some "/nonexistent/x")).Gives (.ok output) := by
  intro e
  have hprinted : (run Pcsc.stack Certificate.publicKey .usual (stubbornCertificate none)
      stubborn.start).value = .ok (.text "aabb\n") := by decide +kernel
  have hlost : (run Pcsc.stack Certificate.publicKey .usual
      (stubbornCertificate (some "/nonexistent/x")) stubborn.start).value =
      .error (.disk .notFound) := by decide +kernel
  have hgives : (e (some "/nonexistent/x")).Gives (.error (.disk .notFound)) :=
    hlost ▸ Ending.gives_ofRun none _ _
  refine ⟨hprinted ▸ Ending.gives_ofRun none _ _, hgives, ?_⟩
  rintro ⟨⟨s⟩ | ⟨target, content⟩, h⟩ <;> cases hgives.1.symm.trans h.1

end SmartCard.CommandLine
