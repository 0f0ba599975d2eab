import SmartCard.Proofs.Acquisition
import SmartCard.Proofs.BoundOnce
import SmartCard.Proofs.PinDiscipline

/-!
# Sessions that only read

A session on the resource manager has no application to bind, so it takes the card for one of the
fixed layout. All that it ever sends are selections of two files, reads of the file that is selected
and fetches of what a response announced, whatever the card answers: each operation selects at most
one file, and reads only if that was accepted. Keys are not used and nobody is asked for a PIN.
-/
namespace SmartCard.Pcsc

variable {α β : Type}

/-! ## Commands that only read -/

/-- What a session may send behind the answer to the command before, if there was one. -/
inductive Permitted (previous : Option (Except ReturnCode Octets)) : Octets → Prop
  | select {file : Octets} (h : file = [0x2F, 0x02] ∨ file = [0xDF, 0x01, 0xC0, 0x00]) :
      Permitted previous (Command.octets ⟨0x00, 0xA4, 0x08, 0x04, file, 0x00⟩)
  | read {p1 p2 le : UInt8} (h : p1 < 0x80) :
      Permitted previous (Command.octets ⟨0x00, 0xB0, p1, p2, [], le⟩)
  | fetch {data : Octets} {le : UInt8} (h : previous = some (.ok (data ++ [0x61, le]))) :
      Permitted previous (Command.octets ⟨0x00, 0xC0, 0x00, 0x00, [], le⟩)

/-- Every command is permitted behind the answer to the one before it. -/
def Lawful : Option (Except ReturnCode Octets) → List Exchange → Prop
  | _, [] => True
  | previous, (c, r) :: xs => Permitted previous c ∧ Lawful (some r) xs

/-- The file of the serial number, and that of the certificate. -/
def IsKnown (path : Path) : Prop := path = WholeFile.gdoPath ∨ path = Dinsig.certPath

/-- A selection that the card carries out. -/
def Selects (xs : List Exchange) : Prop :=
  ∃ path r, IsKnown path ∧ Chain (Command.select path).octets xs r ∧ Accepted r

/-- What is exchanged for one operation: nothing, an attempt to select a file, or a selection and
reads of the file. -/
inductive Reading : List Exchange → Prop
  | nothing : Reading []
  | selecting {path : Path} {xs : List Exchange} {r : Except ReturnCode Octets}
      (hp : IsKnown path) (h : Chain (Command.select path).octets xs r) : Reading xs
  | reading {xs ys : List Exchange} (h : Selects xs) (hy : Reads ys) : Reading (xs ++ ys)

/-! ### Lawful exchanges -/

theorem Permitted.of_none {previous : Option (Except ReturnCode Octets)} {c : Octets}
    (h : Permitted none c) : Permitted previous c := by
  cases h with
  | select h => exact .select h
  | read h => exact .read h
  | fetch h => cases h

/-- Behind other commands there may be any that may stand alone. -/
theorem Lawful.append {previous : Option (Except ReturnCode Octets)} {xs ys : List Exchange}
    (h : Lawful previous xs) (h' : Lawful none ys) : Lawful previous (xs ++ ys) := by
  induction xs generalizing previous with
  | nil =>
    cases ys with
    | nil => trivial
    | cons y ys => exact ⟨h'.1.of_none, h'.2⟩
  | cons x xs ih => exact ⟨h.1, ih h.2⟩

theorem Chain.lawful {previous : Option (Except ReturnCode Octets)} {c : Octets}
    {xs : List Exchange} {r : Except ReturnCode Octets} (h : Chain c xs r)
    (hc : Permitted previous c) : Lawful previous xs := by
  induction h generalizing previous with
  | last c r => exact ⟨hc, trivial⟩
  | fetch _ ih => exact ⟨hc, ih (.fetch rfl)⟩

theorem permitted_readBinary {position : Nat} (hp : position ≤ Command.maxPosition) (le : UInt8) :
    Permitted none (Command.readBinary position le).octets := by
  refine .read ?_
  rw [UInt8.lt_iff_toNat_lt, UInt8.toNat_ofNat']
  simp only [Command.maxPosition] at hp
  have hhigh : position / 256 < 128 := by omega
  rw [Nat.mod_eq_of_lt (by omega)]
  exact hhigh

theorem permitted_select {path : Path} (hp : IsKnown path) :
    Permitted none (Command.select path).octets := by
  rcases hp with rfl | rfl
  · exact .select (.inl rfl)
  · exact .select (.inr rfl)

theorem Reads.lawful {xs : List Exchange} (h : Reads xs) : Lawful none xs := by
  induction h with
  | nil => trivial
  | cons hp hc _ ih => exact (hc.lawful (permitted_readBinary hp _)).append ih

theorem Reading.lawful {xs : List Exchange} (h : Reading xs) : Lawful none xs := by
  cases h with
  | nothing => trivial
  | selecting hp hc => exact hc.lawful (permitted_select hp)
  | reading h hy =>
    obtain ⟨path, r, hp, hc, -⟩ := h
    exact (hc.lawful (permitted_select hp)).append hy.lawful

/-! ### Reads behind selections -/

/-- Only the first command of a chain is no fetch. -/
theorem Chain.mem_cases {c : Octets} {xs : List Exchange} {r : Except ReturnCode Octets}
    (h : Chain c xs r) {x : Exchange} (hx : x ∈ xs) :
    x.1 = c ∨ ∃ le, x.1 = (Command.getResponse le).octets := by
  induction h with
  | last c r =>
    rw [List.mem_singleton.mp hx]
    exact .inl rfl
  | fetch _ ih =>
    rcases List.mem_cons.mp hx with rfl | hx
    · exact .inl rfl
    · exact .inr ((ih hx).elim (⟨_, ·⟩) id)

/-- The command reads octets of a file. -/
def IsRead (o : Octets) : Prop := o[1]? = some 0xB0

theorem Chain.not_isRead {path : Path} {xs : List Exchange} {r : Except ReturnCode Octets}
    (h : Chain (Command.select path).octets xs r) {x : Exchange} (hx : x ∈ xs) :
    ¬ IsRead x.1 := by
  rcases h.mem_cases hx with hc | ⟨le, hc⟩
  · rw [hc, IsRead, Command.octets, CardFile.ins_select]
    simp
  · rw [hc]
    simp [IsRead, Command.octets, Command.getResponse]

/-- Whatever is read, a file was selected before. -/
theorem Reading.selected {xs front back : List Exchange} {c : Octets}
    {r : Except ReturnCode Octets} (h : Reading xs) (he : xs = front ++ (c, r) :: back)
    (hc : IsRead c) : ∃ selection later, front = selection ++ later ∧ Selects selection := by
  cases h with
  | nothing => simp at he
  | selecting hp h => exact absurd hc (h.not_isRead (x := (c, r)) (by simp [he]))
  | @reading xs ys h hy =>
    -- The read stands behind the selection, in which there is none.
    rcases List.append_eq_append_iff.mp he with ⟨later, rfl, -⟩ | ⟨rest, rfl, hrest⟩
    · exact ⟨xs, later, rfl, h⟩
    · cases rest with
      | nil => exact ⟨front, [], by simp, by simpa using h⟩
      | cons x rest =>
        cases hrest
        obtain ⟨path, r', -, hchain, -⟩ := h
        exact absurd hc (hchain.not_isRead (x := (c, r)) (by simp))

/-! ## Sessions -/

/-- The journal leads from one manager to the other by exchanges such as `P` says. -/
def Exchanges (P : List Exchange → Prop) (m : Manager) (es : List (Entry Event)) (m' : Manager) :
    Prop := Talk m es m' ∧ P (m.replay (commands es))

namespace Exchanges

variable {P Q R : List Exchange → Prop} {m m' m'' : Manager} {es es' : List (Entry Event)}

theorem still (hP : P []) (m : Manager) (h : events es = []) : Exchanges P m es m := by
  rw [Exchanges, commands_eq_nil_of_events h]
  exact ⟨.still m h, hP⟩

theorem silent (m : Manager) (h : events es = []) : Exchanges (· = []) m es m :=
  still (P := (· = [])) rfl m h

theorem append (h : Exchanges P m es m') (h' : Exchanges Q m' es' m'')
    (hR : ∀ xs ys, P xs → Q ys → R (xs ++ ys)) : Exchanges R m (es ++ es') m'' := by
  rw [Exchanges, h.1.replay_append]
  exact ⟨h.1.append h'.1, hR _ _ h.2 h'.2⟩

theorem append_silent (h : Exchanges P m es m') (h' : Exchanges (· = []) m' es' m'') :
    Exchanges P m (es ++ es') m'' := by
  refine h.append h' ?_
  rintro xs _ h rfl
  rwa [List.append_nil]

/-- What is exchanged with nobody changes nothing. -/
theorem append_still (h : Exchanges P m es m') (h' : events es' = []) :
    Exchanges P m (es ++ es') m' := h.append_silent (.silent m' h')

end Exchanges

/-- The piece of work exchanges what `P` says, from every manager. -/
def Converses (P : List Exchange → Prop) (t : Task Manager Event α) : Prop :=
  ∀ m, Exchanges P m (t.run m).entries (t.run m).world

/-- The piece of work exchanges nothing. -/
abbrev Silent (t : Task Manager Event α) : Prop := Converses (· = []) t

namespace Converses

variable {P Q R : List Exchange → Prop} {t : Task Manager Event α} {g : α → Task Manager Event β}

theorem pure (hP : P []) (a : α) : Converses P (pure a : Task Manager Event α) :=
  fun m => .still hP m rfl

theorem throw (hP : P []) (f : Failure) : Converses P (throw f : Task Manager Event α) :=
  fun m => .still hP m rfl

theorem refuse (hP : P []) (text : String) (f : Failure) :
    Converses P (Task.refuse text f : Task Manager Event α) := fun m => .still hP m rfl

theorem logAll (hP : P []) (ls : List Log) : Converses P (Task.logAll ls) := by
  intro m
  rw [Task.run_logAll]
  exact .still hP m (events_logs ls)

theorem require (hP : P []) (condition : Bool) {t : Task Manager Event Unit}
    (ht : Converses P t) : Converses P (Task.require condition t) := by
  cases condition with
  | true => exact .pure hP ()
  | false => exact ht

theorem bind (ht : Converses P t) (hg : ∀ a, Converses Q (g a)) (hstop : ∀ xs, P xs → R xs)
    (hgo : ∀ xs ys, P xs → Q ys → R (xs ++ ys)) : Converses R (t >>= g) := by
  intro m
  rw [Task.run_bind]
  cases (t.run m).value with
  | ok a => exact (ht m).append (hg a _) hgo
  | error f => exact ⟨(ht m).1, hstop _ (ht m).2⟩

theorem reads (ht : Converses Reads t) (hg : ∀ a, Converses Reads (g a)) :
    Converses Reads (t >>= g) := ht.bind hg (fun _ h => h) fun _ _ => Reads.append

/-- Silent work may follow. -/
theorem bind_silent (ht : Converses P t) (hg : ∀ a, Silent (g a)) : Converses P (t >>= g) := by
  refine ht.bind hg (fun _ h => h) ?_
  rintro xs _ h rfl
  rwa [List.append_nil]

theorem map (ht : Converses P t) (f : α → β) : Converses P (f <$> t) := by
  intro m
  rw [Task.run_map]
  exact ht m

theorem recover_silent {g : Failure → Task Manager Event α} (ht : Converses P t)
    (hg : ∀ f, Silent (g f)) : Converses P (Task.recover t g) := by
  intro m
  rw [Task.run_recover]
  cases (t.run m).value with
  | ok a => exact ht m
  | error f => exact (ht m).append_silent (hg f _)

theorem keygripOr (text : String) (parser : CertificateParser) (certificate : Octets) :
    Silent (Task.keygripOr text parser certificate) := by
  refine bind_silent (fun m => .silent m rfl) fun _ => ?_
  cases parser.keygrip certificate with
  | ok k => exact .pure rfl k
  | error f => exact .refuse rfl text f

theorem call {c : Call} {w : Work (Except Error α)} {onFault : Fault → Task Manager Event α}
    (hw : ∀ m, w.Sends m fun xs _ => P xs) (hfault : ∀ f, Silent (onFault f)) :
    Converses P (Task.call c w.reply onFault) := by
  intro m
  obtain ⟨htalk, hP⟩ := hw m
  have hcalled (f : Option Fault) :
      Exchanges P m (.call c f :: (w m).entries.map .note) (w m).world := ⟨htalk.call c f, hP⟩
  rw [Task.run_call, reply_apply]
  cases (w m).value with
  | ok a => exact hcalled none
  | error e => exact (hcalled _).append_silent (hfault e.fault _)

variable {k : Connection}

/-- Reads that follow a selection follow one that was carried out. -/
theorem select (hk : k.card = some 0) {path : Path} (hp : IsKnown path)
    {onFault : Fault → Task Manager Event FileInfo}
    (hfault : ∀ f, ∃ f', Task.Replies (.error f') (onFault f))
    {g : FileInfo → Task Manager Event β} (hg : ∀ info, Converses Reads (g info)) :
    Converses Reading (Task.call (.select path) (k.select path).reply onFault >>= g) := by
  intro m
  obtain ⟨htalk, r, hchain, haccepted⟩ := Connection.select_sends hk path m
  rw [Task.run_bind, Task.run_call, reply_apply]
  cases hv : (k.select path m).value with
  | ok info =>
    have hselected : Exchanges Selects m
        (.call (.select path) none :: (k.select path m).entries.map .note)
        (k.select path m).world :=
      ⟨htalk.call _ _, path, r, hp, hchain, haccepted ⟨info, hv⟩⟩
    exact hselected.append (hg info _) fun xs ys h hy => .reading h hy
  | error e =>
    have htried : Exchanges Reading m
        (.call (.select path) (some e.fault) :: (k.select path m).entries.map .note)
        (k.select path m).world := ⟨htalk.call _ _, .selecting hp hchain⟩
    obtain ⟨f, hreplies⟩ := hfault e.fault
    obtain ⟨ls, hrun⟩ := hreplies (k.select path m).world
    simp only [Except.mapError, hrun]
    exact htried.append_still (events_logs ls)

end Converses

/-! ### Files -/

section
variable {k : Connection}

theorem replies_throw (f : Failure) :
    Task.Replies (.error f) (throw f : Task Manager Event α) := fun _ => ⟨[], rfl⟩

theorem replies_refuse (text : String) (f : Failure) :
    Task.Replies (.error f) (Task.refuse text f : Task Manager Event α) :=
  fun _ => ⟨[⟨.error, text⟩], rfl⟩

theorem converses_fragments (hk : k.card = some 0) (size reads start : Nat) :
    Converses Reads (WholeFile.fragments stack k size reads start) := by
  induction reads generalizing start with
  | zero => exact .pure .nil []
  | succ reads ih =>
    unfold WholeFile.fragments
    split
    · exact .pure .nil []
    · refine .reads (.call (fun m => Connection.readFrom_sends hk _ _ _ m) fun f => .throw rfl _)
        fun piece => ?_
      split
      · exact .pure .nil []
      · exact (ih _).bind_silent fun rest => .pure rfl _

theorem converses_read (hk : k.card = some 0) {path : Path} (hp : IsKnown path) :
    Converses Reading (WholeFile.read stack k path) := by
  refine .select hk hp (fun f => ⟨_, replies_throw _⟩) fun file => ?_
  refine .reads (.require .nil _ (.throw .nil _)) fun _ => ?_
  refine .reads (converses_fragments hk file.size file.size 0) fun content => ?_
  exact .reads (.require .nil _ (.throw .nil _)) fun _ => .pure .nil content

theorem converses_readGdo (hk : k.card = some 0) :
    Converses Reading (WholeFile.readGdo stack k) := by
  refine .select hk (.inl rfl) (fun f => ⟨_, replies_refuse _ _⟩) fun file => ?_
  refine .reads (.require .nil _ (.refuse .nil _ _)) fun _ => ?_
  refine .reads (.require .nil _ (.refuse .nil _ _)) fun _ => ?_
  refine .reads (.call (fun m => Connection.readFrom_sends hk _ _ _ m) fun f => .refuse rfl _ _)
    fun content => ?_
  exact .reads (.require .nil _ (.refuse .nil _ _)) fun _ => .pure .nil content

theorem converses_resolveSerial (hk : k.card = some 0) (application : Option String) :
    Converses Reading (WholeFile.resolveSerial stack k application) := by
  refine (converses_readGdo hk).bind_silent fun gdo => ?_
  split
  next i _ =>
    have hlogs := Converses.logAll (P := (· = [])) rfl (WholeFile.iccsnLogs i)
    exact hlogs.bind_silent fun _ => .pure rfl _
  next f _ => exact .refuse rfl _ f

theorem converses_certificate (hk : k.card = some 0) :
    Converses Reading (Dinsig.certificate stack k) :=
  (converses_read hk (.inr rfl)).recover_silent fun f => .refuse rfl _ f

theorem converses_keypair (hk : k.card = some 0) (parser : CertificateParser) (index : Nat) :
    Converses Reading (Dinsig.keypair stack parser k index) := by
  rw [Dinsig.keypair]
  split
  · refine (converses_certificate hk).bind_silent fun c => ?_
    exact (Converses.keygripOr _ _ _).bind_silent fun _ => .pure rfl _
  · exact .pure .nothing none

theorem converses_readCertificate (hk : k.card = some 0) (id : String) :
    Converses Reading (Dinsig.readCertificate stack k id) := by
  rw [Dinsig.readCertificate]
  split
  · exact converses_certificate hk
  · exact .throw .nothing _

end

/-! ### Operations -/

section
variable (t : Session Context Connection Empty)

/-- What is not bound to the card itself is the fallback. -/
theorem eq_dinsig (b : Backend Empty) : b = .dinsig := by
  rcases b with ⟨⟨⟩⟩ | _
  rfl

theorem exchanges_bind (m : Manager) :
    Exchanges (· = []) m (t.bind stack m).entries (t.bind stack m).world := by
  cases hb : t.backend with
  | some b =>
    rw [t.bind_of_bound hb]
    exact .silent m rfl
  | none =>
    obtain ⟨ls, he⟩ := t.bind_of_unbound (S := stack) hb m
    rw [he]
    have hquiet : events ((stack.bind t.connection m).entries.map .note) = [] := rfl
    refine .silent m ?_
    rw [events_call, events_append, hquiet, events_logs, List.append_nil]

theorem exchanges_of_bound {b : Backend Empty} (hb : t.backend = some b)
    (hk : t.connection.card = some 0) {op : Operation} (hop : op.binds = true) (m : Manager) :
    Exchanges Reading m (t.perform stack op m).entries (t.perform stack op m).world := by
  cases op with
  | bind =>
    rw [t.perform_bind_of_bound hb]
    exact .still .nothing m rfl
  | serial =>
    cases hs : t.serial with
    | some text =>
      rw [t.perform_serial_of_kept hb hs]
      exact .still .nothing m rfl
    | none =>
      rw [t.perform_serial_of_bound hb hs]
      exact converses_resolveSerial hk _ m
  | keypair | certificate | sign | decipher => cases hop

/-- Whatever the card answers, an operation reads one file at most. -/
theorem exchanges_perform (hk : t.connection.card = some 0) (op : Operation) (m : Manager) :
    Exchanges Reading m (t.perform stack op m).entries (t.perform stack op m).world := by
  cases hop : op.binds with
  | true =>
    rw [t.perform_of_binds hop]
    have hbound := exchanges_of_bound (t.withBackend (t.backendAfter stack m)) rfl hk hop
      (t.bind stack m).world
    exact (exchanges_bind t m).append hbound (by rintro xs ys rfl h; exact h)
  | false =>
    cases hrefusal : t.refusal? op with
    | some f =>
      obtain ⟨ls, he⟩ := t.perform_of_refusal (S := stack) hop hrefusal m
      rw [he]
      exact .still .nothing m (events_logs ls)
    | none =>
      obtain ⟨b, u, -, hlacks, hforwards, hperform⟩ := t.perform_of_passed (S := stack) hop hrefusal
      obtain ⟨ls, he⟩ := hperform m
      rw [he]
      refine .append_still ?_ (events_logs ls)
      cases eq_dinsig b
      cases hforwards with
      | keypair index => exact (converses_keypair hk t.parser index).map _ m
      | certificate id => exact (converses_readCertificate hk id).map _ m
      | sign | decipher => cases hlacks

/-- Nor do operations in any order anything but read. -/
theorem exchanges_performAll (hk : t.connection.card = some 0) (ops : List Operation)
    (m : Manager) :
    Exchanges (Lawful none) m (t.performAll stack ops m).entries
      (t.performAll stack ops m).world := by
  induction ops generalizing t m with
  | nil => exact .still trivial m rfl
  | cons op ops ih =>
    have hk' : (t.perform stack op m).value.2.connection.card = some 0 := by
      rw [(Session.goes_perform (S := stack) t op m).connection, hk]
    exact (exchanges_perform t hk op m).append (ih _ hk' _) fun xs ys h h' => h.lawful.append h'

theorem backendName_eq (t : Session Context Connection Empty) :
    t.backendName = if t.isInitialized then some "DINSIG" else none := by
  rw [Session.backendName, Session.isInitialized]
  cases t.backend with
  | none => rfl
  | some b =>
    cases eq_dinsig b
    rfl

variable {t} {op : Operation}

/-- A key is out of reach, whatever is bound. -/
theorem exists_refusal (huse : op.usesKey = true) : ∃ f, t.refusal? op = some f := by
  rw [Session.refusal?]
  cases op.flaw? with
  | some f => exact ⟨f, rfl⟩
  | none =>
    cases t.backend with
    | none => exact ⟨_, rfl⟩
    | some b =>
      have hlacks : b.lacks op = true := by
        cases eq_dinsig b
        cases op <;> first | rfl | cases huse
      exact ⟨_, if_pos hlacks⟩

theorem perform_of_usesKey (huse : op.usesKey = true) (m : Manager) :
    ∃ f, (t.perform stack op m).value.1 = .error f ∧
      requests (t.perform stack op m).entries = [] ∧
      commands (t.perform stack op m).entries = [] := by
  obtain ⟨f, hf⟩ := exists_refusal (t := t) huse
  obtain ⟨ls, he⟩ := t.perform_of_refusal (S := stack) (Operation.binds_of_usesKey huse) hf m
  rw [he]
  exact ⟨f, rfl, requests_logs ls, commands_eq_nil_of_events (events_logs ls)⟩

variable (t op)

theorem keyless_perform (m : Manager) : Keyless (requests (t.perform stack op m).entries) := by
  cases huse : op.usesKey with
  | true =>
    obtain ⟨f, -, hrequests, -⟩ := perform_of_usesKey (t := t) huse m
    rw [hrequests]
    exact .nil
  | false =>
    cases hop : op.binds with
    | true => exact Session.keyless_of_binds t hop m
    | false =>
      cases hrefusal : t.refusal? op with
      | some f =>
        obtain ⟨ls, he⟩ := t.perform_of_refusal (S := stack) hop hrefusal m
        rw [he, requests_logs]
        exact .nil
      | none =>
        obtain ⟨b, u, -, -, hforwards, hperform⟩ := t.perform_of_passed (S := stack) hop hrefusal
        obtain ⟨ls, he⟩ := hperform m
        rw [he, requests_append, requests_logs, List.append_nil]
        exact hforwards.keyless huse m

theorem keyless_performAll (ops : List Operation) (m : Manager) :
    Keyless (requests (t.performAll stack ops m).entries) := by
  induction ops generalizing t m with
  | nil => exact .nil
  | cons op ops ih =>
    simp only [Session.performAll, Action.bind_apply, requests_append]
    exact (keyless_perform t op m).append (ih _ _)

end

/-! ## The main result -/

/-- Neither opening nor closing sends anything to the card. -/
theorem lawful_run (parser : CertificateParser) (o : Options) (ops : List Operation) (s : Script) :
    Lawful none (s.start.replay (commands (Session.run stack parser o ops s.start).entries)) := by
  simp only [Session.run, Action.bind_apply]
  obtain ⟨reader, ⟨f, front, hv, -, hfront, hevents⟩ | ⟨t, hv, hopened, hevents⟩⟩ :=
    start_cases parser o s
  · have hcommands : commands ((Session.start stack parser o).run s.start).entries = [] := by
      refine commands_eq_nil fun e he => ?_
      rw [hevents] at he
      rcases List.mem_append.mp he with he | he
      · exact command?_of_mem_wanted (hfront.subset he)
      · exact Script.command?_of_mem_undoAll he
    simp only [hv, Action.pure_apply, List.append_nil, hcommands]
    trivial
  · have hcommands : commands ((Session.start stack parser o).run s.start).entries = [] := by
      refine commands_eq_nil fun e he => ?_
      rw [hevents] at he
      exact command?_of_mem_wanted he
    generalize (Session.start stack parser o).run s.start = p at *
    have hgo := Session.goes_performAll (S := stack) t ops p.world
    obtain ⟨htalk, hlawful⟩ := exchanges_performAll t hopened.connection ops p.world
    have hclosed : commands ((t.performAll stack ops p.world).value.close stack
        (t.performAll stack ops p.world).world).entries = [] := by
      refine commands_eq_nil fun e he => ?_
      rw [hopened.events_close htalk hgo.context hgo.connection] at he
      exact Script.command?_of_mem_undoAll he
    have hresponses : s.start.responses = p.world.responses := by rw [hopened.world]; rfl
    simp only [hv, Action.bind_apply, Action.pure_apply, commands_append, hcommands, hclosed,
      List.nil_append, List.append_nil, Manager.replay_congr hresponses]
    exact hlawful

theorem keyless_run (parser : CertificateParser) (o : Options) (ops : List Operation)
    (s : Script) : Keyless (requests (Session.run stack parser o ops s.start).entries) := by
  have hstart := Session.keyless_start (S := stack) parser o s.start
  simp only [Session.run, Action.bind_apply, requests_append]
  cases ((Session.start stack parser o).run s.start).value with
  | error f => exact hstart.append .nil
  | ok t =>
    simp only [Action.bind_apply, Action.pure_apply, requests_append, List.append_nil]
    exact hstart.append ((keyless_performAll t ops _).append (Session.keyless_close _ _))

/-- Whatever the manager and the card answer, the commands of a whole run are permitted one by one
and nobody is asked for a PIN. On every session that was opened, the backend is the fallback once
one is bound; an operation reads only behind a selection of its own that was carried out; and one
that would use a key fails and sends nothing. -/
theorem sessions_only_read (parser : CertificateParser) (o : Options) (s : Script) :
    let p := (Session.start stack parser o).run s.start
    (∀ ops, let es := (Session.run stack parser o ops s.start).entries
      Lawful none (s.start.replay (commands es)) ∧ Keyless (requests es)) ∧
    ∀ t, p.value = .ok t → ∀ ops es t' m, Session.Reaches stack t p.world ops es t' m →
      t'.backendName = (if ops.any Operation.binds then some "DINSIG" else none) ∧
      ∀ op, let q := t'.perform stack op m
        (∀ front c r back, m.replay (commands q.entries) = front ++ (c, r) :: back → IsRead c →
          ∃ selection later, front = selection ++ later ∧ Selects selection) ∧
        (op.usesKey = true → (∃ f, q.value.1 = .error f) ∧ commands q.entries = []) := by
  intro p
  refine ⟨fun ops => ⟨lawful_run parser o ops s, keyless_run parser o ops s⟩, ?_⟩
  intro t ht ops es t' m hreaches
  obtain ⟨reader, ⟨f, front, hv, -⟩ | ⟨t₀, hv, hopened, -⟩⟩ := start_cases parser o s
  · rw [ht] at hv
    cases hv
  rw [ht] at hv
  cases hv
  have hkept := hreaches.kept hopened.backend hopened.serial
  refine ⟨?_, fun op => ⟨?_, fun huse => ?_⟩⟩
  · have hbound : t'.isInitialized = ops.any Operation.binds := by
      rw [Bool.eq_iff_iff, hkept.bound, List.any_eq_true]
    rw [backendName_eq, hbound]
  · intro front c r back he hc
    have hk : t'.connection.card = some 0 := hkept.connection ▸ hopened.connection
    exact (exchanges_perform t' hk op m).2.selected he hc
  · obtain ⟨f, hf, -, hcommands⟩ := perform_of_usesKey (t := t') huse m
    exact ⟨⟨f, hf⟩, hcommands⟩

/-- A card with a file of the serial number. The parameters of the file are fetched separately. -/
def announcing : Script where
  readers := [⟨"Reader", true, none, none⟩]
  establish := none
  list := none
  release := none
  disconnect := none
  reconnects := []
  responses := [.ok [0x61, 0x0B],
    .ok [0x62, 0x07, 0x80, 0x02, 0x00, 0x04, 0x82, 0x01, 0x01, 0x90, 0x00],
    .ok [0x5A, 0x02, 0x12, 0x34, 0x90, 0x00]]

/-- The session that is opened on that card. -/
def announced : Session Context Connection Empty :=
  ⟨{}, fun _ => none, ⟨some 0, ["Reader"], false⟩, ⟨some 0, false⟩, none, none⟩

/-- The serial number is read behind a selection whose parameters were fetched, and a key cannot be
used after that. -/
theorem sessions_only_read_announcing :
    let p := (Session.start stack (fun _ => none) {}).run announcing.start
    let q := announced.perform stack .serial p.world
    let sign := Operation.sign "P15-5015.45" .sha1 (some fun _ => .ok "1234") [0xAB]
    p.value = .ok announced ∧ q.value.1 = .ok (.serial "1234" 0) ∧
      q.value.2.backendName = some "DINSIG" ∧
      (∃ selection later, p.world.replay (commands q.entries) = selection ++ later ++
          [((Command.readBinary 0 4).octets, .ok [0x5A, 0x02, 0x12, 0x34, 0x90, 0x00])] ∧
        Selects selection) ∧
      ∃ f, (q.value.2.perform stack sign q.world).value.1 = .error f := by
  intro p q sign
  have hp : p.value = .ok announced := rfl
  have hserial : q.value.1 = .ok (.serial "1234" 0) := by decide +kernel
  have hexchanges : p.world.replay (commands q.entries) =
      [((Command.select WholeFile.gdoPath).octets, .ok [0x61, 0x0B]),
        ((Command.getResponse 0x0B).octets,
          .ok [0x62, 0x07, 0x80, 0x02, 0x00, 0x04, 0x82, 0x01, 0x01, 0x90, 0x00])] ++
      ((Command.readBinary 0 4).octets, .ok [0x5A, 0x02, 0x12, 0x34, 0x90, 0x00]) :: [] := by
    decide +kernel
  obtain ⟨-, hsession⟩ := sessions_only_read (fun _ => none) {} announcing
  have hread := ((hsession announced hp [] [] announced p.world (.start _ _)).2 .serial).1
    _ _ _ _ hexchanges rfl
  obtain ⟨selection, later, hfront, hselects⟩ := hread
  obtain ⟨hname, hoperations⟩ := hsession announced hp [.serial] _ q.value.2 q.world
    (.perform (.start announced p.world) .serial)
  exact ⟨hp, hserial, hname, ⟨selection, later, by rw [hexchanges, hfront], hselects⟩,
    ((hoperations sign).2 rfl).1⟩

end SmartCard.Pcsc
