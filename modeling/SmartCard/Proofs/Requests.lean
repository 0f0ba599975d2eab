import SmartCard.Proofs.OperationGuards

/-!
# Requests

A session makes requests: it calls its driver and it asks the cardholder. Each request is granted or
not. Work that has nothing to do with keys signs and deciphers nothing and does not ask for a PIN,
whatever the driver answers; opening and closing a session is such work, and so are all operations
but two.
-/
namespace SmartCard

variable {ω ε Context Connection Application α β : Type}

/-- The key that a call uses. -/
def Call.usedKey? : Call → Option Octets
  | sign id .. | decipher id _ => some id
  | _ => none

inductive Request
  | call (c : Call)
  | prompt (text : String)
  deriving DecidableEq

namespace Request

def isPrompt : Request → Bool
  | call _ => false
  | prompt _ => true

/-- The key that a request uses. -/
def usedKey? : Request → Option Octets
  | call c => c.usedKey?
  | prompt _ => none

end Request

/-- The request of an entry, and whether it was granted. -/
def Entry.request? : Entry ε → Option (Request × Bool)
  | call c f => some (.call c, f.isNone)
  | prompt text f => some (.prompt text, f.isNone)
  | parse _ | note _ => none

/-- The requests of a journal, in their order. -/
def requests (es : List (Entry ε)) : List (Request × Bool) := es.filterMap Entry.request?

section
variable (es es' : List (Entry ε))

@[simp] theorem requests_nil : requests ([] : List (Entry ε)) = [] := rfl

@[simp] theorem requests_append : requests (es ++ es') = requests es ++ requests es' :=
  List.filterMap_append

@[simp] theorem requests_call (c : Call) (f : Option Fault) :
    requests (.call c f :: es) = (.call c, f.isNone) :: requests es := rfl

@[simp] theorem requests_prompt (text : String) (f : Option Failure) :
    requests (.prompt text f :: es) = (.prompt text, f.isNone) :: requests es := rfl

@[simp] theorem requests_notes (ns : List (Note ε)) : requests (ns.map .note) = [] := by
  induction ns with
  | nil => rfl
  | cons n ns ih => exact ih

@[simp] theorem requests_logs (ls : List Log) :
    requests (ls.map .ofLog : List (Entry ε)) = [] := by
  induction ls with
  | nil => rfl
  | cons l ls ih => exact ih

end

/-! ## Work without keys -/

/-- No key is used, and no PIN is asked for. -/
def Keyless (rs : List (Request × Bool)) : Prop :=
  ∀ q ∈ rs, q.1.usedKey? = none ∧ q.1.isPrompt = false

namespace Keyless

variable {rs rs' : List (Request × Bool)}

theorem nil : Keyless [] := List.forall_mem_nil _

theorem append (h : Keyless rs) (h' : Keyless rs') : Keyless (rs ++ rs') :=
  fun q hq => (List.mem_append.mp hq).elim (h q) (h' q)

theorem call {c : Call} (hc : c.usedKey? = none) (granted : Bool) (h : Keyless rs) :
    Keyless ((.call c, granted) :: rs) := List.forall_mem_cons.mpr ⟨⟨hc, rfl⟩, h⟩

theorem makeSure {c : Call} (hc : c.usedKey? = none) (r : Action ω (Note ε) Unit) (w : ω) :
    Keyless (requests (c.makeSure r w).entries) := by
  rw [Call.makeSure, requests_call, requests_notes]
  exact .call hc _ .nil

end Keyless

namespace Task

@[simp] theorem requests_callOr (text : String) (failure : Fault → Failure) (c : Call)
    (r : Reply ω ε α) (w : ω) :
    requests ((callOr text failure c r).run w).entries =
      [(.call c, (faultOf (r w).value).isNone)] := by
  rw [callOr, run_call]
  cases (r w).value with
  | ok a => exact congrArg (_ :: ·) (requests_notes _)
  | error f =>
    dsimp only
    rw [List.cons_append, requests_call, requests_append, requests_notes]
    rfl

/-- The piece of work has nothing to do with keys. -/
def Keyless (t : Task ω ε α) : Prop := ∀ w, SmartCard.Keyless (requests (t.run w).entries)

namespace Keyless

theorem pure (a : α) : Keyless (pure a : Task ω ε α) := fun _ => .nil

theorem throw (f : Failure) : Keyless (throw f : Task ω ε α) := fun _ => .nil

theorem ofExcept (r : Except Failure α) : Keyless (liftM r : Task ω ε α) := fun _ => .nil

theorem ofAction {x : Action ω (Entry ε) α}
    (hx : ∀ w, SmartCard.Keyless (requests (x w).entries)) : Keyless (Task.ofAction x) := by
  intro w
  rw [run_ofAction]
  exact hx w

theorem logAll (ls : List Log) : Keyless (logAll ls : Task ω ε Unit) := by
  intro w
  rw [run_logAll, requests_logs]
  exact .nil

theorem log (level : Level) (text : String) : Keyless (log level text : Task ω ε Unit) :=
  logAll [⟨level, text⟩]

theorem refuse (text : String) (f : Failure) : Keyless (refuse text f : Task ω ε α) :=
  fun _ => .nil

theorem bind {t : Task ω ε α} {g : α → Task ω ε β} (ht : Keyless t) (hg : ∀ a, Keyless (g a)) :
    Keyless (t >>= g) := by
  intro w
  rw [run_bind]
  cases (t.run w).value with
  | ok a =>
    rw [requests_append]
    exact (ht w).append (hg a _)
  | error f => exact ht w

theorem map {t : Task ω ε α} (ht : Keyless t) (g : α → β) : Keyless (g <$> t) := by
  intro w
  rw [run_map]
  exact ht w

theorem recover {t : Task ω ε α} {g : Failure → Task ω ε α} (ht : Keyless t)
    (hg : ∀ f, Keyless (g f)) : Keyless (recover t g) := by
  intro w
  rw [run_recover]
  cases (t.run w).value with
  | ok a => exact ht w
  | error f =>
    rw [requests_append]
    exact (ht w).append (hg f _)

theorem require (condition : Bool) {t : Task ω ε Unit} (ht : Keyless t) :
    Keyless (require condition t) := by
  cases condition with
  | true => exact .pure ()
  | false => exact ht

theorem call {c : Call} {r : Reply ω ε α} {g : Fault → Task ω ε α} (hc : c.usedKey? = none)
    (hg : ∀ f, Keyless (g f)) : Keyless (call c r g) := by
  intro w
  rw [run_call]
  cases (r w).value with
  | ok a =>
    rw [requests_call, requests_notes]
    exact .call hc _ .nil
  | error f =>
    dsimp only
    rw [List.cons_append, requests_call, requests_append, requests_notes, List.nil_append]
    exact .call hc _ (hg f _)

theorem callThrough {c : Call} (r : Reply ω ε α) (hc : c.usedKey? = none) :
    Keyless (callThrough c r) := .call hc fun _ => .throw _

theorem callOr (text : String) (failure : Fault → Failure) {c : Call} (r : Reply ω ε α)
    (hc : c.usedKey? = none) : Keyless (callOr text failure c r) := .call hc fun _ => .refuse _ _

theorem keygripOr (text : String) (parser : CertificateParser) (certificate : Octets) :
    Keyless (keygripOr text parser certificate : Task ω ε _) := by
  refine .bind (.ofAction fun _ => .nil) fun _ => ?_
  cases parser.keygrip certificate with
  | ok g => exact .pure g
  | error f => exact .refuse text f

end Keyless

end Task

/-! ### Files and backends -/

section
variable {S : Stack ω ε Context Connection Application} {k : Connection} {a : Application}

namespace WholeFile

theorem keyless_fragments (size reads start : Nat) :
    Task.Keyless (fragments S k size reads start) := by
  induction reads generalizing start with
  | zero => exact .pure []
  | succ reads ih =>
    unfold fragments
    split
    · exact .pure []
    · refine .bind (.callThrough _ rfl) fun piece => ?_
      split
      · exact .pure []
      · exact .bind (ih _) fun _ => .pure _

theorem keyless_read (path : Path) : Task.Keyless (read S k path) := by
  refine .bind (.callThrough _ rfl) fun file => ?_
  refine .bind (.require _ (.throw .cardError)) fun _ => ?_
  refine .bind (keyless_fragments file.size file.size 0) fun content => ?_
  exact .bind (.require _ (.throw .cardError)) fun _ => .pure content

theorem keyless_readGdo : Task.Keyless (readGdo S k) := by
  refine .bind (.callOr _ _ _ rfl) fun file => ?_
  refine .bind (.require _ (.refuse _ _)) fun _ => ?_
  refine .bind (.require _ (.refuse _ _)) fun _ => ?_
  refine .bind (.callOr _ _ _ rfl) fun content => ?_
  exact .bind (.require _ (.refuse _ _)) fun _ => .pure content

theorem keyless_resolveSerial (application : Option String) :
    Task.Keyless (resolveSerial S k application) := by
  refine .bind keyless_readGdo fun gdo => ?_
  split
  · exact .bind (.logAll _) fun _ => .pure _
  · exact .refuse _ _

end WholeFile

namespace Pkcs15

theorem keyless_certificate (id : Octets) : Task.Keyless (certificate S a id) :=
  .callOr _ _ _ rfl

theorem keyless_keypair (parser : CertificateParser) (index : Nat) :
    Task.Keyless (keypair S parser a index) := by
  refine .bind (.callOr _ _ _ rfl) fun keys => ?_
  split
  · exact .pure none
  · refine .bind (keyless_certificate _) fun c => ?_
    split
    · exact .bind (.log _ _) fun _ => .throw _
    · exact .bind (.keygripOr _ _ _) fun _ => .pure _

theorem keyless_readCertificate (certId : String) :
    Task.Keyless (readCertificate S a certId) := by
  refine .bind (.ofExcept _) fun id => ?_
  refine .bind (keyless_certificate id) fun c => ?_
  split
  · exact .pure _
  · exact .refuse _ _

end Pkcs15

namespace Dinsig

theorem keyless_certificate : Task.Keyless (certificate S k) :=
  .recover (WholeFile.keyless_read _) fun f => .refuse _ f

theorem keyless_keypair (parser : CertificateParser) (index : Nat) :
    Task.Keyless (keypair S parser k index) := by
  rw [keypair]
  split
  · refine .bind keyless_certificate fun c => ?_
    exact .bind (.keygripOr _ _ _) fun _ => .pure _
  · exact .pure none

theorem keyless_readCertificate (id : String) : Task.Keyless (readCertificate S k id) := by
  rw [readCertificate]
  split
  · exact keyless_certificate
  · exact .throw _

end Dinsig

/-! ### Sessions -/

namespace Session

variable (s : Session Context Connection Application)

theorem keyless_start (parser : CertificateParser) (o : Options) :
    Task.Keyless (start S parser o) := by
  refine .bind (.callOr _ _ _ rfl) fun c => ?_
  refine .bind (.recover ?_ fun f => ?_) fun k => .pure _
  · refine .bind (.ofAction fun _ => .nil) fun count => ?_
    refine .bind (.require _ (.refuse _ _)) fun _ => ?_
    refine .bind (.call rfl fun _ => .throw _) fun present => ?_
    refine .bind (.require _ (.throw _)) fun _ => ?_
    refine .bind (.callOr _ _ _ rfl) fun k => ?_
    refine .bind (.bind (.logAll _) fun _ => .call rfl fun f => ?_) fun _ => .pure k
    exact .bind (.log _ _) fun _ => .bind (.ofAction (.makeSure rfl _)) fun _ => .throw _
  · exact .bind (.ofAction (.makeSure rfl _)) fun _ => .throw _

theorem keyless_close (w : ω) : Keyless (requests (s.close S w).entries) := by
  have hunbind : Keyless (requests (Backend.unbind S s.backend w).entries) := by
    rcases s.backend with _ | a | _
    · exact .nil
    · exact .makeSure rfl _ w
    · exact .nil
  simp only [close, Action.bind_apply, requests_append]
  exact hunbind.append ((Keyless.makeSure rfl _ _).append
    ((Keyless.makeSure rfl _ _).append (.makeSure rfl _ _)))

theorem keyless_bind (w : ω) : Keyless (requests (s.bind S w).entries) := by
  cases hb : s.backend with
  | some b =>
    rw [bind_of_bound s hb]
    exact .nil
  | none =>
    obtain ⟨ls, he⟩ := bind_of_unbound (S := S) s hb w
    rw [he]
    dsimp only
    rw [requests_call, requests_append, requests_notes, requests_logs]
    exact .call rfl _ .nil

theorem keyless_of_bound {b : Backend Application} (hb : s.backend = some b) {op : Operation}
    (hop : op.binds = true) (w : ω) : Keyless (requests (s.perform S op w).entries) := by
  cases op with
  | bind =>
    rw [perform_bind_of_bound s hb]
    exact .nil
  | serial =>
    cases hs : s.serial with
    | some text =>
      rw [perform_serial_of_kept s hb hs]
      exact .nil
    | none =>
      rw [perform_serial_of_bound s hb hs]
      exact WholeFile.keyless_resolveSerial _ w
  | keypair | certificate | sign | decipher => cases hop

theorem keyless_of_binds {op : Operation} (hop : op.binds = true) (w : ω) :
    Keyless (requests (s.perform S op w).entries) := by
  rw [perform_of_binds s hop]
  dsimp only
  rw [requests_append]
  exact (keyless_bind s w).append (keyless_of_bound _ rfl hop _)

end Session

end

end SmartCard
