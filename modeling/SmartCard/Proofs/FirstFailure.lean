import SmartCard.Proofs.OperationForms
import SmartCard.Proofs.ResourceBracket
import SmartCard.Simulator.World

/-!
# The first failure decides

Most calls that fail end what made them, and so does a prompt that brings no PIN: what follows only
winds up, and the failure is read off that one entry of the journal. A bind call alone may fail
without consequence, for there is a backend for cards without an application directory. A session
whose operation failed is the session from before, but for the backend that was bound first.
-/
namespace SmartCard

section
variable {ω ε Context Connection Application α β : Type}

/-! ## Verdicts -/

namespace Entry

/-- The failure that an entry of the journal stands for. -/
def verdict? (file : Path) : Entry ε → Option Failure
  | call c (some f) => c.verdict? file f
  | prompt _ f => f
  | _ => none

/-- Notes wind up, and so does giving back what was taken while opening. -/
def Winds (opening : Bool) : Entry ε → Prop
  | call .disconnect none | call .release none => opening = true
  | note _ => True
  | _ => False

/-- No other file is selected. -/
def Opens (file : Path) : Entry ε → Prop
  | call c _ => c.Opens file
  | _ => True

variable {opening : Bool} {e : Entry ε}

theorem Winds.verdict?_eq_none (h : e.Winds opening) (file : Path) : e.verdict? file = none := by
  cases e with
  | call c f =>
    cases f with
    | none => rfl
    | some f => cases c <;> cases h
  | parse | prompt => cases h
  | note n => rfl

theorem Winds.opens (h : e.Winds opening) (file : Path) : e.Opens file := by
  cases e with
  | call c f =>
    cases c with
    | select path => cases h
    | _ => trivial
  | parse | prompt | note => trivial

end Entry

theorem eq_error_of_failureOf {r : Except Failure α} {f : Failure} (h : failureOf r = some f) :
    r = .error f := by
  cases r with
  | ok a => cases h
  | error g =>
    cases h
    rfl

/-- The first entry that stands for a failure is the last but for winding up, and its failure is
what comes of it all. -/
def EndsAtFirst (file : Path) (opening : Bool) (es : List (Entry ε)) (outcome : Option Failure) :
    Prop :=
  ∀ front e back f, es = front ++ e :: back → e.verdict? file = some f →
    outcome = some f ∧ ∀ x ∈ back, x.Winds opening

/-! ## Courses -/

/-- A journal that goes on until an entry stands for a failure. -/
inductive Course (file : Path) (opening : Bool) : List (Entry ε) → Option Failure → Prop
  | done (outcome : Option Failure) : Course file opening [] outcome
  | on {e : Entry ε} {es : List (Entry ε)} {outcome : Option Failure} (ho : e.Opens file)
      (he : e.verdict? file = none) (rest : Course file opening es outcome) :
      Course file opening (e :: es) outcome
  | failed {e : Entry ε} {es : List (Entry ε)} {f : Failure} (ho : e.Opens file)
      (he : e.verdict? file = some f) (hw : ∀ x ∈ es, x.Winds opening) :
      Course file opening (e :: es) (some f)

section
variable {file : Path} {opening : Bool} {es es' : List (Entry ε)} {outcome : Option Failure}

namespace Course

theorem append (h : Course file opening es none) (h' : Course file opening es' outcome) :
    Course file opening (es ++ es') outcome := by
  generalize hn : none = o at h
  induction h with
  | done => exact h'
  | on ho he _ ih => exact .on ho he (ih hn)
  | failed => cases hn

theorem ofWinds (h : ∀ x ∈ es, x.Winds opening) (outcome : Option Failure) :
    Course file opening es outcome := by
  induction es with
  | nil => exact .done outcome
  | cons e es ih =>
    obtain ⟨he, hes⟩ := List.forall_mem_cons.mp h
    exact .on (he.opens file) (he.verdict?_eq_none file) (ih hes)

/-- Winding up adds no failure of its own. -/
theorem append_winds (h : Course file opening es outcome) (hw : ∀ x ∈ es', x.Winds opening) :
    Course file opening (es ++ es') outcome := by
  induction h with
  | done => exact ofWinds hw _
  | on ho he _ ih => exact .on ho he ih
  | failed ho he hes =>
    exact .failed ho he fun x hx => (List.mem_append.mp hx).elim (hes x) (hw x)

theorem opens (h : Course file opening es outcome) : ∀ x ∈ es, x.Opens file := by
  induction h with
  | done => exact List.forall_mem_nil _
  | on ho _ _ ih => exact List.forall_mem_cons.mpr ⟨ho, ih⟩
  | failed ho _ hw => exact List.forall_mem_cons.mpr ⟨ho, fun x hx => (hw x hx).opens file⟩

theorem endsAtFirst (h : Course file opening es outcome) :
    EndsAtFirst file opening es outcome := by
  intro front e back f hes hf
  -- The front is followed along the course: no entry of it fails, and the first that does is `e`.
  induction h generalizing front with
  | done => simp at hes
  | on _ he _ ih =>
    cases front with
    | nil =>
      cases hes
      rw [hf] at he
      cases he
    | cons x front =>
      cases hes
      exact ih front rfl
  | failed _ he hw =>
    cases front with
    | nil =>
      cases hes
      rw [hf] at he
      cases he
      exact ⟨rfl, hw⟩
    | cons x front =>
      cases hes
      have hnone := (hw e (by simp)).verdict?_eq_none file
      rw [hf] at hnone
      cases hnone

end Course

/-! ## Pieces of work -/

theorem winds_notes (ns : List (Note ε)) : ∀ x ∈ ns.map Entry.note, x.Winds opening := by
  intro x hx
  obtain ⟨n, -, rfl⟩ := List.mem_map.mp hx
  trivial

theorem winds_logs (ls : List Log) : ∀ x ∈ ls.map (Entry.ofLog (ε := ε)), x.Winds opening := by
  intro x hx
  obtain ⟨l, -, rfl⟩ := List.mem_map.mp hx
  trivial

namespace Task

/-- The piece of work takes a course to what it answers. -/
def Decided (file : Path) (opening : Bool) (t : Task ω ε α) : Prop :=
  ∀ w, Course file opening (t.run w).entries (failureOf (t.run w).value)

/-- The piece of work fails as it is told, and only winds up. -/
def GivesUp (opening : Bool) (f : Failure) (t : Task ω ε α) : Prop :=
  ∀ w, (t.run w).value = .error f ∧ ∀ x ∈ (t.run w).entries, x.Winds opening

namespace GivesUp

variable {f : Failure}

theorem throw : GivesUp opening f (throw f : Task ω ε α) := fun _ => ⟨rfl, List.forall_mem_nil _⟩

/-- Before it fails the piece of work may wind up. -/
theorem after {x : Action ω (Entry ε) Unit} (hx : ∀ w, ∀ e ∈ (x w).entries, e.Winds opening)
    {t : Task ω ε α} (ht : GivesUp opening f t) :
    GivesUp opening f (do Task.ofAction x; t) := by
  intro w
  rw [run_bind, run_ofAction]
  exact ⟨(ht _).1, fun e he => (List.mem_append.mp he).elim (hx w e) ((ht _).2 e)⟩

theorem log (level : Level) (text : String) {t : Task ω ε α} (ht : GivesUp opening f t) :
    GivesUp opening f (do Task.log level text; t) :=
  .after (fun _ => winds_logs [⟨level, text⟩]) ht

theorem refuse (text : String) : GivesUp opening f (refuse text f : Task ω ε α) :=
  .log .error text .throw

/-- Giving back cannot fail. -/
theorem makeSure {c : Call} (hc : c = .disconnect ∨ c = .release) (r : Action ω (Note ε) Unit)
    {t : Task ω ε α} (ht : GivesUp true f t) :
    GivesUp true f (do Task.ofAction (c.makeSure r); t) := by
  refine .after (fun _ => List.forall_mem_cons.mpr ⟨?_, winds_notes _⟩) ht
  rcases hc with rfl | rfl <;> rfl

end GivesUp

namespace Decided

theorem pure (a : α) : Decided file opening (pure a : Task ω ε α) := fun _ => .done _

theorem throw (f : Failure) : Decided file opening (throw f : Task ω ε α) := fun _ => .done _

theorem ofAction {x : Action ω (Entry ε) α} (hx : ∀ w, ∀ e ∈ (x w).entries, e.Winds opening) :
    Decided file opening (Task.ofAction x) := by
  intro w
  rw [run_ofAction]
  exact .ofWinds (hx w) _

theorem logAll (ls : List Log) : Decided file opening (logAll ls : Task ω ε Unit) :=
  .ofAction fun _ => winds_logs ls

theorem refuse (text : String) (f : Failure) :
    Decided file opening (refuse text f : Task ω ε α) :=
  fun w => .ofWinds (GivesUp.refuse text w).2 _

theorem bind {t : Task ω ε α} {g : α → Task ω ε β} (ht : Decided file opening t)
    (hg : ∀ a, Decided file opening (g a)) : Decided file opening (t >>= g) := by
  intro w
  have h := ht w
  rw [run_bind]
  cases hv : (t.run w).value with
  | ok a =>
    rw [hv] at h
    exact h.append (hg a _)
  | error f =>
    rw [hv] at h
    exact h

/-- A failure may be reported on the way, but stays what it is. -/
theorem recover {t : Task ω ε α} {g : Failure → Task ω ε α} (ht : Decided file opening t)
    (hg : ∀ f, GivesUp opening f (g f)) : Decided file opening (recover t g) := by
  intro w
  have h := ht w
  rw [run_recover]
  cases hv : (t.run w).value with
  | ok a =>
    rw [hv] at h
    exact h
  | error f =>
    rw [hv] at h
    obtain ⟨hf, hw⟩ := hg f (t.run w).world
    dsimp only
    rw [hf]
    exact h.append_winds hw

theorem require (condition : Bool) {t : Task ω ε Unit} (ht : Decided file opening t) :
    Decided file opening (require condition t) := by
  cases condition with
  | true => exact .pure ()
  | false => exact ht

theorem prompt (ask : PinCallback) (text : String) :
    Decided file opening (prompt ask text : Task ω ε String) := by
  intro w
  rw [run_prompt]
  cases ask text with
  | ok pin => exact .on trivial rfl (.done _)
  | error f => exact .failed trivial rfl (List.forall_mem_nil _)

theorem keygripOr (text : String) (parser : CertificateParser) (certificate : Octets) :
    Decided file opening (keygripOr text parser certificate : Task ω ε _) := by
  apply bind
  · exact fun w => .on trivial rfl (.done _)
  · intro _
    cases parser.keygrip certificate with
    | ok g => exact .pure g
    | error f => exact .refuse text f

/-- The fault of a call is the failure that it stands for. -/
theorem call {c : Call} {r : Reply ω ε α} {g : Fault → Task ω ε α} (failure : Fault → Failure)
    (hc : c.Opens file) (hv : ∀ f, c.verdict? file f = some (failure f))
    (hg : ∀ f, GivesUp opening (failure f) (g f)) : Decided file opening (call c r g) := by
  intro w
  rw [run_call]
  cases h : (r w).value with
  | ok a => exact .on hc rfl (.ofWinds (winds_notes _) _)
  | error f =>
    obtain ⟨hf, hw⟩ := hg f (r w).world
    dsimp only
    rw [hf]
    exact .failed hc (hv f) fun x hx =>
      (List.mem_append.mp hx).elim (winds_notes _ x) (hw x)

theorem callThrough {c : Call} {r : Reply ω ε α} (hc : c.Opens file)
    (hv : ∀ f, c.verdict? file f = some (.ofFault f)) :
    Decided file opening (callThrough c r) := .call _ hc hv fun _ => .throw

theorem callOr {text : String} {failure : Fault → Failure} {c : Call} {r : Reply ω ε α}
    (hc : c.Opens file) (hv : ∀ f, c.verdict? file f = some (failure f)) :
    Decided file opening (callOr text failure c r) := .call _ hc hv fun _ => .refuse _

theorem logged {t : Task ω ε α} (ls : Except Failure α → List Log)
    (ht : Decided file opening t) :
    Decided file opening (ExceptT.mk do
      let r ← t.run
      Action.writeAll ((ls r).map .ofLog)
      return r) := by
  intro w
  simpa using (ht w).append_winds (winds_logs _)

end Decided

/-- Every form takes a course. -/
theorem Built.decided {bound asked : Bool} {t : Task ω ε α} (h : Built file bound asked t) :
    Decided file opening t := by
  induction h with
  | pure a => exact .pure a
  | throw => exact .throw _
  | logAll ls => exact .logAll ls
  | callThrough hc hv => exact .callThrough hc hv
  | callOr hc hv => exact .callOr hc hv
  | prompt ask text => exact .prompt ask text
  | keygripOr text parser certificate => exact .keygripOr text parser certificate
  | bind _ _ iht ihg => exact .bind iht ihg
  | after _ _ _ iht ihg => exact .bind iht ihg
  | report text _ ih => exact .recover ih fun _ => .refuse _
  | logged ls _ ih => exact .logged ls ih

end Task

end

/-! ## Sessions -/

namespace Session

variable {S : Stack ω ε Context Connection Application}
  (s : Session Context Connection Application) {file : Path} {opening : Bool}

/-! ### Opening -/

theorem decided_lockCard (o : Options) (k : Connection) :
    Task.Decided file true (lockCard S o k) := by
  refine .bind (.logAll _) fun _ => ?_
  exact .call .ofFault trivial (fun _ => rfl) fun f =>
    .log _ _ (.makeSure (.inl rfl) _ .throw)

theorem decided_connect (o : Options) (c : Context) :
    Task.Decided file true (connect S o c) := by
  refine .bind (.ofAction fun _ => List.forall_mem_nil _) fun count => ?_
  refine .bind (.require _ (.refuse _ _)) fun _ => ?_
  refine .bind (.call _ trivial (fun _ => rfl) fun _ => .throw) fun present => ?_
  refine .bind (.require _ (.throw _)) fun _ => ?_
  refine .bind (.callOr trivial fun _ => rfl) fun k => ?_
  exact .bind (decided_lockCard o k) fun _ => .pure k

theorem decided_start (parser : CertificateParser) (o : Options) :
    Task.Decided file true (start S parser o) := by
  refine .bind (.callOr trivial fun _ => rfl) fun c => ?_
  refine .bind (.recover (decided_connect o c) fun f => ?_) fun k => .pure _
  exact .makeSure (.inr rfl) _ .throw

/-! ### Operations -/

/-- A bind call stands for no failure. -/
theorem course_bind (w : ω) : Course file opening (s.bind S w).entries none := by
  cases hb : s.backend with
  | some b =>
    rw [bind_of_bound s hb]
    exact .done none
  | none =>
    obtain ⟨ls, he⟩ := bind_of_unbound (S := S) s hb w
    rw [he]
    refine .on trivial ?_ (.append_winds (.ofWinds (winds_notes _) _) (winds_logs ls))
    cases (S.bind s.connection w).value <;> rfl

/-- The course of an operation: its bind call, if it makes one, and then its piece of work. -/
theorem course_perform (op : Operation) (w : ω) :
    Course op.file opening (s.perform S op w).entries (failureOf (s.perform S op w).value.1) := by
  obtain ⟨α, t, w', ht, hes, hv⟩ := s.exists_built (S := S) (ε := ε) op w
  rw [hes, hv]
  refine .append ?_ (ht.decided w')
  cases op.binds with
  | true => exact course_bind s w
  | false => exact .done none

theorem session_of_serial_error {b : Backend Application} (hb : s.backend = some b) {w : ω}
    {f : Failure} (hf : (s.perform S .serial w).value.1 = .error f) :
    (s.perform S .serial w).value.2 = s := by
  cases hs : s.serial with
  | some text => rw [perform_serial_of_kept s hb hs]
  | none =>
    rw [perform_serial_of_bound s hb hs] at hf ⊢
    generalize (WholeFile.resolveSerial S s.connection (b.applicationSerial S w)).run w = o at hf ⊢
    obtain ⟨v, w', es⟩ := o
    cases v with
    | ok text => cases hf
    | error f => rfl

/-- The session after an operation that failed: a backend may have been bound first. -/
def afterError (S : Stack ω ε Context Connection Application)
    (s : Session Context Connection Application) (op : Operation) (w : ω) :
    Session Context Connection Application :=
  if op.binds then s.withBackend (s.backendAfter S w) else s

theorem session_eq_afterError {op : Operation} {w : ω} {f : Failure}
    (hf : (s.perform S op w).value.1 = .error f) :
    (s.perform S op w).value.2 = s.afterError S op w := by
  cases op with
  | bind => cases hf
  | serial =>
    rw [perform_of_binds s rfl] at hf ⊢
    dsimp only at hf
    exact session_of_serial_error _ rfl hf
  | keypair | certificate | sign | decipher => rfl

/-- Where the card cannot be bound the session goes on with the backend for such cards. -/
theorem perform_of_bind_error {op : Operation} (hop : op.binds = true) (hb : s.backend = none)
    {w : ω} {f : Fault} (hf : (S.bind s.connection w).value = .error f) :
    let p := (s.withBackend .dinsig).perform S op (S.bind s.connection w).world
    ∃ ls : List Log, s.perform S op w =
      ⟨p.value, p.world, .call .bind (some f) ::
        ((S.bind s.connection w).entries.map .note ++ ls.map .ofLog ++ p.entries)⟩ := by
  obtain ⟨ls, he⟩ := bind_of_unbound (S := S) s hb w
  refine ⟨ls, ?_⟩
  rw [perform_of_binds s hop, backendAfter_of_unbound s hb, he, hf]
  rfl

end Session

/-! ## The main result -/

/-- Whatever the driver answers, the first call or prompt that fails decides how opening and every
operation end, but for a bind call that fails, after which the session goes on without an
application directory. Operations neither take the lock nor give anything back. Those that fail
leave the session as it was, but for the backend that was bound first. -/
theorem first_failure_decides (S : Stack ω ε Context Connection Application) :
    (∀ (parser : CertificateParser) (o : Options) (file : Path) (w : ω),
      let p := (Session.start S parser o).run w
      EndsAtFirst file true p.entries (failureOf p.value)) ∧
    ∀ (s : Session Context Connection Application) (op : Operation) (w : ω),
      let p := s.perform S op w
      EndsAtFirst op.file false p.entries (failureOf p.value.1) ∧
        (∀ e ∈ p.entries, e.Opens op.file) ∧
        (∀ m ∈ trace p.entries, m.1.needsLock = true) ∧
        (∀ f, p.value.1 = .error f → p.value.2 = s.afterError S op w) ∧
        (∀ f, op.binds = true → s.backend = none → (S.bind s.connection w).value = .error f →
          let p' := (s.withBackend .dinsig).perform S op (S.bind s.connection w).world
          ∃ ls : List Log, p = ⟨p'.value, p'.world, .call .bind (some f) ::
            ((S.bind s.connection w).entries.map .note ++ ls.map .ofLog ++ p'.entries)⟩) := by
  refine ⟨fun parser o file w => (Session.decided_start parser o w).endsAtFirst, ?_⟩
  intro s op w p
  have hcourse : Course op.file false p.entries (failureOf p.value.1) :=
    Session.course_perform s op w
  refine ⟨hcourse.endsAtFirst, hcourse.opens, ?_, ?_, ?_⟩
  · exact (Session.goes_perform (S := S) s op w).work.needsLock
  · exact fun f hf => Session.session_eq_afterError s hf
  · exact fun f hop hb hf => Session.perform_of_bind_error s hop hb hf

end

namespace Simulator

/-- A card without an application directory and without files. -/
def bare : Card := ⟨true, [], none, []⟩

/-- A session on the first reader that has bound nothing yet. -/
def unbound : Session Unit Connection Application := ⟨{}, parser, (), ⟨0, 0⟩, none, none⟩

/-- A card that is gone when its files are to be selected. -/
def removed : Card := ⟨true, [], none, [(.select, ⟨.cardRemoved, "card removed"⟩)]⟩

/-- The serial number of a bare card: a bind call that fails is of no consequence, a selection is.
Where a card was removed the certificate file cannot be selected, and the operation says why. -/
theorem first_failure_decides_bare :
    let w := World.ofCards [some bare] none
    let p := unbound.perform stack .serial w
    let noDirectory : Fault := ⟨.applicationNotFound, "application not found"⟩
    let noFile : Fault := ⟨.fileNotFound, "file not found"⟩
    let noCard : Fault := ⟨.cardRemoved, "card removed"⟩
    let q := (unbound.withBackend .dinsig).perform stack (.certificate Dinsig.certId)
      (World.ofCards [some removed] none)
    (trace p.entries = [(.bind, some noDirectory), (.select WholeFile.gdoPath, some noFile)] ∧
      p.value = (.error .cardError, unbound.withBackend .dinsig) ∧
      p.value = ((unbound.withBackend .dinsig).perform stack .serial w).value) ∧
    trace q.entries = [(.select Dinsig.certPath, some noCard)] ∧
      q.value = (.error .cardRemoved, unbound.withBackend .dinsig) := by
  intro w p noDirectory noFile noCard q
  constructor
  · obtain ⟨hends, -, -, hafter, hgoes⟩ := (first_failure_decides stack).2 unbound .serial w
    have hentries : p.entries =
        [.call .bind (some noDirectory),
          .ofLog ⟨.debug, "using the DINSIG backend in reader 0"⟩] ++
        .call (.select WholeFile.gdoPath) (some noFile) ::
          [.ofLog ⟨.error, "select of the GDO file failed: file not found"⟩] := by
      decide +kernel
    have hvalue := eq_error_of_failureOf (hends _ _ _ .cardError hentries rfl).1
    obtain ⟨ls, hp⟩ := hgoes noDirectory rfl rfl rfl
    have hrest := congrArg Outcome.value hp
    exact ⟨by rw [hentries]; rfl, Prod.ext hvalue (hafter _ hvalue), hrest⟩
  · obtain ⟨hends, -, -, hafter, -⟩ := (first_failure_decides stack).2
      (unbound.withBackend .dinsig) (.certificate Dinsig.certId) (World.ofCards [some removed] none)
    have hentries : q.entries = [] ++ .call (.select Dinsig.certPath) (some noCard) ::
        [.ofLog ⟨.error, "failed to read the certificate file 3F00DF01C000: Card removed"⟩,
          .ofLog ⟨.debug, "card operation read_cert result: Card removed"⟩] := by
      decide +kernel
    have hvalue := eq_error_of_failureOf (hends _ _ _ .cardRemoved hentries rfl).1
    exact ⟨by rw [hentries]; rfl, Prod.ext hvalue (hafter _ hvalue)⟩

end Simulator

end SmartCard
