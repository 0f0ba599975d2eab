import SmartCard.Proofs.CertificateRetrieval
import SmartCard.Proofs.OperationForms
import SmartCard.Proofs.ResourceBracket

/-!
# A backend is bound once

Over any operations, and whatever happens to the card meanwhile, a session keeps what it took when
it was opened. It asks to bind an application at most once, the answer decides on its backend, and
the backend stays. Only operations that bind change a session at all. What a session complains about
without being told by the card or the cardholder, it complains about for a reason of its own.
-/
namespace SmartCard

section
variable {ω ε Context Connection Application α β : Type}

/-! ## Bind calls -/

/-- The bind calls of a trace. -/
def bindCalls (t : Trace) : Trace := t.filter fun m => m.1 = .bind

@[simp] theorem bindCalls_append (t t' : Trace) :
    bindCalls (t ++ t') = bindCalls t ++ bindCalls t' := List.filter_append t t'

theorem mem_bindCalls {t : Trace} {f : Option Fault} :
    (.bind, f) ∈ bindCalls t ↔ (.bind, f) ∈ t := by
  simp [bindCalls]

theorem times_bind (t : Trace) : times .bind t = (bindCalls t).length :=
  List.countP_eq_length_filter

/-- The bind calls that lead to a backend: none, or one whose answer decides on it. -/
inductive Binding : Option (Backend Application) → Trace → Prop
  | unbound {t : Trace} (ht : bindCalls t = []) : Binding none t
  | bound {t : Trace} (v : Except Fault Application) (ht : bindCalls t = [(.bind, faultOf v)]) :
      Binding (some (.ofAnswer v)) t

section
variable {S : Stack ω ε Context Connection Application} {k : Connection}
  {b b' : Option (Backend Application)} {w w' : ω} {es : List (Entry ε)} {t : Trace}

/-- Work keeps the backend and makes no bind call, or makes one and has bound nothing before. -/
theorem Work.bindCalls_eq (h : Work S k b w es b' w') :
    (b' = b ∧ bindCalls (trace es) = []) ∨
      b = none ∧ ∃ v : Except Fault Application,
        b' = some (.ofAnswer v) ∧ bindCalls (trace es) = [(.bind, faultOf v)] := by
  -- Behind a call or a bind call a backend is bound, which rules out the second case there.
  induction h with
  | done => exact .inl ⟨rfl, rfl⟩
  | quiet he _ ih => rwa [trace_of_quiet he]
  | call hc _ ih =>
    rcases ih with ⟨rfl, ht⟩ | ⟨hnone, -⟩
    · exact .inl ⟨rfl, by simpa [bindCalls, hc.ne_bind] using ht⟩
    · cases hnone
  | bind _ ih =>
    rcases ih with ⟨rfl, ht⟩ | ⟨hnone, -⟩
    · exact .inr ⟨rfl, _, rfl, by simpa [bindCalls] using ht⟩
    · cases hnone

theorem Binding.congr {t' : Trace} (h : Binding b t) (ht : bindCalls t' = bindCalls t) :
    Binding b t' := by
  cases h with
  | unbound h => exact .unbound (ht.trans h)
  | bound v h => exact .bound v (ht.trans h)

theorem Binding.append (h : Binding b t) (hw : Work S k b w es b' w') :
    Binding b' (t ++ trace es) := by
  rcases hw.bindCalls_eq with ⟨rfl, hes⟩ | ⟨rfl, v, rfl, hes⟩
  · exact h.congr (by rw [bindCalls_append, hes, List.append_nil])
  · cases h with
    | unbound ht => exact .bound v (by rw [bindCalls_append, ht, hes, List.nil_append])

/-- No bind call is made while opening. -/
theorem Binding.behind_opening (h : Binding b t) (o : Options) : Binding b (opening o ++ t) :=
  h.congr (bindCalls_append (opening o) t)

theorem Binding.times_le (h : Binding b t) : times .bind t ≤ 1 := by
  rw [times_bind]
  cases h with
  | unbound ht => simp [ht]
  | bound v ht => simp [ht]

/-- The name of the backend tells how the bind call ended. -/
theorem Binding.name_iff (h : Binding b t) :
    (b.map Backend.name = some "PKCS#15" ↔ (.bind, none) ∈ t) ∧
      (b.map Backend.name = some "DINSIG" ↔ ∃ f, (.bind, some f) ∈ t) := by
  simp only [← mem_bindCalls (t := t)]
  cases h with
  | unbound ht => simp [ht]
  | bound v ht =>
    cases v with
    | ok a => simp [ht, faultOf, Backend.ofAnswer, Backend.name]
    | error f => simp [ht, faultOf, Backend.ofAnswer, Backend.name]

end

/-- Opening takes the lock, and work on the card gives nothing back. -/
theorem locked_behind_opening (o : Options) {t : Trace} (ht : ∀ m ∈ t, m.1.needsLock = true) :
    successes (· = .lock) (opening o ++ t) = 1 ∧
      ∀ m ∈ opening o ++ t, m.1.isTeardown = false := by
  have hlock : successes (· = .lock) (opening o) = 1 := rfl
  have hwork : successes (· = .lock) t = 0 := by
    apply successes_eq_zero ht
    intro c hc
    cases c <;> simp_all [Call.needsLock]
  have hopening : ∀ m ∈ opening o, m.1.isTeardown = false := by
    simp [opening, Options.establish, Call.isTeardown]
  refine ⟨by rw [successes_append, hlock, hwork], fun m hm => ?_⟩
  rcases List.mem_append.mp hm with hfront | hback
  · exact hopening m hfront
  · exact Call.not_teardown_of_needsLock (ht m hback)

/-! ## Failures and what they are owed to -/

/-- The journal accounts for what came of it: the lack of a backend is a fact or the cardholder's
word, and the card was asked before it is complained about. -/
def Accounts (bound asked : Bool) (es : List (Entry ε)) (outcome : Option Failure) : Prop :=
  (outcome = some .notInitialized →
      bound = false ∨ ∃ text, Entry.prompt text (some .notInitialized) ∈ es) ∧
    (outcome = some .cardError → asked = true ∨ trace es ≠ [])

section
variable {bound asked : Bool} {es es' : List (Entry ε)} {outcome : Option Failure}

namespace Accounts

theorem none : Accounts bound asked es none := ⟨nofun, nofun⟩

theorem ofOwn {f : Failure} (hf : f.Own bound asked) : Accounts bound asked es (some f) :=
  ⟨fun h => .inl (hf.1 (Option.some.inj h)), fun h => .inl (hf.2 (Option.some.inj h))⟩

theorem ofCall {c : Call} {f : Option Fault} (h : outcome ≠ some .notInitialized) :
    Accounts bound asked (.call c f :: es) outcome :=
  ⟨fun h' => absurd h' h, fun _ => .inr (List.cons_ne_nil _ _)⟩

theorem mono {es' : List (Entry ε)} (h : Accounts bound asked es outcome) (hes : ∀ e ∈ es, e ∈ es')
    (ht : trace es ≠ [] → trace es' ≠ []) : Accounts bound asked es' outcome :=
  ⟨fun ho => (h.1 ho).imp_right fun ⟨text, hm⟩ => ⟨text, hes _ hm⟩,
    fun ho => (h.2 ho).imp_right ht⟩

theorem append_right (h : Accounts bound asked es outcome) (es' : List (Entry ε)) :
    Accounts bound asked (es ++ es') outcome := by
  refine h.mono (fun e he => List.mem_append_left _ he) fun ht => ?_
  rw [trace_append]
  exact List.append_ne_nil_of_left_ne_nil ht _

theorem append_left (h : Accounts bound asked es outcome) (es' : List (Entry ε)) :
    Accounts bound asked (es' ++ es) outcome := by
  refine h.mono (fun e he => List.mem_append_right _ he) fun ht => ?_
  rw [trace_append]
  exact List.append_ne_nil_of_right_ne_nil _ ht

/-- What was asked before is asked in the whole. -/
theorem after (ht : trace es ≠ []) (h : Accounts bound true es' outcome) :
    Accounts bound asked (es ++ es') outcome := by
  refine ⟨(h.append_left es).1, fun _ => .inr ?_⟩
  rw [trace_append]
  exact List.append_ne_nil_of_left_ne_nil ht _

end Accounts

namespace Task

/-- The journal of the piece of work accounts for its answer. -/
def Accounted (bound asked : Bool) (t : Task ω ε α) : Prop :=
  ∀ w, Accounts bound asked (t.run w).entries (failureOf (t.run w).value)

namespace Accounted

theorem call {file : Path} {c : Call} {r : Reply ω ε α} {g : Fault → Task ω ε α}
    {failure : Fault → Failure} (hv : ∀ f, c.verdict? file f = some (failure f))
    (hg : ∀ f w, ((g f).run w).value = .error (failure f)) :
    Accounted bound asked (call c r g) := by
  intro w
  rw [run_call]
  cases (r w).value with
  | ok a => exact .none
  | error f =>
    apply Accounts.ofCall
    dsimp only
    rw [hg, failureOf, ← hv]
    exact c.verdict?_ne_notInitialized file f

theorem bind {t : Task ω ε α} {g : α → Task ω ε β} (ht : Accounted bound asked t)
    (hg : ∀ a, Accounted bound asked (g a)) : Accounted bound asked (t >>= g) := by
  intro w
  have h := ht w
  rw [run_bind]
  cases hv : (t.run w).value with
  | ok a => exact (hg a _).append_left _
  | error f =>
    rw [hv] at h
    exact h

theorem after {t : Task ω ε α} {g : α → Task ω ε β} (ha : Asks t) (ht : Accounted bound asked t)
    (hg : ∀ a, Accounted bound true (g a)) : Accounted bound asked (t >>= g) := by
  intro w
  have h := ht w
  rw [run_bind]
  cases hv : (t.run w).value with
  | ok a => exact .after (ha w) (hg a _)
  | error f =>
    rw [hv] at h
    exact h

theorem report {t : Task ω ε α} (text : Failure → String) (ht : Accounted bound asked t) :
    Accounted bound asked (recover t fun f => refuse (text f) f) := by
  intro w
  have h := ht w
  rw [run_recover]
  cases hv : (t.run w).value with
  | ok a => exact .none
  | error f =>
    rw [hv] at h
    exact h.append_right _

theorem prompt (ask : PinCallback) (text : String) :
    Accounted bound true (prompt ask text : Task ω ε String) := by
  intro w
  rw [run_prompt]
  refine ⟨fun h => .inr ⟨text, ?_⟩, fun _ => .inl rfl⟩
  dsimp only at h
  rw [h]
  exact List.mem_singleton_self _

theorem keygripOr (text : String) (parser : CertificateParser) (certificate : Octets) :
    Accounted bound true (keygripOr text parser certificate : Task ω ε _) := by
  intro w
  rw [value_keygripOr, CertificateParser.keygrip]
  cases (parser certificate).bind Keygrip.ofCanonical? with
  | some g => exact .none
  | none => exact .ofOwn .cardError

theorem logged {t : Task ω ε α} (ls : Except Failure α → List Log)
    (ht : Accounted bound asked t) :
    Accounted bound asked (ExceptT.mk do
      let r ← t.run
      Action.writeAll ((ls r).map .ofLog)
      return r) := by
  intro w
  simpa using (ht w).append_right _

end Accounted

/-- Every form is accounted for. -/
theorem Built.accounted {file : Path} {t : Task ω ε α} (h : Built file bound asked t) :
    Accounted bound asked t := by
  induction h with
  | pure | logAll => exact fun _ => .none
  | throw hf => exact fun _ => .ofOwn hf
  | callThrough _ hv | callOr _ hv => exact .call hv fun _ _ => rfl
  | prompt ask text => exact .prompt ask text
  | keygripOr text parser certificate => exact .keygripOr text parser certificate
  | bind _ _ iht ihg => exact .bind iht ihg
  | after ha _ _ iht ihg => exact .after ha iht ihg
  | report text _ ih => exact .report text ih
  | logged ls _ ih => exact .logged ls ih

end Task

end

namespace Session

variable {S : Stack ω ε Context Connection Application}
  (s : Session Context Connection Application)

theorem accounts_perform (op : Operation) (w : ω) :
    Accounts (op.binds || s.isInitialized) false (s.perform S op w).entries
      (failureOf (s.perform S op w).value.1) := by
  obtain ⟨α, t, w', ht, hes, hv⟩ := s.exists_built (S := S) (ε := ε) op w
  rw [hes, hv]
  exact (ht.accounted w').append_left _

/-! ## Sessions over time -/

/-- What a session comes to by operations one after the other, with their journal. Meanwhile the
world may change in any way, as when the card is exchanged. -/
inductive Reaches (S : Stack ω ε Context Connection Application) :
    Session Context Connection Application → ω → List Operation → List (Entry ε) →
      Session Context Connection Application → ω → Prop
  | start (s : Session Context Connection Application) (w : ω) : Reaches S s w [] [] s w
  | outside {s s' : Session Context Connection Application} {w w' : ω} {ops : List Operation}
      {es : List (Entry ε)} (h : Reaches S s w ops es s' w') (w'' : ω) :
      Reaches S s w ops es s' w''
  | perform {s s' : Session Context Connection Application} {w w' : ω} {ops : List Operation}
      {es : List (Entry ε)} (h : Reaches S s w ops es s' w') (op : Operation) :
      Reaches S s w (ops ++ [op]) (es ++ (s'.perform S op w').entries)
        (s'.perform S op w').value.2 (s'.perform S op w').world

variable {s} {s' : Session Context Connection Application} {w w' : ω} {ops : List Operation}
  {es : List (Entry ε)}

theorem session_of_not_binds {op : Operation} (hop : op.binds = false) (w : ω) :
    (s.perform S op w).value.2 = s := by
  cases op with
  | bind | serial => cases hop
  | keypair | certificate | sign | decipher => rfl

theorem backend_keeping (r : Except Failure String) : (s.keeping r).backend = s.backend := by
  cases r <;> rfl

theorem backend_of_bound {b : Backend Application} (hb : s.backend = some b) {op : Operation}
    (hop : op.binds = true) (w : ω) : (s.perform S op w).value.2.backend = some b := by
  cases op with
  | bind =>
    rw [perform_bind_of_bound s hb]
    exact hb
  | serial =>
    cases hs : s.serial with
    | some text =>
      rw [perform_serial_of_kept s hb hs]
      exact hb
    | none =>
      rw [perform_serial_of_bound s hb hs]
      exact (backend_keeping _).trans hb
  | keypair | certificate | sign | decipher => cases hop

theorem isInitialized_of_binds {op : Operation} (hop : op.binds = true) (w : ω) :
    (s.perform S op w).value.2.isInitialized = true := by
  rw [perform_of_binds s hop, isInitialized, backend_of_bound rfl hop, Option.isSome_some]

/-- A serial number is kept only where a backend is bound. -/
theorem isInitialized_of_serial (h : s.serial ≠ none → s.isInitialized = true) (op : Operation)
    (w : ω) (hs : (s.perform S op w).value.2.serial ≠ none) :
    (s.perform S op w).value.2.isInitialized = true := by
  cases hop : op.binds with
  | true => exact isInitialized_of_binds hop w
  | false =>
    rw [session_of_not_binds hop] at hs ⊢
    exact h hs

/-- A backend stays, whatever comes. -/
theorem Reaches.backend_eq {b : Backend Application} (h : Reaches S s w ops es s' w')
    (hb : s.backend = some b) : s'.backend = some b := by
  induction h with
  | start => exact hb
  | outside _ _ ih => exact ih
  | @perform s' w w' ops es _ op ih =>
    rcases (goes_perform (S := S) s' op w').work.bindCalls_eq with ⟨heq, -⟩ | ⟨hnone, -⟩
    · exact heq.trans ih
    · rw [ih] at hnone
      cases hnone

/-- What a session that was new keeps: what opening took, the backend that its bind calls led to,
and no serial number without a backend. -/
structure Kept (s : Session Context Connection Application) (ops : List Operation) (t : Trace)
    (s' : Session Context Connection Application) : Prop where
  options : s'.options = s.options
  context : s'.context = s.context
  connection : s'.connection = s.connection
  working : ∀ m ∈ t, m.1.needsLock = true
  binding : Binding s'.backend t
  bound : s'.isInitialized = true ↔ ∃ op ∈ ops, op.binds = true
  serial : s'.serial ≠ none → s'.isInitialized = true

theorem Kept.start (hb : s.backend = none) (hs : s.serial = none) : Kept s [] [] s where
  options := rfl
  context := rfl
  connection := rfl
  working := List.forall_mem_nil _
  binding := hb ▸ .unbound rfl
  bound := by simp [isInitialized, hb]
  serial h := absurd hs h

/-- One operation more keeps it all. -/
theorem Kept.perform {t : Trace} (h : Kept s ops t s') (op : Operation) (w : ω) :
    Kept s (ops ++ [op]) (t ++ trace (s'.perform S op w).entries) (s'.perform S op w).value.2 := by
  have hgo := goes_perform (S := S) s' op w
  refine ⟨hgo.options.trans h.options, hgo.context.trans h.context,
    hgo.connection.trans h.connection, ?_, h.binding.append hgo.work, ?_,
    isInitialized_of_serial h.serial op w⟩
  · exact fun m hm => (List.mem_append.mp hm).elim (h.working m) (hgo.work.needsLock m)
  · cases hop : op.binds with
    | true => simp [isInitialized_of_binds hop, hop]
    | false => simp [session_of_not_binds hop, h.bound, hop]

theorem Reaches.kept (h : Reaches S s w ops es s' w') (hb : s.backend = none)
    (hs : s.serial = none) : Kept s ops (trace es) s' := by
  induction h with
  | start => exact .start hb hs
  | outside _ _ ih => exact ih
  | perform _ op ih =>
    rw [trace_append]
    exact ih.perform op _

end Session

end

namespace Simulator

/-- A session on the first reader that was opened just now. -/
def fresh : Session Unit Connection Application := { keySession with backend := none }

end Simulator

end SmartCard
