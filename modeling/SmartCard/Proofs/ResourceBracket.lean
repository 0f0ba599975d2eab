import Mathlib.Data.List.Basic
import SmartCard.Proofs.CardWork
import SmartCard.Proofs.Opening

/-!
# What a session takes it gives back

A context, a connection, the lock and an application are taken by calls that may fail, and each has
a call that gives it back. Over a whole run, from opening to closing, the trace is a bracket: what
was taken, and nothing else, is given back, in reverse order and at the end, and the card is used
only in between.
-/
namespace SmartCard

namespace Call

def isEstablish : Call → Bool
  | establish .. => true
  | _ => false

def isConnect : Call → Bool
  | connect _ => true
  | _ => false

/-- The calls that give something back. -/
def isTeardown : Call → Bool
  | unbind | unlock | disconnect | release => true
  | _ => false

/-- The calls that read the card, bind its application or use it. -/
def needsLock : Call → Bool
  | select _ | read .. | bind | privateKeys | certificate _ | pinLabel _ | verifyPin .. | sign ..
  | decipher .. => true
  | _ => false

theorem not_teardown_of_needsLock {c : Call} (h : c.needsLock = true) : c.isTeardown = false := by
  cases c <;> first | rfl | cases h

end Call

/-- How often calls of a kind succeeded. -/
def successes (kind : Call → Bool) (t : Trace) : Nat := t.countP fun m => kind m.1 && m.2.isNone

/-- How often a call was made. -/
def times (c : Call) (t : Trace) : Nat := t.countP fun m => m.1 = c

/-- What was taken at most once is given back as often as it was taken. -/
def GivenBack (take : Call → Bool) (give : Call) (t : Trace) : Prop :=
  times give t = successes take t ∧ successes take t ≤ 1

structure Bracketed (t : Trace) : Prop where
  context : GivenBack Call.isEstablish .release t
  connection : GivenBack Call.isConnect .disconnect t
  lock : GivenBack (· = .lock) .unlock t
  application : GivenBack (· = .bind) .unbind t
  /-- What is given back is given back last, the newest first. -/
  teardown : ∃ front back, t = front ++ back ∧ (∀ m ∈ front, m.1.isTeardown = false) ∧
    (back.map Prod.fst).Sublist [.unbind, .unlock, .disconnect, .release]
  /-- The card is used only while it is locked. -/
  locked : ∀ front m back, t = front ++ m :: back → m.1.needsLock = true →
    (.lock, none) ∈ front ∧ ∀ x ∈ front, x.1.isTeardown = false

@[simp] theorem successes_nil (kind : Call → Bool) : successes kind [] = 0 := rfl

@[simp] theorem successes_cons (kind : Call → Bool) (m : Call × Option Fault) (t : Trace) :
    successes kind (m :: t) = successes kind t + if kind m.1 && m.2.isNone then 1 else 0 :=
  List.countP_cons

@[simp] theorem successes_append (kind : Call → Bool) (t t' : Trace) :
    successes kind (t ++ t') = successes kind t + successes kind t' := List.countP_append

@[simp] theorem times_nil (c : Call) : times c [] = 0 := rfl

@[simp] theorem times_cons (c : Call) (m : Call × Option Fault) (t : Trace) :
    times c (m :: t) = times c t + if m.1 = c then 1 else 0 := by
  simp [times, List.countP_cons]

@[simp] theorem times_append (c : Call) (t t' : Trace) :
    times c (t ++ t') = times c t + times c t' := List.countP_append

/-! ## Three parts of a trace -/

/-- Attempts to take things, then work on the card, then giving back. -/
structure Parts (front work back : Trace) : Prop where
  taking : ∀ m ∈ front, m.1.isTeardown = false ∧ m.1.needsLock = false
  under : work = [] ∨ (Call.lock, none) ∈ front
  working : ∀ m ∈ work, m.1.needsLock = true
  giving : ∀ m ∈ back, m.1.needsLock = false
  order : (back.map Prod.fst).Sublist [.unbind, .unlock, .disconnect, .release]

namespace Parts

variable {front work back : Trace}

theorem not_teardown (h : Parts front work back) {m : Call × Option Fault}
    (hm : m ∈ front ++ work) : m.1.isTeardown = false := by
  rcases List.mem_append.mp hm with hf | hw
  · exact (h.taking m hf).1
  · exact Call.not_teardown_of_needsLock (h.working m hw)

theorem teardown (h : Parts front work back) :
    ∃ f b, front ++ (work ++ back) = f ++ b ∧ (∀ m ∈ f, m.1.isTeardown = false) ∧
      (b.map Prod.fst).Sublist [.unbind, .unlock, .disconnect, .release] :=
  ⟨front ++ work, back, (List.append_assoc ..).symm, fun _ hm => h.not_teardown hm, h.order⟩

/-- Where there is work, the lock was taken. -/
theorem lock_mem (h : Parts front work back) {m : Call × Option Fault}
    (hm : m ∈ front ++ (work ++ back)) (hn : m.1.needsLock = true) :
    (Call.lock, none) ∈ front := by
  rcases h.under with rfl | hl
  · rcases List.mem_append.mp hm with hf | hb
    · rw [(h.taking m hf).2] at hn
      cases hn
    · rw [h.giving m hb] at hn
      cases hn
  · exact hl

theorem locked (h : Parts front work back) (f : Trace) (m : Call × Option Fault) (b : Trace)
    (he : front ++ (work ++ back) = f ++ m :: b) (hn : m.1.needsLock = true) :
    (Call.lock, none) ∈ f ∧ ∀ x ∈ f, x.1.isTeardown = false := by
  have hl := h.lock_mem (m := m) (by rw [he]; simp) hn
  -- The call stands in the work: all of the front and nothing of the back is before it.
  rcases List.append_eq_append_iff.mp he with ⟨f', rfl, he'⟩ | ⟨b', rfl, hrest⟩
  · rcases List.append_eq_append_iff.mp he' with ⟨f'', rfl, hback⟩ | ⟨w', rfl, -⟩
    · have hm := h.giving m (by rw [hback]; simp)
      rw [hm] at hn
      cases hn
    · refine ⟨List.mem_append_left _ hl, fun x hx => h.not_teardown ?_⟩
      rw [← List.append_assoc]
      exact List.mem_append_left _ hx
  · cases b' with
    | nil =>
      rw [List.append_nil] at hl
      exact ⟨hl, fun x hx => (h.taking x (List.mem_append_left _ hx)).1⟩
    | cons x b' =>
      cases hrest
      have hm := (h.taking m (by simp)).2
      rw [hm] at hn
      cases hn

end Parts

/-! ## Opening that fails -/

section
variable {ω ε Context Connection Application : Type}
  {S : Stack ω ε Context Connection Application} {o : Options} {w w' : ω}

attribute [local simp] Options.establish Call.isEstablish Call.isConnect Call.isTeardown
  Call.needsLock GivenBack

theorem Opening.parts {f : Failure} {t : Trace} (h : Opening S o w (.error f) t w') :
    ∃ front back, t = front ++ back ∧ Parts front [] back := by
  cases h with
  | noContext he => exact ⟨[_], [], rfl, by simp, .inl rfl, by simp, by simp, by simp⟩
  | noReader he hr => exact ⟨[_], [_], rfl, by simp, .inl rfl, by simp, by simp, by simp⟩
  | noCard he hr hd hv => exact ⟨[_, _], [_], rfl, by simp, .inl rfl, by simp, by simp, by simp⟩
  | noConnection he hr hd hc =>
    exact ⟨[_, _, _], [_], rfl, by simp, .inl rfl, by simp, by simp, by simp⟩
  | noLock he hr hd hc hl =>
    exact ⟨[_, _, _, _], [_, _], rfl, by simp, .inl rfl, by simp, by simp, by simp⟩

theorem Opening.givenBack {f : Failure} {t : Trace} (h : Opening S o w (.error f) t w') :
    GivenBack Call.isEstablish .release t ∧ GivenBack Call.isConnect .disconnect t ∧
      GivenBack (· = .lock) .unlock t ∧ GivenBack (· = .bind) .unbind t := by
  cases h <;> simp

/-- What an opening that fails took on the way it gives back. -/
theorem Opening.bracketed {f : Failure} {t : Trace} (h : Opening S o w (.error f) t w') :
    Bracketed t := by
  obtain ⟨hcontext, hconnection, hlock, happlication⟩ := h.givenBack
  obtain ⟨front, back, rfl, hparts⟩ := h.parts
  exact ⟨hcontext, hconnection, hlock, happlication, hparts.teardown, hparts.locked⟩

end

/-! ## Sessions -/

section
variable {ω ε Context Connection Application : Type}
  {S : Stack ω ε Context Connection Application} {o : Options} {w w' : ω}
  {k : Connection} {b b' : Option (Backend Application)} {es : List (Entry ε)}

theorem CardCall.needsLock {α : Type} {b : Backend Application} {c : Call} {r : Reply ω ε α}
    (h : CardCall S k b c r) : c.needsLock = true := by cases h <;> rfl

theorem CardCall.ne_bind {α : Type} {b : Backend Application} {c : Call} {r : Reply ω ε α}
    (h : CardCall S k b c r) : c ≠ .bind := by cases h <;> simp

theorem Work.needsLock (h : Work S k b w es b' w') : ∀ m ∈ trace es, m.1.needsLock = true := by
  induction h with
  | done => simp
  | quiet he _ ih => rwa [trace_of_quiet he]
  | call hc _ ih => simpa [List.forall_mem_cons, hc.needsLock] using ih
  | bind _ ih => simpa [List.forall_mem_cons, Call.needsLock] using ih

/-- How many applications a bound backend holds. -/
def held : Option (Backend Application) → Nat
  | some (.pkcs15 _) => 1
  | _ => 0

theorem held_le (b : Option (Backend Application)) : held b ≤ 1 := by
  unfold held
  split <;> decide

/-- Work comes to hold an application by each bind call that succeeds. -/
theorem Work.binds (h : Work S k b w es b' w') :
    successes (· = .bind) (trace es) + held b = held b' := by
  induction h with
  | done => simp
  | quiet he _ ih => rwa [trace_of_quiet he]
  | call hc _ ih => simpa [hc.ne_bind] using ih
  | @bind _ w _ _ _ ih =>
    cases hv : (S.bind k w).value with
    | ok a => simpa [hv, faultOf, Backend.ofAnswer, held] using ih
    | error f => simpa [hv, faultOf, Backend.ofAnswer, held] using ih

theorem successes_eq_zero {t : Trace} (ht : ∀ m ∈ t, m.1.needsLock = true) {kind : Call → Bool}
    (hkind : ∀ c, c.needsLock = true → kind c = false) : successes kind t = 0 := by
  rw [successes, List.countP_eq_zero]
  intro m hm
  simp [hkind m.1 (ht m hm)]

theorem times_eq_zero {t : Trace} (ht : ∀ m ∈ t, m.1.needsLock = true) {c : Call}
    (hc : c.needsLock = false) : times c t = 0 := by
  rw [times, List.countP_eq_zero]
  intro m hm he
  have hm := ht m hm
  rw [of_decide_eq_true he, hc] at hm
  cases hm

/-- The trace of closing. -/
def closing : Option (Backend Application) → Trace
  | some (.pkcs15 _) => [(.unbind, none), (.unlock, none), (.disconnect, none), (.release, none)]
  | _ => [(.unlock, none), (.disconnect, none), (.release, none)]

theorem Session.trace_close (s : Session Context Connection Application) (w : ω) :
    trace (s.close S w).entries = closing s.backend := by
  cases hb : s.backend with
  | none => simp [close, Backend.unbind, hb, Call.makeSure, closing]
  | some b => cases b <;> simp [close, Backend.unbind, hb, Call.makeSure, closing]

theorem closing_order (b : Option (Backend Application)) :
    (∀ m ∈ closing b, m.1.needsLock = false) ∧
      ((closing b).map Prod.fst).Sublist [.unbind, .unlock, .disconnect, .release] := by
  unfold closing
  split <;> simp [Call.needsLock]

theorem isTeardown_closing (b : Option (Backend Application)) :
    ∀ m ∈ closing b, m.1.isTeardown = true := by
  unfold closing
  split <;> simp [Call.isTeardown]

theorem successes_closing (b : Option (Backend Application)) {kind : Call → Bool}
    (hkind : ∀ c, c.isTeardown = true → kind c = false) : successes kind (closing b) = 0 := by
  rw [successes, List.countP_eq_zero]
  intro m hm
  simp [hkind m.1 (isTeardown_closing b m hm)]

theorem times_closing (b : Option (Backend Application)) :
    times .release (closing b) = 1 ∧ times .disconnect (closing b) = 1 ∧
      times .unlock (closing b) = 1 ∧ times .unbind (closing b) = held b := by
  unfold closing held
  split <;> simp

/-- The trace of an opening that succeeds. -/
def opening (o : Options) : Trace :=
  [(o.establish, none), (.detect o.reader, none), (.connect o.reader, none), (.lock, none)]

/-- What is taken while opening only is given back by closing. -/
theorem givenBack_opening (hw : ∀ m ∈ trace es, m.1.needsLock = true) {take : Call → Bool}
    {give : Call} (ho : successes take (opening o) = 1) (ho' : times give (opening o) = 0)
    (htake : ∀ c, c.needsLock = true ∨ c.isTeardown = true → take c = false)
    (hgive : give.needsLock = false) (hc : times give (closing b) = 1) :
    GivenBack take give (opening o ++ (trace es ++ closing b)) := by
  have hwork : successes take (trace es) = 0 :=
    successes_eq_zero hw fun c h => htake c (.inl h)
  have hclosing : successes take (closing b) = 0 :=
    successes_closing b fun c h => htake c (.inr h)
  have hgiven : times give (trace es) = 0 := times_eq_zero hw hgive
  simp only [GivenBack, successes_append, times_append]
  omega

/-- Opening, work and closing of a session make a bracket. -/
theorem Work.bracketed (h : Work S k none w es b w') (o : Options) :
    Bracketed (opening o ++ (trace es ++ closing b)) := by
  obtain ⟨hrelease, hdisconnect, hunlock, hunbind⟩ := times_closing b
  have hparts : Parts (opening o) (trace es) (closing b) :=
    ⟨by simp [opening, Options.establish, Call.isTeardown, Call.needsLock],
      .inr (by simp [opening]), h.needsLock, (closing_order b).1, (closing_order b).2⟩
  refine ⟨?_, ?_, ?_, ?_, hparts.teardown, hparts.locked⟩
  · apply givenBack_opening h.needsLock rfl rfl _ rfl hrelease
    intro c hc
    cases c <;> simp_all [Call.isEstablish, Call.needsLock, Call.isTeardown]
  · apply givenBack_opening h.needsLock rfl rfl _ rfl hdisconnect
    intro c hc
    cases c <;> simp_all [Call.isConnect, Call.needsLock, Call.isTeardown]
  · apply givenBack_opening h.needsLock rfl rfl _ rfl hunlock
    intro c hc
    cases c <;> simp_all [Call.needsLock, Call.isTeardown]
  · have hopening : successes (· = .bind) (opening o) = 0 := rfl
    have hopening' : times .unbind (opening o) = 0 := rfl
    have hbinds : successes (· = .bind) (trace es) + held none = held b := h.binds
    have hclosing : successes (· = .bind) (closing b) = 0 := by
      apply successes_closing
      intro c hc
      cases c <;> simp_all [Call.isTeardown]
    have hgiven : times .unbind (trace es) = 0 := times_eq_zero h.needsLock rfl
    have hle := held_le b
    have hnone : held (none : Option (Backend Application)) = 0 := rfl
    simp only [GivenBack, successes_append, times_append]
    omega

/-! ## Readers -/

/-- The reader that a call is about by its index. -/
def Call.reader? : Call → Option Nat
  | detect r | connect r => some r
  | _ => none

/-- Every reader that is asked about by its index is one of the readers of the context. -/
def ReadersExist (S : Stack ω ε Context Connection Application) (o : Options) (w : ω) (t : Trace) :
    Prop :=
  ∀ m ∈ t, ∀ r, m.1.reader? = some r →
    ∃ c, (S.establish o.appName o.debugTransport w).value = .ok c ∧
      r < S.readerCount (S.establish o.appName o.debugTransport w).world c

theorem Opening.readersExist {v : Except Failure (Context × Connection)} {t : Trace}
    (h : Opening S o w v t w') : ReadersExist S o w t := by
  intro m hm r hr
  cases h with
  | noContext he =>
    simp only [List.mem_singleton] at hm
    subst hm
    cases hr
  | noReader he hcount =>
    simp only [List.mem_cons, List.not_mem_nil, or_false] at hm
    rcases hm with rfl | rfl <;> cases hr
  | noCard he hcount | noConnection he hcount | noLock he hcount | opened he hcount =>
    obtain ⟨hv, hw⟩ := he
    simp only [List.mem_cons, List.not_mem_nil, or_false] at hm
    -- Only detection and connection name a reader, and it is the one of the options.
    have hro : o.reader = r := by
      rcases hm with rfl | rfl | rfl | rfl | rfl | rfl <;>
        simp_all [Call.reader?, Options.establish]
    exact ⟨_, hv, by rw [hw, ← hro]; exact hcount⟩

theorem reader?_of_needsLock {c : Call} (h : c.needsLock = true ∨ c.isTeardown = true) :
    c.reader? = none := by
  cases c <;> simp_all [Call.needsLock, Call.isTeardown, Call.reader?]

/-! ## Whole runs -/

theorem Opening.trace_opened {p : Context × Connection} {t : Trace}
    (h : Opening S o w (.ok p) t w') : t = opening o := by cases h; rfl

/-- The course of a run: opening failed, or what was opened was worked with and closed. -/
theorem Session.trace_run (parser : CertificateParser) (o : Options) (ops : List Operation)
    (w : ω) :
    (∃ f w', Opening S o w (.error f) (trace (run S parser o ops w).entries) w') ∨
      ∃ c k w' es b w'', Opening S o w (.ok (c, k)) (opening o) w' ∧ Work S k none w' es b w'' ∧
        trace (run S parser o ops w).entries = opening o ++ (trace es ++ closing b) := by
  obtain ⟨v, hopen, hvalue⟩ := start_opening S parser o w
  simp only [run, Action.bind_apply]
  generalize (start S parser o).run w = r at hopen hvalue
  obtain ⟨value, w', entries⟩ := r
  dsimp only at hopen hvalue ⊢
  subst hvalue
  cases v with
  | error f =>
    left
    exact ⟨f, w', by simpa [Except.map] using hopen⟩
  | ok p =>
    right
    obtain ⟨c, k⟩ := p
    have ht : trace entries = opening o := hopen.trace_opened
    have hgo := goes_performAll (S := S) (ε := ε) ⟨o, parser, c, k, none, none⟩ ops w'
    refine ⟨c, k, w', _, _, _, ht ▸ hopen, hgo.work, ?_⟩
    simp [Except.map, ht, trace_close]

/-- Whatever the driver answers, a run from opening to closing is a bracket, also where opening
fails, and asks only about readers that exist. -/
theorem Session.run_bracketed (S : Stack ω ε Context Connection Application)
    (parser : CertificateParser) (o : Options) (ops : List Operation) (w : ω) :
    Bracketed (trace (run S parser o ops w).entries) ∧
      ReadersExist S o w (trace (run S parser o ops w).entries) := by
  rcases trace_run (S := S) parser o ops w with
    ⟨f, w', hopen⟩ | ⟨c, k, w', es, b, w'', hopen, hwork, ht⟩
  · exact ⟨hopen.bracketed, hopen.readersExist⟩
  · rw [ht]
    refine ⟨hwork.bracketed o, fun m hm r hr => ?_⟩
    rcases List.mem_append.mp hm with hfront | hrest
    · exact hopen.readersExist m hfront r hr
    · have hnone : m.1.reader? = none := by
        apply reader?_of_needsLock
        rcases List.mem_append.mp hrest with hw | hb
        · exact .inl (hwork.needsLock m hw)
        · exact .inr (isTeardown_closing b m hb)
      rw [hnone] at hr
      cases hr

end

end SmartCard
