import SmartCard.Operation

/-!
# How opening a session ends

The calls of a journal are its trace. Opening a session takes one of six courses, and each is known
by its trace: five give back what they took and fail, and one holds a locked card.
-/
namespace SmartCard

variable {ω ε Context Connection Application α : Type}

/-- Calls in their order, each with the fault that it answered if any. -/
abbrev Trace := List (Call × Option Fault)

def Entry.asked? : Entry ε → Option (Call × Option Fault)
  | call c f => some (c, f)
  | _ => none

def trace (es : List (Entry ε)) : Trace := es.filterMap Entry.asked?

@[simp] theorem trace_nil : trace ([] : List (Entry ε)) = [] := rfl

@[simp] theorem trace_append (es es' : List (Entry ε)) :
    trace (es ++ es') = trace es ++ trace es' := List.filterMap_append

@[simp] theorem trace_call (c : Call) (f : Option Fault) (es : List (Entry ε)) :
    trace (.call c f :: es) = (c, f) :: trace es := rfl

@[simp] theorem trace_ofLog (l : Log) (es : List (Entry ε)) :
    trace (.ofLog l :: es) = trace es := rfl

theorem trace_of_quiet {e : Entry ε} (h : e.call? = none) (es : List (Entry ε)) :
    trace (e :: es) = trace es := by
  cases e with
  | call c f => cases h
  | parse | prompt | note => rfl

@[simp] theorem trace_notes (ns : List (Note ε)) : trace (ns.map .note) = [] := by
  induction ns with
  | nil => rfl
  | cons n ns ih => exact ih

@[simp] theorem trace_logs (ls : List Log) : trace (ls.map .ofLog : List (Entry ε)) = [] := by
  induction ls with
  | nil => rfl
  | cons l ls ih => exact ih

/-- The driver answers with the value and leaves the world behind. -/
def Answers (r : Reply ω ε α) (w : ω) (v : Except Fault α) (w' : ω) : Prop :=
  (r w).value = v ∧ (r w).world = w'

theorem Answers.unique {r : Reply ω ε α} {w w' w'' : ω} {v v' : Except Fault α}
    (h : Answers r w v w') (h' : Answers r w v' w'') : v = v' ∧ w' = w'' :=
  ⟨h.1.symm.trans h'.1, h.2.symm.trans h'.2⟩

/-- The call that establishes the context. -/
def Options.establish (o : Options) : Call := .establish o.appName o.debugTransport

/-- The course of opening a session: what it ends with, its trace and the world afterwards. -/
inductive Opening (S : Stack ω ε Context Connection Application) (o : Options) :
    ω → Except Failure (Context × Connection) → Trace → ω → Prop
  | noContext {w w' : ω} {f : Fault}
      (he : Answers (S.establish o.appName o.debugTransport) w (.error f) w') :
      Opening S o w (.error (.ofFault f)) [(o.establish, some f)] w'
  | noReader {w w' : ω} {c : Context}
      (he : Answers (S.establish o.appName o.debugTransport) w (.ok c) w')
      (hr : S.readerCount w' c ≤ o.reader) :
      Opening S o w (.error .cardError) [(o.establish, none), (.release, none)]
        (S.release c w').world
  | noCard {w w' w'' : ω} {c : Context} {v : Except Fault Bool}
      (he : Answers (S.establish o.appName o.debugTransport) w (.ok c) w')
      (hr : o.reader < S.readerCount w' c) (hd : Answers (S.detect c o.reader) w' v w'')
      (hv : v ≠ .ok true) :
      Opening S o w (.error .cardNotPresent)
        [(o.establish, none), (.detect o.reader, faultOf v), (.release, none)]
        (S.release c w'').world
  | noConnection {w w' w'' w₃ : ω} {c : Context} {f : Fault}
      (he : Answers (S.establish o.appName o.debugTransport) w (.ok c) w')
      (hr : o.reader < S.readerCount w' c) (hd : Answers (S.detect c o.reader) w' (.ok true) w'')
      (hc : Answers (S.connect c o.reader) w'' (.error f) w₃) :
      Opening S o w (.error (.ofFault f))
        [(o.establish, none), (.detect o.reader, none), (.connect o.reader, some f),
          (.release, none)] (S.release c w₃).world
  | noLock {w w' w'' w₃ w₄ : ω} {c : Context} {k : Connection} {f : Fault}
      (he : Answers (S.establish o.appName o.debugTransport) w (.ok c) w')
      (hr : o.reader < S.readerCount w' c) (hd : Answers (S.detect c o.reader) w' (.ok true) w'')
      (hc : Answers (S.connect c o.reader) w'' (.ok k) w₃)
      (hl : Answers (S.lock k) w₃ (.error f) w₄) :
      Opening S o w (.error (.ofFault f))
        [(o.establish, none), (.detect o.reader, none), (.connect o.reader, none), (.lock, some f),
          (.disconnect, none), (.release, none)] (S.release c (S.disconnect k w₄).world).world
  | opened {w w' w'' w₃ w₄ : ω} {c : Context} {k : Connection}
      (he : Answers (S.establish o.appName o.debugTransport) w (.ok c) w')
      (hr : o.reader < S.readerCount w' c) (hd : Answers (S.detect c o.reader) w' (.ok true) w'')
      (hc : Answers (S.connect c o.reader) w'' (.ok k) w₃)
      (hl : Answers (S.lock k) w₃ (.ok ()) w₄) :
      Opening S o w (.ok (c, k))
        [(o.establish, none), (.detect o.reader, none), (.connect o.reader, none), (.lock, none)] w₄

/-- Opening never gives a lock back: it takes none before its last step. -/
theorem Opening.ne_unlock {S : Stack ω ε Context Connection Application} {o : Options} {w w' : ω}
    {v : Except Failure (Context × Connection)} {t : Trace} (h : Opening S o w v t w') :
    ∀ m ∈ t, m.1 ≠ .unlock := by
  cases h <;> simp [Options.establish]

namespace Session

variable (S : Stack ω ε Context Connection Application)

attribute [local simp] Task.run_bind Task.run_call Task.run_recover Task.run_require Task.callOr
  Call.makeSure Except.map Options.establish faultOf

theorem start_opening (parser : CertificateParser) (o : Options) (w : ω) :
    ∃ v, Opening S o w v (trace ((start S parser o).run w).entries)
        ((start S parser o).run w).world ∧
      ((start S parser o).run w).value = v.map fun p => ⟨o, parser, p.1, p.2, none, none⟩ := by
  rcases hE : S.establish o.appName o.debugTransport w with ⟨v, w', ns⟩
  have he : Answers (S.establish o.appName o.debugTransport) w v w' := by simp [Answers, hE]
  cases v with
  | error f =>
    refine ⟨.error (.ofFault f), ?_⟩
    simpa [start, hE] using Opening.noContext he
  | ok c =>
    by_cases hr : o.reader < S.readerCount w' c
    · rcases hD : S.detect c o.reader w' with ⟨v, w'', ns'⟩
      have hd : Answers (S.detect c o.reader) w' v w'' := by simp [Answers, hD]
      match v with
      | .ok true =>
        rcases hC : S.connect c o.reader w'' with ⟨v, w₃, ns''⟩
        have hc : Answers (S.connect c o.reader) w'' v w₃ := by simp [Answers, hC]
        cases v with
        | error f =>
          refine ⟨.error (.ofFault f), ?_⟩
          simpa [start, connect, hE, hr, hD, hC] using Opening.noConnection he hr hd hc
        | ok k =>
          rcases hL : S.lock k w₃ with ⟨v, w₄, ns₃⟩
          have hl : Answers (S.lock k) w₃ v w₄ := by simp [Answers, hL]
          cases v with
          | error f =>
            refine ⟨.error (.ofFault f), ?_⟩
            simpa [start, connect, lockCard, hE, hr, hD, hC, hL] using Opening.noLock he hr hd hc hl
          | ok =>
            refine ⟨.ok (c, k), ?_⟩
            simpa [start, connect, lockCard, hE, hr, hD, hC, hL] using Opening.opened he hr hd hc hl
      | .ok false =>
        refine ⟨.error .cardNotPresent, ?_⟩
        simpa [start, connect, hE, hr, hD] using Opening.noCard he hr hd (by simp)
      | .error f =>
        refine ⟨.error .cardNotPresent, ?_⟩
        simpa [start, connect, hE, hr, hD] using Opening.noCard he hr hd (by simp)
    · refine ⟨.error .cardError, ?_⟩
      simpa [start, connect, hE, hr] using Opening.noReader he (Nat.le_of_not_lt hr)

end Session

end SmartCard
