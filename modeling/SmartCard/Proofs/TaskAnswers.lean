import SmartCard.Task

/-!
# Answers of pieces of work

A piece of work that succeeds did so step by step, and one that starts with a failure does nothing
more. A call that is made with a text for its log has the answer of the driver, and a keygrip is the
one that the parser finds.
-/
namespace SmartCard.Task

variable {ω ε α β : Type}

theorem run_ok_bind (a : α) (g : α → Task ω ε β) (w : ω) :
    ((liftM (.ok a : Except Failure α) : Task ω ε α) >>= g).run w = (g a).run w := rfl

theorem run_error_bind (f : Failure) (g : α → Task ω ε β) (w : ω) :
    ((liftM (.error f : Except Failure α) : Task ω ε α) >>= g).run w = ⟨.error f, w, []⟩ := rfl

theorem run_map (g : α → β) (t : Task ω ε α) (w : ω) :
    (g <$> t).run w = ⟨(t.run w).value.map g, (t.run w).world, (t.run w).entries⟩ := by
  rw [map_eq_pure_bind, run_bind]
  cases (t.run w).value with
  | ok a => simp [Except.map]
  | error f => rfl

theorem exists_of_run_bind {t : Task ω ε α} {g : α → Task ω ε β} {w : ω} {b : β}
    (h : ((t >>= g).run w).value = .ok b) :
    ∃ a, (t.run w).value = .ok a ∧ ((g a).run (t.run w).world).value = .ok b := by
  rw [run_bind] at h
  cases ha : (t.run w).value with
  | ok a =>
    rw [ha] at h
    exact ⟨a, rfl, h⟩
  | error f =>
    rw [ha] at h
    cases h

theorem value_callOr (text : String) (failure : Fault → Failure) (c : Call) (r : Reply ω ε α)
    (w : ω) : ((callOr text failure c r).run w).value = (r w).value.mapError failure := by
  rw [callOr, run_call]
  cases (r w).value <;> rfl

theorem value_callOr_eq_ok {text : String} {failure : Fault → Failure} {c : Call}
    {r : Reply ω ε α} {w : ω} {a : α} :
    ((callOr text failure c r).run w).value = .ok a ↔ (r w).value = .ok a := by
  rw [value_callOr]
  cases (r w).value with
  | ok b =>
    constructor <;>
    · rintro ⟨⟩
      rfl
  | error f => constructor <;> nofun

theorem world_callOr (text : String) (failure : Fault → Failure) (c : Call) (r : Reply ω ε α)
    (w : ω) : ((callOr text failure c r).run w).world = (r w).world := by
  rw [callOr, run_call]
  cases (r w).value <;> rfl

theorem value_keygripOr (text : String) (parser : CertificateParser) (certificate : Octets)
    (w : ω) :
    ((keygripOr text parser certificate : Task ω ε _).run w).value =
      parser.keygrip certificate := by
  rw [keygripOr, run_bind]
  cases h : parser.keygrip certificate <;> simp

end SmartCard.Task
