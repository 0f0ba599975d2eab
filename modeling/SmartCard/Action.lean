/-!
# Actions with a journal

An action runs in a world and answers with a value; it leaves the world changed and a list of
entries, in the order in which it wrote them.
-/
namespace SmartCard

structure Outcome (ω ε α : Type) where
  value : α
  world : ω
  entries : List ε

def Action (ω ε α : Type) : Type := ω → Outcome ω ε α

namespace Action

variable {ω ε α β : Type}

protected def pure (a : α) : Action ω ε α := fun w => ⟨a, w, []⟩

protected def bind (x : Action ω ε α) (f : α → Action ω ε β) : Action ω ε β := fun w =>
  let r := x w
  let s := f r.value r.world
  ⟨s.value, s.world, r.entries ++ s.entries⟩

instance : Monad (Action ω ε) where
  pure := Action.pure
  bind := Action.bind

/-- Writes an entry. -/
def write (e : ε) : Action ω ε Unit := fun w => ⟨(), w, [e]⟩

def writeAll (es : List ε) : Action ω ε Unit := fun w => ⟨(), w, es⟩

/-- Looks at the world. -/
def look (f : ω → α) : Action ω ε α := fun w => ⟨f w, w, []⟩

/-- Changes the world. -/
def change (f : ω → ω) : Action ω ε Unit := fun w => ⟨(), f w, []⟩

@[ext] theorem ext {x y : Action ω ε α} (h : ∀ w, x w = y w) : x = y := funext h

@[simp] theorem pure_apply (a : α) (w : ω) : (pure a : Action ω ε α) w = ⟨a, w, []⟩ := rfl

@[simp] theorem bind_apply (x : Action ω ε α) (f : α → Action ω ε β) (w : ω) :
    (x >>= f) w =
      ⟨(f (x w).value (x w).world).value, (f (x w).value (x w).world).world,
        (x w).entries ++ (f (x w).value (x w).world).entries⟩ := rfl

@[simp] theorem write_apply (e : ε) (w : ω) : write e w = ⟨(), w, [e]⟩ := rfl

@[simp] theorem map_apply (f : α → β) (x : Action ω ε α) (w : ω) :
    (f <$> x) w = ⟨f (x w).value, (x w).world, (x w).entries⟩ := by
  simp [Functor.map, Action.bind, Action.pure]

@[simp] theorem writeAll_apply (es : List ε) (w : ω) : writeAll es w = ⟨(), w, es⟩ := rfl

@[simp] theorem look_apply (f : ω → α) (w : ω) : (look f : Action ω ε α) w = ⟨f w, w, []⟩ := rfl

@[simp] theorem change_apply (f : ω → ω) (w : ω) :
    (change f : Action ω ε Unit) w = ⟨(), f w, []⟩ := rfl

instance : LawfulMonad (Action ω ε) := LawfulMonad.mk' _
  (fun _ => by ext w; simp)
  (fun _ _ => by ext w; simp)
  (fun _ _ _ => by ext w; simp)

end Action

end SmartCard
