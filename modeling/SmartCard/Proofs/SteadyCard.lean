import SmartCard.Proofs.CardWork
import SmartCard.Proofs.SimulatedWorld

/-!
# Cards that do not change

A card that is left alone gives the same answer to the same call, except that a read depends on the
file that was selected last and on the reads since. Two worlds are alike if these agree. From worlds
that are alike a file is read alike, whatever happened to the card before.
-/
namespace SmartCard

section
variable {ω ε Context Connection Application α β : Type}

/-- While the card is left alone the world is a usual one, and calls of the backend give the same
answers in all usual worlds. After a selection two worlds are alike, and reads keep them so. -/
structure Steady (S : Stack ω ε Context Connection Application) (k : Connection)
    (b : Backend Application) (usual : ω → Prop) (alike : ω → ω → Prop) : Prop where
  keeps {α : Type} {c : Call} {r : Reply ω ε α} {w : ω} :
    CardCall S k b c r → usual w → usual (r w).world
  answers {α : Type} {c : Call} {r : Reply ω ε α} {w w' : ω} :
    CardCall S k b c r → (∀ offset length, c ≠ .read offset length) → usual w → usual w' →
      (r w).value = (r w').value
  select {path : Path} {file : FileInfo} {w w' : ω} : usual w → usual w' →
    (S.select k path w).value = .ok file →
      alike (S.select k path w).world (S.select k path w').world
  read {offset length : Nat} {w w' : ω} : alike w w' →
    (S.read k offset length w).value = (S.read k offset length w').value ∧
      ∀ o, (S.read k offset length w).value = .ok o →
        alike (S.read k offset length w).world (S.read k offset length w').world

/-- From worlds that `P` relates the piece of work gives the same answer, and if it succeeds it
leads to worlds that `Q` relates. -/
def Task.Alike (P Q : ω → ω → Prop) (t : Task ω ε α) : Prop :=
  ∀ w w', P w w' → (t.run w).value = (t.run w').value ∧
    ∀ a, (t.run w).value = .ok a → Q (t.run w).world (t.run w').world

namespace Task.Alike

variable {P Q R : ω → ω → Prop}

theorem pure (a : α) : Alike P P (pure a : Task ω ε α) := fun _ _ h => ⟨rfl, fun _ _ => h⟩

theorem throw (f : Failure) : Alike P Q (throw f : Task ω ε α) := fun _ _ _ => ⟨rfl, nofun⟩

theorem refuse (text : String) (f : Failure) : Alike P Q (refuse text f : Task ω ε α) :=
  fun _ _ _ => ⟨rfl, nofun⟩

theorem bind {t : Task ω ε α} {g : α → Task ω ε β} (ht : Alike P Q t)
    (hg : ∀ a, Alike Q R (g a)) : Alike P R (t >>= g) := by
  intro w w' hw
  obtain ⟨hv, hq⟩ := ht w w' hw
  rw [Task.run_bind, Task.run_bind, ← hv]
  cases ha : (t.run w).value with
  | ok a => exact hg a _ _ (hq a ha)
  | error f => exact ⟨rfl, nofun⟩

theorem recover {t : Task ω ε α} {g : Failure → Task ω ε α} (ht : Alike P Q t)
    (hg : ∀ f, Alike (fun _ _ => True) Q (g f)) : Alike P Q (recover t g) := by
  intro w w' hw
  obtain ⟨hv, hq⟩ := ht w w' hw
  rw [Task.run_recover, Task.run_recover, ← hv]
  cases ha : (t.run w).value with
  | ok a => exact ⟨rfl, fun _ _ => hq a ha⟩
  | error f => exact hg f _ _ trivial

theorem require (condition : Bool) {t : Task ω ε Unit} (ht : Alike P P t) :
    Alike P P (require condition t) := by
  cases condition with
  | true => exact .pure ()
  | false => exact ht

theorem ofExcept (r : Except Failure α) : Alike P P (liftM r : Task ω ε α) :=
  fun _ _ h => ⟨rfl, fun _ _ => h⟩

theorem logAll (ls : List Log) : Alike P P (logAll ls : Task ω ε Unit) := by
  intro w w' hw
  simpa using hw

theorem log (level : Level) (text : String) : Alike P P (log level text : Task ω ε Unit) :=
  logAll [⟨level, text⟩]

theorem prompt (ask : PinCallback) (text : String) :
    Alike P P (prompt ask text : Task ω ε String) := fun _ _ h => ⟨rfl, fun _ _ => h⟩

theorem keygripOr (text : String) (parser : CertificateParser) (certificate : Octets) :
    Alike P P (keygripOr text parser certificate : Task ω ε _) := by
  refine .bind (Q := P) (fun _ _ h => ⟨rfl, fun _ _ => h⟩) fun _ => ?_
  cases parser.keygrip certificate with
  | ok g => exact .pure g
  | error f => exact .refuse text f

/-- A call is answered alike, and the fault of one that fails is dealt with in any world. -/
theorem call {c : Call} {r : Reply ω ε α} {g : Fault → Task ω ε α}
    (hr : ∀ w w', P w w' → (r w).value = (r w').value ∧
      ∀ a, (r w).value = .ok a → Q (r w).world (r w').world)
    (hg : ∀ f, Alike (fun _ _ => True) Q (g f)) : Alike P Q (call c r g) := by
  intro w w' hw
  obtain ⟨hv, hq⟩ := hr w w' hw
  rw [Task.run_call, Task.run_call, ← hv]
  cases ha : (r w).value with
  | ok a => exact ⟨rfl, fun _ _ => hq a ha⟩
  | error f => exact hg f _ _ trivial

theorem callThrough {c : Call} {r : Reply ω ε α}
    (hr : ∀ w w', P w w' → (r w).value = (r w').value ∧
      ∀ a, (r w).value = .ok a → Q (r w).world (r w').world) : Alike P Q (callThrough c r) :=
  .call hr fun _ => .throw _

theorem callOr {text : String} {failure : Fault → Failure} {c : Call} {r : Reply ω ε α}
    (hr : ∀ w w', P w w' → (r w).value = (r w').value ∧
      ∀ a, (r w).value = .ok a → Q (r w).world (r w').world) :
    Alike P Q (callOr text failure c r) := .call hr fun _ => .refuse _ _

end Task.Alike

namespace Steady

variable {S : Stack ω ε Context Connection Application} {k : Connection}
  {b : Backend Application} {usual : ω → Prop} {alike : ω → ω → Prop}

/-- Work on the card leads from usual worlds to usual worlds, with the same backend. -/
theorem work (h : Steady S k b usual alike) {b' : Option (Backend Application)} {w w' : ω}
    {es : List (Entry ε)} (hwork : Work S k (some b) w es b' w') (hw : usual w) :
    usual w' ∧ b' = some b := by
  generalize hb : some b = b₀ at hwork
  induction hwork with
  | done => exact ⟨hw, rfl⟩
  | quiet _ _ ih => exact ih hw hb
  | call hc _ ih =>
    cases hb
    exact ih (h.keeps hc hw) rfl
  | bind => cases hb

/-- A file is selected alike in all usual worlds. -/
theorem selects (h : Steady S k b usual alike) (path : Path) (w w' : ω)
    (hw : usual w ∧ usual w') :
    (S.select k path w).value = (S.select k path w').value ∧
      ∀ file, (S.select k path w).value = .ok file →
        alike (S.select k path w).world (S.select k path w').world :=
  ⟨h.answers (.select b path) nofun hw.1 hw.2, fun _ hf => h.select hw.1 hw.2 hf⟩

theorem alike_fragments (h : Steady S k b usual alike) (size reads start : Nat) :
    Task.Alike alike alike (WholeFile.fragments S k size reads start) := by
  induction reads generalizing start with
  | zero => exact .pure []
  | succ reads ih =>
    unfold WholeFile.fragments
    split
    · exact .pure []
    · refine .bind (.callThrough fun w w' hw => h.read hw) fun piece => ?_
      split
      · exact .pure []
      · exact .bind (ih _) fun _ => .pure _

/-- A file is read alike in all usual worlds. -/
theorem alike_read (h : Steady S k b usual alike) (path : Path) :
    Task.Alike (fun w w' => usual w ∧ usual w') alike (WholeFile.read S k path) := by
  refine .bind (.callThrough (h.selects path)) fun file => ?_
  refine .bind (.require _ (.throw .cardError)) fun _ => ?_
  refine .bind (h.alike_fragments file.size file.size 0) fun content => ?_
  exact .bind (.require _ (.throw .cardError)) fun _ => .pure content

theorem alike_certificate (h : Steady S k b usual alike) :
    Task.Alike (fun w w' => usual w ∧ usual w') alike (Dinsig.certificate S k) :=
  .recover (h.alike_read _) fun f => .refuse _ f

end Steady

end

/-! ## The simulated stack -/

namespace Simulator

/-- Cards of the simulator do not change as long as they stay in their readers. -/
theorem steady (k : Connection) (b : Backend Application) (readers : List Reader) :
    Steady stack k b (fun w => w.readers = readers) (World.Alike k) where
  keeps {_ _ _ w} hc hw := by
    cases hc with
    | select path => exact (World.readers_select w k _).trans hw
    | read offset length => exact (World.readers_read w k _ _).trans hw
    | privateKeys | certificate | pinLabel | verifyPin | sign | decipher => exact hw
  answers {_ _ _ w w'} hc hne hw hw' := by
    have h : w.readers = w'.readers := hw.trans hw'.symm
    cases hc with
    | select path => exact (World.select_congr h k _).1
    | read offset length => exact absurd rfl (hne _ _)
    | privateKeys a => exact World.ask_congr h a .privateKeys fun d => .ok d.keys
    | certificate a id =>
      exact World.ask_congr h a .certificate fun d => .ok (d.certificates.lookup (Hex.upper id))
    | pinLabel a => exact World.ask_congr h a .pinLabel fun d => .ok d.pinLabel
    | verifyPin a id pin => exact World.ask_congr h a .verifyPin (World.verify pin)
    | sign a id hash digest => exact World.ask_congr h a .sign fun _ => .ok digest.reverse
    | decipher a id data =>
      exact World.ask_congr h a .decipher fun _ => .ok (data.map (· ^^^ 0xFF))
  select {_ _ w w'} hw hw' hf := (World.select_congr (hw.trans hw'.symm) k _).2 _ hf
  read h := World.read_congr h ..

end Simulator

end SmartCard
