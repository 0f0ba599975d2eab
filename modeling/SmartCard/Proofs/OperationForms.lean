import Mathlib.Tactic.SplitIfs
import SmartCard.Proofs.BindingFirst
import SmartCard.Proofs.ObjectNames
import SmartCard.Proofs.Opening

/-!
# How operations are put together

Every operation of a session is put together from a few forms: calls that fail with what their fault
comes to, a prompt, the parsing of a certificate, lines of the log and failures of its own. What is
shown of each form, and of one form after another, holds of every operation.
-/
namespace SmartCard

variable {ω ε Context Connection Application α β : Type}

/-! ## Failures and faults -/

theorem failureOf_map (g : α → β) (r : Except Failure α) : failureOf (r.map g) = failureOf r := by
  cases r <;> rfl

/-- Failures that an operation finds by itself: it misses a backend only where none is bound, and
complains about the card only after it was asked. -/
def Failure.Own (bound asked : Bool) (f : Failure) : Prop :=
  (f = .notInitialized → bound = false) ∧ (f = .cardError → asked = true)

theorem Failure.Own.cardError {bound : Bool} : Failure.cardError.Own bound true :=
  ⟨fun h => absurd h (by decide), fun _ => rfl⟩

/-- All other failures may be found at any time. -/
theorem Failure.Own.of_ne {bound asked : Bool} {f : Failure}
    (h : f ≠ .notInitialized := by decide) (h' : f ≠ .cardError := by decide) :
    f.Own bound asked := ⟨fun he => absurd he h, fun he => absurd he h'⟩

/-- What the fault of a selection of the file, or of a read of it, comes to. -/
def fileVerdict (file : Path) (f : Fault) : Failure :=
  if file = WholeFile.gdoPath then .cardError else .ofFault f

theorem fileVerdict_of_ne {file : Path} (hfile : file ≠ WholeFile.gdoPath) (f : Fault) :
    fileVerdict file f = .ofFault f := if_neg hfile

namespace Call

/-- What the fault of a call comes to where only the file is selected and read. -/
def verdict? (file : Path) (f : Fault) : Call → Option Failure
  | bind => none
  | detect _ => some .cardNotPresent
  | select _ | read .. => some (fileVerdict file f)
  | verifyPin .. => some .badPin
  | _ => some (.ofFault f)

/-- No other file is selected. -/
def Opens (file : Path) : Call → Prop
  | select path => path = file
  | _ => True

theorem ofFault_ne_notInitialized (f : Fault) : Failure.ofFault f ≠ .notInitialized := by
  rw [Failure.ofFault]
  cases f.code <;> nofun

/-- No call is answered by the lack of a backend. -/
theorem verdict?_ne_notInitialized (file : Path) (f : Fault) (c : Call) :
    c.verdict? file f ≠ some .notInitialized := by
  have hfault := ofFault_ne_notInitialized f
  have hfile : fileVerdict file f ≠ .notInitialized := by
    rw [fileVerdict]
    split
    · nofun
    · exact hfault
  cases c <;> simp [verdict?, hfault, hfile]

end Call

/-! ## Forms -/

namespace Task

/-- The piece of work makes some call in any case. -/
def Asks (t : Task ω ε α) : Prop := ∀ w, trace (t.run w).entries ≠ []

namespace Asks

theorem call (c : Call) (r : Reply ω ε α) (g : Fault → Task ω ε α) : Asks (call c r g) := by
  intro w
  rw [run_call]
  cases (r w).value with
  | ok a => exact List.cons_ne_nil _ _
  | error f => exact List.cons_ne_nil _ _

theorem bind {t : Task ω ε α} (h : Asks t) (g : α → Task ω ε β) : Asks (t >>= g) := by
  intro w
  rw [run_bind]
  cases (t.run w).value with
  | ok a =>
    rw [trace_append]
    exact List.append_ne_nil_of_left_ne_nil (h w) _
  | error f => exact h w

theorem recover {t : Task ω ε α} (h : Asks t) (g : Failure → Task ω ε α) :
    Asks (recover t g) := by
  intro w
  rw [run_recover]
  cases (t.run w).value with
  | ok a => exact h w
  | error f =>
    rw [trace_append]
    exact List.append_ne_nil_of_left_ne_nil (h w) _

end Asks

/-- How a piece of work is put together. It selects the file and no other; a backend is bound or
not, and the card was asked before or not. -/
inductive Built (file : Path) (bound : Bool) : Bool → {α : Type} → Task ω ε α → Prop
  | pure {asked : Bool} {α : Type} (a : α) : Built file bound asked (pure a)
  | throw {asked : Bool} {α : Type} {f : Failure} (hf : f.Own bound asked) :
      Built file bound asked (throw f : Task ω ε α)
  | logAll {asked : Bool} (ls : List Log) : Built file bound asked (logAll ls)
  | callThrough {asked : Bool} {α : Type} {c : Call} {r : Reply ω ε α} (hc : c.Opens file)
      (hv : ∀ f, c.verdict? file f = some (.ofFault f)) :
      Built file bound asked (callThrough c r)
  | callOr {asked : Bool} {α : Type} {text : String} {failure : Fault → Failure} {c : Call}
      {r : Reply ω ε α} (hc : c.Opens file) (hv : ∀ f, c.verdict? file f = some (failure f)) :
      Built file bound asked (callOr text failure c r)
  | prompt (ask : PinCallback) (text : String) : Built file bound true (prompt ask text)
  | keygripOr (text : String) (parser : CertificateParser) (certificate : Octets) :
      Built file bound true (keygripOr text parser certificate)
  | bind {asked : Bool} {α β : Type} {t : Task ω ε α} {g : α → Task ω ε β}
      (ht : Built file bound asked t) (hg : ∀ a, Built file bound asked (g a)) :
      Built file bound asked (t >>= g)
  /-- One piece after another that asks the card. -/
  | after {asked : Bool} {α β : Type} {t : Task ω ε α} {g : α → Task ω ε β} (ha : Asks t)
      (ht : Built file bound asked t) (hg : ∀ a, Built file bound true (g a)) :
      Built file bound asked (t >>= g)
  /-- A failure is logged and stays what it is. -/
  | report {asked : Bool} {α : Type} {t : Task ω ε α} (text : Failure → String)
      (ht : Built file bound asked t) :
      Built file bound asked (recover t fun f => refuse (text f) f)
  /-- Whatever comes of a piece is logged. -/
  | logged {asked : Bool} {α : Type} {t : Task ω ε α} (ls : Except Failure α → List Log)
      (ht : Built file bound asked t) :
      Built file bound asked (ExceptT.mk do
        let r ← t.run
        Action.writeAll ((ls r).map .ofLog)
        return r)

namespace Built

variable {file : Path} {bound asked : Bool}

theorem log (level : Level) (text : String) :
    Built file bound asked (log level text : Task ω ε Unit) := .logAll [⟨level, text⟩]

theorem refuse (text : String) {f : Failure} (hf : f.Own bound asked) :
    Built file bound asked (refuse text f : Task ω ε α) :=
  .bind (.log .error text) fun _ => .throw hf

theorem require (condition : Bool) {t : Task ω ε Unit} (ht : Built file bound asked t) :
    Built file bound asked (require condition t) := by
  cases condition with
  | true => exact .pure ()
  | false => exact ht

theorem ofExcept {r : Except Failure α} (hr : ∀ f, r = .error f → f.Own bound asked) :
    Built file bound asked (liftM r : Task ω ε α) := by
  cases r with
  | ok a => exact .pure a
  | error f => exact .throw (hr f rfl)

/-- A call that fails with its verdict, and what follows when the card has answered it. -/
theorem callThenThrough {c : Call} {r : Reply ω ε α} {g : α → Task ω ε β} (hc : c.Opens file)
    (hv : ∀ f, c.verdict? file f = some (.ofFault f)) (hg : ∀ a, Built file bound true (g a)) :
    Built file bound asked (Task.callThrough c r >>= g) :=
  .after (.call _ _ _) (.callThrough hc hv) hg

theorem callThenOr {text : String} {failure : Fault → Failure} {c : Call} {r : Reply ω ε α}
    {g : α → Task ω ε β} (hc : c.Opens file) (hv : ∀ f, c.verdict? file f = some (failure f))
    (hg : ∀ a, Built file bound true (g a)) :
    Built file bound asked (Task.callOr text failure c r >>= g) :=
  .after (.call _ _ _) (.callOr hc hv) hg

end Built

end Task

/-! ## Files -/

section
variable {S : Stack ω ε Context Connection Application} {k : Connection} {file : Path}
  {bound asked : Bool}

namespace WholeFile

theorem built_fragments (hfile : file ≠ gdoPath) (size reads start : Nat) :
    Task.Built file bound asked (fragments S k size reads start) := by
  induction reads generalizing start with
  | zero => exact .pure []
  | succ reads ih =>
    unfold fragments
    split
    · exact .pure []
    · have hv (f : Fault) := congrArg some (fileVerdict_of_ne hfile f)
      refine .bind (.callThrough trivial hv) fun piece => ?_
      split
      · exact .pure []
      · exact .bind (ih _) fun _ => .pure _

theorem built_read (hfile : file ≠ gdoPath) : Task.Built file bound asked (read S k file) := by
  have hv (f : Fault) := congrArg some (fileVerdict_of_ne hfile f)
  unfold read
  refine .callThenThrough rfl hv fun info => ?_
  refine .bind (.require _ (.throw .cardError)) fun _ => ?_
  refine .bind (built_fragments hfile info.size info.size 0) fun content => ?_
  exact .bind (.require _ (.throw .cardError)) fun _ => .pure content

theorem asks_read (path : Path) : Task.Asks (read S k path) := .bind (.call _ _ _) _

theorem built_readGdo : Task.Built gdoPath bound asked (readGdo S k) := by
  unfold readGdo
  refine .callThenOr rfl (fun _ => rfl) fun info => ?_
  refine .bind (.require _ (.refuse _ .cardError)) fun _ => ?_
  refine .bind (.require _ (.refuse _ .cardError)) fun _ => ?_
  refine .bind (.callOr trivial fun _ => rfl) fun content => ?_
  exact .bind (.require _ (.refuse _ .cardError)) fun _ => .pure content

theorem asks_readGdo : Task.Asks (readGdo S k) := .bind (.call _ _ _) _

theorem own_findIccsn {gdo : Octets} {f : Failure} (h : Serial.findIccsn gdo = .error f) :
    f.Own bound true := by
  suffices hf : f = .cardError from hf ▸ .cardError
  rw [Serial.findIccsn] at h
  split at h
  · cases h
    rfl
  · rw [Serial.ofFound] at h
    split_ifs at h <;> cases h <;> rfl

theorem built_resolveSerial (application : Option String) :
    Task.Built gdoPath bound asked (resolveSerial S k application) := by
  refine .after asks_readGdo built_readGdo fun gdo => ?_
  cases h : Serial.findIccsn gdo with
  | ok i => exact .bind (.logAll _) fun _ => .pure _
  | error f => exact .refuse _ (own_findIccsn h)

end WholeFile

end

/-! ## Backends -/

section
variable {S : Stack ω ε Context Connection Application} {k : Connection} {a : Application}
  {file : Path} {bound asked : Bool}

namespace Pkcs15

theorem built_certificate (id : Octets) : Task.Built file bound asked (certificate S a id) :=
  .callOr trivial fun _ => rfl

theorem asks_certificate (id : Octets) : Task.Asks (certificate S a id) := .call _ _ _

theorem built_keypair (parser : CertificateParser) (index : Nat) :
    Task.Built file bound asked (keypair S parser a index) := by
  refine .callThenOr trivial (fun _ => rfl) fun keys => ?_
  split
  · exact .pure none
  · refine .bind (built_certificate _) fun c => ?_
    split
    · exact .bind (.log _ _) fun _ => .throw .of_ne
    · exact .bind (.keygripOr _ _ _) fun _ => .pure _

theorem own_parse {id : String} {f : Failure} (h : ObjectId.parse id = .error f) :
    f.Own bound asked := ObjectId.eq_of_parse_eq_error h ▸ .of_ne

theorem built_readCertificate (certId : String) :
    Task.Built file bound asked (readCertificate S a certId) := by
  refine .bind (.ofExcept fun _ => own_parse) fun id => ?_
  refine .after (asks_certificate id) (built_certificate id) fun c => ?_
  split
  · exact .pure _
  · exact .refuse _ .cardError

theorem built_verifyPin (id : Octets) (ask : PinCallback) :
    Task.Built file bound asked (verifyPin S a id ask) := by
  refine .callThenOr trivial (fun _ => rfl) fun label => ?_
  refine .bind (.prompt ask _) fun pin => ?_
  exact .callOr trivial fun _ => rfl

theorem built_sign (keyId : String) (hash : HashAlgorithm) (ask : PinCallback)
    (digest : Octets) : Task.Built file bound asked (sign S a keyId hash ask digest) := by
  refine .bind (.ofExcept fun _ => own_parse) fun id => ?_
  refine .bind (.require _ (.throw .of_ne)) fun _ => ?_
  refine .bind (.require _ (.refuse _ .of_ne)) fun _ => ?_
  refine .bind (built_verifyPin id ask) fun _ => ?_
  exact .callOr trivial fun _ => rfl

theorem built_decipher (keyId : String) (ask : PinCallback) (data : Octets) :
    Task.Built file bound asked (decipher S a keyId ask data) := by
  refine .bind (.ofExcept fun _ => own_parse) fun id => ?_
  refine .bind (built_verifyPin id ask) fun _ => ?_
  exact .callOr trivial fun _ => rfl

end Pkcs15

namespace Dinsig

theorem certPath_ne_gdoPath : certPath ≠ WholeFile.gdoPath := by decide

theorem built_certificate : Task.Built certPath bound asked (certificate S k) :=
  .report _ (WholeFile.built_read certPath_ne_gdoPath)

theorem asks_certificate : Task.Asks (certificate S k) :=
  .recover (WholeFile.asks_read _) _

theorem built_keypair (parser : CertificateParser) (index : Nat) :
    Task.Built certPath bound asked (keypair S parser k index) := by
  rw [keypair]
  split
  · refine .after asks_certificate built_certificate fun c => ?_
    exact .bind (.keygripOr _ _ _) fun _ => .pure _
  · exact .pure none

theorem built_readCertificate (id : String) :
    Task.Built certPath bound asked (readCertificate S k id) := by
  rw [readCertificate]
  split
  · exact built_certificate
  · exact .throw .of_ne

end Dinsig

namespace Backend

open Dinsig (certPath)

theorem built_keypair (b : Backend Application) (parser : CertificateParser) (index : Nat) :
    Task.Built certPath bound asked (b.keypair S parser k index) := by
  cases b with
  | pkcs15 a => exact Pkcs15.built_keypair parser index
  | dinsig => exact Dinsig.built_keypair parser index

theorem built_readCertificate (b : Backend Application) (id : String) :
    Task.Built certPath bound asked (b.readCertificate S k id) := by
  cases b with
  | pkcs15 a => exact Pkcs15.built_readCertificate id
  | dinsig => exact Dinsig.built_readCertificate id

theorem built_sign (b : Backend Application) (keyId : String) (hash : HashAlgorithm)
    (ask : PinCallback) (digest : Octets) :
    Task.Built file bound asked (b.sign S keyId hash ask digest) := by
  cases b with
  | pkcs15 a => exact Pkcs15.built_sign keyId hash ask digest
  | dinsig => exact .throw .of_ne

theorem built_decipher (b : Backend Application) (keyId : String) (ask : PinCallback)
    (data : Octets) : Task.Built file bound asked (b.decipher S keyId ask data) := by
  cases b with
  | pkcs15 a => exact Pkcs15.built_decipher keyId ask data
  | dinsig => exact .throw .of_ne

end Backend

end

/-! ## Sessions -/

/-- The file that an operation selects and reads. -/
def Operation.file : Operation → Path
  | serial => WholeFile.gdoPath
  | _ => Dinsig.certPath

namespace Session

variable {S : Stack ω ε Context Connection Application}
  (s : Session Context Connection Application) {file : Path} {bound asked : Bool}

theorem built_reported {t : Task ω ε α} (operation : String)
    (ht : Task.Built file bound asked t) : Task.Built file bound asked (s.reported operation t) :=
  .logged _ ht

theorem built_arguments (ask : Option PinCallback) (data : Octets) :
    Task.Built file bound asked (arguments ask data : Task ω ε PinCallback) := by
  unfold arguments
  split
  · split
    · exact .throw .of_ne
    · exact .pure _
  · exact .throw .of_ne

/-- Only a session without a backend misses one. -/
theorem built_bound :
    Task.Built file s.isInitialized asked (s.bound : Task ω ε (Backend Application)) := by
  rw [Session.bound]
  cases hb : s.backend with
  | some b => exact .pure b
  | none =>
    have hnone : s.isInitialized = false := by rw [isInitialized, hb, Option.isSome_none]
    exact .throw ⟨fun _ => hnone, fun h => absurd h (by decide)⟩

theorem built_keypair (index : Int) :
    Task.Built Dinsig.certPath s.isInitialized asked (s.keypair S index) := by
  refine s.built_reported _ (.bind (.require _ (.throw .of_ne)) fun _ => ?_)
  exact .bind s.built_bound fun b => b.built_keypair s.parser index.toNat

theorem built_readCertificate (id : String) :
    Task.Built Dinsig.certPath s.isInitialized asked (s.readCertificate S id) :=
  s.built_reported _ (.bind s.built_bound fun b => b.built_readCertificate id)

theorem built_sign (keyId : String) (hash : HashAlgorithm) (ask : Option PinCallback)
    (digest : Octets) :
    Task.Built file s.isInitialized asked (s.sign S keyId hash ask digest) := by
  refine s.built_reported _ (.bind (built_arguments ask digest) fun ask => ?_)
  exact .bind s.built_bound fun b => b.built_sign keyId hash ask digest

theorem built_decipher (keyId : String) (ask : Option PinCallback) (data : Octets) :
    Task.Built file s.isInitialized asked (s.decipher S keyId ask data) := by
  refine s.built_reported _ (.bind (built_arguments ask data) fun ask => ?_)
  exact .bind s.built_bound fun b => b.built_decipher keyId ask data

theorem exists_built_of_bound {b : Backend Application} (hb : s.backend = some b)
    {op : Operation} (hop : op.binds = true) (w : ω) :
    ∃ (α : Type) (t : Task ω ε α) (w' : ω), Task.Built op.file true false t ∧
      (s.perform S op w).entries = (t.run w').entries ∧
      failureOf (s.perform S op w).value.1 = failureOf (t.run w').value := by
  cases op with
  | bind =>
    rw [perform_bind_of_bound s hb]
    exact ⟨Unit, pure (), w, .pure (), rfl, rfl⟩
  | serial =>
    cases hs : s.serial with
    | some text =>
      rw [perform_serial_of_kept s hb hs]
      exact ⟨Unit, pure (), w, .pure (), rfl, rfl⟩
    | none =>
      rw [perform_serial_of_bound s hb hs, failureOf_map]
      exact ⟨_, _, w, WholeFile.built_resolveSerial _, rfl, rfl⟩
  | keypair | certificate | sign | decipher => cases hop

/-- Every operation binds first, if it is one that binds, and then is one piece of work. -/
theorem exists_built (op : Operation) (w : ω) :
    ∃ (α : Type) (t : Task ω ε α) (w' : ω),
      Task.Built op.file (op.binds || s.isInitialized) false t ∧
      (s.perform S op w).entries =
        (if op.binds then (s.bind S w).entries else []) ++ (t.run w').entries ∧
      failureOf (s.perform S op w).value.1 = failureOf (t.run w').value := by
  cases hop : op.binds with
  | true =>
    obtain ⟨α, t, w', ht, hes, hv⟩ := exists_built_of_bound (S := S)
      (s.withBackend (s.backendAfter S w)) rfl hop (s.bind S w).world
    rw [perform_of_binds s hop]
    exact ⟨α, t, w', ht, congrArg ((s.bind S w).entries ++ ·) hes, hv⟩
  | false =>
    cases op with
    | bind | serial => cases hop
    | keypair index =>
      exact ⟨_, s.keypair S index, w, s.built_keypair index, by simp [perform],
        by simp [perform, failureOf_map]⟩
    | certificate id =>
      exact ⟨_, s.readCertificate S id, w, s.built_readCertificate id, by simp [perform],
        by simp [perform, failureOf_map]⟩
    | sign keyId hash ask digest =>
      exact ⟨_, s.sign S keyId hash ask digest, w, s.built_sign keyId hash ask digest,
        by simp [perform], by simp [perform, failureOf_map]⟩
    | decipher keyId ask data =>
      exact ⟨_, s.decipher S keyId ask data, w, s.built_decipher keyId ask data,
        by simp [perform], by simp [perform, failureOf_map]⟩

end Session

end SmartCard
