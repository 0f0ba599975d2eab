import SmartCard.Proofs.FirstFailure
import SmartCard.Proofs.TaskAnswers

/-!
# What operations refuse

An operation that is left to the backend is looked at before anything is asked for it: first at its
arguments, then whether a backend is bound, then whether that backend has the operation. What passes
is the backend's with the same arguments. Where these name nothing that a card could be asked for,
the backend answers by itself as well; in all other cases it asks the card.
-/
namespace SmartCard

variable {ω ε Context Connection Application α β : Type}

/-! ## Guards -/

namespace Operation

/-- What is wrong with the arguments, whatever the backend. -/
def flaw? : Operation → Option Failure
  | keypair index => if index < 0 then some .invalidIndex else none
  | sign _ _ ask digest => if ask.isNone ∨ digest = [] then some .invalidValue else none
  | decipher _ ask data => if ask.isNone ∨ data = [] then some .invalidValue else none
  | bind | serial | certificate _ => none

/-- Fails if there is something wrong with the arguments. -/
def check (op : Operation) : Task ω ε Unit :=
  match op.flaw? with
  | some f => throw f
  | none => pure ()

end Operation

/-- The text is the name of an object of an application directory. -/
def ObjectId.isName (s : String) : Bool := (parse s).isOk

/-- Why a key does not sign a digest: it is no key, or the algorithm or the length is wrong. -/
def Pkcs15.signFlaw? (keyId : String) (hash : HashAlgorithm) (digest : Octets) : Option Failure :=
  if ObjectId.isName keyId then
    if hash = .sha1 ∨ hash = .rmd160 then
      if digest.length = hash.digestLength then none else some .invalidValue
    else some .unsupportedAlgorithm
  else some .invalidValue

namespace Backend

/-- The backend does not have the operation. -/
def lacks : Backend Application → Operation → Bool
  | dinsig, .sign .. | dinsig, .decipher .. => true
  | _, _ => false

/-- What the backend answers without the card. -/
def reply? : Backend Application → Operation → Option (Except Failure Answer)
  | dinsig, .keypair index => if index = 0 then none else some (.ok (.keypair none))
  | dinsig, .certificate id => if id = Dinsig.certId then none else some (.error .invalidValue)
  | pkcs15 _, .certificate id | pkcs15 _, .decipher id _ _ =>
    if ObjectId.isName id then none else some (.error .invalidValue)
  | pkcs15 _, .sign id hash _ digest => (Pkcs15.signFlaw? id hash digest).map .error
  | _, _ => none

end Backend

namespace Session

/-- Why an operation is not left to the backend. -/
def refusal? (s : Session Context Connection Application) (op : Operation) : Option Failure :=
  match op.flaw?, s.backend with
  | some f, _ => some f
  | none, none => some .notInitialized
  | none, some b => if b.lacks op then some .unsupportedOperation else none

/-- The piece of work that the backend is left with, on the arguments of the operation. -/
inductive Forwards (S : Stack ω ε Context Connection Application)
    (s : Session Context Connection Application) (b : Backend Application) :
    Operation → Task ω ε Answer → Prop
  | keypair (index : Nat) :
      Forwards S s b (.keypair index) (.keypair <$> b.keypair S s.parser s.connection index)
  | certificate (id : String) :
      Forwards S s b (.certificate id) (.octets <$> b.readCertificate S s.connection id)
  | sign (keyId : String) (hash : HashAlgorithm) (ask : PinCallback) (digest : Octets) :
      Forwards S s b (.sign keyId hash (some ask) digest)
        (.octets <$> b.sign S keyId hash ask digest)
  | decipher (keyId : String) (ask : PinCallback) (data : Octets) :
      Forwards S s b (.decipher keyId (some ask) data) (.octets <$> b.decipher S keyId ask data)

end Session

/-! ## Runs -/

namespace Session

variable {S : Stack ω ε Context Connection Application}
  (s : Session Context Connection Application) {b : Backend Application} {op : Operation}

/-- The operation checks its arguments, asks for the backend, and is the backend's. -/
def Guarded (S : Stack ω ε Context Connection Application)
    (s : Session Context Connection Application) (op : Operation) : Prop :=
  ∃ t : Backend Application → Task ω ε Answer,
    (op.flaw? = none → ∀ b, Forwards S s b op (t b)) ∧
    ∀ w, ∃ ls : List Log, s.perform S op w =
      let o := (do op.check; s.bound >>= t : Task ω ε Answer).run w
      ⟨(o.value, s), o.world, o.entries ++ ls.map .ofLog⟩

variable {s}

theorem Guarded.ofReported {t : Task ω ε α} {g : α → Answer} {name : String}
    {u : Backend Application → Task ω ε Answer}
    (hp : s.perform S op = do return ((← (s.reported name t).run).map g, s))
    (ht : g <$> t = do op.check; s.bound >>= u)
    (hf : op.flaw? = none → ∀ b, Forwards S s b op (u b)) : Guarded S s op := by
  refine ⟨u, hf, fun w => ⟨resultLogs s.options.verbose name (t.run w).value, ?_⟩⟩
  rw [hp, ← ht, Task.run_map]
  simp [run_reported]

/-- Operations that take a PIN callback and octets to work on. -/
theorem Guarded.ofArguments {ask : Option PinCallback} {data : Octets} {name : String}
    {g : PinCallback → Backend Application → Task ω ε Octets}
    (hflaw : op.flaw? = if ask.isNone ∨ data = [] then some .invalidValue else none)
    (hp : s.perform S op = do return ((← (s.reported name do
      let ask ← arguments ask data
      let b ← s.bound
      g ask b).run).map .octets, s))
    (hf : ∀ cb, ask = some cb → ∀ b, Forwards S s b op (.octets <$> g cb b)) :
    Guarded S s op := by
  by_cases h : ask.isNone ∨ data = []
  · rw [if_pos h] at hflaw
    refine .ofReported (u := fun _ => throw .invalidValue) hp ?_ fun hnone => ?_
    · have harguments : (arguments ask data : Task ω ε PinCallback) = throw .invalidValue := by
        rcases h with hask | rfl
        · rw [Option.isNone_iff_eq_none.mp hask]
          rfl
        · cases ask <;> rfl
      rw [harguments, Operation.check, hflaw]
      rfl
    · rw [hflaw] at hnone
      cases hnone
  · rw [if_neg h] at hflaw
    obtain ⟨hask, hdata⟩ := not_or.mp h
    obtain ⟨cb, rfl⟩ := Option.ne_none_iff_exists'.mp (mt Option.isNone_iff_eq_none.mpr hask)
    refine .ofReported (u := fun b => .octets <$> g cb b) hp ?_ fun _ => hf cb rfl
    have harguments : (arguments (some cb) data : Task ω ε PinCallback) = pure cb := by
      rw [arguments, if_neg (by simpa using hdata)]
    rw [harguments, Operation.check, hflaw]
    simp only [pure_bind, map_bind]

variable (s)

/-- Every operation that does not bind is guarded. -/
theorem guarded (hop : op.binds = false) : Guarded S s op := by
  cases op with
  | bind | serial => cases hop
  | keypair index =>
    refine .ofReported (u := fun b => .keypair <$> b.keypair S s.parser s.connection index.toNat)
      rfl ?_ fun hflaw b => ?_
    · have hcheck : (Operation.keypair index).check (ω := ω) (ε := ε) =
          Task.require (0 ≤ index) (throw .invalidIndex) := by
        rw [Operation.check, Operation.flaw?, Task.require]
        by_cases h : index < 0
        · simp [h, Int.not_le.mpr h]
        · simp [h, Int.not_lt.mp h]
      simp only [hcheck, map_bind]
    · have hindex : 0 ≤ index := by
        refine Int.not_lt.mp fun h => ?_
        rw [Operation.flaw?, if_pos h] at hflaw
        cases hflaw
      obtain ⟨n, rfl⟩ := Int.eq_ofNat_of_zero_le hindex
      exact .keypair n
  | certificate id =>
    refine .ofReported (u := fun b => .octets <$> b.readCertificate S s.connection id)
      rfl ?_ fun _ b => .certificate id
    exact map_bind _ _ _
  | sign keyId hash ask digest =>
    refine .ofArguments (g := fun cb b => b.sign S keyId hash cb digest) rfl rfl ?_
    rintro cb rfl b
    exact .sign keyId hash cb digest
  | decipher keyId ask data =>
    refine .ofArguments (g := fun cb b => b.decipher S keyId cb data) rfl rfl ?_
    rintro cb rfl b
    exact .decipher keyId cb data

theorem Forwards.run_of_lacks {t : Task ω ε Answer} (h : Forwards S s b op t)
    (hlacks : b.lacks op = true) (w : ω) :
    t.run w = ⟨.error .unsupportedOperation, w, []⟩ := by
  cases b with
  | pkcs15 a => cases hlacks
  | dinsig =>
    cases h with
    | keypair | certificate => cases hlacks
    | sign | decipher => rfl

/-- What is refused changes nothing and asks for nothing. -/
theorem perform_of_refusal {f : Failure} (hop : op.binds = false) (h : s.refusal? op = some f)
    (w : ω) : ∃ ls : List Log, s.perform S op w = ⟨(.error f, s), w, ls.map .ofLog⟩ := by
  obtain ⟨t, hforwards, hperform⟩ := s.guarded (S := S) (ω := ω) (ε := ε) hop
  obtain ⟨ls, he⟩ := hperform w
  refine ⟨ls, he.trans ?_⟩
  suffices hrun : (do op.check; s.bound >>= t : Task ω ε Answer).run w = ⟨.error f, w, []⟩ by
    rw [hrun]
    rfl
  rw [refusal?] at h
  rw [Operation.check]
  cases hflaw : op.flaw? with
  | some f' =>
    rw [hflaw] at h
    cases h
    rfl
  | none =>
    rw [hflaw] at h
    simp only [pure_bind]
    cases hb : s.backend with
    | none =>
      rw [hb] at h
      cases h
      exact s.run_unbound hb t w
    | some b =>
      rw [hb] at h
      dsimp only at h
      split_ifs at h with hlacks
      cases h
      rw [s.run_bound hb, (hforwards hflaw b).run_of_lacks s hlacks]

/-- What passes is left to the backend, and only the log is added to what it does. -/
theorem perform_of_passed (hop : op.binds = false) (h : s.refusal? op = none) :
    ∃ b t, s.backend = some b ∧ b.lacks op = false ∧ Forwards S s b op t ∧
      ∀ w, ∃ ls : List Log, s.perform S op w =
        ⟨((t.run w).value, s), (t.run w).world, (t.run w).entries ++ ls.map .ofLog⟩ := by
  obtain ⟨t, hforwards, hperform⟩ := s.guarded (S := S) (ω := ω) (ε := ε) hop
  rw [refusal?] at h
  cases hflaw : op.flaw? with
  | some f =>
    rw [hflaw] at h
    cases h
  | none =>
    rw [hflaw] at h
    cases hb : s.backend with
    | none =>
      rw [hb] at h
      cases h
    | some b =>
      rw [hb] at h
      dsimp only at h
      split_ifs at h with hlacks
      refine ⟨b, t b, rfl, Bool.eq_false_iff.mpr hlacks, hforwards hflaw b, fun w => ?_⟩
      obtain ⟨ls, he⟩ := hperform w
      refine ⟨ls, he.trans ?_⟩
      simp only [Operation.check, hflaw, pure_bind, s.run_bound hb]

end Session

/-! ## Backends -/

namespace Task

/-- The piece of work ends with this answer, and only writes lines of its log. -/
def Replies (r : Except Failure α) (t : Task ω ε α) : Prop :=
  ∀ w, ∃ ls : List Log, t.run w = ⟨r, w, ls.map .ofLog⟩

theorem Replies.map {r : Except Failure α} {t : Task ω ε α} (h : Replies r t) (g : α → β) :
    Replies (r.map g) (g <$> t) := by
  intro w
  obtain ⟨ls, he⟩ := h w
  exact ⟨ls, by rw [run_map, he]⟩

end Task

namespace ObjectId

theorem parse_of_not_isName {id : String} (h : ¬ isName id) : parse id = .error .invalidValue := by
  rcases parse_cases id with herror | ⟨o, -, hok, -⟩
  · exact herror
  · rw [isName, hok] at h
    exact absurd rfl h

theorem exists_of_isName {id : String} (h : isName id) : ∃ o, parse id = .ok o := by
  rcases parse_cases id with herror | ⟨o, -, hok, -⟩
  · rw [isName, herror] at h
    cases h
  · exact ⟨o, hok⟩

end ObjectId

section
variable {S : Stack ω ε Context Connection Application} {k : Connection} {a : Application}

namespace Pkcs15

theorem replies_readCertificate {id : String} (h : ¬ ObjectId.isName id) :
    Task.Replies (.error .invalidValue) (readCertificate S a id) := by
  intro w
  rw [readCertificate, ObjectId.parse_of_not_isName h]
  exact ⟨[], Task.run_error_bind _ _ w⟩

theorem replies_decipher {keyId : String} (h : ¬ ObjectId.isName keyId) (ask : PinCallback)
    (data : Octets) : Task.Replies (.error .invalidValue) (decipher S a keyId ask data) := by
  intro w
  rw [decipher, ObjectId.parse_of_not_isName h]
  exact ⟨[], Task.run_error_bind _ _ w⟩

theorem signs_iff {hash : HashAlgorithm} : signs hash = true ↔ hash = .sha1 ∨ hash = .rmd160 := by
  cases hash <;> decide

/-- A use of a key: the PIN is verified, and then the call is made. -/
def useKey (S : Stack ω ε Context Connection Application) (a : Application) (id : Octets)
    (ask : PinCallback) (text : String) (use : Call) (work : Reply ω ε Octets) :
    Task ω ε Octets := do
  verifyPin S a id ask
  Task.callOr text .ofFault use work

theorem asks_useKey (id : Octets) (ask : PinCallback) (text : String) (use : Call)
    (work : Reply ω ε Octets) : Task.Asks (useKey S a id ask text use work) :=
  .bind (.bind (.call _ _ _) _) _

theorem replies_sign {keyId : String} {hash : HashAlgorithm} {digest : Octets} {f : Failure}
    (h : signFlaw? keyId hash digest = some f) (ask : PinCallback) :
    Task.Replies (.error f) (sign S a keyId hash ask digest) := by
  intro w
  rw [signFlaw?] at h
  rw [sign]
  split_ifs at h with hname hhash hlength
  · cases h
    obtain ⟨id, hid⟩ := ObjectId.exists_of_isName hname
    rw [hid, Task.run_ok_bind, Task.require, if_pos (signs_iff.mpr hhash), pure_bind, Task.require,
      if_neg (by simpa using hlength)]
    exact ⟨[⟨.error, _⟩], rfl⟩
  · cases h
    obtain ⟨id, hid⟩ := ObjectId.exists_of_isName hname
    rw [hid, Task.run_ok_bind, Task.require, if_neg (mt signs_iff.mp hhash)]
    exact ⟨[], rfl⟩
  · cases h
    rw [ObjectId.parse_of_not_isName hname]
    exact ⟨[], Task.run_error_bind _ _ w⟩

theorem sign_eq {keyId : String} {hash : HashAlgorithm} {digest : Octets}
    (h : signFlaw? keyId hash digest = none) (ask : PinCallback) :
    ∃ id, ObjectId.parse keyId = .ok id ∧ sign S a keyId hash ask digest =
      useKey S a id ask "failed to create signature" (.sign id hash digest)
        (S.sign a id hash digest) := by
  rw [signFlaw?] at h
  split_ifs at h with hname hhash hlength
  obtain ⟨id, hid⟩ := ObjectId.exists_of_isName hname
  refine ⟨id, hid, ?_⟩
  rw [sign, hid, Task.require, if_pos (signs_iff.mpr hhash), Task.require,
    if_pos (by simpa using hlength)]
  rfl

theorem decipher_eq {keyId : String} (h : ObjectId.isName keyId) (ask : PinCallback)
    (data : Octets) : ∃ id, ObjectId.parse keyId = .ok id ∧ decipher S a keyId ask data =
      useKey S a id ask "failed to decipher the data" (.decipher id data)
        (S.decipher a id data) := by
  obtain ⟨id, hid⟩ := ObjectId.exists_of_isName h
  refine ⟨id, hid, ?_⟩
  rw [decipher, hid]
  rfl

theorem asks_readCertificate {id : String} (h : ObjectId.isName id) :
    Task.Asks (readCertificate S a id) := by
  obtain ⟨o, ho⟩ := ObjectId.exists_of_isName h
  rw [readCertificate, ho]
  exact .bind (asks_certificate o) _

end Pkcs15

namespace Session

variable {s : Session Context Connection Application} {b : Backend Application} {op : Operation}
  {t : Task ω ε Answer}

/-- What the backend answers without the card. -/
theorem Forwards.replies (h : Forwards S s b op t) {r : Except Failure Answer}
    (hr : b.reply? op = some r) : Task.Replies r t := by
  cases h with
  | keypair index =>
    cases b with
    | pkcs15 a => cases hr
    | dinsig =>
      rw [Backend.reply?] at hr
      split_ifs at hr with hindex
      cases hr
      intro w
      rw [Backend.keypair, Dinsig.keypair, if_neg (by omega)]
      exact ⟨[], rfl⟩
  | certificate id =>
    cases b with
    | pkcs15 a =>
      rw [Backend.reply?] at hr
      split_ifs at hr with hname
      cases hr
      exact (Pkcs15.replies_readCertificate hname).map _
    | dinsig =>
      rw [Backend.reply?] at hr
      split_ifs at hr with hid
      cases hr
      intro w
      rw [Backend.readCertificate, Dinsig.readCertificate, if_neg hid]
      exact ⟨[], rfl⟩
  | sign keyId hash ask digest =>
    cases b with
    | pkcs15 a =>
      obtain ⟨f, hf, rfl⟩ := Option.map_eq_some_iff.mp hr
      exact (Pkcs15.replies_sign hf ask).map _
    | dinsig => cases hr
  | decipher keyId ask data =>
    cases b with
    | pkcs15 a =>
      rw [Backend.reply?] at hr
      split_ifs at hr with hname
      cases hr
      exact (Pkcs15.replies_decipher hname ask data).map _
    | dinsig => cases hr

/-- Everything else is asked of the card. -/
theorem Forwards.asks (h : Forwards S s b op t) (hlacks : b.lacks op = false)
    (hr : b.reply? op = none) : Task.Asks t := by
  cases h with
  | keypair index =>
    rw [map_eq_pure_bind]
    refine .bind ?_ _
    cases b with
    | pkcs15 a => exact .bind (.call _ _ _) _
    | dinsig =>
      rw [Backend.reply?] at hr
      split_ifs at hr with hindex
      rw [Backend.keypair, Dinsig.keypair, if_pos (by omega)]
      exact .bind Dinsig.asks_certificate _
  | certificate id =>
    rw [map_eq_pure_bind]
    refine .bind ?_ _
    cases b with
    | pkcs15 a =>
      rw [Backend.reply?] at hr
      split_ifs at hr with hname
      exact Pkcs15.asks_readCertificate hname
    | dinsig =>
      rw [Backend.reply?] at hr
      split_ifs at hr with hid
      rw [Backend.readCertificate, Dinsig.readCertificate, if_pos hid]
      exact Dinsig.asks_certificate
  | sign keyId hash ask digest =>
    rw [map_eq_pure_bind]
    refine .bind ?_ _
    cases b with
    | pkcs15 a =>
      obtain ⟨id, -, he⟩ := Pkcs15.sign_eq (S := S) (a := a) (Option.map_eq_none_iff.mp hr) ask
      rw [Backend.sign, he]
      exact Pkcs15.asks_useKey _ _ _ _ _
    | dinsig => cases hlacks
  | decipher keyId ask data =>
    rw [map_eq_pure_bind]
    refine .bind ?_ _
    cases b with
    | pkcs15 a =>
      rw [Backend.reply?] at hr
      split_ifs at hr with hname
      obtain ⟨id, -, he⟩ := Pkcs15.decipher_eq (S := S) (a := a) hname ask data
      rw [Backend.decipher, he]
      exact Pkcs15.asks_useKey _ _ _ _ _
    | dinsig => cases hlacks

/-! ## The main result -/

/-- An operation that does not bind is refused for its arguments first, then for want of a backend,
then because the backend lacks it, and then neither the session nor the world is touched. If it is
not refused it is the backend's, with the same arguments; and the backend answers by itself and
touches nothing, or it asks the card. -/
theorem guards_in_order (S : Stack ω ε Context Connection Application)
    (s : Session Context Connection Application) (op : Operation) (hop : op.binds = false) :
    (∀ f, s.refusal? op = some f → ∀ w : ω,
      ∃ ls : List Log, s.perform S op w = ⟨(.error f, s), w, ls.map .ofLog⟩) ∧
    (s.refusal? op = none → ∃ b t, s.backend = some b ∧ Forwards S s b op t ∧
      (∀ w : ω, ∃ ls : List Log, s.perform S op w =
        ⟨((t.run w).value, s), (t.run w).world, (t.run w).entries ++ ls.map .ofLog⟩) ∧
      (∀ r, b.reply? op = some r → ∀ w : ω,
        ∃ ls : List Log, t.run w = ⟨r, w, ls.map .ofLog⟩) ∧
      (b.reply? op = none → ∀ w : ω, trace (t.run w).entries ≠ [])) := by
  refine ⟨fun f hf => s.perform_of_refusal hop hf, fun hnone => ?_⟩
  obtain ⟨b, t, hb, hlacks, hforwards, hperform⟩ := s.perform_of_passed (S := S) hop hnone
  exact ⟨b, t, hb, hforwards, hperform, fun r hr => hforwards.replies hr,
    fun hr => hforwards.asks hlacks hr⟩

end Session

end

namespace Simulator

/-- Flawed arguments come before the want of a backend, that before the lack of the operation, and
an index past the only keypair is answered without the card. -/
theorem guards_in_order_layered :
    let w := World.ofCards [some bare] none
    let s := unbound.withBackend .dinsig
    let ask : PinCallback := fun _ => .ok "1234"
    (∃ ls : List Log, unbound.perform stack (.decipher "P15-5015.45" none [1]) w =
      ⟨(.error .invalidValue, unbound), w, ls.map .ofLog⟩) ∧
    (∃ ls : List Log, unbound.perform stack (.decipher "P15-5015.45" (some ask) [1]) w =
      ⟨(.error .notInitialized, unbound), w, ls.map .ofLog⟩) ∧
    (∃ ls : List Log, s.perform stack (.sign "P15-5015.4" .md5 (some ask) [1]) w =
      ⟨(.error .unsupportedOperation, s), w, ls.map .ofLog⟩) ∧
    ∃ t, Session.Forwards stack s .dinsig (.keypair 1) t ∧
      ∃ ls : List Log, t.run w = ⟨.ok (.keypair none), w, ls.map .ofLog⟩ := by
  intro w s ask
  refine ⟨(Session.guards_in_order stack unbound _ rfl).1 _ rfl w,
    (Session.guards_in_order stack unbound _ rfl).1 _ rfl w,
    (Session.guards_in_order stack s _ rfl).1 _ rfl w, ?_⟩
  obtain ⟨b, t, hb, hforwards, -, hreplies, -⟩ :=
    (Session.guards_in_order stack s (.keypair 1) rfl).2 rfl
  cases hb
  exact ⟨t, hforwards, hreplies _ rfl w⟩

end Simulator

end SmartCard
