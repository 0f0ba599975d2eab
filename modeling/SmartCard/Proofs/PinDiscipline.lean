import SmartCard.Proofs.CertificateRetrieval
import SmartCard.Proofs.Requests

/-!
# The PIN before the key

An operation that uses a key looks for the label of its PIN, asks the cardholder, has the card
verify what it was told, and only then uses the key. It stops at the first of these requests that is
not granted, and makes none of them if there is something wrong with its arguments. So no key is
ever used but right after its PIN was verified.
-/
namespace SmartCard

variable {ω ε Context Connection Application : Type}

/-! ## Authenticated requests -/

/-- Right before each use of a key its PIN was verified. -/
def Authenticated (rs : List (Request × Bool)) : Prop :=
  ∀ front q granted back id, rs = front ++ (q, granted) :: back → q.usedKey? = some id →
    ∃ earlier pin, front = earlier ++ [(.call (.verifyPin id pin), true)]

namespace Authenticated

variable {rs rs' : List (Request × Bool)}

theorem of_unused (h : ∀ q ∈ rs, q.1.usedKey? = none) : Authenticated rs := by
  intro front q granted back id he hid
  rw [h (q, granted) (by simp [he])] at hid
  cases hid

theorem of_keyless (h : Keyless rs) : Authenticated rs := of_unused fun q hq => (h q hq).1

theorem append (h : Authenticated rs) (h' : Authenticated rs') : Authenticated (rs ++ rs') := by
  intro front q granted back id he hid
  rcases List.append_eq_append_iff.mp he with ⟨m, rfl, hm⟩ | ⟨m, hm, hback⟩
  · obtain ⟨earlier, pin, rfl⟩ := h' m q granted back id hm hid
    exact ⟨rs ++ earlier, pin, (List.append_assoc _ _ _).symm⟩
  · cases m with
    | nil =>
      -- The use would be the first request of the second part, with none before it.
      obtain ⟨earlier, pin, hnil⟩ := h' [] q granted back id hback.symm hid
      simp at hnil
    | cons x m =>
      obtain ⟨rfl, -⟩ := List.cons_eq_cons.mp hback
      exact h front q granted m id hm hid

/-- A use of a key behind the verification of its PIN. -/
theorem verified {use : Call} {id : Octets} (huse : use.usedKey? = some id) (pin : String)
    (granted : Bool) :
    Authenticated [(.call (.verifyPin id pin), true), (.call use, granted)] := by
  intro front q g back id' he hid
  match front, he with
  | [], he =>
    cases he
    cases hid
  | [x], he =>
    cases he
    cases huse.symm.trans hid
    exact ⟨[], pin, rfl⟩
  | [_, _], he => cases he
  | _ :: _ :: _ :: _, he => cases he

end Authenticated

/-- What holds of the requests of one operation. -/
structure Disciplined (rs : List (Request × Bool)) : Prop where
  authenticated : Authenticated rs
  /-- The cardholder is asked at most once. -/
  once : rs.countP (fun q => q.1.isPrompt) ≤ 1

theorem Disciplined.of_keyless {rs : List (Request × Bool)} (h : Keyless rs) : Disciplined rs where
  authenticated := .of_keyless h
  once := by
    rw [List.countP_eq_zero.mpr fun q hq => Bool.eq_false_iff.mp (h q hq).2]
    exact Nat.zero_le 1

/-! ## Uses of keys -/

section
variable {S : Stack ω ε Context Connection Application} {a : Application} {id : Octets}
  {ask : PinCallback} {use : Call} {work : Reply ω ε Octets} {w : ω}

/-- All the requests that a use of a key may make, in their order. -/
def keyPlan (id : Octets) (text pin : String) (use : Call) : List Request :=
  [.call (.pinLabel id), .prompt text, .call (.verifyPin id pin), .call use]

/-- How a use of a key from a world ends, by the first request that is not granted. The cardholder
is shown the label of the PIN, or the default text if it has none, and the card is given what the
cardholder answered. -/
inductive KeyUse (S : Stack ω ε Context Connection Application) (a : Application) (id : Octets)
    (ask : PinCallback) (use : Call) (work : Reply ω ε Octets) (w : ω) :
    List (Request × Bool) → Except Failure Octets → Prop
  | noLabel {f : Fault} (hlabel : (S.pinLabel a id w).value = .error f) :
      KeyUse S a id ask use work w [(.call (.pinLabel id), false)] (.error (.ofFault f))
  | noPin {label : Option String} {f : Failure} (hlabel : (S.pinLabel a id w).value = .ok label)
      (hpin : ask (label.getD "PIN") = .error f) :
      KeyUse S a id ask use work w
        [(.call (.pinLabel id), true), (.prompt (label.getD "PIN"), false)]
        (.error f)
  | badPin {label : Option String} {pin : String} {f : Fault}
      (hlabel : (S.pinLabel a id w).value = .ok label)
      (hpin : ask (label.getD "PIN") = .ok pin)
      (hverify : (S.verifyPin a id pin (S.pinLabel a id w).world).value = .error f) :
      KeyUse S a id ask use work w
        [(.call (.pinLabel id), true), (.prompt (label.getD "PIN"), true),
          (.call (.verifyPin id pin), false)]
        (.error .badPin)
  | refused {label : Option String} {pin : String} {f : Fault}
      (hlabel : (S.pinLabel a id w).value = .ok label)
      (hpin : ask (label.getD "PIN") = .ok pin)
      (hverify : (S.verifyPin a id pin (S.pinLabel a id w).world).value = .ok ())
      (hwork : (work (S.verifyPin a id pin (S.pinLabel a id w).world).world).value = .error f) :
      KeyUse S a id ask use work w
        [(.call (.pinLabel id), true), (.prompt (label.getD "PIN"), true),
          (.call (.verifyPin id pin), true), (.call use, false)]
        (.error (.ofFault f))
  | used {label : Option String} {pin : String} {o : Octets}
      (hlabel : (S.pinLabel a id w).value = .ok label)
      (hpin : ask (label.getD "PIN") = .ok pin)
      (hverify : (S.verifyPin a id pin (S.pinLabel a id w).world).value = .ok ())
      (hwork : (work (S.verifyPin a id pin (S.pinLabel a id w).world).world).value = .ok o) :
      KeyUse S a id ask use work w
        [(.call (.pinLabel id), true), (.prompt (label.getD "PIN"), true),
          (.call (.verifyPin id pin), true), (.call use, true)]
        (.ok o)

namespace KeyUse

variable {rs : List (Request × Bool)} {r : Except Failure Octets}

/-- The requests are the planned ones, in their order. -/
theorem isPrefix (h : KeyUse S a id ask use work w rs r) :
    ∃ text pin, rs.map Prod.fst <+: keyPlan id text pin use := by
  cases h with
  | noLabel => exact ⟨"", "", _, rfl⟩
  | @noPin label => exact ⟨label.getD "PIN", "", _, rfl⟩
  | @badPin label pin | @refused label pin | @used label pin =>
    exact ⟨label.getD "PIN", pin, _, rfl⟩

/-- It succeeds if all planned requests are granted, and only then. -/
theorem exists_ok_iff (h : KeyUse S a id ask use work w rs r) :
    (∃ o, r = .ok o) ↔ rs.map Prod.snd = [true, true, true, true] := by
  cases h <;> simp

theorem authenticated (h : KeyUse S a id ask use work w rs r) (huse : use.usedKey? = some id) :
    Authenticated rs := by
  have hfront (label : Option String) : Authenticated
      [(.call (.pinLabel id), true), (.prompt (label.getD "PIN"), true)] :=
    .of_unused (by simp [Request.usedKey?, Call.usedKey?])
  cases h with
  | noLabel | noPin | badPin => exact .of_unused (by simp [Request.usedKey?, Call.usedKey?])
  | @refused label pin => exact (hfront label).append (.verified huse pin false)
  | @used label pin => exact (hfront label).append (.verified huse pin true)

theorem disciplined (h : KeyUse S a id ask use work w rs r) (huse : use.usedKey? = some id) :
    Disciplined rs where
  authenticated := h.authenticated huse
  once := by cases h <;> simp [Request.isPrompt]

end KeyUse

theorem Pkcs15.keyUse_useKey (text : String) (w : ω) :
    KeyUse S a id ask use work w (requests ((useKey S a id ask text use work).run w).entries)
      ((useKey S a id ask text use work).run w).value := by
  simp only [useKey, verifyPin, defaultPrompt, Task.run_bind, Task.value_callOr,
    Task.world_callOr, Task.run_prompt]
  -- Each answer decides whether the next request is made at all.
  cases hlabel : (S.pinLabel a id w).value with
  | error f => simpa [hlabel, faultOf, Except.mapError] using KeyUse.noLabel hlabel
  | ok label =>
    cases hpin : ask (label.getD "PIN") with
    | error f =>
      simpa [hlabel, hpin, faultOf, failureOf, Except.mapError] using KeyUse.noPin hlabel hpin
    | ok pin =>
      cases hverify : (S.verifyPin a id pin (S.pinLabel a id w).world).value with
      | error f =>
        simpa [hlabel, hpin, hverify, faultOf, failureOf, Except.mapError] using
          KeyUse.badPin hlabel hpin hverify
      | ok _ =>
        cases hwork : (work (S.verifyPin a id pin (S.pinLabel a id w).world).world).value with
        | error f =>
          simpa [hlabel, hpin, hverify, hwork, faultOf, failureOf, Except.mapError] using
            KeyUse.refused hlabel hpin hverify hwork
        | ok o =>
          simpa [hlabel, hpin, hverify, hwork, faultOf, failureOf, Except.mapError] using
            KeyUse.used hlabel hpin hverify hwork

end

/-! ## Operations -/

namespace Operation

def usesKey : Operation → Bool
  | sign .. | decipher .. => true
  | _ => false

/-- Why a key is not used at all: there is no callback or nothing to work on, there is no such key,
or the key does not sign with the algorithm or a digest of the length. -/
def objection? : Operation → Option Failure
  | sign keyId hash ask digest =>
    if ask.isNone ∨ digest = [] then some .invalidValue
    else if ¬ ObjectId.isName keyId then some .invalidValue
    else if ¬ (hash = .sha1 ∨ hash = .rmd160) then some .unsupportedAlgorithm
    else if digest.length ≠ hash.digestLength then some .invalidValue
    else none
  | decipher keyId ask data =>
    if ask.isNone ∨ data = [] then some .invalidValue
    else if ¬ ObjectId.isName keyId then some .invalidValue
    else none
  | _ => none

theorem binds_of_usesKey {op : Operation} (huse : op.usesKey = true) : op.binds = false := by
  cases op with
  | bind | serial => cases huse
  | keypair | certificate | sign | decipher => rfl

theorem objection?_eq {op : Operation} (huse : op.usesKey = true) (a : Application) :
    op.objection?.map .error =
      match op.flaw? with
      | some f => some (.error f)
      | none => (Backend.pkcs15 a).reply? op := by
  cases op with
  | bind | serial | keypair | certificate => cases huse
  | sign keyId hash ask digest =>
    simp only [objection?, flaw?, Backend.reply?, Pkcs15.signFlaw?]
    split_ifs <;> simp_all
  | decipher keyId ask data =>
    simp only [objection?, flaw?, Backend.reply?]
    split_ifs <;> simp_all

end Operation

/-- The key that an operation uses, with the callback for its PIN and the call that is made. -/
inductive Uses (S : Stack ω ε Context Connection Application) (a : Application) :
    Operation → PinCallback → Octets → Call → Reply ω ε Octets → Prop
  | sign {keyId : String} {id : Octets} (hid : ObjectId.parse keyId = .ok id)
      (hash : HashAlgorithm) (ask : PinCallback) (digest : Octets) :
      Uses S a (.sign keyId hash (some ask) digest) ask id (.sign id hash digest)
        (S.sign a id hash digest)
  | decipher {keyId : String} {id : Octets} (hid : ObjectId.parse keyId = .ok id)
      (ask : PinCallback) (data : Octets) :
      Uses S a (.decipher keyId (some ask) data) ask id (.decipher id data) (S.decipher a id data)

section
variable {S : Stack ω ε Context Connection Application}
  {s : Session Context Connection Application} {a : Application} {op : Operation}

theorem Uses.usedKey?_eq {ask : PinCallback} {id : Octets} {use : Call} {work : Reply ω ε Octets}
    (h : Uses S a op ask id use work) : use.usedKey? = some id := by
  cases h <;> rfl

namespace Session

/-- What the backend does for other operations has nothing to do with keys. -/
theorem Forwards.keyless {b : Backend Application} {t : Task ω ε Answer}
    (h : Forwards S s b op t) (huse : op.usesKey = false) : Task.Keyless t := by
  cases h with
  | keypair index =>
    refine .map ?_ _
    cases b with
    | pkcs15 a => exact Pkcs15.keyless_keypair s.parser index
    | dinsig => exact Dinsig.keyless_keypair s.parser index
  | certificate id =>
    refine .map ?_ _
    cases b with
    | pkcs15 a => exact Pkcs15.keyless_readCertificate id
    | dinsig => exact Dinsig.keyless_readCertificate id
  | sign | decipher => cases huse

/-- Where there is no objection the backend uses the key. -/
theorem Forwards.exists_uses {t : Task ω ε Answer} (h : Forwards S s (.pkcs15 a) op t)
    (huse : op.usesKey = true) (hr : (Backend.pkcs15 a).reply? op = none) :
    ∃ ask id use work text, Uses S a op ask id use work ∧
      t = .octets <$> Pkcs15.useKey S a id ask text use work := by
  cases h with
  | keypair | certificate => cases huse
  | sign keyId hash ask digest =>
    obtain ⟨id, hid, he⟩ := Pkcs15.sign_eq (S := S) (a := a) (Option.map_eq_none_iff.mp hr) ask
    exact ⟨ask, id, _, _, _, .sign hid hash ask digest, congrArg (Answer.octets <$> ·) he⟩
  | decipher keyId ask data =>
    rw [Backend.reply?] at hr
    split_ifs at hr with hname
    obtain ⟨id, hid, he⟩ := Pkcs15.decipher_eq (S := S) (a := a) hname ask data
    exact ⟨ask, id, _, _, _, .decipher hid ask data, congrArg (Answer.octets <$> ·) he⟩

theorem refusal?_of_pkcs15 (hb : s.backend = some (.pkcs15 a)) : s.refusal? op = op.flaw? := by
  have hlacks : (Backend.pkcs15 a).lacks op = false := by cases op <;> rfl
  rw [refusal?, hb]
  cases op.flaw? with
  | some f => rfl
  | none => simp [hlacks]

/-- What is right about its arguments is left to the application. -/
theorem exists_forwards (hb : s.backend = some (.pkcs15 a)) (huse : op.usesKey = true)
    (hflaw : op.flaw? = none) :
    ∃ t, Forwards S s (.pkcs15 a) op t ∧ ∀ w, ∃ ls : List Log, s.perform S op w =
      ⟨((t.run w).value, s), (t.run w).world, (t.run w).entries ++ ls.map .ofLog⟩ := by
  obtain ⟨b, t, hb', -, hforwards, hperform⟩ := s.perform_of_passed (S := S)
    (Operation.binds_of_usesKey huse) ((refusal?_of_pkcs15 hb).trans hflaw)
  cases hb.symm.trans hb'
  exact ⟨t, hforwards, hperform⟩

/-- An objection ends an operation that would use a key before it has made any request. -/
theorem perform_of_objection (hb : s.backend = some (.pkcs15 a)) (huse : op.usesKey = true)
    {f : Failure} (hf : op.objection? = some f) (w : ω) :
    (s.perform S op w).value.1 = .error f ∧ requests (s.perform S op w).entries = [] := by
  have he := Operation.objection?_eq huse a
  rw [hf] at he
  cases hflaw : op.flaw? with
  | some f' =>
    rw [hflaw] at he
    cases he
    obtain ⟨ls, hp⟩ := s.perform_of_refusal (S := S) (Operation.binds_of_usesKey huse)
      ((refusal?_of_pkcs15 hb).trans hflaw) w
    rw [hp]
    exact ⟨rfl, requests_logs ls⟩
  | none =>
    rw [hflaw] at he
    obtain ⟨t, hforwards, hperform⟩ := exists_forwards (S := S) hb huse hflaw
    obtain ⟨ls, hp⟩ := hperform w
    obtain ⟨ls', ht⟩ := hforwards.replies he.symm w
    rw [hp, ht]
    exact ⟨rfl, by simp⟩

/-- Without an objection it uses the key. -/
theorem perform_of_no_objection (hb : s.backend = some (.pkcs15 a)) (huse : op.usesKey = true)
    (hnone : op.objection? = none) (w : ω) :
    ∃ ask id use work r, Uses S a op ask id use work ∧
      KeyUse S a id ask use work w (requests (s.perform S op w).entries) r ∧
      (s.perform S op w).value.1 = r.map .octets := by
  have he := Operation.objection?_eq huse a
  rw [hnone] at he
  cases hflaw : op.flaw? with
  | some f =>
    rw [hflaw] at he
    cases he
  | none =>
    rw [hflaw] at he
    obtain ⟨t, hforwards, hperform⟩ := exists_forwards (S := S) hb huse hflaw
    obtain ⟨ask, id, use, work, text, huses, rfl⟩ := hforwards.exists_uses huse he.symm
    obtain ⟨ls, hp⟩ := hperform w
    refine ⟨ask, id, use, work, ((Pkcs15.useKey S a id ask text use work).run w).value, huses, ?_⟩
    rw [hp, Task.run_map, requests_append, requests_logs, List.append_nil]
    exact ⟨Pkcs15.keyUse_useKey text w, rfl⟩

/-- Operations are disciplined, on whatever session. -/
theorem disciplined_perform (s : Session Context Connection Application) (op : Operation) (w : ω) :
    Disciplined (requests (s.perform S op w).entries) := by
  cases hop : op.binds with
  | true => exact .of_keyless (keyless_of_binds s hop w)
  | false =>
    cases hrefusal : s.refusal? op with
    | some f =>
      obtain ⟨ls, hp⟩ := s.perform_of_refusal (S := S) hop hrefusal w
      rw [hp, requests_logs]
      exact .of_keyless .nil
    | none =>
      obtain ⟨b, t, hb, hlacks, hforwards, hperform⟩ :=
        s.perform_of_passed (S := S) hop hrefusal
      cases huse : op.usesKey with
      | false =>
        obtain ⟨ls, hp⟩ := hperform w
        rw [hp, requests_append, requests_logs, List.append_nil]
        exact .of_keyless (hforwards.keyless huse w)
      | true =>
        cases b with
        | dinsig => cases op <;> simp_all [Operation.usesKey, Backend.lacks]
        | pkcs15 a =>
          cases hobjection : op.objection? with
          | some f =>
            rw [(perform_of_objection hb huse hobjection w).2]
            exact .of_keyless .nil
          | none =>
            obtain ⟨ask, id, use, work, r, huses, hkey, -⟩ :=
              perform_of_no_objection (S := S) hb huse hobjection w
            exact hkey.disciplined huses.usedKey?_eq

/-- So no sequence of operations uses a key without its PIN. -/
theorem authenticated_performAll (s : Session Context Connection Application)
    (ops : List Operation) (w : ω) : Authenticated (requests (s.performAll S ops w).entries) := by
  induction ops generalizing s w with
  | nil => exact .of_keyless .nil
  | cons op ops ih =>
    simp only [performAll, Action.bind_apply, requests_append]
    exact (disciplined_perform s op w).authenticated.append (ih _ _)

theorem authenticated_run (parser : CertificateParser) (o : Options) (ops : List Operation)
    (w : ω) : Authenticated (requests (run S parser o ops w).entries) := by
  have hstart := keyless_start (S := S) parser o w
  simp only [run, Action.bind_apply, requests_append]
  cases ((start S parser o).run w).value with
  | error f => exact .append (.of_keyless hstart) (.of_keyless .nil)
  | ok s =>
    simp only [Action.bind_apply, Action.pure_apply, requests_append, List.append_nil]
    exact .append (.of_keyless hstart)
      (.append (authenticated_performAll s ops _) (.of_keyless (keyless_close _ _)))

/-! ## The main result -/

/-- Whatever the driver answers, an operation that uses a key of a bound application makes the
planned requests up to the first that is not granted, succeeds if all are granted, and makes none if
there is an objection to its arguments. Every operation of every session asks for a PIN at most
once, and no run uses a key but right after its PIN was verified. -/
theorem pin_before_key (S : Stack ω ε Context Connection Application) :
    (∀ (s : Session Context Connection Application) (a : Application) (op : Operation) (w : ω),
      s.backend = some (.pkcs15 a) → op.usesKey = true →
        let p := s.perform S op w
        (∀ f, op.objection? = some f → p.value.1 = .error f ∧ requests p.entries = []) ∧
        (op.objection? = none → ∃ ask id use work r, Uses S a op ask id use work ∧
          KeyUse S a id ask use work w (requests p.entries) r ∧ p.value.1 = r.map .octets ∧
          (∃ text pin, (requests p.entries).map Prod.fst <+: keyPlan id text pin use) ∧
          ((∃ answer, p.value.1 = .ok answer) ↔
            (requests p.entries).map Prod.snd = [true, true, true, true]))) ∧
    (∀ (s : Session Context Connection Application) (op : Operation) (w : ω),
      Disciplined (requests (s.perform S op w).entries)) ∧
    ∀ (parser : CertificateParser) (o : Options) (ops : List Operation) (w : ω),
      Authenticated (requests (run S parser o ops w).entries) := by
  refine ⟨?_, disciplined_perform, authenticated_run⟩
  intro s a op w hb huse p
  refine ⟨fun f hf => perform_of_objection hb huse hf w, fun hnone => ?_⟩
  obtain ⟨ask, id, use, work, r, huses, hkey, hv⟩ :=
    perform_of_no_objection (S := S) hb huse hnone w
  refine ⟨ask, id, use, work, r, huses, hkey, hv, hkey.isPrefix, ?_⟩
  rw [← hkey.exists_ok_iff, hv]
  cases r with
  | ok o => exact ⟨fun _ => ⟨o, rfl⟩, fun _ => ⟨.octets o, rfl⟩⟩
  | error f => exact ⟨nofun, nofun⟩

end Session

end

namespace Simulator

/-- A card whose application has one key, behind a PIN. -/
def guarded : Card := ⟨true, [], some ⟨none, [[0x45]], [], none, some "1234"⟩, []⟩

/-- With the right PIN a digest of the right length is signed, one of a wrong length is not asked
about. -/
theorem pin_before_key_guarded :
    let w := World.ofCards [some guarded] none
    let ask : PinCallback := fun _ => .ok "1234"
    let digest := List.replicate 20 0xAB
    let p := keySession.perform stack (.sign "P15-5015.45" .sha1 (some ask) digest) w
    let q := keySession.perform stack (.sign "P15-5015.45" .sha1 (some ask) [0xAB]) w
    p.value.1 = .ok (.octets digest) ∧
      (requests p.entries).map Prod.snd = [true, true, true, true] ∧
      q.value.1 = .error .invalidValue ∧ requests q.entries = [] := by
  intro w ask digest p q
  obtain ⟨hkey, -, -⟩ := Session.pin_before_key stack
  have hvalue : p.value.1 = .ok (.octets digest) := rfl
  obtain ⟨-, -, -, -, -, -, -, -, -, hiff⟩ :=
    (hkey keySession ⟨0, none⟩ (.sign "P15-5015.45" .sha1 (some ask) digest) w rfl rfl).2 rfl
  obtain ⟨hrefused, hnone⟩ :=
    (hkey keySession ⟨0, none⟩ (.sign "P15-5015.45" .sha1 (some ask) [0xAB]) w rfl rfl).1 _ rfl
  exact ⟨hvalue, hiff.mp ⟨_, hvalue⟩, hrefused, hnone⟩

end Simulator

end SmartCard
