import SmartCard.Proofs.FailureLogs
import SmartCard.Proofs.PinDiscipline

/-!
# The PIN reaches only the card

Two runs of an operation whose callbacks bring different PINs are compared. If the application takes
both PINs alike, the runs end alike, and their journals differ in the argument of one call and in
what the driver notes from there on. What a successful operation adds to the log itself depends on
its outcome alone.
-/
namespace SmartCard

section
variable {ω ε Context Connection Application α β : Type}

/-! ## Journals -/

/-- The call without its PIN. -/
def Call.masked : Call → Call
  | verifyPin id _ => verifyPin id ""
  | c => c

def Entry.masked : Entry ε → Entry ε
  | call c fault => call c.masked fault
  | e => e

/-- A journal without PINs. -/
def masked (es : List (Entry ε)) : List (Entry ε) := es.map Entry.masked

theorem Entry.log?_masked (e : Entry ε) : e.masked.log? = e.log? := by cases e <;> rfl

theorem logs_masked (es : List (Entry ε)) : logs (masked es) = logs es := by
  rw [logs, masked, List.filterMap_map]
  exact List.filterMap_congr fun e _ => e.log?_masked

/-- Journals that differ in verified PINs, and in notes as the relation has them. -/
inductive Indistinct (N : List (Note ε) → List (Note ε) → Prop) :
    List (Entry ε) → List (Entry ε) → Prop
  | nil : Indistinct N [] []
  | same {es es' : List (Entry ε)} (e : Entry ε) (h : Indistinct N es es') :
      Indistinct N (e :: es) (e :: es')
  | verify {es es' : List (Entry ε)} (id : Octets) (pin pin' : String) (fault : Option Fault)
      (h : Indistinct N es es') :
      Indistinct N (.call (.verifyPin id pin) fault :: es) (.call (.verifyPin id pin') fault :: es')
  | notes {es es' : List (Entry ε)} {ns ns' : List (Note ε)} (hns : N ns ns')
      (h : Indistinct N es es') : Indistinct N (ns.map .note ++ es) (ns'.map .note ++ es')

namespace Indistinct

variable {N : List (Note ε) → List (Note ε) → Prop} {es es' : List (Entry ε)}

theorem append_same (h : Indistinct N es es') (front : List (Entry ε)) :
    Indistinct N (front ++ es) (front ++ es') := by
  induction front with
  | nil => exact h
  | cons e front ih => exact .same e ih

theorem refl (es : List (Entry ε)) : Indistinct N es es := by
  simpa using Indistinct.nil.append_same (N := N) es

theorem append (h : Indistinct N es es') {back back' : List (Entry ε)}
    (hback : Indistinct N back back') :
    Indistinct N (es ++ back) (es' ++ back') := by
  induction h with
  | nil => exact hback
  | same e _ ih => exact .same e ih
  | verify id pin pin' fault _ ih => exact .verify id pin pin' fault ih
  | notes hns _ ih =>
    rw [List.append_assoc, List.append_assoc]
    exact .notes hns ih

/-- Without the PINs they are the same if the driver notes the same. -/
theorem masked_eq (h : Indistinct N es es') (hN : ∀ ns ns', N ns ns' → ns = ns') :
    masked es = masked es' := by
  induction h with
  | nil => rfl
  | same e _ ih => exact congrArg (List.cons e.masked) ih
  | verify id pin pin' fault _ ih => exact congrArg (List.cons _) ih
  | notes hns _ ih =>
    obtain rfl := hN _ _ hns
    simpa [masked] using ih

end Indistinct

/-! ## Twins -/

/-- What fails alike fails with one failure or does not fail. -/
theorem eq_or_ok_of_failureOf {r r' : Except Failure α} (h : failureOf r = failureOf r') :
    (∃ f, r = .error f ∧ r' = .error f) ∨ ∃ a a', r = .ok a ∧ r' = .ok a' := by
  cases r with
  | error f =>
    cases r' with
    | error f' => exact .inl ⟨f, rfl, congrArg _ (Option.some.inj h).symm⟩
    | ok a' => cases h
  | ok a =>
    cases r' with
    | error f' => cases h
    | ok a' => exact .inr ⟨a, a', rfl, rfl⟩

namespace Task

/-- Two pieces of work that end alike, with journals that are alike. -/
def Twin (N : List (Note ε) → List (Note ε) → Prop) (w : ω) (t t' : Task ω ε α) : Prop :=
  (t.run w).value = (t'.run w).value ∧ Indistinct N (t.run w).entries (t'.run w).entries

namespace Twin

variable {N : List (Note ε) → List (Note ε) → Prop} {w : ω} {t t' : Task ω ε α}

theorem refl (t : Task ω ε α) : Twin N w t t := ⟨rfl, .refl _⟩

/-- The same work before them. -/
theorem bind {u : Task ω ε β} {g g' : β → Task ω ε α}
    (h : ∀ b, (u.run w).value = .ok b → Twin N (u.run w).world (g b) (g' b)) :
    Twin N w (u >>= g) (u >>= g') := by
  rw [Twin, run_bind, run_bind]
  cases hu : (u.run w).value with
  | error f => exact ⟨rfl, .refl _⟩
  | ok b =>
    obtain ⟨hvalue, hentries⟩ := h b hu
    exact ⟨hvalue, hentries.append_same _⟩

/-- The same work before them that leaves the world as it is. -/
theorem guard {u : Task ω ε β} (hu : (u.run w).world = w) {g g' : β → Task ω ε α}
    (h : ∀ b, (u.run w).value = .ok b → Twin N w (g b) (g' b)) :
    Twin N w (u >>= g) (u >>= g') := by
  refine .bind fun b hb => ?_
  rw [hu]
  exact h b hb

/-- A prompt to two callbacks that fail alike. -/
theorem prompt {ask ask' : PinCallback} {text : String} {g : String → Task ω ε α}
    (hask : failureOf (ask text) = failureOf (ask' text))
    (h : ∀ pin pin', ask text = .ok pin → ask' text = .ok pin' → Twin N w (g pin) (g pin')) :
    Twin N w (prompt ask text >>= g) (prompt ask' text >>= g) := by
  simp only [Twin, run_bind, run_prompt, ← hask]
  rcases eq_or_ok_of_failureOf hask with ⟨f, hf, hf'⟩ | ⟨pin, pin', hpin, hpin'⟩
  · rw [hf, hf']
    exact ⟨rfl, .refl _⟩
  · rw [hpin, hpin']
    obtain ⟨hvalue, hentries⟩ := h pin pin' hpin hpin'
    exact ⟨hvalue, hentries.append_same _⟩

theorem reported (h : Twin N w t t') (s : Session Context Connection Application)
    (operation : String) : Twin N w (s.reported operation t) (s.reported operation t') := by
  rw [Twin, Session.run_reported, Session.run_reported, ← h.1]
  exact ⟨rfl, h.2.append (.refl _)⟩

end Twin

end Task

/-! ## Verifying two PINs -/

section
variable (S : Stack ω ε Context Connection Application) (a : Application) (id : Octets)
  (next : Reply ω ε Octets) (pin pin' : String) (w : ω)

/-- The application verifies both PINs or refuses both with one fault, and what it then does with
the key ends with the same answer. -/
def TakesAlike : Prop :=
  (S.verifyPin a id pin w).value = (S.verifyPin a id pin' w).value ∧
    ((S.verifyPin a id pin w).value = .ok () →
      (next (S.verifyPin a id pin w).world).value = (next (S.verifyPin a id pin' w).world).value)

/-- What the driver notes about the same call in both runs, once it has been told the PIN. -/
inductive PinNotes : List (Note ε) → List (Note ε) → Prop
  | verify : PinNotes (S.verifyPin a id pin w).entries (S.verifyPin a id pin' w).entries
  | use : PinNotes (next (S.verifyPin a id pin w).world).entries
      (next (S.verifyPin a id pin' w).world).entries

variable {S a id next pin pin' w}

/-- The use of a key from the PIN on. -/
theorem twin_verify (h : TakesAlike S a id next pin pin' w)
    {N : List (Note ε) → List (Note ε) → Prop}
    (hN : ∀ ns ns', PinNotes S a id next pin pin' w ns ns' → N ns ns') (text : String)
    (use : Call) :
    let t pin : Task ω ε Octets := do
      Task.callOr "PIN verification failed" (fun _ => .badPin) (.verifyPin id pin)
        (S.verifyPin a id pin)
      Task.callOr text .ofFault use next
    Task.Twin N w (t pin) (t pin') := by
  intro t
  obtain ⟨hverify, hnext⟩ := h
  simp only [t, Task.Twin, Task.run_bind, Task.callOr, Task.run_call]
  rw [← hverify]
  cases hv : (S.verifyPin a id pin w).value with
  | error f => exact ⟨rfl, .verify _ _ _ _ (.notes (hN _ _ .verify) (.refl _))⟩
  | ok =>
    dsimp only
    rw [← hnext hv]
    refine ⟨?_, .verify _ _ _ _ (.notes (hN _ _ .verify) ?_)⟩
    · cases (next (S.verifyPin a id pin w).world).value <;> rfl
    · cases (next (S.verifyPin a id pin w).world).value with
      | error f => exact .same _ (.notes (hN _ _ .use) (.refl _))
      | ok o => exact .same _ (by simpa using Indistinct.notes (hN _ _ .use) .nil)

variable {ask ask' : PinCallback}

theorem twin_useKey (hask : ∀ text, failureOf (ask text) = failureOf (ask' text))
    {N : List (Note ε) → List (Note ε) → Prop}
    (h : ∀ label pin pin', (S.pinLabel a id w).value = .ok label →
      ask (label.getD Pkcs15.defaultPrompt) = .ok pin →
      ask' (label.getD Pkcs15.defaultPrompt) = .ok pin' →
      TakesAlike S a id next pin pin' (S.pinLabel a id w).world ∧
        ∀ ns ns', PinNotes S a id next pin pin' (S.pinLabel a id w).world ns ns' → N ns ns')
    (text : String) (use : Call) :
    Task.Twin N w (Pkcs15.useKey S a id ask text use next)
      (Pkcs15.useKey S a id ask' text use next) := by
  simp only [Pkcs15.useKey, Pkcs15.verifyPin, bind_assoc]
  refine .bind fun label hlabel => ?_
  rw [Task.value_callOr_eq_ok] at hlabel
  rw [Task.world_callOr]
  refine .prompt (hask _) fun pin pin' hpin hpin' => ?_
  obtain ⟨htakes, hN⟩ := h label pin pin' hlabel hpin hpin'
  exact twin_verify htakes hN text use

end

/-! ## Operations -/

/-- The operation with this callback in place of the one that it has. -/
def Operation.asking (ask : PinCallback) : Operation → Operation
  | sign keyId hash (some _) digest => sign keyId hash (some ask) digest
  | decipher keyId (some _) data => decipher keyId (some ask) data
  | op => op

/-- What two runs of an operation come to that bring their PINs to the card: the application, the
key, the call that uses it, both PINs, and the world in which these are verified. -/
inductive Verifies (S : Stack ω ε Context Connection Application)
    (s : Session Context Connection Application) (op : Operation) (ask ask' : PinCallback) (w : ω) :
    Application → Octets → Reply ω ε Octets → String → String → ω → Prop
  | verifies {a : Application} {id : Octets} {use : Call} {next : Reply ω ε Octets}
      {label : Option String} {pin pin' : String} (hb : s.backend = some (.pkcs15 a))
      (huses : Uses S a (op.asking ask) ask id use next)
      (hlabel : (S.pinLabel a id w).value = .ok label)
      (hpin : ask (label.getD Pkcs15.defaultPrompt) = .ok pin)
      (hpin' : ask' (label.getD Pkcs15.defaultPrompt) = .ok pin') :
      Verifies S s op ask ask' w a id next pin pin' (S.pinLabel a id w).world

/-- What the driver notes in both runs, once it has been told the PIN. -/
def Noted (S : Stack ω ε Context Connection Application)
    (s : Session Context Connection Application) (op : Operation) (ask ask' : PinCallback) (w : ω)
    (ns ns' : List (Note ε)) : Prop :=
  ∃ a id next pin pin' w', Verifies S s op ask ask' w a id next pin pin' w' ∧
    PinNotes S a id next pin pin' w' ns ns'

section
variable {S : Stack ω ε Context Connection Application}
  {s : Session Context Connection Application} {op : Operation} {ask ask' : PinCallback} {w : ω}

/-- A use of a key of the bound application. -/
theorem twin_of_uses (hask : ∀ text, failureOf (ask text) = failureOf (ask' text))
    (halike : ∀ a id next pin pin' w', Verifies S s op ask ask' w a id next pin pin' w' →
      TakesAlike S a id next pin pin' w')
    {a : Application} {id : Octets} {use : Call} {next : Reply ω ε Octets}
    (hb : s.backend = some (.pkcs15 a)) (huses : Uses S a (op.asking ask) ask id use next)
    (text : String) :
    Task.Twin (Noted S s op ask ask' w) w (Pkcs15.useKey S a id ask text use next)
      (Pkcs15.useKey S a id ask' text use next) := by
  refine twin_useKey hask (fun label pin pin' hlabel hpin hpin' => ?_) text use
  have h : Verifies S s op ask ask' w a id next pin pin' _ := .verifies hb huses hlabel hpin hpin'
  exact ⟨halike _ _ _ _ _ _ h, fun ns ns' hns => ⟨_, _, _, _, _, _, h, hns⟩⟩

namespace Session

variable {N : List (Note ε) → List (Note ε) → Prop}

theorem twin_arguments {data : Octets} {g g' : PinCallback → Task ω ε α}
    (h : Task.Twin N w (g ask) (g' ask')) :
    Task.Twin N w (arguments (some ask) data >>= g) (arguments (some ask') data >>= g') := by
  cases data with
  | nil => exact .bind (u := throw .invalidValue) fun _ hb => by cases hb
  | cons o data => exact h

theorem twin_bound {g g' : Backend Application → Task ω ε α}
    (h : ∀ b, s.backend = some b → Task.Twin N w (g b) (g' b)) :
    Task.Twin N w (s.bound >>= g) (s.bound >>= g') := by
  rw [bound]
  cases hb : s.backend with
  | none => exact .bind (u := throw .notInitialized) fun _ hb => by cases hb
  | some b => exact h b hb

/-- The twins as operations. -/
theorem indistinct_reported {t t' : Task ω ε Octets} (h : Task.Twin N w t t') (name : String) :
    let p (t : Task ω ε Octets) : Action ω (Entry ε) (Except Failure Answer × Session _ _ _) := do
      return ((← (s.reported name t).run).map Answer.octets, s)
    (p t w).value = (p t' w).value ∧ Indistinct N (p t w).entries (p t' w).entries := by
  obtain ⟨hvalue, hentries⟩ := h.reported s name
  simp only [Action.bind_apply, Action.pure_apply, List.append_nil]
  exact ⟨by rw [hvalue], hentries⟩

/-- Two runs of an operation with callbacks that fail alike and bring PINs that are taken alike. -/
theorem indistinct_perform (hask : ∀ text, failureOf (ask text) = failureOf (ask' text))
    (halike : ∀ a id next pin pin' w', Verifies S s op ask ask' w a id next pin pin' w' →
      TakesAlike S a id next pin pin' w') :
    (s.perform S (op.asking ask) w).value = (s.perform S (op.asking ask') w).value ∧
      Indistinct (Noted S s op ask ask' w) (s.perform S (op.asking ask) w).entries
        (s.perform S (op.asking ask') w).entries := by
  cases op with
  | bind | serial | keypair | certificate => exact ⟨rfl, .refl _⟩
  | sign keyId hash callback digest =>
    cases callback with
    | none => exact ⟨rfl, .refl _⟩
    | some _ =>
      refine indistinct_reported (twin_arguments (twin_bound fun b hb => ?_)) _
      cases b with
      | dinsig => exact .refl _
      | pkcs15 a =>
        refine .guard rfl fun id hid => ?_
        refine .guard (by cases Pkcs15.signs hash <;> rfl) fun _ _ => ?_
        refine .guard (by cases decide (digest.length = hash.digestLength) <;> rfl) fun _ _ => ?_
        exact twin_of_uses hask halike hb (.sign hid hash ask digest) _
  | decipher keyId callback data =>
    cases callback with
    | none => exact ⟨rfl, .refl _⟩
    | some _ =>
      refine indistinct_reported (twin_arguments (twin_bound fun b hb => ?_)) _
      cases b with
      | dinsig => exact .refl _
      | pkcs15 a =>
        refine .guard rfl fun id hid => ?_
        exact twin_of_uses hask halike hb (.decipher hid ask data) _

end Session

end

/-! ## Successful operations -/

section
variable {S : Stack ω ε Context Connection Application} {a : Application} {ask : PinCallback}
  {id : Octets} {use : Call} {next : Reply ω ε Octets} {w : ω}

/-- All that the driver notes on a use of a key with this PIN. -/
def keyNotes (S : Stack ω ε Context Connection Application) (a : Application) (id : Octets)
    (next : Reply ω ε Octets) (pin : String) (w : ω) : List (Note ε) :=
  let w₁ := (S.pinLabel a id w).world
  (S.pinLabel a id w).entries ++ (S.verifyPin a id pin w₁).entries ++
    (next (S.verifyPin a id pin w₁).world).entries

theorem logs_useKey_of_ok {text : String} {o : Octets}
    (h : ((Pkcs15.useKey S a id ask text use next).run w).value = .ok o) :
    ∃ label pin, (S.pinLabel a id w).value = .ok label ∧
      ask (label.getD Pkcs15.defaultPrompt) = .ok pin ∧
      logs ((Pkcs15.useKey S a id ask text use next).run w).entries =
        logs ((keyNotes S a id next pin w).map .note) := by
  simp only [Pkcs15.useKey, Pkcs15.verifyPin, Task.run_bind, Task.callOr, Task.run_call,
    Task.run_prompt] at h ⊢
  -- Each step succeeded, for the next one was made.
  cases hlabel : (S.pinLabel a id w).value with
  | error f => simp [hlabel] at h
  | ok label =>
    cases hpin : ask (label.getD Pkcs15.defaultPrompt) with
    | error f => simp [hlabel, hpin] at h
    | ok pin =>
      cases hverify : (S.verifyPin a id pin (S.pinLabel a id w).world).value with
      | error f => simp [hlabel, hpin, hverify] at h
      | ok =>
        cases hnext : (next (S.verifyPin a id pin (S.pinLabel a id w).world).world).value with
        | error f => simp [hlabel, hpin, hverify, hnext] at h
        | ok o' =>
          refine ⟨label, pin, rfl, hpin, ?_⟩
          simp [hpin, hverify, hnext, keyNotes]

theorem Pkcs15.sign_eq_of_ok {keyId : String} {hash : HashAlgorithm} {digest o : Octets}
    (h : ((sign S a keyId hash ask digest).run w).value = .ok o) :
    ∃ id, ObjectId.parse keyId = .ok id ∧ sign S a keyId hash ask digest =
      useKey S a id ask "failed to create signature" (.sign id hash digest)
        (S.sign a id hash digest) := by
  cases hflaw : signFlaw? keyId hash digest with
  | none => exact sign_eq hflaw ask
  | some f =>
    obtain ⟨ls, he⟩ := replies_sign (S := S) (a := a) hflaw ask w
    cases (congrArg Outcome.value he).symm.trans h

theorem Pkcs15.decipher_eq_of_ok {keyId : String} {data o : Octets}
    (h : ((decipher S a keyId ask data).run w).value = .ok o) :
    ∃ id, ObjectId.parse keyId = .ok id ∧ decipher S a keyId ask data =
      useKey S a id ask "failed to decipher the data" (.decipher id data)
        (S.decipher a id data) := by
  by_cases hname : ObjectId.isName keyId
  · exact decipher_eq hname ask data
  · obtain ⟨ls, he⟩ := replies_decipher (S := S) (a := a) hname ask data w
    cases (congrArg Outcome.value he).symm.trans h

namespace Session

variable {s : Session Context Connection Application} {op : Operation}

theorem entries_perform_sign (keyId : String) (hash : HashAlgorithm) (ask? : Option PinCallback)
    (digest : Octets) (w : ω) : (s.perform S (.sign keyId hash ask? digest) w).entries =
      ((s.sign S keyId hash ask? digest).run w).entries := List.append_nil _

theorem entries_perform_decipher (keyId : String) (ask? : Option PinCallback) (data : Octets)
    (w : ω) : (s.perform S (.decipher keyId ask? data) w).entries =
      ((s.decipher S keyId ask? data).run w).entries := List.append_nil _

theorem logs_reported_of_ok {t : Task ω ε Octets} {name : String} {answer : Answer}
    (h : ((s.reported name t).run w).value.map Answer.octets = .ok answer) :
    ∃ o, (t.run w).value = .ok o ∧ logs ((s.reported name t).run w).entries =
      logs (t.run w).entries ++ resultLogs s.options.verbose name (.ok ()) := by
  rw [run_reported] at h ⊢
  cases ho : (t.run w).value with
  | error f =>
    rw [ho] at h
    cases h
  | ok o => exact ⟨o, rfl, by rw [logs_append, logs_ofLogs]; rfl⟩

/-- What succeeds has a callback, something to work on and a backend. -/
theorem logs_arguments_of_ok {ask? : Option PinCallback} {data : Octets} {name : String}
    {g : PinCallback → Backend Application → Task ω ε Octets} {answer : Answer}
    (h : ((s.reported name do
      let ask ← arguments ask? data
      let b ← s.bound
      g ask b).run w).value.map Answer.octets = .ok answer) :
    ∃ ask b o, ask? = some ask ∧ s.backend = some b ∧ ((g ask b).run w).value = .ok o ∧
      logs ((s.reported name do
        let ask ← arguments ask? data
        let b ← s.bound
        g ask b).run w).entries =
          logs ((g ask b).run w).entries ++ resultLogs s.options.verbose name (.ok ()) := by
  obtain ⟨o, ho, hlogs⟩ := logs_reported_of_ok h
  cases ask? with
  | none => cases ho
  | some ask =>
    cases data with
    | nil => cases ho
    | cons first rest =>
      change ((s.bound >>= g ask).run w).value = _ at ho
      cases hb : s.backend with
      | none => rw [s.run_unbound hb] at ho; cases ho
      | some b =>
        rw [s.run_bound hb] at ho
        refine ⟨ask, b, o, rfl, rfl, ho, hlogs.trans ?_⟩
        change logs ((s.bound >>= g ask).run w).entries ++ _ = _
        rw [s.run_bound hb]

/-- An operation that uses a key and succeeds adds one line at most to the log. -/
theorem logs_perform_of_ok {name : String} {answer : Answer} (huse : op.usesKey = true)
    (hname : op.reportName? = some name) (h : (s.perform S op w).value.1 = .ok answer) :
    ∃ a ask id use next label pin, s.backend = some (.pkcs15 a) ∧ Uses S a op ask id use next ∧
      (S.pinLabel a id w).value = .ok label ∧ ask (label.getD Pkcs15.defaultPrompt) = .ok pin ∧
      logs (s.perform S op w).entries = logs ((keyNotes S a id next pin w).map .note) ++
        resultLogs s.options.verbose name (.ok ()) := by
  cases op with
  | bind | serial | keypair | certificate => cases huse
  | sign keyId hash ask? digest =>
    cases hname
    obtain ⟨ask, b, o, rfl, hb, ho, hlogs⟩ := logs_arguments_of_ok h
    cases b with
    | dinsig => cases ho
    | pkcs15 a =>
      obtain ⟨id, hid, he⟩ := Pkcs15.sign_eq_of_ok ho
      rw [Backend.sign, he] at ho hlogs
      obtain ⟨label, pin, hlabel, hpin, hkey⟩ := logs_useKey_of_ok ho
      refine ⟨a, ask, id, _, _, label, pin, hb, .sign hid hash ask digest, hlabel, hpin, ?_⟩
      rw [entries_perform_sign, ← hkey]
      exact hlogs
  | decipher keyId ask? data =>
    cases hname
    obtain ⟨ask, b, o, rfl, hb, ho, hlogs⟩ := logs_arguments_of_ok h
    cases b with
    | dinsig => cases ho
    | pkcs15 a =>
      obtain ⟨id, hid, he⟩ := Pkcs15.decipher_eq_of_ok ho
      rw [Backend.decipher, he] at ho hlogs
      obtain ⟨label, pin, hlabel, hpin, hkey⟩ := logs_useKey_of_ok ho
      refine ⟨a, ask, id, _, _, label, pin, hb, .decipher hid ask data, hlabel, hpin, ?_⟩
      rw [entries_perform_decipher, ← hkey]
      exact hlogs

/-! ## The main result -/

/-- Whatever the driver and the callbacks do: if callbacks fail alike and their PINs are taken
alike, both runs of an operation have the same value, and the same journal but for the PIN and for
what the driver notes once it has been told; where it notes the same, so are the logs. Of a
successful use of a key the session itself logs nothing but that it succeeded. -/
theorem pin_reaches_only_card (S : Stack ω ε Context Connection Application)
    (s : Session Context Connection Application) :
    (∀ (op : Operation) (ask ask' : PinCallback) (w : ω),
      let p := s.perform S (op.asking ask) w
      let p' := s.perform S (op.asking ask') w
      (∀ text, failureOf (ask text) = failureOf (ask' text)) →
      (∀ a id next pin pin' w', Verifies S s op ask ask' w a id next pin pin' w' →
        TakesAlike S a id next pin pin' w') →
        p.value = p'.value ∧ Indistinct (Noted S s op ask ask' w) p.entries p'.entries ∧
        ((∀ ns ns', Noted S s op ask ask' w ns ns' → ns = ns') →
          masked p.entries = masked p'.entries ∧ logs p.entries = logs p'.entries)) ∧
    ∀ (op : Operation) (name : String) (w : ω) (answer : Answer),
      let p := s.perform S op w
      op.usesKey = true → op.reportName? = some name → p.value.1 = .ok answer →
        ∃ a ask id use next label pin, s.backend = some (.pkcs15 a) ∧
          Uses S a op ask id use next ∧ (S.pinLabel a id w).value = .ok label ∧
          ask (label.getD Pkcs15.defaultPrompt) = .ok pin ∧
          logs p.entries = logs ((keyNotes S a id next pin w).map .note) ++
            resultLogs s.options.verbose name (.ok ()) := by
  refine ⟨?_, fun op name w answer => logs_perform_of_ok⟩
  intro op ask ask' w p p' hask halike
  obtain ⟨hvalue, hentries⟩ := indistinct_perform hask halike
  refine ⟨hvalue, hentries, fun hnoted => ?_⟩
  have hmasked : masked p.entries = masked p'.entries := hentries.masked_eq hnoted
  have hlogs : logs p.entries = logs p'.entries := by rw [← logs_masked, hmasked, logs_masked]
  exact ⟨hmasked, hlogs⟩

end Session

end

end

namespace Simulator

/-- Two wrong PINs leave the same log, and journals that are the same but for the PINs; the right
one leaves no line in the log. -/
theorem pin_reaches_only_card_guarded :
    let w := World.ofCards [some guarded] none
    let digest := List.replicate 20 0xAB
    let op : Operation := .sign "P15-5015.45" .sha1 (some fun _ => .error .badPin) digest
    let signing pin := keySession.perform stack (op.asking fun _ => .ok pin) w
    let p := signing "0000"
    let p' := signing "9999"
    let q := signing "1234"
    p.value.1 = .error .badPin ∧ p.entries ≠ p'.entries ∧ p.value = p'.value ∧
      masked p.entries = masked p'.entries ∧ logs p.entries = logs p'.entries ∧
      q.value.1 = .ok (.octets digest) ∧ logs q.entries = [] := by
  intro w digest op signing p p' q
  obtain ⟨htwice, hlogs⟩ := Session.pin_reaches_only_card stack keySession
  have hp : p.value.1 = .error .badPin := rfl
  have hq : q.value.1 = .ok (.octets digest) := rfl
  obtain ⟨hvalue, -, hsame⟩ := htwice op (fun _ => .ok "0000") (fun _ => .ok "9999") w
    (fun _ => rfl) (by
      rintro a id next pin pin' w' ⟨hb, huses, hlabel, hpin, hpin'⟩
      cases hb
      cases hpin
      cases hpin'
      exact ⟨rfl, nofun⟩)
  obtain ⟨hmasked, hlog⟩ := hsame (by
    rintro ns ns' ⟨a, id, next, pin, pin', w', ⟨hb, huses, hlabel, hpin, hpin'⟩, hns⟩
    cases huses
    cases hns <;> rfl)
  obtain ⟨a, ask, id, use, next, label, pin, hb, huses, hlabel, hpin, hq'⟩ :=
    hlogs (op.asking fun _ => .ok "1234") "sign" w _ rfl rfl hq
  refine ⟨hp, ?_, hvalue, hmasked, hlog, hq, hq'.trans ?_⟩
  · decide +kernel
  · cases huses
    rfl

end Simulator

end SmartCard
