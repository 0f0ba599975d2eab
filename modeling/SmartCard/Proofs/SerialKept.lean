import SmartCard.Proofs.HistoryIndependence

/-!
# The serial number is kept

The first serial number that a session finds is its answer ever after, without another call and
whatever happens to the card. What is not found is not kept, and is looked for on the card again. A
number is found by one selection of the GDO file and one read of all of it.
-/
namespace SmartCard

section
variable {ω ε Context Connection Application : Type}

/-! ## The GDO file -/

namespace WholeFile

/-- The file may be a GDO file, by its kind and its size. -/
def isGdo (info : FileInfo) : Bool :=
  info.isTransparentWorking && (info.size ≠ 0 && info.size < gdoLimit)

/-- How reading the GDO file from a world ends, its trace and the world afterwards. -/
inductive GdoReading (S : Stack ω ε Context Connection Application) (k : Connection) (w : ω) :
    Except Failure Octets → Trace → ω → Prop
  | unselected {f : Fault} {w' : ω} (hs : Answers (S.select k gdoPath) w (.error f) w') :
      GdoReading S k w (.error .cardError) [(.select gdoPath, some f)] w'
  | unsuitable {info : FileInfo} {w' : ω} (hs : Answers (S.select k gdoPath) w (.ok info) w')
      (hi : isGdo info = false) :
      GdoReading S k w (.error .cardError) [(.select gdoPath, none)] w'
  | unread {info : FileInfo} {f : Fault} {w' w'' : ω}
      (hs : Answers (S.select k gdoPath) w (.ok info) w') (hi : isGdo info = true)
      (hr : Answers (S.read k 0 info.size) w' (.error f) w'') :
      GdoReading S k w (.error .cardError)
        [(.select gdoPath, none), (.read 0 info.size, some f)] w''
  | partly {info : FileInfo} {content : Octets} {w' w'' : ω}
      (hs : Answers (S.select k gdoPath) w (.ok info) w') (hi : isGdo info = true)
      (hr : Answers (S.read k 0 info.size) w' (.ok content) w'')
      (hl : content.length ≠ info.size) :
      GdoReading S k w (.error .cardError)
        [(.select gdoPath, none), (.read 0 info.size, none)] w''
  | wholly {info : FileInfo} {content : Octets} {w' w'' : ω}
      (hs : Answers (S.select k gdoPath) w (.ok info) w') (hi : isGdo info = true)
      (hr : Answers (S.read k 0 info.size) w' (.ok content) w'')
      (hl : content.length = info.size) :
      GdoReading S k w (.ok content) [(.select gdoPath, none), (.read 0 info.size, none)] w''

/-- Every way begins with the selection, and none binds. -/
theorem GdoReading.selects {S : Stack ω ε Context Connection Application} {k : Connection}
    {w w' : ω} {v : Except Failure Octets} {t : Trace} (h : GdoReading S k w v t w') :
    (∃ f rest, t = (.select gdoPath, f) :: rest) ∧ ∀ m ∈ t, m.1 ≠ .bind := by
  cases h <;> exact ⟨⟨_, _, rfl⟩, by simp⟩

variable (S : Stack ω ε Context Connection Application) (k : Connection)

attribute [local simp] Task.run_bind Task.run_call Task.run_require Task.callOr faultOf
  Except.map

theorem readGdo_reading (w : ω) :
    GdoReading S k w ((readGdo S k).run w).value (trace ((readGdo S k).run w).entries)
      ((readGdo S k).run w).world := by
  rcases hS : S.select k gdoPath w with ⟨v, w', ns⟩
  have hs : Answers (S.select k gdoPath) w v w' := by simp [Answers, hS]
  cases v with
  | error f => simpa [readGdo, hS] using GdoReading.unselected hs
  | ok info =>
    cases hkind : info.isTransparentWorking with
    | false =>
      have hi : isGdo info = false := by simp [isGdo, hkind]
      simpa [readGdo, hS, hkind] using GdoReading.unsuitable hs hi
    | true =>
      by_cases hsize : ¬ info.size = 0 ∧ info.size < gdoLimit
      · have hi : isGdo info = true := by simp [isGdo, hkind, hsize]
        rcases hR : S.read k 0 info.size w' with ⟨v, w'', ns'⟩
        have hr : Answers (S.read k 0 info.size) w' v w'' := by simp [Answers, hR]
        cases v with
        | error f => simpa [readGdo, hS, hkind, hsize, hR] using GdoReading.unread hs hi hr
        | ok content =>
          by_cases hl : content.length = info.size
          · simpa [readGdo, hS, hkind, hsize, hR, hl] using GdoReading.wholly hs hi hr hl
          · simpa [readGdo, hS, hkind, hsize, hR, hl] using GdoReading.partly hs hi hr hl
      · have hi : isGdo info = false := by
          rw [isGdo, hkind, Bool.true_and, Bool.eq_false_iff]
          simpa using hsize
        simpa [readGdo, hS, hkind, hsize] using GdoReading.unsuitable hs hi

variable {S k}

theorem trace_resolveSerial (application : Option String) (w : ω) :
    trace ((resolveSerial S k application).run w).entries =
      trace ((readGdo S k).run w).entries := by
  rw [resolveSerial, Task.run_bind]
  cases ((readGdo S k).run w).value with
  | error f => rfl
  | ok gdo =>
    cases hi : Serial.findIccsn gdo with
    | ok i => simp [hi]
    | error f => simp [hi]

/-- A serial number is resolved where the GDO file is read and holds a number. -/
theorem exists_of_resolveSerial {application : Option String} {w : ω} {text : String}
    (h : ((resolveSerial S k application).run w).value = .ok text) :
    ∃ gdo i, ((readGdo S k).run w).value = .ok gdo ∧ Serial.findIccsn gdo = .ok i ∧
      text = Serial.normalize i.text application := by
  obtain ⟨gdo, hgdo, hrest⟩ := Task.exists_of_run_bind h
  cases hi : Serial.findIccsn gdo with
  | error f =>
    rw [hi] at hrest
    cases hrest
  | ok i =>
    rw [hi] at hrest
    obtain ⟨-, -, htext⟩ := Task.exists_of_run_bind hrest
    cases htext
    exact ⟨gdo, i, hgdo, hi, rfl⟩

/-- A number that is found in the GDO file, and the trace of finding it: the file is selected, and
all of it is read at once. -/
inductive Finding (S : Stack ω ε Context Connection Application) (k : Connection)
    (application : Option String) (w : ω) : String → Trace → Prop
  | found {info : FileInfo} {gdo : Octets} {i : Serial.Iccsn} {w' w'' : ω}
      (hs : Answers (S.select k gdoPath) w (.ok info) w')
      (hr : Answers (S.read k 0 info.size) w' (.ok gdo) w'') (hl : gdo.length = info.size)
      (hi : Serial.findIccsn gdo = .ok i) :
      Finding S k application w (Serial.normalize i.text application)
        [(.select gdoPath, none), (.read 0 gdo.length, none)]

theorem finding_of_resolveSerial {application : Option String} {w : ω} {text : String}
    (h : ((resolveSerial S k application).run w).value = .ok text) :
    Finding S k application w text (trace ((resolveSerial S k application).run w).entries) := by
  obtain ⟨gdo, i, hgdo, hi, rfl⟩ := exists_of_resolveSerial h
  have hreading := readGdo_reading S k w
  rw [trace_resolveSerial]
  rw [hgdo] at hreading
  generalize trace ((readGdo S k).run w).entries = t at hreading
  cases hreading with
  | wholly hs hinfo hr hl =>
    rw [← hl]
    exact .found hs hr hl hi

end WholeFile

/-! ## What is kept -/

namespace Session

variable {S : Stack ω ε Context Connection Application}
  {s s' : Session Context Connection Application} {w w' : ω} {ops : List Operation}
  {es : List (Entry ε)}

/-- Only one operation changes the serial number that is kept. -/
theorem serial_of_ne {op : Operation} (hop : op ≠ .serial) (w : ω) :
    (s.perform S op w).value.2.serial = s.serial := by
  cases op with
  | serial => exact absurd rfl hop
  | bind =>
    rw [perform_of_binds s rfl]
    rfl
  | keypair | certificate | sign | decipher => rfl

/-- An answer is kept by the session that gave it. -/
theorem kept_of_answer {text : String} {stamp : Nat}
    (h : (s.perform S .serial w).value.1 = .ok (.serial text stamp)) :
    stamp = 0 ∧ (s.perform S .serial w).value.2.serial = some text := by
  rw [perform_of_binds s rfl] at h ⊢
  cases hs : s.serial with
  | some kept =>
    rw [perform_serial_of_kept (s.withBackend _) rfl hs] at h ⊢
    cases h
    exact ⟨rfl, hs⟩
  | none =>
    rw [perform_serial_of_none (s := s.withBackend _) rfl hs] at h ⊢
    dsimp only at h ⊢
    cases hfound : (s.withBackend (s.backendAfter S w)).found S (s.backendAfter S w)
        (s.bind S w).world with
    | error f =>
      rw [hfound] at h
      cases h
    | ok found =>
      rw [hfound] at h
      cases h
      exact ⟨rfl, rfl⟩

/-- A session that fails to answer has kept nothing. -/
theorem serial_eq_none_of_error {f : Failure}
    (h : (s.perform S .serial w).value.1 = .error f) : s.serial = none := by
  cases hs : s.serial with
  | none => rfl
  | some kept =>
    rw [perform_of_binds s rfl, perform_serial_of_kept (s.withBackend _) rfl hs] at h
    cases h

/-- What a session answers that has kept nothing, it finds after binding. -/
theorem finding_of_answer {text : String} {stamp : Nat} (hs : s.serial = none)
    (h : (s.perform S .serial w).value.1 = .ok (.serial text stamp)) :
    ∃ t, trace (s.perform S .serial w).entries = trace (s.bind S w).entries ++ t ∧
      WholeFile.Finding S s.connection
        ((s.backendAfter S w).applicationSerial S (s.bind S w).world) (s.bind S w).world text
        t := by
  rw [perform_of_binds s rfl, perform_serial_of_bound (s.withBackend _) rfl hs] at h ⊢
  dsimp only at h ⊢
  refine ⟨_, trace_append _ _, WholeFile.finding_of_resolveSerial ?_⟩
  change Except.map _ ((WholeFile.resolveSerial S s.connection _).run _).value = _ at h
  cases hfound : ((WholeFile.resolveSerial S s.connection _).run (s.bind S w).world).value with
  | error f =>
    rw [hfound] at h
    cases h
  | ok found =>
    rw [hfound] at h
    cases h
    rfl

theorem Reaches.serial_eq {b : Backend Application} {text : String}
    (h : Reaches S s w ops es s' w') (hb : s.backend = some b) (hs : s.serial = some text) :
    s'.serial = some text := by
  induction h with
  | start => exact hs
  | outside _ _ ih => exact ih
  | @perform s' w w' ops es h op ih =>
    -- Only asking for the number could change it, and that gives the one that is kept.
    by_cases hop : op = .serial
    · subst hop
      rw [perform_serial_of_kept s' (h.backend_eq hb) ih]
      exact ih
    · rw [serial_of_ne hop, ih]

theorem Reaches.serial_eq_none (h : Reaches S s w ops es s' w') (hs : s.serial = none)
    (hops : .serial ∉ ops) : s'.serial = none := by
  induction h with
  | start => exact hs
  | outside _ _ ih => exact ih hops
  | perform _ op ih =>
    rw [List.mem_append, not_or, List.mem_singleton] at hops
    rw [serial_of_ne (Ne.symm hops.2), ih hops.1]

/-- A bound session that has kept no number looks at the card, and does not bind. -/
theorem selects_of_none {b : Backend Application} (hb : s.backend = some b)
    (hs : s.serial = none) (w : ω) :
    (∃ f rest, trace (s.perform S .serial w).entries = (.select WholeFile.gdoPath, f) :: rest) ∧
      ∀ m ∈ trace (s.perform S .serial w).entries, m.1 ≠ .bind := by
  rw [perform_serial_of_bound s hb hs]
  dsimp only
  rw [WholeFile.trace_resolveSerial]
  exact (WholeFile.readGdo_reading S s.connection w).selects

/-! ## The main result -/

/-- Whatever the driver answers and whatever happens to the card: a serial number that was answered
once is answered ever after, without a call. One that could not be found is not kept, and the next
time the card is asked again, but nothing is bound. A number that was not kept before is the one in
the GDO file, which is read in one piece. It is normalized for the number of the application that is
bound, which is empty if there is none, and on its own where no application is. -/
theorem serial_kept (S : Stack ω ε Context Connection Application)
    (s : Session Context Connection Application) (w : ω) :
    let p := s.perform S .serial w
    (∀ text stamp, p.value.1 = .ok (.serial text stamp) → stamp = 0 ∧
      ∀ ops es s' w', Reaches S p.value.2 p.world ops es s' w' →
        s'.perform S .serial w' = ⟨(.ok (.serial text 0), s'), w', []⟩) ∧
    (∀ f, p.value.1 = .error f → p.value.2.serial = none ∧
      ∀ ops es s' w', Reaches S p.value.2 p.world ops es s' w' → .serial ∉ ops →
        (∃ fault rest, trace (s'.perform S .serial w').entries =
          (.select WholeFile.gdoPath, fault) :: rest) ∧
        ∀ m ∈ trace (s'.perform S .serial w').entries, m.1 ≠ .bind) ∧
    ∀ text stamp, s.serial = none → p.value.1 = .ok (.serial text stamp) →
      let w' := (s.bind S w).world
      ∃ b t, p.value.2.backend = some b ∧ trace p.entries = trace (s.bind S w).entries ++ t ∧
        (b = .dinsig → WholeFile.Finding S s.connection none w' text t) ∧
        ∀ a, b = .pkcs15 a →
          WholeFile.Finding S s.connection (some ((S.serialNumber w' a).getD "")) w' text t := by
  intro p
  have hbinds : Operation.serial.binds = true := rfl
  have hbound : p.value.2.backend = some (s.backendAfter S w) := by
    simp only [p, perform_of_binds s hbinds]
    exact backend_of_bound (s := s.withBackend _) rfl hbinds _
  refine ⟨fun text stamp hp => ?_, fun f hf => ?_, fun text stamp hs hp => ?_⟩
  · obtain ⟨hstamp, hkept⟩ := kept_of_answer hp
    refine ⟨hstamp, fun ops es s' w' h => ?_⟩
    exact perform_serial_of_kept s' (h.backend_eq hbound) (h.serial_eq hbound hkept) w'
  · have hnone : p.value.2.serial = none := by
      have hs : s.serial = none := serial_eq_none_of_error hf
      rw [session_eq_afterError s hf]
      exact hs
    refine ⟨hnone, fun ops es s' w' h hops => ?_⟩
    exact selects_of_none (h.backend_eq hbound) (h.serial_eq_none hnone hops) w'
  · obtain ⟨t, ht, hfinding⟩ := finding_of_answer hs hp
    refine ⟨_, t, hbound, ht, fun hb => ?_, fun a hb => ?_⟩
    · rw [hb] at hfinding
      exact hfinding
    · rw [hb] at hfinding
      exact hfinding

end Session

end

namespace Simulator

/-- A card whose own number is the placeholder, with an application. -/
def unnumbered (serial : Option String) : Card :=
  ⟨true, [(WholeFile.gdoPath.text,
    ⟨[0x5A, 0x0C, 0xD2, 0x76, 0, 0, 0, 0, 0, 0, 0, 0, 0, 0], ⟨.workingEf, .transparent, 14⟩,
      none, none, 0, 256, 0⟩)], some ⟨serial, [], [], none, none⟩, []⟩

/-- There is no serial number on the first card, so nothing is kept; the number of the second card
is answered after that card has gone, too. The placeholder gives way to the application's number. -/
theorem serial_kept_exchanged :
    let p := unbound.perform stack .serial (World.ofCards [some bare] none)
    let w := p.world.exchange 0 (some brittle)
    let q := p.value.2.perform stack .serial w
    let w' := q.world.exchange 0 none
    (p.value.1 = .error .cardError ∧ q.value.1 = .ok (.serial "1234" 0) ∧
      (∃ fault rest, trace q.entries = (.select WholeFile.gdoPath, fault) :: rest) ∧
      (∀ m ∈ trace q.entries, m.1 ≠ .bind) ∧
      (∃ t, trace q.entries = t ∧ WholeFile.Finding stack ⟨0, 0⟩ none w "1234" t) ∧
      q.value.2.perform stack .serial w' = ⟨(.ok (.serial "1234" 0), q.value.2), w', []⟩) ∧
    ∀ serial ∈ [some "ABC", none],
      let w := World.ofCards [some (unnumbered serial)] none
      let r := unbound.perform stack .serial w
      let number := "FF0100" ++ serial.getD ""
      r.value.1 = .ok (.serial number 0) ∧
        ∃ t, trace r.entries = (.bind, none) :: t ∧
          WholeFile.Finding stack ⟨0, 0⟩ (some (serial.getD "")) (unbound.bind stack w).world number
            t := by
  intro p w q w'
  refine ⟨?_, ?_⟩
  · have hfailed : p.value.1 = .error .cardError := by decide +kernel
    have hanswered : q.value.1 = .ok (.serial "1234" 0) := by decide +kernel
    obtain ⟨-, hagain, -⟩ := Session.serial_kept stack unbound (World.ofCards [some bare] none)
    obtain ⟨hkept, -, hfound⟩ := Session.serial_kept stack p.value.2 w
    obtain ⟨hnone, hselects⟩ := hagain _ hfailed
    obtain ⟨hselect, hbind⟩ :=
      hselects [] [] p.value.2 w (.outside (.start _ _) w) List.not_mem_nil
    obtain ⟨b, t, hb, ht, hdinsig, -⟩ := hfound _ _ hnone hanswered
    have hbound : q.value.2.backend = some .dinsig := by decide +kernel
    cases hb.symm.trans hbound
    refine ⟨hfailed, hanswered, hselect, hbind, ⟨t, ht, hdinsig rfl⟩, ?_⟩
    exact (hkept _ _ hanswered).2 [] [] q.value.2 w' (.outside (.start _ _) w')
  · intro serial hserial w r number
    have hanswered : r.value.1 = .ok (.serial number 0) ∧
        r.value.2.backend = some (.pkcs15 ⟨0, serial⟩) := by
      rcases List.mem_pair.mp hserial with rfl | rfl <;> decide +kernel
    obtain ⟨-, -, hfound⟩ := Session.serial_kept stack unbound w
    obtain ⟨b, t, hb, ht, -, hpkcs15⟩ := hfound _ _ rfl hanswered.1
    cases hb.symm.trans hanswered.2
    exact ⟨hanswered.1, t, ht, hpkcs15 _ rfl⟩

end Simulator

end SmartCard
