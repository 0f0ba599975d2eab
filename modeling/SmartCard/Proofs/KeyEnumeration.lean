import SmartCard.Proofs.CertificateRetrieval
import SmartCard.Proofs.CertifiedModulus
import SmartCard.Proofs.FragmentedReading
import SmartCard.Proofs.ResourceBracket
import SmartCard.Proofs.RunEndings

/-!
# All keys are enumerated

An application that does not change lists its keys one index after the other, and the end of the
list, a key without certificate and any other failure are told apart at each index. So the loop over
the indices comes to all keys: it passes over those without certificate and collects the keypairs of
the others in their order, up to the first failure. A card without an application has one keypair,
for which its certificate is read once.
-/
namespace SmartCard

section
variable {ω ε Context Connection Application α : Type}

theorem Task.run_callOr_of_ok {text : String} {failure : Fault → Failure} {c : Call}
    {r : Reply ω ε α} {w : ω} {v : α} (h : (r w).value = .ok v) :
    (callOr text failure c r).run w =
      ⟨.ok v, (r w).world, .call c none :: (r w).entries.map .note⟩ := by
  rw [callOr, run_call, h]

theorem Task.trace_keygripOr (text : String) (parser : CertificateParser) (certificate : Octets)
    (w : ω) : trace ((keygripOr text parser certificate : Task ω ε _).run w).entries = [] := by
  rw [keygripOr, run_bind]
  cases h : parser.keygrip certificate <;> rfl

theorem Task.world_keygripOr (text : String) (parser : CertificateParser) (certificate : Octets)
    (w : ω) : ((keygripOr text parser certificate : Task ω ε _).run w).world = w := by
  rw [keygripOr, run_bind]
  cases h : parser.keygrip certificate <;> rfl

/-- There is one way to have no keygrip. -/
theorem CertificateParser.eq_of_keygrip_eq_error {parser : CertificateParser} {c : Octets}
    {f : Failure} (h : parser.keygrip c = .error f) : f = .cardError := by
  rw [keygrip] at h
  split at h <;> cases h
  rfl

theorem Failure.ofFault_ne_missingCertificate (f : Fault) : ofFault f ≠ .missingCertificate := by
  rw [ofFault]
  cases f.code <;> simp [ofCode]

/-! ## The certificate file -/

section
variable {S : Stack ω ε Context Connection Application} {k : Connection} {path : Path} {w : ω}

namespace WholeFile

theorem times_select_reads (size start : Nat) (ps : List Octets) (e : LoopEnd) :
    times (.select path) (reads size start ps e) = 0 := by
  induction ps generalizing start with
  | nil => cases e <;> simp [reads]
  | cons p ps ih => simp [reads, ih]

variable {v : Except Failure Octets} {t : Trace} {w' : ω}

theorem FileReading.times_select (h : FileReading S k path w v t w') :
    times (.select path) t = 1 := by
  cases h with
  | unselected | unsuitable => simp
  | fragmented => simp [times_select_reads]

/-- A file that is not read is no missing certificate. -/
theorem FileReading.ne_missingCertificate (h : FileReading S k path w v t w') :
    v ≠ .error .missingCertificate := by
  have hfault (f : Fault) := Failure.ofFault_ne_missingCertificate f
  cases h with
  | unselected | unsuitable => simp [hfault]
  | @fragmented info ps e =>
    cases e with
    | empty | fault => simp [LoopEnd.result, hfault]
    | full =>
      rw [LoopEnd.result]
      split <;> simp

end WholeFile

namespace Dinsig

theorem run_certificate :
    ((certificate S k).run w).value = ((WholeFile.read S k certPath).run w).value ∧
      trace ((certificate S k).run w).entries =
        trace ((WholeFile.read S k certPath).run w).entries := by
  rw [certificate, Task.run_recover]
  cases h : ((WholeFile.read S k certPath).run w).value <;> simp

/-- The certificate file is selected once. -/
theorem times_select_certificate :
    times (.select certPath) (trace ((certificate S k).run w).entries) = 1 := by
  rw [run_certificate.2]
  exact (WholeFile.fileReading_read S k certPath w).times_select

theorem value_certificate_ne_missingCertificate :
    ((certificate S k).run w).value ≠ .error .missingCertificate := by
  rw [run_certificate.1]
  exact (WholeFile.fileReading_read S k certPath w).ne_missingCertificate

end Dinsig

end

/-! ## One index -/

section
variable {S : Stack ω ε Context Connection Application} {a : Application} {k : Connection}
  {parser : CertificateParser} {usual : ω → Prop} {keys : List Octets}
  {certificates : Octets → Option Octets} {w : ω}

/-- The application always answers with these private keys and, for each identifier, with the same
certificate or none. -/
structure Pkcs15.Lists (S : Stack ω ε Context Connection Application) (a : Application)
    (usual : ω → Prop) (keys : List Octets) (certificates : Octets → Option Octets) : Prop where
  privateKeys {w : ω} : usual w →
    (S.privateKeys a w).value = .ok keys ∧ usual (S.privateKeys a w).world
  certificate {w : ω} (id : Octets) : usual w →
    (S.certificate a id w).value = .ok (certificates id) ∧ usual (S.certificate a id w).world

/-- The keypair of a key that has its certificate among these. -/
def Pkcs15.listed (parser : CertificateParser) (certificates : Octets → Option Octets)
    (id : Octets) : Except Failure Keypair :=
  match certificates id with
  | some c => (parser.keygrip c).map fun g => ⟨g, some (ObjectId.format id)⟩
  | none => .error .missingCertificate

/-- What belongs to an index: nothing behind the last key. -/
def Pkcs15.entry (parser : CertificateParser) (keys : List Octets)
    (certificates : Octets → Option Octets) (index : Nat) : Except Failure (Option Keypair) :=
  match keys[index]? with
  | none => .ok none
  | some id => (listed parser certificates id).map some

theorem Pkcs15.entry_eq_none_iff {index : Nat} :
    entry parser keys certificates index = .ok none ↔ keys.length ≤ index := by
  rw [← List.getElem?_eq_none_iff, entry]
  cases keys[index]? with
  | none => simp
  | some id =>
    dsimp only
    cases listed parser certificates id <;> simp [Except.map]

theorem Pkcs15.listed_eq_missing_iff (parser : CertificateParser) {id : Octets} :
    listed parser certificates id = .error .missingCertificate ↔ certificates id = none := by
  rw [listed]
  cases certificates id with
  | none => simp
  | some c =>
    dsimp only
    cases hg : parser.keygrip c with
    | ok g => simp [Except.map]
    | error f => simp [Except.map, CertificateParser.eq_of_keygrip_eq_error hg]

theorem Pkcs15.entry_eq_missing_iff {index : Nat} :
    entry parser keys certificates index = .error .missingCertificate ↔
      ∃ id, keys[index]? = some id ∧ certificates id = none := by
  rw [entry]
  cases keys[index]? with
  | none => simp
  | some id =>
    simp only [Option.some.injEq, exists_eq_left', ← listed_eq_missing_iff parser]
    cases listed parser certificates id <;> simp [Except.map]

theorem Pkcs15.entry_of_certificate {index : Nat} {id c : Octets} (hid : keys[index]? = some id)
    (hc : certificates id = some c) :
    entry parser keys certificates index =
      (parser.keygrip c).map fun g => some ⟨g, some (ObjectId.format id)⟩ := by
  rw [entry, hid]
  simp only [listed, hc]
  cases parser.keygrip c <;> rfl

/-- The keypairs of the keys that have certificates, or the first failure. -/
def Pkcs15.listing (parser : CertificateParser) (certificates : Octets → Option Octets)
    (ids : List Octets) : Except Failure (List Keypair) :=
  (ids.filter fun id => (certificates id).isSome).mapM (listed parser certificates)

theorem Pkcs15.listing_missing {id : Octets} (h : certificates id = none) (ids : List Octets) :
    listing parser certificates (id :: ids) = listing parser certificates ids := by
  rw [listing, List.filter_cons_of_neg (by simp [h]), listing]

theorem Pkcs15.listing_certificate {id c : Octets} (h : certificates id = some c)
    (ids : List Octets) :
    listing parser certificates (id :: ids) =
      (parser.keygrip c).bind fun g =>
        (listing parser certificates ids).map (⟨g, some (ObjectId.format id)⟩ :: ·) := by
  rw [listing, List.filter_cons_of_pos (by simp [h]), List.mapM_cons, ← listing]
  simp only [listed, h]
  cases parser.keygrip c with
  | error f => rfl
  | ok g => cases listing parser certificates ids <;> rfl

/-- Each index is looked up in the list of keys, which is asked for once. -/
theorem Pkcs15.run_keypair (h : Lists S a usual keys certificates) (hw : usual w) (index : Nat) :
    let r := (keypair S parser a index).run w
    r.value = entry parser keys certificates index ∧ usual r.world ∧
      times .privateKeys (trace r.entries) = 1 := by
  obtain ⟨hkeys, hw'⟩ := h.privateKeys hw
  simp only [keypair, Task.run_bind, Task.run_callOr_of_ok hkeys, entry]
  cases hid : keys[index]? with
  | none => simpa [times] using hw'
  | some id =>
    obtain ⟨hc, hw''⟩ := h.certificate id hw'
    simp only [Task.run_bind, certificate, Task.run_callOr_of_ok hc, listed]
    cases certificates id with
    | none => simpa [times, Except.map, Task.run_bind] using hw''
    | some c =>
      simp only [Task.run_bind, Task.value_keygripOr, Task.world_keygripOr]
      cases parser.keygrip c with
      | ok g => simpa [times, Except.map, Task.trace_keygripOr] using hw''
      | error f => simpa [times, Except.map, Task.trace_keygripOr] using hw''

/-- The only certificate is read for the only index that has a keypair. -/
theorem Dinsig.run_keypair_zero (S : Stack ω ε Context Connection Application) (k : Connection)
    (parser : CertificateParser) (w : ω) :
    let c := (certificate S k).run w
    let r := (keypair S parser k 0).run w
    r.value = (c.value.bind parser.keygrip).map (fun g => some ⟨g, some certId⟩) ∧
      r.world = c.world ∧ trace r.entries = trace c.entries := by
  rw [keypair, if_pos rfl, Task.run_bind]
  cases hc : ((certificate S k).run w).value with
  | error f => simp [hc, Except.bind, Except.map]
  | ok c =>
    simp only [hc, Task.run_bind, Task.value_keygripOr, Task.world_keygripOr, Except.bind]
    cases parser.keygrip c <;> simp [Except.map, Task.trace_keygripOr]

theorem Dinsig.run_keypair_of_pos {index : Nat} (h : index ≠ 0) (w : ω) :
    (keypair S parser k index).run w = ⟨.ok none, w, []⟩ := by
  rw [keypair, if_neg h, Task.run_pure]

end

namespace Session

variable {S : Stack ω ε Context Connection Application}
  {s : Session Context Connection Application} {b : Backend Application}

/-- A bound session adds its log to the work of its backend. -/
theorem run_keypair (hb : s.backend = some b) (index : Nat) (w : ω) :
    let r := (b.keypair S s.parser s.connection index).run w
    ((s.keypair S index).run w).value = r.value ∧ ((s.keypair S index).run w).world = r.world ∧
      trace ((s.keypair S index).run w).entries = trace r.entries := by
  have hindex : decide (0 ≤ (index : Int)) = true := by simp
  simp only [keypair, run_reported, hindex, Task.require, if_true, pure_bind, s.run_bound hb,
    Int.toNat_natCast, trace_append, trace_logs, List.append_nil, and_self]

theorem run_keypair_of_lists {a : Application} {usual : ω → Prop} {keys : List Octets}
    {certificates : Octets → Option Octets} {w : ω} (hb : s.backend = some (.pkcs15 a))
    (h : Pkcs15.Lists S a usual keys certificates) (hw : usual w) (index : Nat) :
    let r := (s.keypair S index).run w
    r.value = Pkcs15.entry s.parser keys certificates index ∧ usual r.world ∧
      times .privateKeys (trace r.entries) = 1 := by
  obtain ⟨hvalue, hworld, htrace⟩ := run_keypair (S := S) hb index w
  simp only [hvalue, hworld, htrace]
  exact Pkcs15.run_keypair h hw index

/-- Without an application the first index costs one certificate. -/
theorem run_keypair_first (hb : s.backend = some .dinsig) (w : ω) :
    let c := (Dinsig.certificate S s.connection).run w
    let r := (s.keypair S (0 : Nat)).run w
    r.value = (c.value.bind s.parser.keygrip).map (fun g => some ⟨g, some Dinsig.certId⟩) ∧
      r.world = c.world ∧ trace r.entries = trace c.entries := by
  obtain ⟨hvalue, hworld, htrace⟩ := run_keypair (S := S) hb 0 w
  obtain ⟨hvalue', hworld', htrace'⟩ :=
    Dinsig.run_keypair_zero S s.connection s.parser w
  exact ⟨hvalue.trans hvalue', hworld.trans hworld', htrace.trans htrace'⟩

/-- Without an application no other index needs the card. -/
theorem run_keypair_later (hb : s.backend = some .dinsig) {index : Nat} (h : index ≠ 0) (w : ω) :
    let r := (s.keypair S index).run w
    r.value = .ok none ∧ r.world = w ∧ trace r.entries = [] := by
  have hrun := run_keypair (S := S) hb index w
  rwa [Backend.keypair, Dinsig.run_keypair_of_pos h] at hrun

end Session

/-! ## The loop -/

namespace CommandLine

variable {S : Stack ω ε Context Connection Application}
  {s : Session Context Connection Application} {left index : Nat} {w : ω}

/-- The loop ends behind the last key. -/
theorem run_keysFrom_end (h : ((s.keypair S index).run w).value = .ok none) :
    (keysFrom S s (left + 1) index).run w =
      let r := (s.keypair S index).run w
      ⟨.ok [], r.world, r.entries⟩ := by
  rw [keysFrom, Job.run_bind]
  simp [h]

theorem run_keysFrom_key {k : Keypair} (h : ((s.keypair S index).run w).value = .ok (some k)) :
    (keysFrom S s (left + 1) index).run w =
      let r := (s.keypair S index).run w
      let rest := (keysFrom S s left (index + 1)).run r.world
      ⟨rest.value.map (k :: ·), rest.world, r.entries ++ rest.entries⟩ := by
  rw [keysFrom, Job.run_bind]
  simp only [Job.run_lift, h, Job.run_bind]
  cases ((keysFrom S s left (index + 1)).run ((s.keypair S index).run w).world).value <;>
    simp [Except.map]

/-- A key without certificate is passed over. -/
theorem run_keysFrom_missing
    (h : ((s.keypair S index).run w).value = .error .missingCertificate) :
    (keysFrom S s (left + 1) index).run w =
      let r := (s.keypair S index).run w
      let rest := (keysFrom S s left (index + 1)).run r.world
      ⟨rest.value, rest.world, r.entries ++
        .ofLog ⟨.warn, s!"Skipping keypair {index} without certificate"⟩ :: rest.entries⟩ := by
  rw [keysFrom, Job.run_bind]
  simp [h, Job.run_bind]

/-- Any other failure ends the loop. -/
theorem run_keysFrom_failure {f : Failure} (h : ((s.keypair S index).run w).value = .error f)
    (hf : f ≠ .missingCertificate) :
    (keysFrom S s (left + 1) index).run w =
      let r := (s.keypair S index).run w
      ⟨.error (.card f), r.world, r.entries⟩ := by
  rw [keysFrom, Job.run_bind]
  simp only [Job.run_lift, h]
  cases f <;> first | exact absurd rfl hf | simp

/-- The loop over what is left of the keys, if it may go on for long enough, asks for the keys once
for each of them and once more at the end. -/
theorem run_keysFrom_of_lists {a : Application} {usual : ω → Prop} {keys : List Octets}
    {certificates : Octets → Option Octets} (hb : s.backend = some (.pkcs15 a))
    (h : Pkcs15.Lists S a usual keys certificates) (hw : usual w) (hindex : index ≤ keys.length)
    (hleft : keys.length < index + left) :
    let r := (keysFrom S s left index).run w
    r.value = (Pkcs15.listing s.parser certificates (keys.drop index)).mapError .card ∧
      times .privateKeys (trace r.entries) ≤ keys.length - index + 1 := by
  induction left generalizing index w with
  | zero => omega
  | succ left ih =>
    obtain ⟨hvalue, husual, htimes⟩ := Session.run_keypair_of_lists hb h hw index
    rcases Nat.lt_or_eq_of_le hindex with hlt | rfl
    · have hid : keys[index]? = some keys[index] := List.getElem?_eq_getElem hlt
      rw [List.drop_eq_getElem_cons hlt]
      generalize keys[index] = id at hid
      obtain ⟨hrest, hcalls⟩ := ih husual (show index + 1 ≤ keys.length from hlt) (by omega)
      cases hc : certificates id with
      | none =>
        rw [Pkcs15.entry_eq_missing_iff.mpr ⟨id, hid, hc⟩] at hvalue
        rw [run_keysFrom_missing hvalue, Pkcs15.listing_missing hc]
        refine ⟨hrest, ?_⟩
        simp only [trace_append, trace_ofLog, times_append, htimes]
        omega
      | some c =>
        rw [Pkcs15.entry_of_certificate hid hc] at hvalue
        rw [Pkcs15.listing_certificate hc]
        cases hg : s.parser.keygrip c with
        | ok g =>
          rw [hg] at hvalue
          rw [run_keysFrom_key hvalue]
          refine ⟨?_, ?_⟩
          · simp only [hrest]
            cases Pkcs15.listing s.parser certificates (keys.drop (index + 1)) <;> rfl
          · simp only [trace_append, times_append, htimes]
            omega
        | error f =>
          have hf : f = .cardError := CertificateParser.eq_of_keygrip_eq_error hg
          rw [hg] at hvalue
          rw [run_keysFrom_failure hvalue (by rw [hf]; decide)]
          refine ⟨rfl, ?_⟩
          simp only [htimes]
          omega
    · rw [Pkcs15.entry_eq_none_iff.mpr (Nat.le_refl _)] at hvalue
      rw [run_keysFrom_end hvalue, List.drop_length]
      refine ⟨rfl, ?_⟩
      simp only [htimes]
      omega

theorem run_keysFrom_later (hb : s.backend = some .dinsig) (h : index ≠ 0) (left : Nat) (w : ω) :
    let r := (keysFrom S s (left + 1) index).run w
    r.value = .ok [] ∧ r.world = w ∧ trace r.entries = [] := by
  obtain ⟨hvalue, hworld, htrace⟩ := Session.run_keypair_later (S := S) hb h w
  rw [run_keysFrom_end hvalue]
  exact ⟨rfl, hworld, htrace⟩

/-- Without an application the loop reads the only certificate, and needs nothing else of the card
to find the end of the list. -/
theorem run_listKeys_of_dinsig (hb : s.backend = some .dinsig) (w : ω) :
    let c := (Dinsig.certificate S s.connection).run w
    let r := (listKeys S s).run w
    r.value = ((c.value.bind s.parser.keygrip).map fun g =>
        [⟨g, some Dinsig.certId⟩]).mapError .card ∧
      r.world = c.world ∧ trace r.entries = trace c.entries := by
  intro c
  obtain ⟨left, hleft⟩ : ∃ left, keyLimit = left + 1 + 1 := ⟨0x7FFFFFFE, rfl⟩
  rw [listKeys, hleft]
  obtain ⟨hvalue, hworld, htrace⟩ := Session.run_keypair_first (S := S) hb w
  cases hc : c.value with
  | error f =>
    have hf : f ≠ .missingCertificate := by
      rintro rfl
      exact Dinsig.value_certificate_ne_missingCertificate hc
    rw [hc] at hvalue
    rw [run_keysFrom_failure hvalue hf]
    exact ⟨rfl, hworld, htrace⟩
  | ok o =>
    rw [hc] at hvalue
    cases hg : s.parser.keygrip o with
    | error f =>
      simp only [Except.bind, hg, Except.map] at hvalue ⊢
      have hf : f = .cardError := CertificateParser.eq_of_keygrip_eq_error hg
      rw [run_keysFrom_failure hvalue (by rw [hf]; decide)]
      exact ⟨rfl, hworld, htrace⟩
    | ok g =>
      simp only [Except.bind, hg, Except.map] at hvalue ⊢
      rw [run_keysFrom_key hvalue]
      obtain ⟨hvalue', hworld', htrace'⟩ :=
        run_keysFrom_later (S := S) hb Nat.one_ne_zero left ((s.keypair S (0 : Nat)).run w).world
      refine ⟨?_, hworld'.trans hworld, ?_⟩
      · simp only [hvalue', Except.map, Except.mapError]
      · simp only [trace_append, htrace, htrace', List.append_nil, c]

/-- The loop comes to all keys of an application that does not change, and tells the end of the
list, a key without certificate and a certificate without keygrip apart at each index. Without an
application it reads one certificate, and gives its keypair or the failure of the read or of the
keygrip. -/
theorem keys_enumerated (S : Stack ω ε Context Connection Application)
    (s : Session Context Connection Application) :
    (∀ (a : Application) (usual : ω → Prop) (keys : List Octets)
        (certificates : Octets → Option Octets), s.backend = some (.pkcs15 a) →
      Pkcs15.Lists S a usual keys certificates → keys.length < 0x7FFFFFFF → ∀ w, usual w →
      (∀ index : Nat,
        let r := (s.keypair S index).run w
        (r.value = .ok none ↔ keys.length ≤ index) ∧
        (r.value = .error .missingCertificate ↔
          ∃ id, keys[index]? = some id ∧ certificates id = none) ∧
        (∀ id c, keys[index]? = some id → certificates id = some c →
          (∀ g, s.parser.keygrip c = .ok g →
            r.value = .ok (some ⟨g, some ("P15-5015." ++ Hex.upper id)⟩)) ∧
          ∀ f, s.parser.keygrip c = .error f → f = .cardError ∧ r.value = .error f) ∧
        usual r.world ∧ times .privateKeys (trace r.entries) = 1) ∧
      let r := (listKeys S s).run w
      r.value = ((keys.filter fun id => (certificates id).isSome).mapM
        (Pkcs15.listed s.parser certificates)).mapError .card ∧
      times .privateKeys (trace r.entries) ≤ keys.length + 1) ∧
    (s.backend = some .dinsig → ∀ w,
      let c := (Dinsig.certificate S s.connection).run w
      let r := (listKeys S s).run w
      times (.select Dinsig.certPath) (trace r.entries) = 1 ∧
      trace r.entries = trace c.entries ∧ r.world = c.world ∧
      (∀ f, c.value = .error f → r.value = .error (.card f)) ∧
      (∀ o f, c.value = .ok o → s.parser.keygrip o = .error f →
        f = .cardError ∧ r.value = .error (.card f)) ∧
      (∀ o g, c.value = .ok o → s.parser.keygrip o = .ok g →
        r.value = .ok [⟨g, some Dinsig.certId⟩]) ∧
      ∀ (index : Nat) (w' : ω), index ≠ 0 →
        let q := (s.keypair S index).run w'
        q.value = .ok none ∧ q.world = w' ∧ trace q.entries = []) := by
  refine ⟨fun a usual keys certificates hb h hn w hw => ⟨fun index => ?_, ?_⟩,
    fun hb w => ?_⟩
  · obtain ⟨hvalue, husual, htimes⟩ := Session.run_keypair_of_lists hb h hw index
    refine ⟨?_, ?_, fun id c hid hc => ⟨fun g hg => ?_, fun f hg => ?_⟩, husual, htimes⟩
    · rw [hvalue]
      exact Pkcs15.entry_eq_none_iff
    · rw [hvalue]
      exact Pkcs15.entry_eq_missing_iff
    · rw [hvalue, Pkcs15.entry_of_certificate hid hc, hg]
      rfl
    · rw [hvalue, Pkcs15.entry_of_certificate hid hc, hg]
      exact ⟨CertificateParser.eq_of_keygrip_eq_error hg, rfl⟩
  · exact run_keysFrom_of_lists hb h hw (Nat.zero_le _) (by rw [keyLimit]; omega)
  · obtain ⟨hvalue, hworld, htrace⟩ := run_listKeys_of_dinsig (S := S) hb w
    refine ⟨?_, htrace, hworld, fun f hc => ?_, fun o f hc hg => ?_, fun o g hc hg => ?_,
      fun index w' hindex => Session.run_keypair_later hb hindex w'⟩
    · rw [htrace]
      exact Dinsig.times_select_certificate
    · rw [hvalue, hc]
      rfl
    · rw [hvalue, hc, Except.bind, hg]
      exact ⟨CertificateParser.eq_of_keygrip_eq_error hg, rfl⟩
    · rw [hvalue, hc, Except.bind, hg]
      rfl

end CommandLine

end

/-! ## The simulated stack -/

namespace Simulator

open CommandLine

/-- As long as a card without faults stays in its reader, its application answers the same. -/
theorem lists {a : Application} {c : Card} (hc : c.faults = []) :
    Pkcs15.Lists stack a (fun w => w.card? a.reader = some c) c.directory.keys
      (fun id => c.directory.certificates.lookup (Hex.upper id)) where
  privateKeys {w} hw := by
    have hcard : w.cardAt a.reader .privateKeys = .ok c := by
      simp [World.cardAt, hw, Card.fault?, hc]
    exact ⟨by simp [stack, answer, World.ask, hcard, Except.bind], hw⟩
  certificate {w} id hw := by
    have hcard : w.cardAt a.reader .certificate = .ok c := by
      simp [World.cardAt, hw, Card.fault?, hc]
    exact ⟨by simp [stack, answer, World.ask, hcard, Except.bind], hw⟩

/-- A card whose application lists three keys, the one in the middle without certificate. -/
def gapped : Card :=
  ⟨true, [], some ⟨none, [[1], [2], [3]], [("01", [0xA1]), ("03", [0xA3])], none, none⟩, []⟩

/-- The gap in the list does not end it, and the card without an application has its one keypair. -/
theorem keys_enumerated_gapped :
    let w := World.ofCards [some gapped] none
    let r := (listKeys stack keySession).run w
    let w' := World.ofCards [some slow] none
    let r' := (listKeys stack (keySession.withBackend .dinsig)).run w'
    ((keySession.keypair stack (1 : Nat)).run w).value = .error .missingCertificate ∧
      ((keySession.keypair stack (3 : Nat)).run w).value = .ok none ∧
      r.value = .ok [⟨.ofModulus [0xA1], some "P15-5015.01"⟩,
        ⟨.ofModulus [0xA3], some "P15-5015.03"⟩] ∧
      times .privateKeys (trace r.entries) ≤ 4 ∧
      r'.value = .ok [⟨.ofModulus [1, 2, 3], some Dinsig.certId⟩] ∧
      times (.select Dinsig.certPath) (trace r'.entries) = 1 := by
  intro w r w' r'
  obtain ⟨hindex, hvalue, htimes⟩ := (keys_enumerated stack keySession).1 ⟨0, none⟩ _ _ _ rfl
    (lists (c := gapped) rfl) (by decide) w rfl
  obtain ⟨honce, -, -, -, -, hkeypair, -⟩ :=
    (keys_enumerated stack (keySession.withBackend .dinsig)).2 rfl w'
  refine ⟨(hindex 1).2.1.mpr ⟨[2], rfl, rfl⟩, (hindex 3).1.mpr (by decide), ?_, htimes,
    hkeypair [1, 2, 3] _ (by decide +kernel) rfl, honce⟩
  rw [hvalue]
  rfl

/-- A card without an application directory, whose certificate has a modulus without sign octet. -/
def unsigned : Card :=
  let certificate := Certificate.sparse [1] [0xC5] [3]
  ⟨true, [(Dinsig.certPath.text, ⟨certificate, ⟨.workingEf, .transparent, certificate.length⟩, none,
    none, 0, certificate.length, 0⟩)], none, []⟩

/-- The certificate is read well, but has no keygrip: neither is its keypair listed nor did the read
fail. -/
theorem unsigned_not_listed :
    let w := World.ofCards [some unsigned] none
    let s := { keySession.withBackend .dinsig with parser := Certificate.publicKey }
    let c := (Dinsig.certificate stack s.connection).run w
    let r := (listKeys stack s).run w
    ¬((∃ k, r.value = .ok [k]) ∨ ∃ f, c.value = .error f ∧ r.value = .error (.card f)) := by
  intro w s c r
  have hc : c.value = .ok (Certificate.sparse [1] [0xC5] [3]) := by decide +kernel
  have hg : s.parser.keygrip (Certificate.sparse [1] [0xC5] [3]) = .error .cardError := by
    decide +kernel
  have hr : r.value = .error (.card .cardError) := by
    rw [(run_listKeys_of_dinsig rfl w).1, hc, Except.bind, hg]
    rfl
  rintro (⟨k, hk⟩ | ⟨f, hf, -⟩)
  · rw [hr] at hk
    cases hk
  · rw [hc] at hf
    cases hf

end Simulator

end SmartCard
