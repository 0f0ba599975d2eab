import SmartCard.Proofs.BindingFirst
import SmartCard.Proofs.ObjectNames
import SmartCard.Proofs.SteadyCard
import SmartCard.Proofs.TaskAnswers

/-!
# Certificates of listed keypairs

The name under which a session lists a keypair leads back to the certificate of that keypair, as
long as the card does not change: any operations may come in between. The one exception is the name
of an empty identifier, which is listed but refused.
-/
namespace SmartCard

section
variable {ω ε Context Connection Application α : Type}

/-! ## Backends -/

section
variable {S : Stack ω ε Context Connection Application} {k : Connection} {a : Application}
  {parser : CertificateParser} {index : Nat} {kp : Keypair} {w : ω}

namespace Pkcs15

/-- A keypair that is listed has its keygrip from the certificate of its identifier. -/
theorem exists_certificate (h : ((keypair S parser a index).run w).value = .ok (some kp)) :
    ∃ id c, (S.certificate a id (S.privateKeys a w).world).value = .ok (some c) ∧
      parser.keygrip c = .ok kp.keygrip ∧ kp.keyId = some (ObjectId.format id) := by
  obtain ⟨keys, -, h⟩ := Task.exists_of_run_bind h
  rw [Task.world_callOr] at h
  cases hid : keys[index]? with
  | none =>
    rw [hid] at h
    cases h
  | some id =>
    rw [hid] at h
    obtain ⟨c?, hc, h⟩ := Task.exists_of_run_bind h
    have hv : (S.certificate a id (S.privateKeys a w).world).value = .ok c? :=
      Task.value_callOr_eq_ok.mp hc
    cases c? with
    | none =>
      obtain ⟨u, -, h⟩ := Task.exists_of_run_bind h
      cases h
    | some c =>
      obtain ⟨g, hg, h⟩ := Task.exists_of_run_bind h
      rw [Task.value_keygripOr] at hg
      cases h
      exact ⟨id, c, hv, hg, rfl⟩

theorem value_readCertificate {id c : Octets} (hid : id ≠ [])
    (hc : (S.certificate a id w).value = .ok (some c)) :
    ((readCertificate S a (ObjectId.format id)).run w).value = .ok c := by
  have hvalue : ((certificate S a id).run w).value = .ok (some c) :=
    Task.value_callOr_eq_ok.mpr hc
  rw [readCertificate, ObjectId.parse_format hid, Task.run_bind]
  show (((certificate S a id >>= _ : Task ω ε Octets)).run w).value = .ok c
  rw [Task.run_bind, hvalue]
  rfl

theorem value_readCertificate_lead :
    ((readCertificate S a ObjectId.lead).run w).value = .error .invalidValue := by
  rw [readCertificate, ObjectId.parse_lead]
  rfl

end Pkcs15

namespace Dinsig

theorem exists_certificate (h : ((keypair S parser k index).run w).value = .ok (some kp)) :
    ∃ c, ((certificate S k).run w).value = .ok c ∧ parser.keygrip c = .ok kp.keygrip ∧
      kp.keyId = some certId := by
  rw [keypair] at h
  split at h
  · obtain ⟨c, hc, h⟩ := Task.exists_of_run_bind h
    obtain ⟨g, hg, h⟩ := Task.exists_of_run_bind h
    rw [Task.value_keygripOr] at hg
    cases h
    exact ⟨c, hc, hg, rfl⟩
  · cases h

end Dinsig

/-- What is found under the name of a listed keypair: its certificate, unless the name is the bare
text in front of identifiers. -/
def Denotes (parser : CertificateParser) (read : String → Except Failure Octets) (kp : Keypair) :
    Prop :=
  ∃ id, kp.keyId = some id ∧
    (id = ObjectId.lead → read id = .error .invalidValue) ∧
    (id ≠ ObjectId.lead → ∃ c, read id = .ok c ∧ parser.keygrip c = .ok kp.keygrip)

theorem Backend.denotes_listed {b : Backend Application} {usual : ω → Prop}
    {alike : ω → ω → Prop} (h : Steady S k b usual alike) {w' : ω} (hw : usual w) (hw' : usual w')
    (hkp : ((b.keypair S parser k index).run w).value = .ok (some kp)) :
    Denotes parser (fun id => ((b.readCertificate S k id).run w').value) kp := by
  cases b with
  | pkcs15 a =>
    obtain ⟨id, c, hc, hg, hkey⟩ := Pkcs15.exists_certificate hkp
    refine ⟨ObjectId.format id, hkey, fun hlead => ?_, fun hlead => ?_⟩
    · rw [hlead]
      exact Pkcs15.value_readCertificate_lead
    · have hid : id ≠ [] := fun h => hlead (ObjectId.format_eq_lead_iff.mpr h)
      have hkeys : usual (S.privateKeys a w).world := h.keeps (.privateKeys a) hw
      rw [h.answers (.certificate a id) nofun hkeys hw'] at hc
      exact ⟨c, Pkcs15.value_readCertificate hid hc, hg⟩
  | dinsig =>
    obtain ⟨c, hc, hg, hkey⟩ := Dinsig.exists_certificate hkp
    refine ⟨Dinsig.certId, hkey, fun hlead => absurd hlead (by decide), fun _ => ⟨c, ?_, hg⟩⟩
    have hread : ((Dinsig.certificate S k).run w').value = .ok c := by
      rw [← (h.alike_certificate w w' ⟨hw, hw'⟩).1, hc]
    show ((Dinsig.readCertificate S k Dinsig.certId).run w').value = .ok c
    rw [Dinsig.readCertificate, if_pos rfl, hread]

end

/-! ## Sessions -/

namespace Session

variable {S : Stack ω ε Context Connection Application}
  {s : Session Context Connection Application} {b : Backend Application} {w : ω}

theorem value_bound (hb : s.backend = some b) (g : Backend Application → Task ω ε α) :
    ((s.bound >>= g).run w).value = ((g b).run w).value := by
  rw [s.run_bound hb]

theorem value_readCertificate (hb : s.backend = some b) (id : String) :
    ((s.readCertificate S id).run w).value =
      ((b.readCertificate S s.connection id).run w).value := by
  rw [readCertificate, run_reported]
  exact value_bound hb _

theorem value_keypair (hb : s.backend = some b) {index : Int} {kp : Option Keypair}
    (h : ((s.keypair S index).run w).value = .ok kp) :
    ((b.keypair S s.parser s.connection index.toNat).run w).value = .ok kp := by
  rw [keypair, run_reported] at h
  obtain ⟨u, hu, h⟩ := Task.exists_of_run_bind h
  rw [value_bound hb, Task.run_require] at h
  split at h
  · exact h
  · exact h

/-- As long as the card does not change, the name of a keypair that a session lists denotes its
certificate, whatever the session does in between. -/
theorem denotes_of_keypair {usual : ω → Prop} {alike : ω → ω → Prop} {index : Int} {kp : Keypair}
    (hb : s.backend = some b) (h : Steady S s.connection b usual alike) (hw : usual w)
    (hkp : ((s.keypair S index).run w).value = .ok (some kp)) (ops : List Operation) :
    let p := s.performAll S ops ((s.keypair S index).run w).world
    Denotes s.parser (fun id => ((p.value.readCertificate S id).run p.world).value) kp := by
  intro p
  have hgo := goes_performAll (S := S) s ops ((s.keypair S index).run w).world
  have hkeypair : Work S s.connection (some b) w ((s.keypair S index).run w).entries (some b)
      ((s.keypair S index).run w).world := hb ▸ works_keypair s index w
  have hused : usual ((s.keypair S index).run w).world := (h.work hkeypair hw).1
  have hwork : Work S s.connection (some b) ((s.keypair S index).run w).world p.entries
      p.value.backend p.world := hb ▸ hgo.work
  obtain ⟨husual, hb'⟩ := h.work hwork hused
  have hdenotes := Backend.denotes_listed h hw husual (value_keypair hb hkp)
  have hk : p.value.connection = s.connection := hgo.connection
  simpa only [value_readCertificate hb', hk] using hdenotes

end Session

end

namespace Simulator

/-- A card whose application lists one key, with a certificate of one octet. -/
def keyed (id : Octets) : Card :=
  ⟨true, [], some ⟨none, [id], [(Hex.upper id, [1])], none, none⟩, []⟩

/-- A session on the first reader that is bound to the application of its card. -/
def keySession : Session Unit Connection Application :=
  ⟨{}, parser, (), ⟨0, 0⟩, some (.pkcs15 ⟨0, none⟩), none⟩

theorem denotes_keypair_keyed :
    let w := World.ofCards [some (keyed [0x45])] none
    let kp : Keypair := ⟨.ofModulus [1], some "P15-5015.45"⟩
    let p := keySession.performAll stack [.keypair 1, .serial]
      ((keySession.keypair stack 0).run w).world
    ((keySession.keypair stack 0).run w).value = .ok (some kp) ∧
      Denotes parser (fun id => ((p.value.readCertificate stack id).run p.world).value) kp := by
  intro w kp p
  have hkp : ((keySession.keypair stack 0).run w).value = .ok (some kp) := rfl
  have hsteady := steady keySession.connection (.pkcs15 ⟨0, none⟩) w.readers
  exact ⟨hkp, Session.denotes_of_keypair rfl hsteady rfl hkp [.keypair 1, .serial]⟩

/-- A keypair with an empty identifier is listed under a name that is not accepted. -/
theorem not_accepted_keypair_nil :
    let w := World.ofCards [some (keyed [])] none
    Steady stack keySession.connection (.pkcs15 ⟨0, none⟩) (fun w' => w'.readers = w.readers)
        (World.Alike keySession.connection) ∧
      ∃ kp, ((keySession.keypair stack 0).run w).value = .ok (some kp) ∧
        ¬ ∃ id c, kp.keyId = some id ∧
          ((keySession.readCertificate stack id).run
            ((keySession.keypair stack 0).run w).world).value = .ok c ∧
          parser.keygrip c = .ok kp.keygrip := by
  intro w
  refine ⟨steady _ _ _, ⟨.ofModulus [1], some ObjectId.lead⟩, rfl, ?_⟩
  rintro ⟨id, c, hid, hc, -⟩
  cases hid
  rw [Session.value_readCertificate rfl] at hc
  rw [Backend.readCertificate, Pkcs15.value_readCertificate_lead] at hc
  cases hc

end Simulator

end SmartCard
