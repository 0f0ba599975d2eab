import SmartCard.Certificate
import SmartCard.Proofs.DerValues
import SmartCard.Proofs.SexpRoundTrip

/-!
# Keygrips of certified keys

An RSA key is rendered with a sign octet before the numbers that need one, just as the certificate
writes them, and its keygrip is taken from what is rendered. So the keygrip of a certificate is the
hash of its modulus as the certificate has it, and nothing else in the certificate counts.
-/
namespace SmartCard

/-! ## Keys -/

namespace Keygrip

theorem ofCanonical?_write (s : Sexp) : ofCanonical? s.write = ofSexp? s := by
  have hparse := Sexp.parse_write s []
  rw [List.append_nil] at hparse
  rw [ofCanonical?, hparse]

theorem ofSexp?_sexp (k : RsaKey) : ofSexp? k.sexp = some (ofModulus (RsaKey.padded k.modulus)) :=
  rfl

theorem ofCanonical?_canonical (k : RsaKey) :
    ofCanonical? k.canonical = some (ofModulus (RsaKey.padded k.modulus)) := by
  rw [RsaKey.canonical, ofCanonical?_write, ofSexp?_sexp]

end Keygrip

namespace RsaKey

theorem padded_eq (n : Octets) :
    padded n = if n.head?.any (0x80 ≤ ·) then 0 :: n else n := by
  cases n with
  | nil => rfl
  | cons b n => simp [padded]

/-- The sign octet that is taken off a number is put back. -/
theorem padded_of_unsigned {o n : Octets} (h : Der.unsigned? o = some n) : padded n = o := by
  match o with
  | [] => cases h
  | [b] =>
    rw [Der.unsigned?] at h
    split_ifs at h with hb
    cases h
    exact if_neg (UInt8.not_le.mpr hb)
  | a :: b :: o =>
    rw [Der.unsigned?] at h
    split_ifs at h with ha hb ha'
    · cases h
      subst ha
      exact if_pos (UInt8.not_lt.mp hb)
    · cases h
      exact if_neg (UInt8.not_le.mpr ha')

end RsaKey

/-! ## Reading -/

namespace Der.Reader

variable {α β : Type} {o rest : Octets}

theorem value_eq_some_iff {b : UInt8} {content : Octets} :
    value b o = some (content, rest) ↔ next? o = some (⟨[b], content⟩, rest) := by
  rw [value]
  constructor
  · intro h
    split at h
    next e rest' he =>
      split_ifs at h with hb
      cases h
      rw [he, ← hb]
    next => cases h
  · intro h
    rw [h]
    exact if_pos rfl

theorem bind_eq_some_iff {r : Reader α} {g : α → Reader β} {b : β} :
    (r >>= g) o = some (b, rest) ↔ ∃ a o', r o = some (a, o') ∧ g a o' = some (b, rest) := by
  show (r o).bind (fun p => g p.1 p.2) = _ ↔ _
  simp [Option.bind_eq_some_iff]

/-- A sequence is a value whose content is read to its end. -/
theorem sequence_eq_some_iff {r : Reader α} {a : α} :
    Reader.sequence r o = some (a, rest) ↔
      ∃ content, next? o = some (⟨[0x30], content⟩, rest) ∧ r content = some (a, []) := by
  rw [Reader.sequence, bind_eq_some_iff]
  simp only [value_eq_some_iff]
  constructor
  · rintro ⟨content, o', hnext, h⟩
    rw [within] at h
    split at h
    next a' hr =>
      cases h
      exact ⟨content, hnext, hr⟩
    next => cases h
  · rintro ⟨content, hnext, hr⟩
    refine ⟨content, rest, hnext, ?_⟩
    rw [within, hr]

end Der.Reader

namespace RsaKey

/-- The written form of a key whose numbers have these contents. -/
def written (n e : Octets) : Octets := Der.write 0x30 (Der.write 0x02 n ++ Der.write 0x02 e)

open Der Der.Reader in
/-- A key is read from nothing but its written form. -/
theorem exists_written {o : Octets} {k : RsaKey} (h : read? o = some k) :
    ∃ n e, o = written n e ∧ padded k.modulus = n ∧
      (Der.write 0x02 n ++ Der.write 0x02 e).length < 256 ^ 4 := by
  rw [read?] at h
  split at h
  next n e hseq =>
    simp only [Option.bind_eq_bind, Option.bind_eq_some_iff] at h
    obtain ⟨n', hn, e', -, hk⟩ := h
    cases hk
    obtain ⟨content, hnext, hnumbers⟩ := sequence_eq_some_iff.mp hseq
    obtain ⟨m, o', hm, hrest⟩ := bind_eq_some_iff.mp hnumbers
    obtain ⟨m', o'', hm', hpure⟩ := bind_eq_some_iff.mp hrest
    cases hpure
    rw [value_eq_some_iff, next?_eq_some_iff] at hm hm'
    obtain ⟨rfl, hlength, -⟩ := next?_eq_some_iff.mp hnext
    rw [hm'.1, List.append_nil] at hm
    rw [hm.1] at hlength
    exact ⟨n, e, by rw [hm.1, List.append_nil, written], padded_of_unsigned hn, hlength⟩
  next => cases h

section
open Der
variable {n e n' e' : Octets}

theorem next?_written (h : (Der.write 0x02 n ++ Der.write 0x02 e).length < 256 ^ 4) :
    next? (written n e) = some (⟨[0x30], Der.write 0x02 n ++ Der.write 0x02 e⟩, []) :=
  next?_eq_some_iff.mpr ⟨(List.append_nil _).symm, h, by decide⟩

theorem next?_numbers (h : (Der.write 0x02 n ++ Der.write 0x02 e).length < 256 ^ 4) :
    next? (Der.write 0x02 n ++ Der.write 0x02 e) = some (⟨[0x02], n⟩, Der.write 0x02 e) := by
  refine next?_eq_some_iff.mpr ⟨rfl, Nat.lt_of_le_of_lt ?_ h, by decide⟩
  simp only [Der.write, List.length_append, List.length_cons]
  omega

/-- The written form of a key tells its modulus. -/
theorem modulus_eq_of_written_eq (h : written n e = written n' e')
    (hshort : (Der.write 0x02 n ++ Der.write 0x02 e).length < 256 ^ 4) : n = n' := by
  have hshort' := length_lt_of_write_eq h hshort
  have hcontent := next?_written hshort
  rw [h, next?_written hshort'] at hcontent
  simp only [Option.some.injEq, Prod.mk.injEq, Element.mk.injEq, true_and, and_true] at hcontent
  have hmodulus := next?_numbers hshort
  rw [← hcontent, next?_numbers hshort'] at hmodulus
  simp only [Option.some.injEq, Prod.mk.injEq, Element.mk.injEq, true_and] at hmodulus
  exact hmodulus.1.symm

end

end RsaKey

/-! ## Certificates -/

namespace Certificate

theorem exists_of_publicKey {o x : Octets} (h : publicKey o = some x) :
    ∃ c k, read? o = some c ∧ RsaKey.read? c.keyOctets = some k ∧ x = k.canonical := by
  simp only [publicKey, Option.bind_eq_bind, Option.bind_eq_some_iff] at h
  obtain ⟨c, hc, u, -, k, hk, hx⟩ := h
  exact ⟨c, k, hc, hk, (Option.some.inj hx).symm⟩

/-- The octets are a certificate that is accepted, and its key has this modulus: the content of the
first number, with its sign octet if it has one. -/
structure Certifies (o n : Octets) : Prop where
  accepted : (publicKey o).isSome
  written : ∃ c e, read? o = some c ∧ c.keyOctets = RsaKey.written n e

theorem keygrip_of_publicKey {o : Octets} {k : RsaKey} (h : publicKey o = some k.canonical) :
    publicKey.keygrip o = .ok (.ofModulus (RsaKey.padded k.modulus)) := by
  rw [CertificateParser.keygrip, h, Option.bind_some, Keygrip.ofCanonical?_canonical]

theorem exists_certifies {o : Octets} (h : (publicKey o).isSome) : ∃ n, Certifies o n := by
  obtain ⟨x, hx⟩ := Option.isSome_iff_exists.mp h
  obtain ⟨c, k, hc, hk, -⟩ := exists_of_publicKey hx
  obtain ⟨n, e, hwritten, -, -⟩ := RsaKey.exists_written hk
  exact ⟨n, h, c, e, hc, hwritten⟩

theorem Certifies.keygrip {o n : Octets} (h : Certifies o n) :
    publicKey.keygrip o = .ok (.ofModulus n) := by
  obtain ⟨x, hx⟩ := Option.isSome_iff_exists.mp h.accepted
  obtain ⟨c, k, hc, hk, rfl⟩ := exists_of_publicKey hx
  obtain ⟨c', e', hc', hwritten'⟩ := h.written
  obtain ⟨m, e, hwritten, hm, hshort⟩ := RsaKey.exists_written hk
  rw [hc] at hc'
  cases hc'
  rw [hwritten] at hwritten'
  rw [keygrip_of_publicKey hx, hm, RsaKey.modulus_eq_of_written_eq hwritten' hshort]

/-- The keygrip of a key that is rendered is the hash of its modulus, with a zero octet in front if
the high bit is set. Each certificate that is accepted has a modulus, and its keygrip is the hash of
the modulus as the certificate has it, whatever else is in the certificate. -/
theorem keygrip_hashes_modulus :
    (∀ n e : Octets, (Keygrip.ofCanonical? (RsaKey.mk n e).canonical).map Keygrip.octets =
      some (Sha1.digest (if n.head?.any (0x80 ≤ ·) then 0 :: n else n))) ∧
    (∀ o : Octets, (publicKey o).isSome → ∃ n, Certifies o n) ∧
    (∀ o n : Octets, Certifies o n →
      (publicKey.keygrip o).map Keygrip.octets = .ok (Sha1.digest n)) ∧
    ∀ o o' n : Octets, Certifies o n → Certifies o' n →
      publicKey.keygrip o = publicKey.keygrip o' := by
  refine ⟨fun n e => ?_, fun o => exists_certifies, fun o n h => ?_, fun o o' n h h' => ?_⟩
  · rw [Keygrip.ofCanonical?_canonical, RsaKey.padded_eq]
    rfl
  · rw [h.keygrip]
    rfl
  · rw [h.keygrip, h'.keygrip]

/-- A certificate with as little in it as is accepted, but for its serial number and its key. -/
def sparse (serial n e : Octets) : Octets :=
  let signature := Der.write 0x30 (Der.write 0x06 [0x2A])
  let name := Der.write 0x30 []
  let moment := Der.write 0x17 (Octets.ofText "260101000000Z")
  let algorithm := Der.write 0x30 (Der.write 0x06 rsaEncryption ++ Der.null)
  Der.write 0x30 (Der.write 0x30 (Der.write 0x02 serial ++ signature ++ name ++
    Der.write 0x30 (moment ++ moment) ++ name ++
    Der.write 0x30 (algorithm ++ Der.write 0x03 (0 :: RsaKey.written n e))) ++
    signature ++ Der.write 0x03 [0])

/-- Two certificates that share a modulus with a sign octet, and nothing else. -/
theorem keygrip_hashes_modulus_shared :
    let n : Octets := [0x00, 0xC5]
    let o := sparse [1] n [3]
    let o' := sparse [2] n [0x01, 0x00, 0x01]
    (∃ m, Certifies o m) ∧ Certifies o n ∧ Certifies o' n ∧
      (publicKey.keygrip o).map Keygrip.octets = .ok (Sha1.digest n) ∧
      publicKey.keygrip o = publicKey.keygrip o' := by
  intro n o o'
  let algorithm : Identified := ⟨rsaEncryption, Der.null⟩
  have haccepted : (publicKey o).isSome := by decide +kernel
  have ho : Certifies o n :=
    ⟨haccepted, ⟨algorithm, RsaKey.written n [3]⟩, [3], by decide +kernel, rfl⟩
  have ho' : Certifies o' n :=
    ⟨by decide +kernel, ⟨algorithm, RsaKey.written n [0x01, 0x00, 0x01]⟩, [0x01, 0x00, 0x01],
      by decide +kernel, rfl⟩
  obtain ⟨-, hmodulus, hhash, hsame⟩ := keygrip_hashes_modulus
  exact ⟨hmodulus o haccepted, ho, ho', hhash o n ho, hsame o o' n ho ho'⟩

end Certificate

end SmartCard
