import Mathlib.Logic.Relation
import SmartCard.Proofs.AcceptedSpellings

/-!
# The modulus of a keygrip

A key is a list of the name `public-key` and a list that starts with the name `rsa`. Of the
parameters behind that name the first modulus counts, which is a list of the name `n` and one atom.
All that is no modulus, whatever its form, may be put in, taken out, changed and moved about without
effect; two lists of parameters can be edited into each other in this way exactly if they have the
same moduli in the same order.
-/
namespace SmartCard.Keygrip

open Octets (ofText)

variable {p s : Sexp} {ps qs : List Sexp} {n : Octets} {g : Keygrip}

/-! ## Keys and their parameters -/

/-- An RSA key with these parameters. -/
def rsaKey (parameters : List Sexp) : Sexp :=
  .list [.atom (ofText "public-key"), .list (.atom (ofText "rsa") :: parameters)]

/-- The parameter with a modulus. -/
def modulus (n : Octets) : Sexp := .list [.atom (ofText "n"), .atom n]

def IsModulus (p : Sexp) : Prop := ∃ n, p = modulus n

/-- The moduli among parameters, in their order. -/
def moduli (parameters : List Sexp) : List Octets := parameters.filterMap modulus?

theorem rsaParameters?_eq_some_iff : rsaParameters? s = some ps ↔ s = rsaKey ps := by
  constructor
  · intro h
    unfold rsaParameters? at h
    split at h
    · split_ifs at h with hnames
      obtain ⟨rfl, rfl⟩ := hnames
      cases h
      rfl
    · cases h
  · rintro rfl
    rfl

theorem modulus?_eq_some_iff : modulus? p = some n ↔ p = modulus n := by
  constructor
  · intro h
    unfold modulus? at h
    split at h
    · split_ifs at h with hname
      cases h
      rw [hname, modulus]
    · cases h
  · rintro rfl
    rfl

theorem modulus?_eq_none_iff : modulus? p = none ↔ ¬IsModulus p := by
  rw [Option.eq_none_iff_forall_ne_some, IsModulus, not_exists]
  exact forall_congr' fun n => not_congr modulus?_eq_some_iff

@[simp] theorem moduli_append (ps qs : List Sexp) : moduli (ps ++ qs) = moduli ps ++ moduli qs :=
  List.filterMap_append

theorem moduli_modulus (n : Octets) (ps : List Sexp) :
    moduli (modulus n :: ps) = n :: moduli ps := rfl

theorem moduli_cons_of_not (hp : ¬IsModulus p) (ps : List Sexp) : moduli (p :: ps) = moduli ps :=
  List.filterMap_cons_none (modulus?_eq_none_iff.mpr hp)

theorem moduli_swap (hp : ¬IsModulus p) (q : Sexp) (ps : List Sexp) :
    moduli (p :: q :: ps) = moduli (q :: p :: ps) := by
  calc moduli (p :: q :: ps)
      = moduli ([q] ++ ps) := moduli_cons_of_not hp (q :: ps)
    _ = moduli [q] ++ moduli (p :: ps) := by rw [moduli_append, moduli_cons_of_not hp]
    _ = moduli (q :: p :: ps) := (moduli_append [q] (p :: ps)).symm

/-- The first modulus decides. -/
theorem ofSexp?_rsaKey (ps : List Sexp) :
    ofSexp? (rsaKey ps) = (moduli ps).head?.map ofModulus := by
  rw [ofSexp?, rsaParameters?_eq_some_iff.mpr rfl, moduli, List.head?_filterMap]
  cases h : ps.findSome? modulus? <;> simp [h]

theorem ofSexp?_eq_some_iff :
    ofSexp? s = some g ↔ ∃ before n after, s = rsaKey (before ++ modulus n :: after) ∧
      (∀ p ∈ before, ¬IsModulus p) ∧ g = ofModulus n := by
  simp only [ofSexp?, Option.bind_eq_bind, Option.bind_eq_some_iff, rsaParameters?_eq_some_iff,
    List.findSome?_eq_some_iff, modulus?_eq_some_iff, modulus?_eq_none_iff]
  constructor
  · rintro ⟨_, rfl, n, ⟨before, _, after, rfl, rfl, hbefore⟩, hg⟩
    exact ⟨before, n, after, rfl, hbefore, (Option.some.inj hg).symm⟩
  · rintro ⟨before, n, after, rfl, hbefore, rfl⟩
    exact ⟨_, rfl, n, ⟨before, _, after, rfl, rfl, hbefore⟩, rfl⟩

theorem eq_ofModulus_iff : g = ofModulus n ↔ g.octets = Sha1.digest n := by
  cases g
  exact Keygrip.mk.injEq .. ▸ Iff.rfl

/-! ## Edits -/

/-- A parameter that is no modulus is put in, taken out, changed, or swapped with its neighbour. -/
inductive Edit : List Sexp → List Sexp → Prop
  | insert (before after : List Sexp) {p : Sexp} (hp : ¬IsModulus p) :
      Edit (before ++ after) (before ++ p :: after)
  | remove (before after : List Sexp) {p : Sexp} (hp : ¬IsModulus p) :
      Edit (before ++ p :: after) (before ++ after)
  | change (before after : List Sexp) {p q : Sexp} (hp : ¬IsModulus p) (hq : ¬IsModulus q) :
      Edit (before ++ p :: after) (before ++ q :: after)
  | swap (before after : List Sexp) {p q : Sexp} (h : ¬IsModulus p ∨ ¬IsModulus q) :
      Edit (before ++ p :: q :: after) (before ++ q :: p :: after)

/-- Any number of edits, one after the other. -/
abbrev Edits : List Sexp → List Sexp → Prop := Relation.ReflTransGen Edit

theorem Edit.symm (h : Edit ps qs) : Edit qs ps := by
  cases h with
  | insert before after hp => exact .remove before after hp
  | remove before after hp => exact .insert before after hp
  | change before after hp hq => exact .change before after hq hp
  | swap before after h => exact .swap before after h.symm

theorem Edit.cons (p : Sexp) (h : Edit ps qs) : Edit (p :: ps) (p :: qs) := by
  cases h with
  | insert before after hp => exact .insert (p :: before) after hp
  | remove before after hp => exact .remove (p :: before) after hp
  | change before after hp hq => exact .change (p :: before) after hp hq
  | swap before after h => exact .swap (p :: before) after h

theorem Edits.symm (h : Edits ps qs) : Edits qs ps := by
  induction h with
  | refl => exact .refl
  | tail _ hedit ih => exact ih.head hedit.symm

theorem Edits.cons (p : Sexp) (h : Edits ps qs) : Edits (p :: ps) (p :: qs) :=
  h.lift (p :: ·) fun _ _ => Edit.cons p

/-- An edit keeps the moduli. -/
theorem Edit.moduli_eq (h : Edit ps qs) : moduli ps = moduli qs := by
  cases h with
  | insert before after hp | remove before after hp => simp [moduli_cons_of_not hp]
  | change before after hp hq => simp [moduli_cons_of_not hp, moduli_cons_of_not hq]
  | @swap before after p q h =>
    have hswap : moduli (p :: q :: after) = moduli (q :: p :: after) := by
      rcases h with hp | hq
      · exact moduli_swap hp q after
      · exact (moduli_swap hq p after).symm
    rw [moduli_append, moduli_append, hswap]

theorem Edits.moduli_eq (h : Edits ps qs) : moduli ps = moduli qs := by
  induction h with
  | refl => rfl
  | tail _ hedit ih => exact ih.trans hedit.moduli_eq

/-- All but the moduli can be taken out. -/
theorem edits_moduli (ps : List Sexp) : Edits ps ((moduli ps).map modulus) := by
  induction ps with
  | nil => exact .refl
  | cons p ps ih =>
    by_cases hp : IsModulus p
    · obtain ⟨n, rfl⟩ := hp
      rw [moduli_modulus, List.map_cons]
      exact ih.cons (modulus n)
    · rw [moduli_cons_of_not hp]
      exact ih.head (.remove [] ps hp)

/-- Edits lead to all parameters with the same moduli in the same order, and to no others. -/
theorem edits_iff : Edits ps qs ↔ moduli ps = moduli qs := by
  refine ⟨Edits.moduli_eq, fun h => ?_⟩
  have hqs := (edits_moduli qs).symm
  rw [← h] at hqs
  exact (edits_moduli ps).trans hqs

/-! ## The main result -/

/-- A spelling has a keygrip exactly if it spells a key from end to end that has a modulus, and the
keygrip is the hash of the first one. It does not change with edits of other parameters, and is lost
with any octet behind the key. -/
theorem keygrip_of_first_modulus :
    (∀ x g, ofCanonical? x = some g ↔ ∃ before n after,
      Sexp.parse x = some (rsaKey (before ++ modulus n :: after), []) ∧
        (∀ p ∈ before, ¬IsModulus p) ∧ g.octets = Sha1.digest n) ∧
    (∀ ps qs, Edits ps qs ↔ moduli ps = moduli qs) ∧
    (∀ x y ps qs, Sexp.parse x = some (rsaKey ps, []) → Sexp.parse y = some (rsaKey qs, []) →
      Edits ps qs → ofCanonical? x = ofCanonical? y) ∧
    ∀ x s, Sexp.parse x = some (s, []) → ∀ b tail, ofCanonical? (x ++ b :: tail) = none := by
  refine ⟨fun x g => ?_, fun ps qs => edits_iff, ?_, ?_⟩
  · simp only [ofCanonical?_eq_some_iff, ofSexp?_eq_some_iff, eq_ofModulus_iff]
    constructor
    · rintro ⟨_, hparse, before, n, after, rfl, hbefore, hg⟩
      exact ⟨before, n, after, hparse, hbefore, hg⟩
    · rintro ⟨before, n, after, hparse, hbefore, hg⟩
      exact ⟨_, hparse, before, n, after, rfl, hbefore, hg⟩
  · intro x y ps qs hx hy hedits
    rw [ofCanonical?_of_parse hx, ofCanonical?_of_parse hy, ofSexp?_rsaKey, ofSexp?_rsaKey,
      hedits.moduli_eq]
  · intro x s hx b tail
    rw [ofCanonical?, Sexp.parse_append hx (b :: tail)]
    rfl

/-- A name without a list, a modulus of two atoms and one that is a list are no moduli, and the
second of two moduli does not count. -/
theorem keygrip_of_first_modulus_disguised :
    let n := Sexp.atom (ofText "n")
    let ps := [n, .list [n, n, n], modulus (ofText "abc"), .list [n, .list [n]],
      modulus (ofText "xyz")]
    let qs := [modulus (ofText "abc"), modulus (ofText "xyz"), n]
    ofCanonical? (rsaKey ps).write = some (ofModulus (ofText "abc")) ∧
      Edits ps qs ∧ ofCanonical? (rsaKey ps).write = ofCanonical? (rsaKey qs).write ∧
      ofCanonical? ((rsaKey ps).write ++ [0x00]) = none := by
  intro n ps qs
  have hps := Sexp.parse_write (rsaKey ps) []
  have hqs := Sexp.parse_write (rsaKey qs) []
  rw [List.append_nil] at hps hqs
  obtain ⟨hextract, hedits, hkeep, htail⟩ := keygrip_of_first_modulus
  have hmoduli : Edits ps qs := (hedits ps qs).mpr rfl
  have hbefore : ∀ p ∈ [n, .list [n, n, n]], ¬IsModulus p := by
    rintro _ (_ | ⟨_, _ | ⟨_, ⟨⟩⟩⟩)
    · exact modulus?_eq_none_iff.mp rfl
    · exact modulus?_eq_none_iff.mp rfl
  exact ⟨(hextract _ _).mpr ⟨_, _, _, hps, hbefore, rfl⟩, hmoduli,
    hkeep _ _ ps qs hps hqs hmoduli, htail _ _ hps 0x00 []⟩

end SmartCard.Keygrip
