import Mathlib.Data.List.Perm.Basic
import Mathlib.Tactic.IntervalCases
import SmartCard.Pcsc.Connection
import SmartCard.Proofs.DerValues
import SmartCard.Proofs.TlvFirstRecord

/-!
# What is read from file control parameters

The template in a response is a list of records, of which three matter: the first descriptor, and
the first size or, if there is none, the first total size. Neither the order of records with
different tags nor records with other tags make a difference. A template that is missing or cut off
describes no file.
-/
namespace SmartCard

/-! ## Records by tag -/

namespace Tlv

/-- The value of the first record with the tag. -/
def first? (tag : UInt8) (rs : List Record) : Option Octets :=
  (rs.find? fun r => r.tag = tag).map Record.value

theorem first?_cons_eq {r : Record} {tag : UInt8} (h : r.tag = tag) (rs : List Record) :
    first? tag (r :: rs) = some r.value := by
  rw [first?, List.find?_cons_of_pos (by simpa using h)]
  rfl

theorem first?_cons_ne {r : Record} {tag : UInt8} (h : r.tag ≠ tag) (rs : List Record) :
    first? tag (r :: rs) = first? tag rs := by
  rw [first?, List.find?_cons_of_neg (by simpa using h)]
  rfl

/-- Among complete records the search finds the first with the tag, and its value. -/
theorem find?_writeAll {rs : List Record} (h : ∀ r ∈ rs, r.Fits) (tag : UInt8) :
    (find? (writeAll rs) tag).map Found.value? = (first? tag rs).map some := by
  induction rs with
  | nil => simp [writeAll, find?, header?, first?]
  | cons r rs ih =>
    have hheader := Record.isHeader (h r List.mem_cons_self)
    have hwrite : writeAll (r :: rs) =
        Record.writeHeader r.form r.tag r.value.length ++ r.value ++ writeAll rs := rfl
    by_cases ht : r.tag = tag
    · rw [hwrite, List.append_assoc, ← ht, find?_header hheader, first?_cons_eq rfl]
      exact congrArg some (value?_append _ _)
    · rw [hwrite, find?_skip ht hheader, first?_cons_ne ht]
      exact ih fun x hx => h x (List.mem_cons_of_mem r hx)

/-- Records with tags of their own are told by these. -/
theorem find?_tag_eq_some_iff {rs : List Record} (h : (rs.map Record.tag).Nodup) {tag : UInt8}
    {r : Record} : (rs.find? fun r => r.tag = tag) = some r ↔ r ∈ rs ∧ r.tag = tag := by
  constructor
  · intro hr
    exact ⟨List.mem_of_find?_eq_some hr, by simpa using List.find?_some hr⟩
  · rintro ⟨hmem, rfl⟩
    obtain ⟨r', hr'⟩ : ∃ r', (rs.find? fun x => x.tag = r.tag) = some r' := by
      rw [← Option.isSome_iff_exists, List.find?_isSome]
      exact ⟨r, hmem, by simp⟩
    have htag : r'.tag = r.tag := by simpa using List.find?_some hr'
    rw [hr', List.inj_on_of_nodup_map h (List.mem_of_find?_eq_some hr') hmem htag]

theorem first?_perm {rs rs' : List Record} (hp : rs.Perm rs') (h : (rs.map Record.tag).Nodup)
    (tag : UInt8) : first? tag rs = first? tag rs' := by
  have h' : (rs'.map Record.tag).Nodup := (hp.map Record.tag).nodup_iff.mp h
  refine congrArg (Option.map Record.value) (Option.ext fun r => ?_)
  rw [find?_tag_eq_some_iff h, find?_tag_eq_some_iff h', hp.mem_iff]

theorem first?_insert {tag : UInt8} {extra : List Record} (h : ∀ r ∈ extra, r.tag ≠ tag)
    (front back : List Record) :
    first? tag (front ++ extra ++ back) = first? tag (front ++ back) := by
  have hnone : (extra.find? fun r => r.tag = tag) = none := by
    rw [List.find?_eq_none]
    simpa using h
  simp only [first?, List.find?_append, hnone, Option.or_none]

end Tlv

theorem Octets.bigEndian_lt (o : Octets) : bigEndian o < 256 ^ o.length := by
  rw [bigEndian_eq_ofDigits, ← List.length_reverse, ← List.length_map UInt8.toNat]
  apply Nat.ofDigits_lt_base_pow_length (by decide)
  intro d hd
  obtain ⟨b, -, rfl⟩ := List.mem_map.mp hd
  exact b.toNat_lt

namespace Pcsc.ControlParameters

/-! ## Codes -/

/-- Bits 1 to 3 of a descriptor code the structure of an elementary file, and whether its records
are written in TLV. -/
inductive Organises : UInt8 → EfStructure → Prop
  | unknown : Organises 0 .unknown
  | transparent : Organises 1 .transparent
  | linearFixed : Organises 2 .linearFixed
  | linearFixedTlv : Organises 3 .linearFixed
  | linearVariable : Organises 4 .linearVariable
  | linearVariableTlv : Organises 5 .linearVariable
  | cyclic : Organises 6 .cyclic
  | cyclicTlv : Organises 7 .cyclic

/-- Bits 4 to 6 of a descriptor code the type of the file, and only elementary files have a
structure. -/
inductive Codes (d : UInt8) : FileType → EfStructure → Prop
  | workingEf {e : EfStructure} (h : d &&& 0x38 = 0x00) (he : Organises (d &&& 0x07) e) :
      Codes d .workingEf e
  | internalEf {e : EfStructure} (h : d &&& 0x38 = 0x08) (he : Organises (d &&& 0x07) e) :
      Codes d .internalEf e
  | df (h : d &&& 0x38 = 0x38) : Codes d .df .unknown
  | unknown (hw : d &&& 0x38 ≠ 0x00) (hi : d &&& 0x38 ≠ 0x08) (hd : d &&& 0x38 ≠ 0x38) :
      Codes d .unknown .unknown

/-- A size is a number of one to four octets; any other value says nothing. -/
inductive Sizes : Option Octets → Nat → Prop
  | number {o : Octets} (h : 1 ≤ o.length ∧ o.length ≤ 4) : Sizes (some o) (Octets.bigEndian o)
  | unreadable {o : Octets} (h : ¬(1 ≤ o.length ∧ o.length ≤ 4)) : Sizes (some o) 0
  | missing : Sizes none 0

/-- What the records of a template say about a file. -/
structure Describes (inner : List Tlv.Record) (info : FileInfo) : Prop where
  descriptor : ∃ d o, Tlv.first? 0x82 inner = some (d :: o) ∧ Codes d info.fileType info.efStructure
  size : Sizes ((Tlv.first? 0x80 inner).or (Tlv.first? 0x81 inner)) info.size

/-- The response is made of complete records, and the first with the tag `62` of these. -/
inductive Carries : Octets → List Tlv.Record → Prop
  | mk {outer inner : List Tlv.Record} (houter : ∀ r ∈ outer, r.Fits) (hinner : ∀ r ∈ inner, r.Fits)
      (h : Tlv.first? 0x62 outer = some (Tlv.writeAll inner)) : Carries (Tlv.writeAll outer) inner

theorem and_typeBits (d : UInt8) : d &&& 0x38 = UInt8.ofNat (8 * (d.toNat / 8 % 8)) := by
  have hall : ∀ n < 256, UInt8.ofNat n &&& 0x38 = UInt8.ofNat (8 * (n / 8 % 8)) := by
    decide +kernel
  simpa using hall d.toNat d.toNat_lt

theorem and_structureBits (d : UInt8) : d &&& 0x07 = UInt8.ofNat (d.toNat % 8) := by
  have hall : ∀ n < 256, UInt8.ofNat n &&& 0x07 = UInt8.ofNat (n % 8) := by decide +kernel
  simpa using hall d.toNat d.toNat_lt

theorem Organises.unique {b : UInt8} {e e' : EfStructure} (h : Organises b e)
    (h' : Organises b e') : e = e' := by cases h <;> cases h' <;> rfl

theorem Codes.unique {d : UInt8} {t t' : FileType} {e e' : EfStructure} (h : Codes d t e)
    (h' : Codes d t' e') : t = t' ∧ e = e' := by
  cases h with
  | workingEf h he =>
    cases h' with
    | workingEf _ he' => exact ⟨rfl, he.unique he'⟩
    | internalEf h' | df h' => exact absurd (h.symm.trans h') (by decide)
    | unknown hw => exact absurd h hw
  | internalEf h he =>
    cases h' with
    | internalEf _ he' => exact ⟨rfl, he.unique he'⟩
    | workingEf h' | df h' => exact absurd (h.symm.trans h') (by decide)
    | unknown _ hi => exact absurd h hi
  | df h =>
    cases h' with
    | df => exact ⟨rfl, rfl⟩
    | workingEf h' | internalEf h' => exact absurd (h.symm.trans h') (by decide)
    | unknown _ _ hd => exact absurd h hd
  | unknown hw hi hd =>
    cases h' with
    | unknown => exact ⟨rfl, rfl⟩
    | workingEf h' => exact absurd h' hw
    | internalEf h' => exact absurd h' hi
    | df h' => exact absurd h' hd

theorem organises {d : UInt8} (h : fileType d = .workingEf ∨ fileType d = .internalEf) :
    Organises (d &&& 0x07) (efStructure d) := by
  have hlt : d.toNat % 8 < 8 := Nat.mod_lt _ (by decide)
  rw [and_structureBits]
  rcases h with h | h
  all_goals
    simp only [efStructure, h]
    generalize d.toNat % 8 = n at hlt
    interval_cases n
    · exact .unknown
    · exact .transparent
    · exact .linearFixed
    · exact .linearFixedTlv
    · exact .linearVariable
    · exact .linearVariableTlv
    · exact .cyclic
    · exact .cyclicTlv

theorem codes (d : UInt8) : Codes d (fileType d) (efStructure d) := by
  have hbits := and_typeBits d
  have hlt : d.toNat / 8 % 8 < 8 := Nat.mod_lt _ (by decide)
  have hnone (h : fileType d ≠ .workingEf ∧ fileType d ≠ .internalEf) :
      efStructure d = .unknown := by
    rw [efStructure]
    split
    next hw => exact absurd hw h.1
    next hi => exact absurd hi h.2
    next => rfl
  have horganises := organises (d := d)
  generalize ht : fileType d = t at hnone horganises
  rw [fileType] at ht
  generalize d.toNat / 8 % 8 = n at hlt hbits ht
  split at ht <;> subst ht
  · exact .workingEf hbits (horganises (.inl rfl))
  · exact .internalEf hbits (horganises (.inr rfl))
  · rw [hnone (by simp)]
    exact .df hbits
  next h0 h1 h7 =>
    rw [hnone (by simp)]
    refine .unknown ?_ ?_ ?_ <;> rw [hbits]
    all_goals
      interval_cases n <;> simp_all

theorem sizes_iff {v : Option Octets} {n : Nat} : Sizes v n ↔ sizeOf v = n := by
  constructor
  · intro h
    cases h with
    | number h => exact if_pos h
    | unreadable h => exact if_neg h
    | missing => rfl
  · rintro rfl
    cases v with
    | none => exact .missing
    | some o =>
      by_cases h : 1 ≤ o.length ∧ o.length ≤ 4
      · rw [sizeOf, if_pos h]
        exact .number h
      · rw [sizeOf, if_neg h]
        exact .unreadable h

theorem sizeOf_lt (v : Option Octets) : sizeOf v < 2 ^ 32 := by
  cases v with
  | none => decide
  | some o =>
    rw [sizeOf]
    split
    next h =>
      calc Octets.bigEndian o < 256 ^ o.length := Octets.bigEndian_lt o
        _ ≤ 256 ^ 4 := Nat.pow_le_pow_right (by decide) h.2
    next => decide

/-! ## Templates -/

section
variable {rs inner inner' : List Tlv.Record} {response response' : Octets} {info : FileInfo}

theorem value?_writeAll (h : ∀ r ∈ rs, r.Fits) (tag : UInt8) :
    value? (Tlv.writeAll rs) tag = Tlv.first? tag rs := by
  have hfind := Tlv.find?_writeAll h tag
  rw [value?]
  cases hf : Tlv.find? (Tlv.writeAll rs) tag <;> cases hv : Tlv.first? tag rs <;> simp_all

theorem size_writeAll (h : ∀ r ∈ rs, r.Fits) :
    size (Tlv.writeAll rs) = sizeOf ((Tlv.first? 0x80 rs).or (Tlv.first? 0x81 rs)) := by
  have hfind := Tlv.find?_writeAll h 0x80
  rw [size, value?_writeAll h]
  cases hf : Tlv.find? (Tlv.writeAll rs) 0x80 <;> cases hv : Tlv.first? 0x80 rs <;> simp_all

theorem ofTemplate?_writeAll (h : ∀ r ∈ inner, r.Fits) :
    ofTemplate? (Tlv.writeAll inner) = some info ↔ Describes inner info := by
  rw [ofTemplate?, value?_writeAll h, size_writeAll h]
  constructor
  · intro hinfo
    split at hinfo
    next d o hd =>
      cases hinfo
      exact ⟨⟨d, o, hd, codes d⟩, sizes_iff.mpr rfl⟩
    next => cases hinfo
  · rintro ⟨⟨d, o, hd, hcodes⟩, hsize⟩
    obtain ⟨htype, hstructure⟩ := (codes d).unique hcodes
    rw [hd, sizes_iff.mp hsize]
    simp [htype, hstructure]

theorem ofResponse?_of_carries (h : Carries response inner) :
    ofResponse? response = ofTemplate? (Tlv.writeAll inner) := by
  cases h with
  | mk houter hinner h =>
    rw [ofResponse?, value?_writeAll houter, h]
    rfl

theorem Carries.fits (h : Carries response inner) : ∀ r ∈ inner, r.Fits := by
  cases h with
  | mk houter hinner h => exact hinner

/-- Only the first records with three tags are looked at. -/
theorem ofResponse?_congr (h : Carries response inner) (h' : Carries response' inner')
    (heq : ∀ tag, tag = 0x80 ∨ tag = 0x81 ∨ tag = 0x82 →
      Tlv.first? tag inner = Tlv.first? tag inner') :
    ofResponse? response = ofResponse? response' := by
  rw [ofResponse?_of_carries h, ofResponse?_of_carries h', ofTemplate?, ofTemplate?,
    value?_writeAll h.fits, value?_writeAll h'.fits, size_writeAll h.fits, size_writeAll h'.fits,
    heq 0x80 (by simp), heq 0x81 (by simp), heq 0x82 (by simp)]

theorem size_lt (h : ofResponse? response = some info) : info.size < 2 ^ 32 := by
  obtain ⟨template, -, h⟩ := Option.bind_eq_some_iff.mp h
  rw [ofTemplate?] at h
  split at h
  next =>
    cases h
    rw [size]
    split <;> exact sizeOf_lt _
  next => cases h

/-- A template that is nowhere or not all there describes no file. -/
theorem ofResponse?_eq_none
    (h : ∀ passed header f, Tlv.FirstAt 0x62 response passed header f → f.rest.length < f.length) :
    ofResponse? response = none := by
  rw [ofResponse?, value?]
  cases hf : Tlv.find? response 0x62 with
  | none => rfl
  | some f =>
    obtain ⟨passed, header, hp⟩ := Tlv.exists_firstAt hf
    have hvalue : f.value? = none := by
      rw [Tlv.Found.value?, Octets.split?_eq_none_iff.mpr (h passed header f hp)]
      rfl
    rw [Option.bind_some, hvalue]
    rfl

end

theorem value_select {k : Connection} {path : Path} {m : Manager} {response : Octets}
    (h : (k.handle (.select path) m).value = .ok response) :
    (k.select path m).value =
      (ofResponse? response).elim (.error .malformedParameters) .ok := by
  rw [Connection.select, Action.bind_apply, h]
  cases hinfo : ofResponse? response <;> simp [hinfo]

/-- A response of complete records describes a file exactly if the first descriptor in its template
is not empty, and then the file has the type, the structure and the size which the first records
say, whatever their order and whatever other records there are. The size of a file never exceeds
four octets, and a template that is missing or cut off is refused, and so is the selection. -/
theorem parameters_of_first_records :
    (∀ response inner, Carries response inner →
      ((ofResponse? response).isSome ↔ ∃ d o, Tlv.first? 0x82 inner = some (d :: o)) ∧
      ∀ info, ofResponse? response = some info ↔ Describes inner info) ∧
    (∀ response response' inner inner', Carries response inner → Carries response' inner' →
      (inner.map Tlv.Record.tag).Nodup → inner.Perm inner' →
      ofResponse? response = ofResponse? response') ∧
    (∀ response response' front extra back, Carries response (front ++ back) →
      Carries response' (front ++ extra ++ back) →
      (∀ r ∈ extra, r.tag ≠ 0x80 ∧ r.tag ≠ 0x81 ∧ r.tag ≠ 0x82) →
      ofResponse? response = ofResponse? response') ∧
    (∀ response info, ofResponse? response = some info → info.size < 2 ^ 32) ∧
    (∀ response, (∀ passed header f, Tlv.FirstAt 0x62 response passed header f →
      f.rest.length < f.length) → ofResponse? response = none) ∧
    ∀ (k : Connection) (path : Path) (m : Manager) (response : Octets),
      (k.handle (.select path) m).value = .ok response →
      (k.select path m).value =
        (ofResponse? response).elim (.error .malformedParameters) .ok := by
  refine ⟨fun response inner h => ⟨?_, fun info => ?_⟩, ?_, ?_, fun _ _ => size_lt,
    fun _ => ofResponse?_eq_none, fun _ _ _ _ => value_select⟩
  · rw [ofResponse?_of_carries h, Option.isSome_iff_exists]
    simp only [ofTemplate?_writeAll h.fits]
    constructor
    · rintro ⟨info, ⟨d, o, hd, -⟩, -⟩
      exact ⟨d, o, hd⟩
    · rintro ⟨d, o, hd⟩
      exact ⟨⟨_, _, _⟩, ⟨d, o, hd, codes d⟩, sizes_iff.mpr rfl⟩
  · rw [ofResponse?_of_carries h, ofTemplate?_writeAll h.fits]
  · intro response response' inner inner' h h' hnodup hperm
    exact ofResponse?_congr h h' fun tag _ => Tlv.first?_perm hperm hnodup tag
  · intro response response' front extra back h h' hextra
    refine ofResponse?_congr h h' fun tag htag => (Tlv.first?_insert (fun r hr => ?_) _ _).symm
    obtain ⟨h80, h81, h82⟩ := hextra r hr
    rcases htag with rfl | rfl | rfl <;> assumption

/-- A response of which the template, in either form of a length, holds these records behind one
that looks like a template. -/
def disguised (form : Tlv.Form) (inner : List Tlv.Record) : Octets :=
  Tlv.writeAll [⟨.short, 0x6F, [0x62, 0x00]⟩, ⟨form, 0x62, Tlv.writeAll inner⟩]

/-- An empty size is found before a total size, in either order. -/
theorem parameters_of_first_records_disguised :
    let total : Tlv.Record := ⟨.short, 0x81, [0x01, 0x00]⟩
    let size : Tlv.Record := ⟨.extended, 0x80, []⟩
    let descriptor : Tlv.Record := ⟨.short, 0x82, [0x39, 0x21]⟩
    let name : Tlv.Record := ⟨.short, 0x83, [0x82, 0x01]⟩
    let response := disguised .extended [name, total, descriptor]
    Carries response ([name] ++ [total, descriptor]) ∧ name.tag ≠ 0x82 ∧
      ofResponse? response = some ⟨.df, .unknown, 256⟩ ∧ 256 < 2 ^ 32 ∧
      ofResponse? (disguised .short [total, descriptor]) = ofResponse? response ∧
      ofResponse? (disguised .short [size, total, descriptor]) =
        ofResponse? (disguised .short [descriptor, total, size]) ∧
      ofResponse? [0x62, 0x03, 0x82, 0x01] = none := by
  intro total size descriptor name response
  have hcarries (form : Tlv.Form) (inner : List Tlv.Record)
      (h : ∀ r ∈ inner, r.Fits) (hf : (Tlv.writeAll inner).length < 0xFF) :
      Carries (disguised form inner) inner := by
    refine .mk ?_ h rfl
    rintro r (_ | ⟨_, _ | ⟨_, hr⟩⟩)
    · decide
    · cases form
      · exact hf
      · exact Nat.lt_trans hf (by decide)
    · cases hr
  obtain ⟨hfirst, hperm, hinsert, hsize, hmalformed, -⟩ := parameters_of_first_records
  have h := hcarries .extended [name, total, descriptor] (by decide) (by decide)
  have hinfo : ofResponse? response = some ⟨.df, .unknown, 256⟩ :=
    ((hfirst response _ h).2 _).mpr ⟨⟨0x39, [0x21], rfl, .df (by decide)⟩, .number (by decide)⟩
  refine ⟨h, by decide, hinfo, hsize response _ hinfo, ?_, ?_, ?_⟩
  · exact hinsert _ _ [] [name] [total, descriptor]
      (hcarries .short [total, descriptor] (by decide) (by decide)) h (by decide)
  · exact hperm _ _ _ _
      (hcarries .short [size, total, descriptor] (by decide) (by decide))
      (hcarries .short [descriptor, total, size] (by decide) (by decide)) (by decide) (by decide)
  · have hcut : Tlv.FirstAt 0x62 [0x62, 0x03, 0x82, 0x01] [] [0x62, 0x03] ⟨[0x82, 0x01], 3⟩ :=
      ⟨rfl, .nil, .short 0x03 (by decide)⟩
    refine hmalformed _ fun passed header f hf => ?_
    obtain ⟨-, -, rfl⟩ := hcut.unique hf
    decide

end Pcsc.ControlParameters

end SmartCard
