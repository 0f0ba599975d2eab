import Mathlib.Data.List.TakeDrop
import SmartCard.Proofs.SerialOrigin
import SmartCard.Proofs.TlvFirstRecord

/-!
# The number in the GDO file

The number of a card is the value of the first record with its tag, which has to be complete and
must not be empty. One record is taken all the same that is not complete: it declares 13 octets, and
12 are all that follow. Nothing else makes a number, and no octet is taken from behind the record's
end or from another record.
-/
namespace SmartCard

theorem Hex.length_upper (o : Octets) : (upper o).length = 2 * o.length := by
  rw [← String.length_toList]
  exact (spells_upper o).length_eq

namespace Serial

/-! ## Records with a number -/

section
variable {f : Tlv.Found}

/-- The record has a value, and all of it is there. -/
def IsComplete (f : Tlv.Found) : Prop := 1 ≤ f.length ∧ f.length ≤ f.rest.length

/-- The record declares 13 octets and only 12 follow. -/
def IsOverdeclared (f : Tlv.Found) : Prop := f.length = 13 ∧ f.rest.length = 12

theorem ofFound_of_isComplete (h : IsComplete f) :
    ofFound f = .ok ⟨f.rest.take f.length, false⟩ := by
  obtain ⟨hpos, hle⟩ := h
  rw [ofFound, if_neg (Nat.not_lt.mpr hle), if_neg (Nat.ne_of_gt hpos)]

theorem ofFound_of_isOverdeclared (h : IsOverdeclared f) : ofFound f = .ok ⟨f.rest, true⟩ := by
  obtain ⟨hlength, hrest⟩ := h
  rw [ofFound, if_pos (by omega), if_pos ⟨hlength, by omega⟩]

theorem ofFound_of_neither (h : ¬IsComplete f) (h' : ¬IsOverdeclared f) :
    ofFound f = .error .cardError := by
  rw [IsComplete] at h
  rw [IsOverdeclared] at h'
  rw [ofFound, overdeclared]
  split_ifs
  · omega
  · rfl
  · rfl
  · omega

theorem not_isOverdeclared (h : IsComplete f) : ¬IsOverdeclared f := by
  rintro ⟨hlength, hrest⟩
  have := h.2
  omega

theorem ofFound_eq_whole_iff :
    ofFound f = .ok ⟨f.rest.take f.length, false⟩ ↔ IsComplete f := by
  refine ⟨fun h => ?_, ofFound_of_isComplete⟩
  by_contra hcomplete
  by_cases hover : IsOverdeclared f
  · rw [ofFound_of_isOverdeclared hover] at h
    cases congrArg Iccsn.shortened (Except.ok.inj h)
  · rw [ofFound_of_neither hcomplete hover] at h
    cases h

theorem ofFound_eq_shortened_iff : ofFound f = .ok ⟨f.rest, true⟩ ↔ IsOverdeclared f := by
  refine ⟨fun h => ?_, ofFound_of_isOverdeclared⟩
  by_contra hover
  by_cases hcomplete : IsComplete f
  · rw [ofFound_of_isComplete hcomplete] at h
    cases congrArg Iccsn.shortened (Except.ok.inj h)
  · rw [ofFound_of_neither hcomplete hover] at h
    cases h

theorem text_ofFound_eq_ok_iff {o : Octets} :
    (ofFound f).map Iccsn.text = .ok (Hex.upper o) ↔
      IsComplete f ∧ o = f.rest.take f.length ∨ IsOverdeclared f ∧ o = f.rest := by
  by_cases hcomplete : IsComplete f
  · have hover := not_isOverdeclared hcomplete
    simp only [ofFound_of_isComplete hcomplete, Except.map, Iccsn.text, Except.ok.injEq, hcomplete,
      hover, true_and, false_and, or_false]
    exact Hex.upper_inj.trans eq_comm
  · by_cases hover : IsOverdeclared f
    · simp only [ofFound_of_isOverdeclared hover, Except.map, Iccsn.text, Except.ok.injEq,
        hcomplete, hover, true_and, false_and, false_or]
      exact Hex.upper_inj.trans eq_comm
    · simp [ofFound_of_neither hcomplete hover, Except.map, hcomplete, hover]

/-- As many octets as are declared are the number exactly if there are as many. -/
theorem exists_text_ofFound_iff :
    (∃ o, o <+: f.rest ∧ o.length = f.length ∧
      (ofFound f).map Iccsn.text = .ok (Hex.upper o)) ↔ IsComplete f := by
  simp only [text_ofFound_eq_ok_iff]
  constructor
  · rintro ⟨o, -, hlength, ⟨hcomplete, -⟩ | ⟨⟨hdeclared, hrest⟩, rfl⟩⟩
    · exact hcomplete
    · omega
  · intro h
    exact ⟨_, List.take_prefix _ _, List.length_take_of_le h.2, .inl ⟨h, rfl⟩⟩

/-- All octets behind the header are the number of an overdeclared record, and of a complete one at
the end of the file. -/
theorem text_ofFound_eq_rest_iff :
    (ofFound f).map Iccsn.text = .ok (Hex.upper f.rest) ↔
      IsOverdeclared f ∨ IsComplete f ∧ f.length = f.rest.length := by
  rw [text_ofFound_eq_ok_iff, eq_comm, List.take_eq_self_iff]
  constructor
  · rintro (⟨hcomplete, hle⟩ | ⟨hover, -⟩)
    · exact .inr ⟨hcomplete, Nat.le_antisymm hcomplete.2 hle⟩
    · exact .inl hover
  · rintro (hover | ⟨hcomplete, heq⟩)
    · exact .inr ⟨hover, rfl⟩
    · exact .inl ⟨hcomplete, Nat.le_of_eq heq.symm⟩

/-- What is taken for a number is some octets from the front of what follows the header. -/
theorem exists_take_of_ofFound {i : Iccsn} (h : ofFound f = .ok i) :
    ∃ n, 1 ≤ n ∧ n ≤ f.rest.length ∧ i.octets = f.rest.take n := by
  by_cases hcomplete : IsComplete f
  · rw [ofFound_of_isComplete hcomplete] at h
    cases h
    exact ⟨f.length, hcomplete.1, hcomplete.2, rfl⟩
  · by_cases hover : IsOverdeclared f
    · rw [ofFound_of_isOverdeclared hover] at h
      cases h
      have hrest := hover.2
      exact ⟨f.rest.length, by omega, Nat.le_refl _, (List.take_length).symm⟩
    · rw [ofFound_of_neither hcomplete hover] at h
      cases h

end

/-! ## Numbers of GDO files -/

section
variable {gdo passed header : Octets} {f : Tlv.Found}

theorem findIccsn_of_firstAt (h : Tlv.FirstAt iccsnTag gdo passed header f) :
    findIccsn gdo = ofFound f := by
  rw [findIccsn, h.found]

theorem findIccsn_of_find?_eq_none (h : Tlv.find? gdo iccsnTag = none) :
    findIccsn gdo = .error .cardError := by
  rw [findIccsn, h]

theorem exists_firstAt_of_findIccsn {i : Iccsn} (h : findIccsn gdo = .ok i) :
    ∃ passed header f, Tlv.FirstAt iccsnTag gdo passed header f ∧ ofFound f = .ok i := by
  rw [findIccsn] at h
  cases hf : Tlv.find? gdo iccsnTag with
  | none =>
    rw [hf] at h
    cases h
  | some f =>
    rw [hf] at h
    obtain ⟨passed, header, hp⟩ := Tlv.exists_firstAt hf
    exact ⟨passed, header, f, hp, h⟩

/-- The number as the format of records has it, without exception. -/
def strict (gdo : Octets) : Except Failure Octets :=
  match (Tlv.find? gdo iccsnTag).bind Tlv.Found.value? with
  | some (b :: o) => .ok (b :: o)
  | _ => .error .cardError

theorem strict_of_isComplete (h : Tlv.FirstAt iccsnTag gdo passed header f) (hf : IsComplete f) :
    strict gdo = .ok (f.rest.take f.length) := by
  have hvalue : f.value? = some (f.rest.take f.length) := by
    rw [Tlv.Found.value?, Option.map_eq_some_iff]
    exact ⟨(f.rest.take f.length, f.rest.drop f.length), Octets.split?_eq_some_iff.mpr
      ⟨(List.take_append_drop _ _).symm, List.length_take_of_le hf.2⟩, rfl⟩
  rw [strict, h.found, Option.bind_some, hvalue]
  cases htake : f.rest.take f.length with
  | nil =>
    have := congrArg List.length htake
    rw [List.length_take_of_le hf.2] at this
    exact absurd this (Nat.ne_of_gt hf.1)
  | cons b o => rfl

theorem strict_of_not_isComplete (h : Tlv.FirstAt iccsnTag gdo passed header f)
    (hf : ¬IsComplete f) : strict gdo = .error .cardError := by
  rw [strict, h.found, Option.bind_some]
  cases hvalue : f.value? with
  | none => rfl
  | some o =>
    obtain ⟨⟨o, rest⟩, hs, rfl⟩ := Option.map_eq_some_iff.mp hvalue
    obtain ⟨hrest, hlength⟩ := Octets.split?_eq_some_iff.mp hs
    cases o with
    | nil => rfl
    | cons b o =>
      refine absurd ⟨?_, ?_⟩ hf
      · rw [← hlength]
        exact Nat.succ_pos _
      · rw [← hlength, hrest, List.length_append]
        exact Nat.le_add_right _ _

/-- The number is the one of the strict format, except where the record overdeclares it. -/
theorem findIccsn_ne_strict_iff :
    (findIccsn gdo).map Iccsn.octets ≠ strict gdo ↔
      ∃ passed header f, Tlv.FirstAt iccsnTag gdo passed header f ∧ IsOverdeclared f := by
  cases hf : Tlv.find? gdo iccsnTag with
  | none =>
    refine ⟨fun h => absurd ?_ h, ?_⟩
    · rw [findIccsn_of_find?_eq_none hf, strict, hf]
      rfl
    · rintro ⟨passed, header, f, hp, -⟩
      rw [hp.found] at hf
      cases hf
  | some f =>
    obtain ⟨passed, header, hp⟩ := Tlv.exists_firstAt hf
    rw [findIccsn_of_firstAt hp]
    by_cases hcomplete : IsComplete f
    · rw [ofFound_of_isComplete hcomplete, strict_of_isComplete hp hcomplete]
      refine ⟨fun h => absurd rfl h, ?_⟩
      rintro ⟨passed', header', f', hp', hover⟩
      obtain ⟨-, -, rfl⟩ := hp.unique hp'
      exact absurd hover (not_isOverdeclared hcomplete)
    · rw [strict_of_not_isComplete hp hcomplete]
      by_cases hover : IsOverdeclared f
      · rw [ofFound_of_isOverdeclared hover]
        exact ⟨fun _ => ⟨passed, header, f, hp, hover⟩, fun _ => nofun⟩
      · rw [ofFound_of_neither hcomplete hover]
        refine ⟨fun h => absurd rfl h, ?_⟩
        rintro ⟨passed', header', f', hp', hover'⟩
        obtain ⟨-, -, rfl⟩ := hp.unique hp'
        exact absurd hover' hover

end

/-- Of the first record with the tag, wherever it stands and in whichever form its length is
written, the declared length and the octets behind the header decide: as many octets as are declared
are the number if they are there and not none, and all octets behind the header are the number if
there are 12 of 13, apart from a complete record at the end of the file. There is no other number,
and in particular none without such a record, none if the file ends before the header of that
record does, and none in a later record. The text of a number is in digits of upper case, which read
back as octets from the front of those behind the header. -/
theorem findIccsn_strict_but_overdeclared (gdo : Octets) :
    (∀ passed header f, Tlv.FirstAt iccsnTag gdo passed header f →
      (findIccsn gdo = .ok ⟨f.rest.take f.length, false⟩ ↔
        1 ≤ f.length ∧ f.length ≤ f.rest.length) ∧
      (findIccsn gdo = .ok ⟨f.rest, true⟩ ↔ f.length = 13 ∧ f.rest.length = 12) ∧
      ((∃ o, o <+: f.rest ∧ o.length = f.length ∧
          (findIccsn gdo).map Iccsn.text = .ok (Hex.upper o)) ↔
        1 ≤ f.length ∧ f.length ≤ f.rest.length) ∧
      ((findIccsn gdo).map Iccsn.text = .ok (Hex.upper f.rest) ↔
        (f.length = 13 ∧ f.rest.length = 12) ∨
          (1 ≤ f.length ∧ f.length ≤ f.rest.length) ∧ f.length = f.rest.length) ∧
      (¬(1 ≤ f.length ∧ f.length ≤ f.rest.length) → ¬(f.length = 13 ∧ f.rest.length = 12) →
        findIccsn gdo = .error .cardError) ∧
      ∀ n < (passed ++ header).length, findIccsn (gdo.take n) = .error .cardError) ∧
    ((∀ passed header f, ¬Tlv.FirstAt iccsnTag gdo passed header f) →
      findIccsn gdo = .error .cardError) ∧
    ((findIccsn gdo).map Iccsn.octets ≠ strict gdo ↔
      ∃ passed header f, Tlv.FirstAt iccsnTag gdo passed header f ∧
        f.length = 13 ∧ f.rest.length = 12) ∧
    ∀ text, (findIccsn gdo).map Iccsn.text = .ok text →
      ∃ passed header f n, Tlv.FirstAt iccsnTag gdo passed header f ∧
        n ≤ f.rest.length ∧ Hex.decode text = .ok (f.rest.take n) ∧ text.length = 2 * n ∧
        text ≠ "" ∧ ∀ c ∈ text.toList, Hex.IsUpperDigit c := by
  refine ⟨fun passed header f hp => ?_, fun h => ?_, findIccsn_ne_strict_iff, ?_⟩
  · rw [findIccsn_of_firstAt hp]
    exact ⟨ofFound_eq_whole_iff, ofFound_eq_shortened_iff, exists_text_ofFound_iff,
      text_ofFound_eq_rest_iff, ofFound_of_neither,
      fun n hn => findIccsn_of_find?_eq_none (hp.cut hn)⟩
  · apply findIccsn_of_find?_eq_none
    rw [Option.eq_none_iff_forall_ne_some]
    intro f hf
    obtain ⟨passed, header, hp⟩ := Tlv.exists_firstAt hf
    exact h passed header f hp
  · intro text htext
    cases hi : findIccsn gdo with
    | error e =>
      rw [hi] at htext
      cases htext
    | ok i =>
      rw [hi] at htext
      cases htext
      obtain ⟨passed, header, f, hp, hf⟩ := exists_firstAt_of_findIccsn hi
      obtain ⟨n, hpos, hn, htake⟩ := exists_take_of_ofFound hf
      have hlength : i.text.length = 2 * n := by
        rw [Iccsn.text, Hex.length_upper, htake, List.length_take_of_le hn]
      refine ⟨passed, header, f, n, hp, hn, ?_, hlength, fun hempty => ?_,
        Hex.isUpperDigit_upper i.octets⟩
      · rw [Iccsn.text, Hex.decode_encode, htake]
      · rw [hempty, String.length_empty] at hlength
        omega

/-- The overdeclared number of a test card, in the extended form behind a record that looks like the
wanted one, and one octet less of it with a complete record behind. -/
theorem findIccsn_strict_but_overdeclared_test_card :
    let passed : Octets := [0x4F, 0x02, 0x5A, 0x01]
    let number : Octets := List.replicate 12 0x11
    let short : Octets := List.replicate 8 0x11 ++ [0x5A, 0x01, 0x22]
    Tlv.FirstAt iccsnTag (passed ++ [0x5A, 0xFF, 0x00, 0x0D] ++ number) passed
        [0x5A, 0xFF, 0x00, 0x0D] ⟨number, 13⟩ ∧
      (findIccsn (passed ++ [0x5A, 0xFF, 0x00, 0x0D] ++ number)).map Iccsn.text =
        .ok "111111111111111111111111" ∧
      Tlv.FirstAt iccsnTag ([] ++ [0x5A, 0x0D] ++ short) [] [0x5A, 0x0D] ⟨short, 13⟩ ∧
      findIccsn ([] ++ [0x5A, 0x0D] ++ short) = .error .cardError := by
  intro passed number short
  have hheader : Tlv.IsHeader 0x4F [0x4F, 0x02] 2 := .short 0x02 (by decide)
  have hpassed : Tlv.Others iccsnTag ([0x4F, 0x02] ++ [0x5A, 0x01] ++ []) :=
    .cons (by decide) hheader .nil
  have h : Tlv.FirstAt iccsnTag (passed ++ [0x5A, 0xFF, 0x00, 0x0D] ++ number) passed
      [0x5A, 0xFF, 0x00, 0x0D] ⟨number, 13⟩ := ⟨rfl, hpassed, .extended 0x00 0x0D⟩
  have h' : Tlv.FirstAt iccsnTag ([] ++ [0x5A, 0x0D] ++ short) [] [0x5A, 0x0D] ⟨short, 13⟩ :=
    ⟨rfl, .nil, .short 0x0D (by decide)⟩
  obtain ⟨hfirst, -⟩ := findIccsn_strict_but_overdeclared _
  obtain ⟨-, -, -, htext, -⟩ := hfirst _ _ _ h
  obtain ⟨hfirst', -⟩ := findIccsn_strict_but_overdeclared _
  obtain ⟨-, -, -, -, hneither, -⟩ := hfirst' _ _ _ h'
  exact ⟨h, htext.mpr (.inl ⟨rfl, rfl⟩), h', hneither (by decide) (by decide)⟩

end Serial

end SmartCard
