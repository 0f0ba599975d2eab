import SmartCard.ObjectId
import SmartCard.Proofs.HexRoundTrip

/-!
# Which names objects have

The name of an object is the fixed text and, behind it, a spelling of the identifier, which must not
be empty. These names and no other texts are accepted. Formatting writes the one of them that is in
upper case, so what is accepted is this name up to the case of its digits.
-/
namespace SmartCard.ObjectId

variable {s : String} {id : Octets}

/-! ## Names -/

theorem parse_append {digits : String} (h : digits ≠ "") :
    parse (lead ++ digits) = (Hex.decode digits).mapError fun _ => .invalidValue := by
  have hprefix : lead.toList.isPrefixOf (lead ++ digits).toList = true := by
    rw [String.toList_append, List.isPrefixOf_iff_prefix]
    exact List.prefix_append _ _
  have hdrop : (lead ++ digits).toList.drop lead.length = digits.toList := by
    rw [String.toList_append, ← String.length_toList, List.drop_left]
  rw [parse, if_pos hprefix, hdrop]
  split
  next hnil => exact absurd (String.toList_eq_nil_iff.mp hnil) h
  next => rw [String.ofList_toList]

/-- The bare text in front of identifiers names no object. -/
theorem parse_lead : parse lead = .error .invalidValue := rfl

theorem parse_of_not_append (h : ∀ digits, s ≠ lead ++ digits) :
    parse s = .error .invalidValue := by
  rw [parse]
  split
  next hprefix =>
    obtain ⟨digits, hdigits⟩ := List.isPrefixOf_iff_prefix.mp hprefix
    exact absurd (String.toList_inj.mp (by simp [hdigits])) (h (String.ofList digits))
  next => rfl

/-- A text is refused, or it is read as the octets that its digits spell. -/
theorem parse_cases (s : String) : parse s = .error .invalidValue ∨
    ∃ id digits, parse s = .ok id ∧ s = lead ++ digits ∧ digits ≠ "" ∧
      Hex.Spells digits.toList id := by
  by_cases hs : ∃ digits, s = lead ++ digits
  · obtain ⟨digits, rfl⟩ := hs
    by_cases hd : digits = ""
    · subst hd
      exact .inl rfl
    · rw [parse_append hd]
      cases he : Hex.decode digits with
      | error e => exact .inl rfl
      | ok id => exact .inr ⟨id, digits, rfl, rfl, hd, Hex.decode_eq_ok_iff.mp he⟩
  · exact .inl (parse_of_not_append (not_exists.mp hs))

theorem parse_eq_ok_iff : parse s = .ok id ↔
    ∃ digits, s = lead ++ digits ∧ digits ≠ "" ∧ Hex.Spells digits.toList id := by
  constructor
  · intro h
    rcases parse_cases s with herror | ⟨id', digits, hok, hs⟩
    · rw [h] at herror
      cases herror
    · rw [h] at hok
      cases hok
      exact ⟨digits, hs⟩
  · rintro ⟨digits, rfl, hd, h⟩
    rw [parse_append hd, Hex.decode_eq_ok_iff.mpr h]
    rfl

/-- All that is wrong with a name is that it is none. -/
theorem eq_of_parse_eq_error {f : Failure} (h : parse s = .error f) : f = .invalidValue := by
  rcases parse_cases s with herror | ⟨id, digits, hok, -⟩
  · rw [h] at herror
    exact Except.error.inj herror
  · rw [h] at hok
    cases hok

/-- Only an empty identifier has a name without digits. -/
theorem format_eq_lead_iff : format id = lead ↔ id = [] := by
  rw [format, String.append_eq_left_iff, Hex.upper_eq_empty_iff]

theorem parse_format (h : id ≠ []) : parse (format id) = .ok id :=
  parse_eq_ok_iff.mpr ⟨Hex.upper id, rfl, mt Hex.upper_eq_empty_iff.mp h, Hex.spells_upper id⟩

theorem parse_eq_error_iff :
    parse s = .error .invalidValue ↔ ¬ ∃ digits, s = lead ++ digits ∧ Hex.InGroups 2 digits := by
  constructor
  · rintro h ⟨digits, hs, hdigits⟩
    obtain ⟨hd, id, hspells⟩ := Hex.inGroups_two_iff.mp hdigits
    rw [parse_eq_ok_iff.mpr ⟨digits, hs, hd, hspells⟩] at h
    cases h
  · intro h
    rcases parse_cases s with herror | ⟨id, digits, -, hs, hd, hspells⟩
    · exact herror
    · exact absurd ⟨digits, hs, Hex.inGroups_two_iff.mpr ⟨hd, id, hspells⟩⟩ h

/-! ## Near misses -/

/-- Names are plain ASCII. -/
theorem toNat_lt_of_mem {digits : String} (h : Hex.InGroups 2 digits) :
    ∀ c ∈ (lead ++ digits).toList, c.toNat < 128 := by
  have hlead : lead.toList.all (·.toNat < 128) = true := by decide
  intro c hc
  rw [String.toList_append, List.mem_append] at hc
  rcases hc with hc | hc
  · exact of_decide_eq_true (List.all_eq_true.mp hlead c hc)
  · exact Nat.lt_of_lt_of_le (h.2.2 c hc).toNat_lt (by decide)

theorem parse_of_mem {c : Char} (hc : c ∈ s.toList) (h : 128 ≤ c.toNat) :
    parse s = .error .invalidValue := by
  rw [parse_eq_error_iff]
  rintro ⟨digits, rfl, hdigits⟩
  exact absurd (toNat_lt_of_mem hdigits c hc) (Nat.not_lt.mpr h)

theorem parse_append_of_odd {digits : String} (h : digits.length % 2 = 1) :
    parse (lead ++ digits) = .error .invalidValue := by
  rw [parse_eq_error_iff]
  rintro ⟨digits', he, -, heven, -⟩
  rw [String.append_right_inj] at he
  subst he
  omega

/-- What is as long as the fixed text stands in front of a name only if it is the fixed text. -/
theorem eq_lead_of_append_eq {front rest digits : String} (h : front ++ rest = lead ++ digits)
    (hlength : front.length = lead.length) : front = lead := by
  rw [← String.length_toList, ← String.length_toList] at hlength
  have hlist := congrArg String.toList h
  rw [String.toList_append, String.toList_append] at hlist
  exact String.toList_inj.mp (List.append_inj hlist hlength).1

theorem parse_append_of_case {front : String} (hne : front ≠ lead)
    (h : front.toUpper = lead.toUpper) (rest : String) :
    parse (front ++ rest) = .error .invalidValue := by
  have hlength := congrArg String.length h
  rw [String.toUpper, String.toUpper, String.length_map, String.length_map] at hlength
  rw [parse_eq_error_iff]
  rintro ⟨digits, he, -⟩
  exact hne (eq_lead_of_append_eq he hlength)

/-! ## The main result -/

/-- An identifier that is not empty has a name which is read back. What is read is the fixed text
and behind it pairs of digits of either case, at least one, that spell the identifier. Everything
else is refused for the same reason, also a text that is not ASCII, an odd number of digits or the
fixed text in another case. The name of what was read is the text with its digits in upper case, so
two texts name the same object just when they differ in the case of their digits. -/
theorem parse_exactly_names (s : String) :
    (∀ id, id ≠ [] → parse (format id) = .ok id) ∧
    (∀ id, parse s = .ok id ↔
      ∃ digits, s = lead ++ digits ∧ Hex.InGroups 2 digits ∧ Hex.Spells digits.toList id) ∧
    (parse s = .error .invalidValue ↔ ¬ ∃ digits, s = lead ++ digits ∧ Hex.InGroups 2 digits) ∧
    (∀ c ∈ s.toList, 128 ≤ c.toNat → parse s = .error .invalidValue) ∧
    (∀ digits, s = lead ++ digits → digits.length % 2 = 1 → parse s = .error .invalidValue) ∧
    (∀ front rest, s = front ++ rest → front ≠ lead → front.toUpper = lead.toUpper →
      parse s = .error .invalidValue) ∧
    (∀ id, parse s = .ok id →
      ∃ digits, s = lead ++ digits ∧ format id = lead ++ digits.toUpper) ∧
    ∀ s' id id', parse s = .ok id → parse s' = .ok id' →
      (id = id' ↔ ∃ digits digits', s = lead ++ digits ∧ s' = lead ++ digits' ∧
        digits.toUpper = digits'.toUpper) := by
  refine ⟨fun id => parse_format, fun id => ?_, parse_eq_error_iff, fun c => parse_of_mem, ?_, ?_,
    fun id h => ?_, fun s' id id' h h' => ?_⟩
  · rw [parse_eq_ok_iff]
    constructor
    · rintro ⟨digits, hs, hd, h⟩
      exact ⟨digits, hs, Hex.inGroups_two_iff.mpr ⟨hd, id, h⟩, h⟩
    · rintro ⟨digits, hs, hdigits, h⟩
      exact ⟨digits, hs, hdigits.1, h⟩
  · rintro digits rfl hodd
    exact parse_append_of_odd hodd
  · rintro front rest rfl hne hcase
    exact parse_append_of_case hne hcase rest
  · obtain ⟨digits, hs, -, hspells⟩ := parse_eq_ok_iff.mp h
    exact ⟨digits, hs, by rw [format, Hex.upper_eq_toUpper hspells]⟩
  · obtain ⟨digits, rfl, -, hspells⟩ := parse_eq_ok_iff.mp h
    obtain ⟨digits', rfl, -, hspells'⟩ := parse_eq_ok_iff.mp h'
    rw [Hex.eq_iff_toUpper_eq hspells hspells']
    constructor
    · intro hupper
      exact ⟨digits, digits', rfl, rfl, hupper⟩
    · rintro ⟨d, d', he, he', hupper⟩
      rw [String.append_right_inj] at he he'
      rwa [he, he']

/-- Two spellings of one identifier, and texts that just miss being such a name. -/
theorem parse_exactly_names_respelled :
    parse "P15-5015.45a1" = .ok [0x45, 0xA1] ∧ parse "P15-5015.45A1" = .ok [0x45, 0xA1] ∧
      format [0x45, 0xA1] = "P15-5015.45A1" ∧
      (∃ digits digits', "P15-5015.45a1" = lead ++ digits ∧ "P15-5015.45A1" = lead ++ digits' ∧
        digits.toUpper = digits'.toUpper) ∧
      parse "P15-5015.45a" = .error .invalidValue ∧
      parse "P15-5015.4é" = .error .invalidValue ∧
      parse "p15-5015.45A1" = .error .invalidValue := by
  have hname : format [0x45, 0xA1] = "P15-5015.45A1" := by decide
  have hspells : Hex.Spells "45a1".toList [0x45, 0xA1] :=
    .octet 0x45 .upper .upper (.octet 0xA1 .lower .upper .nil)
  obtain ⟨hformat, hok, -, -, -, -, -, hsame⟩ := parse_exactly_names "P15-5015.45a1"
  have hread := (hok [0x45, 0xA1]).mpr ⟨"45a1", rfl, by decide, hspells⟩
  have hread' := hname ▸ hformat [0x45, 0xA1] (by decide)
  refine ⟨hread, hread', hname, (hsame _ _ _ hread hread').mp rfl, ?_, ?_, ?_⟩
  · exact (parse_exactly_names "P15-5015.45a").2.2.2.2.1 "45a" rfl rfl
  · exact (parse_exactly_names "P15-5015.4é").2.2.2.1 'é' (by decide) (by decide)
  · exact (parse_exactly_names "p15-5015.45A1").2.2.2.2.2.1 "p15-5015." "45A1" rfl (by decide)
      (Hex.toUpper_eq_iff.mpr (by decide))

end SmartCard.ObjectId
