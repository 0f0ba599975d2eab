import Mathlib.Tactic.Common
import SmartCard.Proofs.HexRoundTrip
import SmartCard.Serial

/-!
# Serial numbers tell where they come from

A serial number is made up from the serial of an application, or it is the number of the card. The
marks in front of it leave no doubt: the origin and what came from there are read off the text
alone, also where the serial of the application looks like a mark or like a number.
-/
namespace SmartCard

/-! ## Digits -/

namespace Hex

/-- A digit as `upper` writes it. -/
def IsUpperDigit (c : Char) : Prop := ('0' ≤ c ∧ c ≤ '9') ∨ ('A' ≤ c ∧ c ≤ 'F')

instance (c : Char) : Decidable (IsUpperDigit c) := inferInstanceAs (Decidable (_ ∨ _))

theorem isUpperDigit_digit {n : Nat} (h : n < 16) : IsUpperDigit (digit .upper n) := by
  have hall : ∀ m < 16, IsUpperDigit (digit .upper m) := by decide
  exact hall n h

theorem isUpperDigit_upper (o : Octets) : ∀ c ∈ (upper o).toList, IsUpperDigit c := by
  intro c hc
  rw [upper, encode, String.toList_ofList, digits, List.mem_flatMap] at hc
  obtain ⟨b, -, hc⟩ := hc
  simp only [List.mem_cons, List.not_mem_nil, or_false] at hc
  rcases hc with rfl | rfl
  · exact isUpperDigit_digit (high_lt b)
  · exact isUpperDigit_digit (low_lt b)

end Hex

namespace Serial

/-! ## Marks -/

/-- What stands behind a mark at the front of a text. -/
def behind? (mark text : String) : Option String :=
  if mark.toList.isPrefixOf text.toList then
    some (String.ofList (text.toList.drop mark.toList.length))
  else none

theorem behind?_eq_some_iff {mark text rest : String} :
    behind? mark text = some rest ↔ text = mark ++ rest := by
  rw [behind?]
  constructor
  · intro h
    split at h
    next hp =>
      cases h
      obtain ⟨r, hr⟩ := List.isPrefixOf_iff_prefix.mp hp
      rw [← String.toList_inj, String.toList_append, String.toList_ofList, ← hr, List.drop_left]
    next => cases h
  · rintro rfl
    have hp : mark.toList.isPrefixOf (mark ++ rest).toList = true := by
      rw [String.toList_append, List.isPrefixOf_iff_prefix]
      exact List.prefix_append _ _
    rw [if_pos hp, String.toList_append, List.drop_left, String.ofList_toList]

theorem behind?_append (mark rest : String) : behind? mark (mark ++ rest) = some rest :=
  behind?_eq_some_iff.mpr rfl

theorem startsWithFF_iff {s : String} : startsWithFF s = true ↔ ∃ rest, s = "FF" ++ rest := by
  rw [startsWithFF]
  constructor
  · intro h
    split at h
    next cs he => exact ⟨String.ofList cs, String.toList_inj.mp (by simp [he])⟩
    next => cases h
  · rintro ⟨rest, rfl⟩
    simp

/-- Both marks start as the numbers do that are set apart. -/
theorem startsWithFF_of_mark {mark rest : String} (h : mark = syntheticMark ∨ mark = organicMark) :
    startsWithFF (mark ++ rest) = true := by
  rcases h with rfl | rfl <;> simp [startsWithFF, syntheticMark, organicMark]

/-- Neither mark is at the front of the other. -/
theorem organicMark_ne_syntheticMark (rest rest' : String) :
    organicMark ++ rest ≠ syntheticMark ++ rest' := by
  intro h
  have hlist := congrArg String.toList h
  simp [organicMark, syntheticMark] at hlist

/-! ## Origins -/

inductive Origin
  /-- The serial is made up from the one of the application. -/
  | application (serial : String)
  | card (number : String)
  deriving DecidableEq

/-- What a serial number is made of: the application's own serial, which may be empty, takes the
place of the placeholder. -/
def origin (number : String) : Option String → Origin
  | some a => if number = placeholder then .application a else .card number
  | none => .card number

/-- Reads the marks of a serial number. -/
def Origin.read (text : String) : Origin :=
  match behind? syntheticMark text with
  | some a => .application a
  | none => .card ((behind? organicMark text).getD text)

theorem origin_eq_application_iff {number a : String} {application : Option String} :
    origin number application = .application a ↔
      number = placeholder ∧ application = some a := by
  cases application with
  | none => simp [origin]
  | some a' =>
    by_cases hp : number = placeholder
    · simp [origin, hp]
    · simp [origin, hp]

/-- An application is bound, and its serial takes the place of a number that is the placeholder. -/
def IsSynthesised (number : String) (application : Option String) : Prop :=
  number = placeholder ∧ application.isSome = true

theorem isSynthesised_iff {number : String} {application : Option String} :
    IsSynthesised number application ↔ ∃ a, origin number application = .application a := by
  simp only [IsSynthesised, origin_eq_application_iff, Option.isSome_iff_exists]
  exact exists_and_left.symm

theorem not_isSynthesised_iff {number : String} {application : Option String} :
    ¬ IsSynthesised number application ↔ origin number application = .card number := by
  cases application with
  | none => simp [IsSynthesised, origin]
  | some a =>
    by_cases hp : number = placeholder
    · simp [IsSynthesised, origin, hp]
    · simp [IsSynthesised, origin, hp]

/-- A serial number has one of three forms. -/
theorem normalize_cases (number : String) (application : Option String) :
    (∃ a, origin number application = .application a ∧
      normalize number application = syntheticMark ++ a) ∨
    (origin number application = .card number ∧ startsWithFF number = true ∧
      normalize number application = organicMark ++ number) ∨
    (origin number application = .card number ∧ startsWithFF number = false ∧
      normalize number application = number) := by
  cases application with
  | none =>
    right
    cases hff : startsWithFF number with
    | true => exact .inl ⟨rfl, rfl, by simp [normalize, hff]⟩
    | false => exact .inr ⟨rfl, rfl, by simp [normalize, hff]⟩
  | some a =>
    by_cases hp : number = placeholder
    · exact .inl ⟨a, by simp [origin, hp], by simp [normalize, hp]⟩
    · right
      cases hff : startsWithFF number with
      | true => exact .inl ⟨by simp [origin, hp], rfl, by simp [normalize, hp, hff]⟩
      | false => exact .inr ⟨by simp [origin, hp], rfl, by simp [normalize, hp, hff]⟩

/-- The text alone tells the origin. -/
theorem read_normalize (number : String) (application : Option String) :
    Origin.read (normalize number application) = origin number application := by
  rcases normalize_cases number application with ⟨a, ho, ht⟩ | ⟨ho, -, ht⟩ | ⟨ho, hff, ht⟩
  · rw [ho, ht, Origin.read, behind?_append]
  · have hnone : behind? syntheticMark (organicMark ++ number) = none := by
      rw [Option.eq_none_iff_forall_ne_some]
      intro rest h
      exact organicMark_ne_syntheticMark _ _ (behind?_eq_some_iff.mp h)
    rw [ho, ht, Origin.read, hnone, behind?_append]
    rfl
  · have hnone {mark : String} (hm : mark = syntheticMark ∨ mark = organicMark) :
        behind? mark number = none := by
      rw [Option.eq_none_iff_forall_ne_some]
      intro rest h
      rw [behind?_eq_some_iff.mp h, startsWithFF_of_mark hm] at hff
      cases hff
    rw [ho, ht, Origin.read, hnone (.inl rfl), hnone (.inr rfl)]
    rfl

/-- The mark of made-up serials stands in front of those only, with the application's serial. -/
theorem normalize_eq_synthetic_iff {number rest : String} {application : Option String} :
    normalize number application = syntheticMark ++ rest ↔
      origin number application = .application rest := by
  constructor
  · intro h
    rw [← read_normalize, h, Origin.read, behind?_append]
  · intro h
    rcases normalize_cases number application with ⟨a, ho, ht⟩ | ⟨ho, -, -⟩ | ⟨ho, -, -⟩
    · rw [ho] at h
      cases h
      exact ht
    · rw [ho] at h
      cases h
    · rw [ho] at h
      cases h

/-- The other mark stands in front of numbers of the card that start with `FF`, and of no others. -/
theorem normalize_eq_organic_iff {number rest : String} {application : Option String} :
    normalize number application = organicMark ++ rest ↔
      origin number application = .card number ∧ startsWithFF number = true ∧ rest = number := by
  constructor
  · intro h
    rcases normalize_cases number application with ⟨a, -, ht⟩ | ⟨ho, hff, ht⟩ | ⟨-, hff, ht⟩
    · rw [ht] at h
      exact absurd h.symm (organicMark_ne_syntheticMark _ _)
    · rw [ht] at h
      exact ⟨ho, hff, ((String.append_right_inj _).mp h).symm⟩
    · rw [← ht, h, startsWithFF_of_mark (.inr rfl)] at hff
      cases hff
  · rintro ⟨ho, hff, rfl⟩
    rcases normalize_cases rest application with ⟨a, ho', -⟩ | ⟨-, -, ht⟩ | ⟨-, hff', -⟩
    · rw [ho] at ho'
      cases ho'
    · exact ht
    · rw [hff] at hff'
      cases hff'

/-! ## The documented form -/

/-- A mark or none, and then digits. -/
def Documented (text : String) : Prop :=
  ∃ mark ∈ ["", organicMark, syntheticMark], ∃ digits : String,
    text = mark ++ digits ∧ ∀ c ∈ digits.toList, Hex.IsUpperDigit c

/-- The marks are digits themselves. -/
theorem documented_iff {text : String} :
    Documented text ↔ ∀ c ∈ text.toList, Hex.IsUpperDigit c := by
  constructor
  · rintro ⟨mark, hm, digits, rfl, hd⟩ c hc
    have hmark : ∀ m ∈ ["", organicMark, syntheticMark],
        m.toList.all (Hex.IsUpperDigit ·) = true := by decide
    rw [String.toList_append] at hc
    rcases List.mem_append.mp hc with hc | hc
    · exact of_decide_eq_true (List.all_eq_true.mp (hmark mark hm) c hc)
    · exact hd c hc
  · intro h
    exact ⟨"", List.mem_cons_self, text, by simp, h⟩

theorem documented_append {mark rest : String} (h : mark = syntheticMark ∨ mark = organicMark) :
    Documented (mark ++ rest) ↔ ∀ c ∈ rest.toList, Hex.IsUpperDigit c := by
  constructor
  · intro hd c hc
    rw [documented_iff] at hd
    refine hd c ?_
    rw [String.toList_append]
    exact List.mem_append_right _ hc
  · intro hr
    rcases h with rfl | rfl
    · exact ⟨syntheticMark, by simp, rest, rfl, hr⟩
    · exact ⟨organicMark, by simp, rest, rfl, hr⟩

theorem documented_normalize_iff (i : Iccsn) (application : Option String) :
    Documented (normalize i.text application) ↔
      ¬ IsSynthesised i.text application ∨
        ∃ a, application = some a ∧ ∀ c ∈ a.toList, Hex.IsUpperDigit c := by
  have hdigits : ∀ c ∈ i.text.toList, Hex.IsUpperDigit c := Hex.isUpperDigit_upper i.octets
  rcases normalize_cases i.text application with ⟨a, ho, ht⟩ | ⟨ho, -, ht⟩ | ⟨ho, -, ht⟩
  · have hs : IsSynthesised i.text application := isSynthesised_iff.mpr ⟨a, ho⟩
    obtain ⟨-, happlication⟩ := origin_eq_application_iff.mp ho
    rw [ht, documented_append (.inl rfl)]
    constructor
    · exact fun hd => .inr ⟨a, happlication, hd⟩
    · rintro (hn | ⟨a', ha', hd⟩)
      · exact absurd hs hn
      · rw [happlication] at ha'
        cases ha'
        exact hd
  · rw [ht, documented_append (.inr rfl)]
    exact iff_of_true hdigits (.inl (not_isSynthesised_iff.mpr ho))
  · rw [ht, documented_iff]
    exact iff_of_true hdigits (.inl (not_isSynthesised_iff.mpr ho))

/-! ## Identities -/

/-- Equal serial numbers have one origin. -/
theorem origin_eq_of_normalize_eq {number number' : String}
    {application application' : Option String}
    (h : normalize number application = normalize number' application') :
    origin number application = origin number' application' := by
  rw [← read_normalize, h, read_normalize]

/-- Numbers of cards are told apart by their octets, whatever applications are bound. -/
theorem normalize_eq_iff_octets {i i' : Iccsn} {application application' : Option String}
    (h : ¬ IsSynthesised i.text application) (h' : ¬ IsSynthesised i'.text application') :
    normalize i.text application = normalize i'.text application' ↔ i.octets = i'.octets := by
  rw [not_isSynthesised_iff] at h h'
  constructor
  · intro he
    have ho := origin_eq_of_normalize_eq he
    rw [h, h'] at ho
    exact Hex.upper_inj.mp (Origin.card.inj ho)
  · intro he
    have ht : i.text = i'.text := Hex.upper_inj.mpr he
    rcases normalize_cases i.text application with ⟨a, ho, -⟩ | ⟨-, hff, hn⟩ | ⟨-, hff, hn⟩
    · rw [h] at ho
      cases ho
    · rw [hn, ht, normalize_eq_organic_iff.mpr ⟨h', ht ▸ hff, rfl⟩]
    · rcases normalize_cases i'.text application' with ⟨a, ho, -⟩ | ⟨-, hff', -⟩ | ⟨-, -, hn'⟩
      · rw [h'] at ho
        cases ho
      · rw [ht, hff'] at hff
        cases hff
      · rw [hn, hn', ht]

/-- The serial number of a card tells its origin and what came from there. It starts with the mark
of made-up serials just when an application is bound and the card has the placeholder, and then
ends with the serial of the application. It starts with the other mark just when it is not made up
and the number of the card starts with `FF`, and then ends with that number. Otherwise it is the
number. So a made-up serial is no number of a card, numbers of cards are equal just when their
octets are, and only the serial of an application leads out of the documented form. -/
theorem normalize_tells_origin (i : Iccsn) (application : Option String) :
    Origin.read (normalize i.text application) = origin i.text application ∧
    (∀ rest, normalize i.text application = syntheticMark ++ rest ↔
      i.text = placeholder ∧ application = some rest) ∧
    (∀ rest, normalize i.text application = organicMark ++ rest ↔
      ¬ IsSynthesised i.text application ∧ (∃ s, i.text = "FF" ++ s) ∧ rest = i.text) ∧
    (¬ IsSynthesised i.text application → (¬ ∃ s, i.text = "FF" ++ s) →
      normalize i.text application = i.text) ∧
    (∀ (i' : Iccsn) (application' : Option String),
      IsSynthesised i.text application → ¬ IsSynthesised i'.text application' →
        normalize i.text application ≠ normalize i'.text application') ∧
    (∀ (i' : Iccsn) (application' : Option String),
      ¬ IsSynthesised i.text application → ¬ IsSynthesised i'.text application' →
        (normalize i.text application = normalize i'.text application' ↔
          i.octets = i'.octets)) ∧
    (Documented (normalize i.text application) ↔
      ¬ IsSynthesised i.text application ∨
        ∃ a, application = some a ∧ ∀ c ∈ a.toList, Hex.IsUpperDigit c) := by
  refine ⟨read_normalize _ _, fun rest => ?_, fun rest => ?_, fun hs hff => ?_,
    fun i' application' hs hs' he => ?_, fun i' application' => normalize_eq_iff_octets,
    documented_normalize_iff i application⟩
  · rw [normalize_eq_synthetic_iff, origin_eq_application_iff]
  · rw [normalize_eq_organic_iff, not_isSynthesised_iff, startsWithFF_iff]
  · rw [not_isSynthesised_iff] at hs
    rw [← startsWithFF_iff] at hff
    rcases normalize_cases i.text application with ⟨a, ho, -⟩ | ⟨-, hff', -⟩ | ⟨-, -, hn⟩
    · rw [hs] at ho
      cases ho
    · exact absurd hff' hff
    · exact hn
  · obtain ⟨a, ho⟩ := isSynthesised_iff.mp hs
    have hcard := origin_eq_of_normalize_eq he
    rw [ho, not_isSynthesised_iff.mp hs'] at hcard
    cases hcard

/-- A serial that is made up from one which looks like a marked number is still told from the card
with that number. -/
theorem normalize_tells_origin_lookalike :
    let i : Iccsn := ⟨[0xD2, 0x76, 0, 0, 0, 0, 0, 0, 0, 0, 0, 0], true⟩
    let i' : Iccsn := ⟨[0xFF, 0x01, 0x00, 0xAB], false⟩
    IsSynthesised i.text (some "AB") ∧ ¬ IsSynthesised i'.text (some "AB") ∧
      normalize i.text (some "AB") = "FF0100AB" ∧ i'.text = "FF0100AB" ∧
      normalize i.text (some "AB") ≠ normalize i'.text (some "AB") := by
  intro i i'
  have hs : IsSynthesised i.text (some "AB") := ⟨by decide, rfl⟩
  have hs' : ¬ IsSynthesised i'.text (some "AB") := fun h => absurd h.1 (by decide)
  have hn : normalize i.text (some "AB") = "FF0100AB" := by decide
  have ht : i'.text = "FF0100AB" := by decide
  exact ⟨hs, hs', hn, ht, (normalize_tells_origin i (some "AB")).2.2.2.2.1 i' (some "AB") hs hs'⟩

end Serial

end SmartCard
