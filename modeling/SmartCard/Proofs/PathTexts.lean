import SmartCard.Path
import SmartCard.Proofs.HexRoundTrip

/-!
# Which texts are paths

A path is written with four digits for each of its identifiers, and it has at least one. Reading
takes digits of either case and accepts nothing else. There are two ways to miss: the text spells no
octets, or it spells octets that do not make up identifiers.
-/
namespace SmartCard.Path

variable {s : String} {o : Octets} {ids : List FileId} {p : Path}

/-! ## Identifiers -/

/-- Octets cut into pieces of two; an octet that is left over is a piece of its own. -/
def pieces : Octets → List Octets
  | [] => []
  | [a] => [[a]]
  | a :: b :: r => [a, b] :: pieces r

/-- The identifier in the first two places of a piece, if the piece has both. -/
def ofPiece? (piece : Octets) : Option FileId := do
  return ⟨← piece[0]?, ← piece[1]?⟩

theorem identifiers?_eq_mapM (o : Octets) : identifiers? o = (pieces o).mapM ofPiece? := by
  induction o using List.twoStepInduction with
  | nil => rfl
  | singleton a => rfl
  | cons_cons a b r ih _ =>
    rw [identifiers?, ih, pieces, List.mapM_cons]
    cases (pieces r).mapM ofPiece? <;> rfl

theorem identifiers?_octets (ids : List FileId) :
    identifiers? (ids.flatMap FileId.octets) = some ids := by
  induction ids with
  | nil => rfl
  | cons i ids ih =>
    show (identifiers? (ids.flatMap FileId.octets)).map (⟨i.high, i.low⟩ :: ·) = some (i :: ids)
    rw [ih]
    rfl

theorem exists_identifiers (h : o.length % 2 = 0) :
    ∃ ids : List FileId, o = ids.flatMap FileId.octets := by
  induction o using List.twoStepInduction with
  | nil => exact ⟨[], rfl⟩
  | singleton a => cases h
  | cons_cons a b r ih _ =>
    obtain ⟨ids, rfl⟩ := ih (by simp only [List.length_cons] at h; omega)
    exact ⟨⟨a, b⟩ :: ids, rfl⟩

theorem identifiers?_eq_none (h : o.length % 2 = 1) : identifiers? o = none := by
  induction o using List.twoStepInduction with
  | nil => cases h
  | singleton a => rfl
  | cons_cons a b r ih _ =>
    rw [identifiers?, ih (by simp only [List.length_cons] at h; omega)]
    rfl

theorem pieces_octets (ids : List FileId) :
    pieces (ids.flatMap FileId.octets) = ids.map FileId.octets := by
  induction ids with
  | nil => rfl
  | cons i ids ih => exact congrArg (i.octets :: ·) ih

theorem length_of_mem_pieces (h : o.length % 2 = 0) : ∀ piece ∈ pieces o, piece.length = 2 := by
  obtain ⟨ids, rfl⟩ := exists_identifiers h
  rw [pieces_octets]
  intro piece hpiece
  obtain ⟨i, -, rfl⟩ := List.mem_map.mp hpiece
  rfl

theorem length_octets (p : Path) : p.octets.length = 2 * p.ids.length := by
  have hsum : (p.ids.map fun i => i.octets.length) = p.ids.map fun _ => 2 := rfl
  rw [octets, List.length_flatMap, hsum, List.map_const', List.sum_replicate_nat, Nat.mul_comm]

theorem octets_inj {p p' : Path} : p.octets = p'.octets ↔ p = p' := by
  constructor
  · intro h
    have hids : identifiers? p.octets = identifiers? p'.octets := congrArg identifiers? h
    rw [octets, octets, identifiers?_octets, identifiers?_octets] at hids
    cases p
    cases hids
    rfl
  · rintro rfl
    rfl

/-! ## Reading -/

theorem read_of_spells_octets (h : Hex.Spells s.toList p.octets) (hne : p.ids ≠ []) :
    read s = .ok p := by
  obtain ⟨ids⟩ := p
  cases ids with
  | nil => exact absurd rfl hne
  | cons i ids =>
    rw [octets] at h
    simp only [read, Hex.decode_eq_ok_iff.mpr h, identifiers?_octets]

theorem read_of_spells (h : Hex.Spells s.toList o) (ho : o = [] ∨ o.length % 2 = 1) :
    read s = .error .notIdentifiers := by
  rcases ho with rfl | hodd
  · simp only [read, Hex.decode_eq_ok_iff.mpr h, identifiers?]
  · simp only [read, Hex.decode_eq_ok_iff.mpr h, identifiers?_eq_none hodd]

/-- A text is read as the path whose octets it spells, or the octets that it spells make up no
path, or it spells none. -/
theorem read_cases (s : String) :
    (∃ p, read s = .ok p ∧ p.ids ≠ [] ∧ Hex.Spells s.toList p.octets) ∨
    (∃ o, read s = .error .notIdentifiers ∧ Hex.Spells s.toList o) ∨
    ∃ e, read s = .error (.notHex e) ∧ ¬ ∃ o, Hex.Spells s.toList o := by
  cases hdecode : Hex.decode s with
  | error e =>
    refine .inr (.inr ⟨e, by rw [read, hdecode], ?_⟩)
    rintro ⟨o, h⟩
    rw [Hex.decode_eq_ok_iff.mpr h] at hdecode
    cases hdecode
  | ok o =>
    have h := Hex.decode_eq_ok_iff.mp hdecode
    rcases Nat.mod_two_eq_zero_or_one o.length with heven | hodd
    · obtain ⟨ids, rfl⟩ := exists_identifiers heven
      by_cases hne : ids = []
      · subst hne
        exact .inr (.inl ⟨[], read_of_spells h (.inl rfl), h⟩)
      · exact .inl ⟨⟨ids⟩, read_of_spells_octets h hne, hne, h⟩
    · exact .inr (.inl ⟨o, read_of_spells h (.inr hodd), h⟩)

theorem parse_eq_ok_iff : parse s = .ok p ↔ p.ids ≠ [] ∧ Hex.Spells s.toList p.octets := by
  constructor
  · intro h
    rw [parse] at h
    rcases read_cases s with ⟨p', hread, hp⟩ | ⟨o, hread, -⟩ | ⟨e, hread, -⟩ <;> rw [hread] at h <;>
      cases h
    exact hp
  · rintro ⟨hne, h⟩
    rw [parse, read_of_spells_octets h hne]
    rfl

/-! ## Texts -/

theorem length_of_spells (h : Hex.Spells s.toList p.octets) : s.length = 4 * p.ids.length := by
  rw [← String.length_toList, h.length_eq, length_octets]
  omega

theorem inGroups_four_iff :
    Hex.InGroups 4 s ↔ ∃ p : Path, p.ids ≠ [] ∧ Hex.Spells s.toList p.octets := by
  constructor
  · rintro ⟨hne, hlength, hdigit⟩
    rw [← String.length_toList] at hlength
    obtain ⟨o, h⟩ := Hex.exists_spells_iff.mpr ⟨by omega, hdigit⟩
    have heven : o.length % 2 = 0 := by
      have hpairs := h.length_eq
      omega
    obtain ⟨ids, rfl⟩ := exists_identifiers heven
    refine ⟨⟨ids⟩, ?_, h⟩
    rintro rfl
    exact hne (String.toList_eq_nil_iff.mp (List.eq_nil_of_length_eq_zero h.length_eq))
  · rintro ⟨p, hne, h⟩
    have hlength := length_of_spells h
    have hpos := List.length_pos_iff.mpr hne
    refine ⟨?_, by omega, h.isDigit⟩
    rintro rfl
    rw [String.length_empty] at hlength
    omega

theorem eq_empty_or_inGroups_two_iff :
    s = "" ∨ Hex.InGroups 2 s ↔ ∃ o, Hex.Spells s.toList o := by
  rw [Hex.inGroups_two_iff]
  by_cases hs : s = ""
  · subst hs
    exact ⟨fun _ => ⟨[], .nil⟩, fun _ => .inl rfl⟩
  · simp only [hs, ne_eq, not_false_eq_true, true_and, false_or]

/-- What is no text of a path is refused, for its identifiers if it spells octets. -/
theorem exists_parse_error (h : ¬ Hex.InGroups 4 s) : ∃ e, parse s = .error (fault s e) ∧
    (e = .notIdentifiers ↔ s = "" ∨ Hex.InGroups 2 s) := by
  rw [parse, eq_empty_or_inGroups_two_iff]
  rcases read_cases s with ⟨p, -, hp⟩ | ⟨o, hread, ho⟩ | ⟨e, hread, hnone⟩
  · exact absurd (inGroups_four_iff.mpr ⟨p, hp⟩) h
  · exact ⟨.notIdentifiers, by rw [hread]; rfl, fun _ => ⟨o, ho⟩, fun _ => rfl⟩
  · exact ⟨.notHex e, by rw [hread]; rfl, nofun, fun hsome => absurd hsome hnone⟩

theorem exists_identifiers_of_decode (h : Hex.decode s = .ok o) (hne : o ≠ [])
    (heven : o.length % 2 = 0) :
    ∃ ids, (pieces o).mapM ofPiece? = some ids ∧ parse s = .ok ⟨ids⟩ := by
  obtain ⟨ids, rfl⟩ := exists_identifiers heven
  refine ⟨ids, by rw [← identifiers?_eq_mapM, identifiers?_octets],
    parse_eq_ok_iff.mpr ⟨?_, Hex.decode_eq_ok_iff.mp h⟩⟩
  rintro rfl
  exact hne rfl

theorem parse_text (h : p.ids ≠ []) : parse p.text = .ok p :=
  parse_eq_ok_iff.mpr ⟨h, Hex.spells_upper p.octets⟩

/-! ## The main result -/

/-- What is read as a path is four digits of either case for each of its identifiers, of which there
is at least one. Everything else is refused as a wrong argument; only what consists of pairs of
digits is refused for its identifiers. Where octets are cut into identifiers, there are two of them
in every piece. Upper-casing what was read gives the text of the path, and each path with an
identifier is read from its text, so two texts are read as the same path just when they differ in
case only. -/
theorem parse_exactly_paths (s : String) :
    ((∃ p, parse s = .ok p) ↔ Hex.InGroups 4 s) ∧
    (¬ Hex.InGroups 4 s → ∃ e, parse s = .error (fault s e) ∧ (fault s e).code = .invalidArguments ∧
      (e = .notIdentifiers ↔ s = "" ∨ Hex.InGroups 2 s)) ∧
    (∀ o, Hex.decode s = .ok o → o ≠ [] → o.length % 2 = 0 →
      (∀ piece ∈ pieces o, piece.length = 2) ∧
        ∃ ids, (pieces o).mapM ofPiece? = some ids ∧ parse s = .ok ⟨ids⟩) ∧
    (∀ p, parse s = .ok p → p.ids.length = s.length / 4 ∧ p.text = s.toUpper) ∧
    (∀ p : Path, p.ids ≠ [] → parse p.text = .ok p) ∧
    ∀ s' p p', parse s = .ok p → parse s' = .ok p' → (p = p' ↔ s.toUpper = s'.toUpper) := by
  refine ⟨?_, fun h => ?_, fun o h hne heven => ?_, fun p h => ?_, fun p => parse_text,
    fun s' p p' h h' => ?_⟩
  · simp only [parse_eq_ok_iff, inGroups_four_iff]
  · obtain ⟨e, hparse, he⟩ := exists_parse_error h
    exact ⟨e, hparse, rfl, he⟩
  · exact ⟨length_of_mem_pieces heven, exists_identifiers_of_decode h hne heven⟩
  · obtain ⟨-, hspells⟩ := parse_eq_ok_iff.mp h
    exact ⟨by rw [length_of_spells hspells]; omega, Hex.upper_eq_toUpper hspells⟩
  · obtain ⟨-, hspells⟩ := parse_eq_ok_iff.mp h
    obtain ⟨-, hspells'⟩ := parse_eq_ok_iff.mp h'
    rw [← octets_inj, Hex.eq_iff_toUpper_eq hspells hspells']

/-- Two texts of one path in mixed case, and the two ways to miss one. -/
theorem parse_exactly_paths_respelled :
    let p : Path := ⟨[⟨0x3F, 0x00⟩, ⟨0x2F, 0x0A⟩]⟩
    parse "3f002F0a" = .ok p ∧ parse "3F002f0A" = .ok p ∧ p.text = "3F002F0A" ∧
      "3f002F0a".toUpper = "3F002f0A".toUpper ∧ parse "3F002F0A" = .ok p ∧
      Hex.decode "3f002F0a" = .ok [0x3F, 0x00, 0x2F, 0x0A] ∧
      (pieces [0x3F, 0x00, 0x2F, 0x0A]).mapM ofPiece? = some p.ids ∧
      parse "3F002F" = .error (fault "3F002F" .notIdentifiers) ∧
      ∃ e, parse "3F0G" = .error (fault "3F0G" e) ∧ e ≠ .notIdentifiers := by
  intro p
  have hdecode : Hex.decode "3f002F0a" = .ok [0x3F, 0x00, 0x2F, 0x0A] := by decide
  have hdecode' : Hex.decode "3F002f0A" = .ok [0x3F, 0x00, 0x2F, 0x0A] := by decide
  obtain ⟨-, -, hpieces, -, htext, hsame⟩ := parse_exactly_paths "3f002F0a"
  obtain ⟨-, ids, hids, hparse⟩ := hpieces _ hdecode (by decide) rfl
  cases hids
  obtain ⟨-, -, hpieces', -, -, -⟩ := parse_exactly_paths "3F002f0A"
  obtain ⟨-, ids', hids', hparse'⟩ := hpieces' _ hdecode' (by decide) rfl
  cases hids'
  obtain ⟨e, hodd, -, he⟩ := (parse_exactly_paths "3F002F").2.1 (by decide)
  obtain ⟨e', hbad, -, he'⟩ := (parse_exactly_paths "3F0G").2.1 (by decide)
  have hname : p.text = "3F002F0A" := by decide
  refine ⟨hparse, hparse', hname, (hsame _ _ _ hparse hparse').mp rfl, hname ▸ htext p (by decide),
    hdecode, rfl, ?_, e', hbad, fun h => absurd (he'.mp h) (by decide)⟩
  rw [hodd, he.mpr (by decide)]

end SmartCard.Path
