import Mathlib.Tactic.Common
import SmartCard.Tlv

/-!
# The search for a tag finds the first record with it

The format is written down as a grammar: headers in the two forms, and complete records of other
tags one after another. The search finds a tag exactly where the grammar places it, and the grammar
places it at most once.
-/
namespace SmartCard.Tlv

/-- A header of the tag that announces a length. -/
inductive IsHeader (tag : UInt8) : Octets → Nat → Prop
  | short (l : UInt8) (h : l ≠ 0xFF) : IsHeader tag [tag, l] l.toNat
  | extended (high low : UInt8) :
      IsHeader tag [tag, 0xFF, high, low] (256 * high.toNat + low.toNat)

/-- Complete records one after another, none of them with the tag. -/
inductive Others (tag : UInt8) : Octets → Prop
  | nil : Others tag []
  | cons {t : UInt8} {header value rest : Octets} (ht : t ≠ tag)
      (hh : IsHeader t header value.length) (hr : Others tag rest) :
      Others tag (header ++ value ++ rest)

/-- The buffer has its first header of the tag behind the records that are passed over. -/
structure FirstAt (tag : UInt8) (buffer passed header : Octets) (f : Found) : Prop where
  eq : buffer = passed ++ header ++ f.rest
  others : Others tag passed
  isHeader : IsHeader tag header f.length

/-! ## Headers -/

theorem header?_append {tag : UInt8} {header : Octets} {n : Nat} (h : IsHeader tag header n)
    (rest : Octets) : header? (header ++ rest) = some (tag, ⟨rest, n⟩) := by
  cases h with
  | short l hl => simp [header?, hl]
  | extended high low => simp [header?, Octets.bigEndian]

theorem exists_header {buffer : Octets} {tag : UInt8} {f : Found}
    (h : header? buffer = some (tag, f)) :
    ∃ header, buffer = header ++ f.rest ∧ IsHeader tag header f.length := by
  unfold header? at h
  split at h
  · rename_i t l rest
    split at h
    · rename_i hl
      subst hl
      split at h
      · rename_i high low rest
        cases h
        have hh : IsHeader tag [tag, 0xFF, high, low] _ := .extended high low
        exact ⟨[tag, 0xFF, high, low], rfl, by simpa [Octets.bigEndian] using hh⟩
      · cases h
    · rename_i hl
      cases h
      exact ⟨[tag, l], rfl, .short l hl⟩
  · cases h

/-- What stands in front of the rest is read off the buffer alone. -/
theorem IsHeader.unique {t t' : UInt8} {header header' rest rest' : Octets} {n n' : Nat}
    (h : IsHeader t header n) (h' : IsHeader t' header' n')
    (he : header ++ rest = header' ++ rest') :
    t = t' ∧ header = header' ∧ n = n' ∧ rest = rest' := by
  have hread := header?_append h rest
  rw [he, header?_append h' rest'] at hread
  cases hread
  exact ⟨rfl, List.append_cancel_right he, rfl, rfl⟩

theorem behind?_append (value rest : Octets) :
    Found.behind? ⟨value ++ rest, value.length⟩ = some rest := by
  have hs : Octets.split? value.length (value ++ rest) = some (value, rest) :=
    Octets.split?_eq_some_iff.mpr ⟨rfl, rfl⟩
  simp [Found.behind?, hs]

theorem value?_append (value rest : Octets) :
    Found.value? ⟨value ++ rest, value.length⟩ = some value := by
  have hs : Octets.split? value.length (value ++ rest) = some (value, rest) :=
    Octets.split?_eq_some_iff.mpr ⟨rfl, rfl⟩
  simp [Found.value?, hs]

theorem exists_value {f : Found} {o : Octets} (h : f.behind? = some o) :
    ∃ value, f.rest = value ++ o ∧ value.length = f.length := by
  obtain ⟨⟨value, rest⟩, hs, rfl⟩ := Option.map_eq_some_iff.mp h
  exact ⟨value, Octets.split?_eq_some_iff.mp hs⟩

/-! ## The search -/

theorem find?_header {tag : UInt8} {header : Octets} {n : Nat} (h : IsHeader tag header n)
    (rest : Octets) : find? (header ++ rest) tag = some ⟨rest, n⟩ := by
  rw [find?, header?_append h]
  simp

theorem find?_skip {t tag : UInt8} {header value : Octets} (ht : t ≠ tag)
    (h : IsHeader t header value.length) (rest : Octets) :
    find? (header ++ value ++ rest) tag = find? rest tag := by
  rw [find?, List.append_assoc, header?_append h]
  simp only [ht, if_false]
  split
  · rename_i hb
    rw [behind?_append] at hb
    cases hb
  · rename_i o hb
    rw [behind?_append] at hb
    cases hb
    rfl

/-- Records of other tags are passed over. -/
theorem find?_others {tag : UInt8} {passed : Octets} (h : Others tag passed) (rest : Octets) :
    find? (passed ++ rest) tag = find? rest tag := by
  induction h with
  | nil => rfl
  | cons ht hh hr ih =>
    rw [List.append_assoc, find?_skip ht hh, ih]

theorem FirstAt.found {tag : UInt8} {buffer passed header : Octets} {f : Found}
    (h : FirstAt tag buffer passed header f) : find? buffer tag = some f := by
  rw [h.eq, List.append_assoc, find?_others h.others, find?_header h.isHeader]

theorem exists_firstAt {buffer : Octets} {tag : UInt8} {f : Found}
    (h : find? buffer tag = some f) : ∃ passed header, FirstAt tag buffer passed header f := by
  fun_induction find? buffer tag with
  | case1 => cases h
  | case2 buffer f' hf =>
    cases h
    obtain ⟨header, he, hh⟩ := exists_header hf
    exact ⟨[], header, he, .nil, hh⟩
  | case3 => cases h
  | case4 buffer t f' hf ht o ho ih =>
    obtain ⟨header, he, hh⟩ := exists_header hf
    obtain ⟨value, hv, hl⟩ := exists_value ho
    obtain ⟨passed, header', hp⟩ := ih h
    refine ⟨header ++ value ++ passed, header', ?_, .cons ht (hl ▸ hh) hp.others, hp.isHeader⟩
    rw [he, hv, hp.eq]
    simp only [List.append_assoc]

theorem find?_eq_some_iff {buffer : Octets} {tag : UInt8} {f : Found} :
    find? buffer tag = some f ↔ ∃ passed header, FirstAt tag buffer passed header f :=
  ⟨exists_firstAt, fun ⟨_, _, h⟩ => h.found⟩

/-! ## At most one place -/

/-- A record of another tag does not start where a header of the tag does. -/
private theorem others_nil {tag : UInt8} {passed header rest rest' : Octets} {n : Nat}
    (hp : Others tag passed) (h : IsHeader tag header n)
    (he : passed ++ rest = header ++ rest') : passed = [] := by
  cases hp with
  | nil => rfl
  | cons ht hh hr =>
    simp only [List.append_assoc] at he
    exact absurd (hh.unique h he).1 ht

theorem Others.unique {tag : UInt8} {passed passed' header header' rest rest' : Octets}
    {n n' : Nat} (hp : Others tag passed) (hp' : Others tag passed') (h : IsHeader tag header n)
    (h' : IsHeader tag header' n')
    (he : passed ++ header ++ rest = passed' ++ header' ++ rest') : passed = passed' := by
  induction hp generalizing passed' with
  | nil =>
    rw [List.append_assoc passed'] at he
    exact (others_nil hp' h he.symm).symm
  | cons ht hh hr ih =>
    cases hp' with
    | nil =>
      rw [List.append_assoc (_ ++ _)] at he
      exact others_nil (.cons ht hh hr) h' he
    | cons ht' hh' hr' =>
      simp only [List.append_assoc] at he
      obtain ⟨-, hhead, hlen, htail⟩ := hh.unique hh' he
      obtain ⟨hvalue, hrest⟩ := List.append_inj htail hlen
      simp only [← List.append_assoc] at hrest
      rw [hhead, hvalue, ih hr' hrest]

/-- The place of the first header of a tag is determined by the buffer. -/
theorem FirstAt.unique {tag : UInt8} {buffer passed passed' header header' : Octets}
    {f f' : Found} (h : FirstAt tag buffer passed header f)
    (h' : FirstAt tag buffer passed' header' f') :
    passed = passed' ∧ header = header' ∧ f = f' := by
  have he : passed ++ header ++ f.rest = passed' ++ header' ++ f'.rest := h.eq.symm.trans h'.eq
  have hp := h.others.unique h'.others h.isHeader h'.isHeader he
  subst hp
  simp only [List.append_assoc, List.append_cancel_left_eq] at he
  obtain ⟨-, hhead, hlen, hrest⟩ := h.isHeader.unique h'.isHeader he
  refine ⟨rfl, hhead, ?_⟩
  cases f
  cases f'
  cases hlen
  cases hrest
  rfl

/-- Cut off before the header is complete, the buffer holds no header of the tag at all. -/
theorem FirstAt.cut {tag : UInt8} {buffer passed header : Octets} {f : Found}
    (h : FirstAt tag buffer passed header f) {n : Nat} (hn : n < (passed ++ header).length) :
    find? (buffer.take n) tag = none := by
  rw [Option.eq_none_iff_forall_ne_some]
  intro f' hf
  obtain ⟨passed', header', h'⟩ := exists_firstAt hf
  have hwhole : FirstAt tag buffer passed' header' ⟨f'.rest ++ buffer.drop n, f'.length⟩ := by
    refine ⟨?_, h'.others, h'.isHeader⟩
    rw [← List.append_assoc, ← h'.eq, List.take_append_drop]
  obtain ⟨hp, hh, -⟩ := h.unique hwhole
  have hlen := congrArg List.length h'.eq
  rw [hp, hh] at hn
  simp only [List.length_append, List.length_take] at hlen hn
  omega

/-! ## Written records -/

theorem Record.isHeader {r : Record} (h : r.Fits) :
    IsHeader r.tag (writeHeader r.form r.tag r.value.length) r.value.length := by
  obtain ⟨form, tag, value⟩ := r
  cases form with
  | short =>
    have hlt : value.length < 255 := h
    have hn : (UInt8.ofNat value.length).toNat = value.length := by
      rw [UInt8.toNat_ofNat']
      omega
    have hne : UInt8.ofNat value.length ≠ 0xFF := by
      intro he
      have := congrArg UInt8.toNat he
      rw [hn] at this
      exact absurd this (by simp; omega)
    have hs : IsHeader tag [tag, UInt8.ofNat value.length] _ := .short _ hne
    rwa [hn] at hs
  | extended =>
    have hlt : value.length < 65536 := h
    have hs : IsHeader tag _ _ :=
      .extended (UInt8.ofNat (value.length / 256)) (UInt8.ofNat value.length)
    have hn : 256 * (UInt8.ofNat (value.length / 256)).toNat + (UInt8.ofNat value.length).toNat =
        value.length := by
      rw [UInt8.toNat_ofNat', UInt8.toNat_ofNat']
      omega
    rwa [hn] at hs

theorem others_writeAll {tag : UInt8} {rs : List Record} (h : ∀ r ∈ rs, r.Fits ∧ r.tag ≠ tag) :
    Others tag (writeAll rs) := by
  induction rs with
  | nil => exact .nil
  | cons r rs ih =>
    obtain ⟨hf, ht⟩ := h r List.mem_cons_self
    exact .cons ht (Record.isHeader hf) (ih fun x hx => h x (List.mem_cons_of_mem _ hx))

/-- The first written record with the tag is where the search ends. -/
theorem firstAt_writeAll {before : List Record} {r : Record} (after : List Record)
    (trailing : Octets) (hb : ∀ x ∈ before, x.Fits ∧ x.tag ≠ r.tag) (hr : r.Fits) :
    FirstAt r.tag (writeAll (before ++ r :: after) ++ trailing) (writeAll before)
      (Record.writeHeader r.form r.tag r.value.length)
      ⟨r.value ++ (writeAll after ++ trailing), r.value.length⟩ := by
  refine ⟨?_, others_writeAll hb, Record.isHeader hr⟩
  simp [writeAll, Record.write]

/-! ## The decoder is its format -/

/-- The search for a tag answers with the header that the format places first, and only with that;
among written records it finds the first with the tag and its value, whatever follows, and nothing
when the buffer ends before the header of that record is complete. -/
theorem find?_exactly_first (tag : UInt8) :
    (∀ buffer f, find? buffer tag = some f ↔
      ∃ passed header, FirstAt tag buffer passed header f) ∧
    (∀ buffer passed passed' header header' f f', FirstAt tag buffer passed header f →
      FirstAt tag buffer passed' header' f' → passed = passed' ∧ header = header' ∧ f = f') ∧
    (∀ buffer, (∀ passed header f, ¬ FirstAt tag buffer passed header f) →
      find? buffer tag = none) ∧
    (∀ buffer passed header f, FirstAt tag buffer passed header f →
      ∀ n < (passed ++ header).length, find? (buffer.take n) tag = none) ∧
    ∀ (before after : List Record) (r : Record) (trailing : Octets),
      (∀ x ∈ before, x.Fits ∧ x.tag ≠ tag) → r.Fits → r.tag = tag →
      ∃ f, find? (writeAll (before ++ r :: after) ++ trailing) tag = some f ∧
        f.rest = r.value ++ (writeAll after ++ trailing) ∧ f.length = r.value.length ∧
        f.value? = some r.value ∧
        ∀ n < (writeAll before ++ Record.writeHeader r.form tag r.value.length).length,
          find? ((writeAll (before ++ r :: after) ++ trailing).take n) tag = none := by
  refine ⟨fun _ _ => find?_eq_some_iff, fun _ _ _ _ _ _ _ h h' => h.unique h', ?_,
    fun _ _ _ _ h _ hn => h.cut hn, ?_⟩
  · intro buffer h
    rw [Option.eq_none_iff_forall_ne_some]
    intro f hf
    obtain ⟨passed, header, hp⟩ := exists_firstAt hf
    exact h passed header f hp
  · rintro before after r trailing hb hr rfl
    have hp := firstAt_writeAll after trailing hb hr
    exact ⟨_, hp.found, rfl, rfl, value?_append _ _, fun n hn => hp.cut hn⟩

/-- A value may hold octets that look like the wanted record, and the wanted record may write a
short value in the extended form. -/
theorem find?_exactly_first_behind_lookalike :
    let before : List Record := [⟨.short, 0x01, [0x5A, 0x01, 0xAA]⟩]
    let r : Record := ⟨.extended, 0x5A, [0x12, 0x34]⟩
    (∀ x ∈ before, x.Fits ∧ x.tag ≠ 0x5A) ∧ r.Fits ∧
      FirstAt 0x5A (writeAll (before ++ [r]) ++ [0x90, 0x00]) (writeAll before)
        [0x5A, 0xFF, 0x00, 0x02] ⟨[0x12, 0x34, 0x90, 0x00], 2⟩ ∧
      (∃ f, find? (writeAll (before ++ [r]) ++ [0x90, 0x00]) 0x5A = some f ∧
        f.value? = some [0x12, 0x34]) ∧
      find? ((writeAll (before ++ [r]) ++ [0x90, 0x00]).take 8) 0x5A = none := by
  intro before r
  have hb : ∀ x ∈ before, x.Fits ∧ x.tag ≠ 0x5A := by decide
  have hr : r.Fits := by decide
  obtain ⟨-, -, -, -, hrecords⟩ := find?_exactly_first 0x5A
  obtain ⟨f, hf, -, -, hv, hcut⟩ := hrecords before [] r [0x90, 0x00] hb hr rfl
  have hp := firstAt_writeAll [] [0x90, 0x00] hb hr
  have he : Record.writeHeader r.form r.tag r.value.length = [0x5A, 0xFF, 0x00, 0x02] := by decide
  rw [he] at hp
  exact ⟨hb, hr, hp, ⟨f, hf, hv⟩, hcut 8 (by decide)⟩

end SmartCard.Tlv
