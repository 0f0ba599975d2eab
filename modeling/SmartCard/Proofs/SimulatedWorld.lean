import Mathlib.Logic.Function.Basic
import SmartCard.Simulator.World

/-!
# Locks and answers of the simulated world

Only locking, unlocking and exchanging a card change the readers. The lock of a reader is its own,
and what a card answers depends on the card in the reader and on the selection of the connection.
-/
namespace SmartCard.Simulator.World

open Function

/-! ## Readers and their locks -/

theorem readers_select (w : World) (k : Connection) (path : Path) :
    (w.select k path).2.readers = w.readers := by
  rw [select]
  repeat' split
  all_goals rfl

theorem readers_read (w : World) (k : Connection) (offset length : Nat) :
    (w.read k offset length).2.readers = w.readers := by
  rw [read]
  repeat' split
  all_goals rfl

theorem isLocked_congr {w w' : World} (h : w.readers = w'.readers) :
    w.isLocked = w'.isLocked := by
  funext r
  rw [isLocked, isLocked, h]

theorem isLocked_exchange (reader : Nat) (card : Option Card) (w : World) :
    (w.exchange reader card).isLocked = w.isLocked := by
  funext r
  simp only [isLocked, exchange, List.getElem?_modify]
  cases w.readers[r]? with
  | none => rfl
  | some x =>
    by_cases h : reader = r
    · simp [h]
    · simp [h]

theorem isLocked_setLocked {w : World} {reader : Nat} {locked : Bool}
    (h : locked = true → reader < w.readers.length) :
    (w.setLocked reader locked).isLocked = update w.isLocked reader locked := by
  funext r
  by_cases hr : r = reader
  · subst hr
    rw [update_self]
    simp only [isLocked, setLocked, List.getElem?_modify]
    cases hx : w.readers[r]? with
    | none =>
      cases locked with
      | false => simp
      | true =>
        have hlen := h rfl
        rw [List.getElem?_eq_none_iff] at hx
        omega
    | some x => simp
  · rw [update_of_ne hr]
    simp only [isLocked, setLocked, List.getElem?_modify]
    cases w.readers[r]? with
    | none => rfl
    | some x => simp [Ne.symm hr]

theorem isLocked_ofCards (cards : List (Option Card)) (f : Option Fault) (r : Nat) :
    (ofCards cards f).isLocked r = false := by
  simp only [isLocked, ofCards, List.getElem?_map]
  cases cards[r]? <;> rfl

theorem lt_of_cardAt {w : World} {reader : Nat} {p : Point} {c : Card}
    (h : w.cardAt reader p = .ok c) : reader < w.readers.length := by
  by_contra hlen
  have hnone : w.readers[reader]? = none := List.getElem?_eq_none_iff.mpr (Nat.le_of_not_lt hlen)
  simp [cardAt, card?, hnone] at h

theorem lock_spec (w : World) (reader : Nat) :
    (∃ f, w.lock reader = (.error f, w)) ∨
      reader < w.readers.length ∧ w.isLocked reader = false ∧
        w.lock reader = (.ok (), w.setLocked reader true) := by
  rw [lock]
  cases hc : w.cardAt reader .lock with
  | error f => exact .inl ⟨f, rfl⟩
  | ok c =>
    cases hl : w.isLocked reader with
    | true => exact .inl ⟨_, rfl⟩
    | false => exact .inr ⟨lt_of_cardAt hc, rfl, rfl⟩

/-! ## Answers -/

/-- The same cards are in the readers, and on the connection the same file is selected and as many
reads were made since. -/
structure Alike (k : Connection) (w w' : World) : Prop where
  readers : w.readers = w'.readers
  selection : w.selections.lookup k.number = w'.selections.lookup k.number

theorem lookup_setSelection (w : World) (k : Connection) (s : Selection) :
    (w.setSelection k s).selections.lookup k.number = some s := by
  simp [setSelection]

theorem cardAt_congr {w w' : World} (h : w.readers = w'.readers) (reader : Nat) (p : Point) :
    w.cardAt reader p = w'.cardAt reader p := by
  simp only [cardAt, card?, h]

theorem select_congr {w w' : World} (h : w.readers = w'.readers) (k : Connection) (path : Path) :
    (w.select k path).1 = (w'.select k path).1 ∧
      ∀ file, (w.select k path).1 = .ok file →
        Alike k (w.select k path).2 (w'.select k path).2 := by
  simp only [select, cardAt_congr h]
  cases w'.cardAt k.reader .select with
  | error f => exact ⟨rfl, nofun⟩
  | ok c =>
    cases hfile : c.files.lookup path.text with
    | none => simp [hfile]
    | some file =>
      cases hfault : file.selectFault with
      | some f => simp [hfile, hfault]
      | none =>
        simp only [hfile, hfault]
        refine ⟨trivial, fun _ _ => ⟨h, ?_⟩⟩
        rw [lookup_setSelection, lookup_setSelection]

theorem read_congr {w w' : World} {k : Connection} (h : Alike k w w') (offset length : Nat) :
    (w.read k offset length).1 = (w'.read k offset length).1 ∧
      ∀ o, (w.read k offset length).1 = .ok o →
        Alike k (w.read k offset length).2 (w'.read k offset length).2 := by
  simp only [read, cardAt_congr h.readers, h.selection]
  cases w'.cardAt k.reader .read with
  | error f => exact ⟨rfl, nofun⟩
  | ok c =>
    cases hs : w'.selections.lookup k.number with
    | none => exact ⟨rfl, nofun⟩
    | some s =>
      cases hfault : readFault? s with
      | some f => simp [hfault]
      | none =>
        simp only [hfault]
        refine ⟨trivial, fun _ _ => ⟨h.readers, ?_⟩⟩
        rw [lookup_setSelection, lookup_setSelection]

theorem ask_congr {α : Type} {w w' : World} (h : w.readers = w'.readers) (a : Application)
    (p : Point) (f : Directory → Except Fault α) : w.ask a p f = w'.ask a p f := by
  rw [ask, cardAt_congr h, ask]

end SmartCard.Simulator.World
