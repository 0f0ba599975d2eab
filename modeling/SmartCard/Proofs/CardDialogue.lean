import Mathlib.Tactic.Common
import SmartCard.Pcsc.Stack

/-!
# Dialogues with a card

A card holds a file. It answers the selection of the file with the parameters of the file, and a
read with some octets of it, as many as it likes but at least one; each of these answers may come in
parts, of which all but the first are fetched by commands of their own. A manager speaks for the
card as long as the commands that are sent to it are answered so. Whatever the parts are, sending a
command and gathering its response brings the whole answer.
-/
namespace SmartCard.Pcsc

variable {α β : Type}

/-! ## Commands of a journal -/

def Event.command? : Event → Option Octets
  | .transmit command => some command
  | _ => none

/-- The commands that were sent to the card, in their order. -/
def commands (es : List (Entry Event)) : List Octets :=
  es.filterMap fun e => e.event?.bind Event.command?

@[simp] theorem commands_nil : commands [] = [] := rfl

@[simp] theorem commands_append (es es' : List (Entry Event)) :
    commands (es ++ es') = commands es ++ commands es' := List.filterMap_append

@[simp] theorem commands_call (c : Call) (f : Option Fault) (es : List (Entry Event)) :
    commands (.call c f :: es) = commands es := rfl

@[simp] theorem commands_transmit (command : Octets) (es : List (Entry Event)) :
    commands (.note (.event (.transmit command)) :: es) = command :: commands es := rfl

/-! ## The card -/

/-- A file on a card, with the response to its selection. -/
structure CardFile where
  path : Path
  content : Octets
  parameters : Octets

namespace CardFile

/-- What the card keeps from one command to the next: whether the file is selected, and the part of
an answer that is still to be fetched, under the length that was announced for it. -/
structure Memory where
  selected : Bool
  left : Option (UInt8 × Octets)

/-- The card may answer the command with the data, and then has the file selected or not. -/
inductive Offers (f : CardFile) (s : Memory) : Octets → Octets → Bool → Prop
  | parameters : Offers f s (Command.select f.path).octets f.parameters true
  | piece {position : Nat} {le : UInt8} {data : Octets} (hs : s.selected = true)
      (hp : position ≤ Command.maxPosition) (hd : data ≠ [])
      (h : data <+: (f.content.drop position).take le.toNat) :
      Offers f s (Command.readBinary position le).octets data true
  | left {le : UInt8} {data : Octets} (h : s.left = some (le, data)) :
      Offers f s (Command.getResponse le).octets data s.selected

/-- A response brings the data, or a part of it and the announcement of what is left. -/
inductive Brings : (data response : Octets) → Option (UInt8 × Octets) → Prop
  | whole (data : Octets) {sw1 : UInt8} (h : sw1 = 0x90 ∨ sw1 = 0x91) :
      Brings data (data ++ [sw1, 0x00]) none
  | part (front back : Octets) (le : UInt8) :
      Brings (front ++ back) (front ++ [0x61, le]) (some (le, back))

/-- The answer to one command. A command for which the card has no data may be answered in any way,
and with any consequence. -/
inductive Answers (f : CardFile) (s : Memory) (command : Octets) :
    Except ReturnCode Octets → Memory → Prop
  | offered {data response : Octets} {left : Option (UInt8 × Octets)} {selected : Bool}
      (ho : Offers f s command data selected) (hb : Brings data response left) :
      Answers f s command (.ok response) ⟨selected, left⟩
  | free {r : Except ReturnCode Octets} {s' : Memory}
      (h : ∀ data selected, ¬ Offers f s command data selected) : Answers f s command r s'

/-- The manager answers the commands one after the other as the card does, whose memory and whose
manager then are the last two. -/
inductive Dialogue (f : CardFile) :
    Memory → Manager → List Octets → Memory → Manager → Prop
  | done (s : Memory) (m : Manager) : Dialogue f s m [] s m
  | exchange {s s' s'' : Memory} {m m'' : Manager} {command : Octets} {rest : List Octets}
      (h : Answers f s command m.respond.1 s') (hr : Dialogue f s' m.respond.2 rest s'' m'') :
      Dialogue f s m (command :: rest) s'' m''

variable {f : CardFile} {s s' s'' : Memory} {m m' m'' : Manager}

theorem Dialogue.split {front back : List Octets} (h : Dialogue f s m (front ++ back) s'' m'') :
    ∃ s' m', Dialogue f s m front s' m' ∧ Dialogue f s' m' back s'' m'' := by
  induction front generalizing s m with
  | nil => exact ⟨s, m, .done s m, h⟩
  | cons command front ih =>
    cases h with
    | exchange ha hr =>
      obtain ⟨s', m', hf, hb⟩ := ih hr
      exact ⟨s', m', .exchange ha hf, hb⟩

/-! ## What commands ask for -/

/-- Selections, reads and fetches differ in their second octet. -/
theorem ins_eq_of_octets_eq {c c' : Command} (h : c.octets = c'.octets) : c.ins = c'.ins := by
  simp only [Command.octets, List.cons_append, List.cons.injEq] at h
  exact h.2.1

theorem ins_select (p : Path) : (Command.select p).ins = 0xA4 := by
  rw [Command.select]
  split
  · split <;> rfl
  · split <;> rfl
  · rfl

theorem Offers.of_select {p : Path} {data : Octets} {selected : Bool}
    (h : Offers f s (Command.select p).octets data selected) :
    data = f.parameters ∧ selected = true := by
  generalize hc : (Command.select p).octets = command at h
  cases h with
  | parameters => exact ⟨rfl, rfl⟩
  | piece hs hp hd hdata =>
    have hi := ins_eq_of_octets_eq hc
    rw [ins_select] at hi
    cases hi
  | left hl =>
    have hi := ins_eq_of_octets_eq hc
    rw [ins_select] at hi
    cases hi

/-- The position is found again in the two octets that write it. -/
theorem readBinary_inj {position position' : Nat} {le le' : UInt8}
    (hp : position ≤ Command.maxPosition) (hp' : position' ≤ Command.maxPosition)
    (h : (Command.readBinary position le).octets = (Command.readBinary position' le').octets) :
    position = position' ∧ le = le' := by
  simp only [Command.octets, Command.readBinary, List.isEmpty_nil, if_true, List.append_nil,
    List.cons_append, List.nil_append, List.cons.injEq, and_true, true_and] at h
  obtain ⟨hhigh, hlow, hle⟩ := h
  have hhigh := congrArg UInt8.toNat hhigh
  have hlow := congrArg UInt8.toNat hlow
  rw [UInt8.toNat_ofNat', UInt8.toNat_ofNat'] at hhigh hlow
  simp only [Command.maxPosition] at hp hp'
  exact ⟨by omega, hle⟩

theorem Offers.of_readBinary {position : Nat} {le : UInt8} {data : Octets} {selected : Bool}
    (hp : position ≤ Command.maxPosition)
    (h : Offers f s (Command.readBinary position le).octets data selected) :
    data ≠ [] ∧ data <+: (f.content.drop position).take le.toNat ∧ selected = true := by
  generalize hc : (Command.readBinary position le).octets = command at h
  cases h with
  | parameters =>
    have hi := ins_eq_of_octets_eq hc
    rw [ins_select] at hi
    cases hi
  | piece hs hp' hd hdata =>
    obtain ⟨rfl, rfl⟩ := readBinary_inj hp hp' hc
    exact ⟨hd, hdata, rfl⟩
  | left hl => cases ins_eq_of_octets_eq hc

theorem Offers.of_getResponse {le : UInt8} {left data : Octets} {selected : Bool}
    (hl : s.left = some (le, left)) (h : Offers f s (Command.getResponse le).octets data selected) :
    data = left ∧ selected = s.selected := by
  generalize hc : (Command.getResponse le).octets = command at h
  cases h with
  | parameters =>
    have hi := ins_eq_of_octets_eq hc
    rw [ins_select] at hi
    cases hi
  | piece => cases ins_eq_of_octets_eq hc
  | left hl' =>
    simp only [Command.octets, Command.getResponse, List.isEmpty_nil, if_true, List.append_nil,
      List.cons_append, List.nil_append, List.cons.injEq, and_true, true_and] at hc
    subst hc
    rw [hl] at hl'
    cases hl'
    exact ⟨rfl, rfl⟩

/-! ## Work on the card's manager -/

end CardFile

open CardFile

variable {f : CardFile} {s s' : Memory} {m : Manager}

/-- If the manager answers as the card does, the work leads to a value and a memory of the card that
`Q` relates, and has sent all that the manager was asked. -/
def Work.Leads (f : CardFile) (s : Memory) (m : Manager) (w : Work α) (Q : α → Memory → Prop) :
    Prop :=
  ∀ s' m', Dialogue f s m (commands ((w m).entries.map .note)) s' m' →
    (w m).world = m' ∧ Q (w m).value s'

namespace Work.Leads

variable {P : α → Memory → Prop} {Q : β → Memory → Prop}

theorem mono {Q' : α → Memory → Prop} {w : Work α} (h : Leads f s m w P)
    (hP : ∀ a s', P a s' → Q' a s') : Leads f s m w Q' := by
  intro s' m' hd
  obtain ⟨hm, hp⟩ := h s' m' hd
  exact ⟨hm, hP _ _ hp⟩

theorem pure {a : α} (h : P a s) : Leads f s m (pure a : Work α) P := by
  intro s' m' hd
  cases hd
  exact ⟨rfl, h⟩

theorem look (g : Manager → α) :
    Leads f s m (Action.look g : Work α) fun a s' => a = g m ∧ s' = s := by
  intro s' m' hd
  cases hd
  exact ⟨rfl, rfl, rfl⟩

theorem bind {w : Work α} {g : α → Work β} (hw : Leads f s m w P)
    (hg : ∀ s', P (w m).value s' → Leads f s' (w m).world (g (w m).value) Q) :
    Leads f s m (w >>= g) Q := by
  intro s'' m'' hd
  rw [Action.bind_apply, List.map_append, commands_append] at hd
  obtain ⟨s', m', hfront, hback⟩ := hd.split
  obtain ⟨rfl, hp⟩ := hw s' m' hfront
  exact hg s' hp s'' m'' hback

end Work.Leads

/-! ## Responses in parts -/

/-- The last thing that a manager says brings nothing. -/
theorem not_brings_exhausted {data : Octets} {left : Option (UInt8 × Octets)} :
    ¬ Brings data Manager.exhausted left := by
  intro h
  generalize hr : Manager.exhausted = response at h
  cases h with
  | whole data h =>
    have hlast := congrArg Octets.splitLastTwo hr
    rw [Octets.splitLastTwo_append] at hlast
    rcases h with rfl | rfl <;> cases hlast
  | part front back le =>
    have hlast := congrArg Octets.splitLastTwo hr
    rw [Octets.splitLastTwo_append] at hlast
    cases hlast

/-- A response that brings something is taken from the script. -/
theorem length_respond {data response : Octets} {left : Option (UInt8 × Octets)}
    (hr : m.respond.1 = .ok response) (hb : Brings data response left) :
    m.respond.2.responses.length + 1 = m.responses.length := by
  rw [Manager.respond] at hr ⊢
  cases hm : m.responses with
  | nil =>
    rw [hm] at hr
    cases hr
    exact absurd hb not_brings_exhausted
  | cons r rs =>
    cases r with
    | error c => rfl
    | ok o =>
      simp only
      split <;> rfl

/-! ## Sending a command -/

namespace Connection

variable {k : Connection} {context : Nat}

theorem run_trace (k : Connection) (text : String) (m : Manager) :
    (k.trace text m).world = m ∧ commands ((k.trace text m).entries.map .note) = [] := by
  rw [trace]
  split <;> exact ⟨rfl, rfl⟩

theorem run_exchange (command : Octets) (m : Manager) :
    exchange command m = ⟨m.respond.1, m.respond.2, [.event (.transmit command)]⟩ := rfl

theorem run_transmit (hk : k.card = some context) (command : Octets) (m : Manager) :
    (k.transmit command m).value = m.respond.1.mapError .manager ∧
      (k.transmit command m).world = m.respond.2 ∧
      commands ((k.transmit command m).entries.map .note) = [command] := by
  obtain ⟨hw, hc⟩ := run_trace k s!"TX: {Hex.lower command}" m
  simp only [transmit, hk, Action.bind_apply, hw, run_exchange, List.map_append, commands_append,
    hc]
  cases hr : m.respond.1 with
  | error code => exact ⟨rfl, rfl, rfl⟩
  | ok response =>
    obtain ⟨hw', hc'⟩ := run_trace k s!"RX: {Hex.lower response}" m.respond.2
    simp [hw', hc', Except.mapError]

/-- A command for which the card has data is answered with some of it. -/
theorem transmit_leads (hk : k.card = some context) {command : Octets}
    (ho : ∃ data selected, Offers f s command data selected) :
    (k.transmit command).Leads f s m fun v s' => ∃ data response left selected,
      Offers f s command data selected ∧ Brings data response left ∧ m.respond.1 = .ok response ∧
        v = .ok response ∧ s' = ⟨selected, left⟩ := by
  intro s' m' hd
  obtain ⟨hvalue, hworld, hcommands⟩ := run_transmit hk command m
  rw [hcommands] at hd
  cases hd with
  | exchange ha hr =>
    cases hr
    refine ⟨hworld, ?_⟩
    rw [hvalue]
    generalize m.respond.1 = r at ha
    cases ha with
    | offered ho hb => exact ⟨_, _, _, _, ho, hb, rfl, rfl, rfl⟩
    | free h =>
      obtain ⟨data, selected, ho⟩ := ho
      exact absurd ho (h data selected)

/-- However the data is split, it is gathered in order. There are no more parts than the script has
responses, so as many further responses are enough. -/
theorem collect_leads (hk : k.card = some context) {selected : Bool} {pending : Nat}
    {data response : Octets} {left : Option (UInt8 × Octets)} (hb : Brings data response left)
    (hp : m.responses.length < pending) :
    (k.collect pending response).Leads f ⟨selected, left⟩ m fun v s' =>
      v = .ok data ∧ s' = ⟨selected, none⟩ := by
  induction pending generalizing m data response left with
  | zero => exact absurd hp (Nat.not_lt_zero _)
  | succ pending ih =>
    cases hb with
    | whole data hsw =>
      rw [collect, Octets.splitLastTwo_append]
      simp only [hsw, true_and, if_true]
      exact .pure ⟨rfl, rfl⟩
    | part front back le =>
      have hne : ¬ (((0x61 : UInt8) = 0x90 ∨ (0x61 : UInt8) = 0x91) ∧ le = 0x00) := by
        rintro ⟨h | h, -⟩ <;> cases h
      rw [collect, Octets.splitLastTwo_append]
      simp only [hne, if_false, if_true]
      refine .bind (transmit_leads hk ⟨back, selected, .left rfl⟩) ?_
      rintro s' ⟨data, response, left, selected', ho, hb, hr, hv, rfl⟩
      obtain ⟨rfl, rfl⟩ := ho.of_getResponse rfl
      rw [hv, (run_transmit hk _ m).2.1]
      have hlength := length_respond hr hb
      refine .bind (ih hb (by omega)) ?_
      rintro s'' ⟨hv', rfl⟩
      rw [hv']
      exact .pure ⟨rfl, rfl⟩

/-- A command for which the card has data brings all of it. -/
theorem handle_leads (hk : k.card = some context) {c : Command}
    (ho : ∃ data selected, Offers f s c.octets data selected) :
    (k.handle c).Leads f s m fun v s' => ∃ data selected, Offers f s c.octets data selected ∧
      v = .ok data ∧ s' = ⟨selected, none⟩ := by
  refine .bind (.look _) ?_
  rintro s' ⟨-, rfl⟩
  simp only [Action.look_apply]
  refine .bind (transmit_leads hk ho) ?_
  rintro s' ⟨data, response, left, selected, ho, hb, hr, hv, rfl⟩
  rw [hv, (run_transmit hk _ _).2.1]
  have hlength := length_respond hr hb
  have hpending : m.respond.2.responses.length < m.responses.length := by omega
  exact (collect_leads hk hb hpending).mono fun v s' h => ⟨data, selected, ho, h⟩

end Connection

end SmartCard.Pcsc
