import SmartCard.Proofs.Exchanges

/-!
# Responses in parts

A card may send its response in parts, of which each but the last announces the next one. The parts
are told by the answers of the manager alone. They are fetched one by one up to the first answer
that announces nothing; the data of all of them is the result if that answer accepts the command,
and otherwise it alone decides which error there is. However long the chain is, it is never cut off.
-/
namespace SmartCard

/-- Octets without a status are less than two. -/
theorem Octets.splitLastTwo_eq_none_iff {o : Octets} : o.splitLastTwo = none ↔ o.length < 2 := by
  rw [splitLastTwo, ← List.length_reverse]
  rcases o.reverse with _ | ⟨b, _ | ⟨a, r⟩⟩
  · simp
  · simp
  · simp

namespace Pcsc

/-! ## The next answers -/

namespace Manager

/-- What the manager answers to the next commands, whatever they are. -/
def answers (m : Manager) : Nat → List (Except ReturnCode Octets)
  | 0 => []
  | n + 1 => m.respond.1 :: m.respond.2.answers n

theorem take_answers {n n' : Nat} (h : n ≤ n') (m : Manager) :
    (m.answers n').take n = m.answers n := by
  induction n generalizing n' m with
  | zero => rfl
  | succ n ih =>
    obtain ⟨n', rfl⟩ := Nat.exists_eq_add_one.mpr (show 0 < n' by omega)
    rw [answers, answers, List.take_succ_cons, ih (Nat.le_of_succ_le_succ h)]

end Manager

/-! ## Parts and the answer behind them -/

/-- A response that announces more of it under a length. -/
structure Part where
  data : Octets
  le : UInt8

namespace Part

def response (p : Part) : Octets := p.data ++ [0x61, p.le]

/-- The command that fetches what the part announces. -/
def fetch (p : Part) : Octets := [0x00, 0xC0, 0x00, 0x00, p.le]

end Part

/-- What an answer that announces nothing makes of a command: the data in it, or an error. -/
inductive Settles : Except ReturnCode Octets → Except Error Octets → Prop
  | accepted (data : Octets) {sw1 : UInt8} (h : sw1 = 0x90 ∨ sw1 = 0x91) :
      Settles (.ok (data ++ [sw1, 0x00])) (.ok data)
  | failed (code : ReturnCode) : Settles (.error code) (.error (.manager code))
  | short {response : Octets} (h : response.length < 2) :
      Settles (.ok response) (.error (.status 0x00 0x00))
  | refused (data : Octets) {sw1 sw2 : UInt8} (h : ¬((sw1 = 0x90 ∨ sw1 = 0x91) ∧ sw2 = 0x00))
      (h61 : sw1 ≠ 0x61) : Settles (.ok (data ++ [sw1, sw2])) (.error (.status sw1 sw2))

theorem settles_or_part (r : Except ReturnCode Octets) :
    (∃ v, Settles r v) ∨ ∃ p : Part, r = .ok p.response := by
  cases r with
  | error code => exact .inl ⟨_, .failed code⟩
  | ok response =>
    cases h : response.splitLastTwo with
    | none => exact .inl ⟨_, .short (Octets.splitLastTwo_eq_none_iff.mp h)⟩
    | some s =>
      obtain ⟨data, sw1, sw2⟩ := s
      have he := Connection.eq_append_of_splitLastTwo h
      subst he
      by_cases hok : (sw1 = 0x90 ∨ sw1 = 0x91) ∧ sw2 = 0x00
      · obtain ⟨hsw1, rfl⟩ := hok
        exact .inl ⟨_, .accepted data hsw1⟩
      · by_cases h61 : sw1 = 0x61
        · subst h61
          exact .inr ⟨⟨data, sw2⟩, rfl⟩
        · exact .inl ⟨_, .refused data hok h61⟩

/-- The next answers of the manager are parts, and then one that announces nothing. -/
structure Parted (m : Manager) (parts : List Part) (last : Except ReturnCode Octets)
    (v : Except Error Octets) : Prop where
  answers : m.answers (parts.length + 1) = parts.map (fun p => .ok p.response) ++ [last]
  settles : Settles last v

namespace Parted

variable {m : Manager} {parts : List Part} {p : Part} {last : Except ReturnCode Octets}
  {v : Except Error Octets}

theorem nil (h : Settles m.respond.1 v) : Parted m [] m.respond.1 v := ⟨rfl, h⟩

theorem cons (hp : m.respond.1 = .ok p.response) (h : Parted m.respond.2 parts last v) :
    Parted m (p :: parts) last v := by
  refine ⟨?_, h.settles⟩
  rw [List.length_cons, Manager.answers, hp, h.answers]
  rfl

theorem respond_eq (h : Parted m [] last v) : m.respond.1 = last := (List.cons.inj h.answers).1

theorem uncons (h : Parted m (p :: parts) last v) :
    m.respond.1 = .ok p.response ∧ Parted m.respond.2 parts last v := by
  obtain ⟨hp, hrest⟩ := List.cons.inj h.answers
  exact ⟨hp, hrest, h.settles⟩

/-- Of answers that are all in the chain but the last, each announces more. -/
theorem length_lt (h : Parted m parts last v) {n : Nat} {r : Except ReturnCode Octets}
    (hr : r ∈ m.answers n) (hclosed : ∀ p : Part, r ≠ .ok p.response) : parts.length < n := by
  by_contra hn
  have hn : n ≤ parts.length := Nat.le_of_not_lt hn
  rw [← Manager.take_answers (Nat.le_succ_of_le hn), h.answers,
    List.take_append_of_le_length (by rwa [List.length_map])] at hr
  obtain ⟨p, -, rfl⟩ := List.mem_map.mp (List.mem_of_mem_take hr)
  exact hclosed p rfl

end Parted

/-- A part is a response of the script, since the last thing that a manager says announces
nothing. -/
theorem length_respond_part {m : Manager} {p : Part} (h : m.respond.1 = .ok p.response) :
    m.respond.2.responses.length + 1 = m.responses.length :=
  length_respond h (CardFile.Brings.part p.data [] p.le)

/-- Each chain ends. -/
theorem exists_parted (m : Manager) : ∃ parts last v, Parted m parts last v := by
  -- Each part leaves fewer responses in the script.
  induction hlength : m.responses.length generalizing m with
  | zero =>
    obtain ⟨v, hv⟩ | ⟨p, hp⟩ := settles_or_part m.respond.1
    · exact ⟨_, _, _, .nil hv⟩
    · have := length_respond_part hp
      omega
  | succ n ih =>
    obtain ⟨v, hv⟩ | ⟨p, hp⟩ := settles_or_part m.respond.1
    · exact ⟨_, _, _, .nil hv⟩
    · have hrest := length_respond_part hp
      obtain ⟨parts, last, v, h⟩ := ih m.respond.2 (by omega)
      exact ⟨_, _, _, .cons hp h⟩

/-! ## Gathering -/

namespace Connection

variable {k : Connection} {context : Nat} {m : Manager} {parts : List Part}
  {last : Except ReturnCode Octets} {v : Except Error Octets}

/-- Sends octets and gathers what they are answered, with at most `pending` fetches. -/
def gather (k : Connection) (pending : Nat) (command : Octets) : Work (Except Error Octets) := do
  match ← k.transmit command with
  | .error e => return .error e
  | .ok response => k.collect pending response

theorem handle_eq_gather (k : Connection) (c : Command) (m : Manager) :
    k.handle c m = k.gather m.responses.length c.octets m := rfl

theorem collect_of_settles {response : Octets} (h : Settles (.ok response) v) (pending : Nat) :
    k.collect pending response = pure v := by
  cases h with
  | accepted data hsw1 =>
    rw [collect, Octets.splitLastTwo_append]
    exact if_pos ⟨hsw1, rfl⟩
  | short hl => rw [collect, Octets.splitLastTwo_eq_none_iff.mpr hl]
  | refused data hok h61 =>
    rw [collect, Octets.splitLastTwo_append]
    exact (if_neg hok).trans (if_neg h61)

/-- Behind a part the next one is fetched. -/
theorem collect_part (k : Connection) (pending : Nat) (p : Part) :
    k.collect (pending + 1) p.response =
      (fun v => v.map (p.data ++ ·)) <$> k.gather pending p.fetch := by
  have hne : ¬(((0x61 : UInt8) = 0x90 ∨ (0x61 : UInt8) = 0x91) ∧ p.le = 0x00) := by
    rintro ⟨h | h, -⟩ <;> cases h
  rw [Part.response, collect, Octets.splitLastTwo_append]
  simp only [hne, if_false, if_true, gather, map_bind]
  refine congrArg (k.transmit _ >>= ·) (funext fun r => ?_)
  cases r with
  | error e => rfl
  | ok response => rfl

theorem gather_of_settles (hk : k.card = some context) (h : Settles m.respond.1 v)
    (pending : Nat) (command : Octets) :
    let r := k.gather pending command m
    r.value = v ∧ commands (r.entries.map .note) = [command] := by
  obtain ⟨hvalue, -, hcommands⟩ := run_transmit hk command m
  rw [gather, Action.bind_apply, hvalue]
  cases hr : m.respond.1 with
  | error code =>
    rw [hr] at h
    cases h
    simp [Except.mapError, hcommands]
  | ok response =>
    rw [hr] at h
    simp [Except.mapError, collect_of_settles h, hcommands]

theorem gather_of_part {p : Part} (hk : k.card = some context)
    (hp : m.respond.1 = .ok p.response) (pending : Nat) (command : Octets) :
    let r := k.gather (pending + 1) command m
    let rest := k.gather pending p.fetch m.respond.2
    r.value = rest.value.map (p.data ++ ·) ∧
      commands (r.entries.map .note) = command :: commands (rest.entries.map .note) := by
  obtain ⟨hvalue, hworld, hcommands⟩ := run_transmit hk command m
  rw [gather, Action.bind_apply, hvalue, hworld, hp]
  simp [Except.mapError, collect_part, hcommands]

/-- Enough fetches for what is in the script are enough for the chain. -/
theorem run_gather (hk : k.card = some context) (h : Parted m parts last v) {pending : Nat}
    (hpending : m.responses.length ≤ pending) (command : Octets) :
    let r := k.gather pending command m
    r.value = v.map (parts.flatMap Part.data ++ ·) ∧
      commands (r.entries.map .note) = command :: parts.map Part.fetch := by
  induction parts generalizing m pending command with
  | nil =>
    have hsettles := h.settles
    rw [← h.respond_eq] at hsettles
    have hv : v.map (([] : List Part).flatMap Part.data ++ ·) = v := by cases v <;> rfl
    rw [hv]
    exact gather_of_settles hk hsettles pending command
  | cons p parts ih =>
    obtain ⟨hp, hrest⟩ := h.uncons
    have hlength := length_respond_part hp
    obtain ⟨pending, rfl⟩ := Nat.exists_eq_add_one.mpr (show 0 < pending by omega)
    obtain ⟨hvalue, hcommands⟩ := gather_of_part hk hp pending command
    obtain ⟨hvalue', hcommands'⟩ := ih hrest (show _ ≤ pending by omega) p.fetch
    refine ⟨?_, ?_⟩
    · rw [hvalue, hvalue']
      cases v <;> simp [Except.map]
    · rw [hcommands, hcommands', List.map_cons]

theorem run_handle_closed (hk : k.card = none) (c : Command) (m : Manager) :
    (k.handle c m).value = .error .closed ∧ (k.handle c m).world = m ∧
      commands ((k.handle c m).entries.map .note) = [] := by
  obtain ⟨hworld, hcommands⟩ := run_trace k s!"TX: {Hex.lower c.octets}" m
  simp only [handle, transmit, hk, Action.bind_apply, Action.look_apply, Action.pure_apply,
    List.append_nil, List.nil_append]
  exact ⟨trivial, hworld, hcommands⟩

/-- A command succeeds exactly if the manager answers with parts and then with a response that
accepts the command, and brings the data of all of them. The parts are fetched in turn up to the
first answer that announces nothing, and there always is one; nothing is sent behind it. If it does
not accept the command it is the error, whatever was gathered before. A card that was given up is
sent nothing. -/
theorem handle_follows_chain (k : Connection) (c : Command) (m : Manager) :
    let r := k.handle c m
    let sent := commands (r.entries.map .note)
    (∀ context, k.card = some context →
      (∀ payload, r.value = .ok payload ↔
        ∃ (parts : List Part) (data : Octets) (sw1 : UInt8), (sw1 = 0x90 ∨ sw1 = 0x91) ∧
          m.answers (parts.length + 1) =
            parts.map (fun p => .ok p.response) ++ [.ok (data ++ [sw1, 0x00])] ∧
          payload = parts.flatMap Part.data ++ data) ∧
      (∃ parts last v, Parted m parts last v) ∧
      (∀ parts last v, Parted m parts last v →
        sent = c.octets :: parts.map Part.fetch ∧
        (∀ data, v = .ok data → r.value = .ok (parts.flatMap Part.data ++ data)) ∧
        ∀ e, v = .error e → r.value = .error e) ∧
      (∀ n, (∃ last ∈ m.answers n, ∀ p : Part, last ≠ .ok p.response) → sent.length ≤ n) ∧
      events (r.entries.map .note) = sent.map .transmit ∧ r.world = m.after sent) ∧
    (k.card = none → r.value = .error .closed ∧ sent = [] ∧ r.world = m) := by
  intro r sent
  refine ⟨fun context hk => ?_, fun hk => ?_⟩
  · have hrun {parts last v} (h : Parted m parts last v) :
        r.value = v.map (parts.flatMap Part.data ++ ·) ∧
          sent = c.octets :: parts.map Part.fetch := by
      simpa only [r, sent, handle_eq_gather] using run_gather hk h (Nat.le_refl _) c.octets
    obtain ⟨parts, last, v, h⟩ := exists_parted m
    obtain ⟨hvalue, hsent⟩ := hrun h
    obtain ⟨htalk, -⟩ := handle_sends hk c m
    refine ⟨fun payload => ⟨fun hpayload => ?_, ?_⟩, ⟨parts, last, v, h⟩, ?_, ?_, htalk.events,
      htalk.world⟩
    · rw [hvalue] at hpayload
      -- The chain that there is ended with an answer that accepts.
      cases h.settles with
      | accepted data hsw1 =>
        cases hpayload
        exact ⟨parts, data, _, hsw1, h.answers, rfl⟩
      | failed | short | refused => cases hpayload
    · rintro ⟨parts', data, sw1, hsw1, hanswers, rfl⟩
      exact (hrun ⟨hanswers, .accepted data hsw1⟩).1
    · intro parts' last' v' h'
      obtain ⟨hvalue', hsent'⟩ := hrun h'
      refine ⟨hsent', ?_, ?_⟩
      · rintro data rfl
        exact hvalue'
      · rintro e rfl
        exact hvalue'
    · rintro n ⟨closing, hmem, hclosing⟩
      rw [hsent, List.length_cons, List.length_map]
      exact h.length_lt hmem hclosing
  · obtain ⟨hvalue, hworld, hcommands⟩ := run_handle_closed hk c m
    exact ⟨hvalue, hcommands, hworld⟩

/-- A card that announces more behind data which looks like a status. -/
def lookalike : Manager :=
  { Script.quiet with
    responses := [.ok [0x90, 0x00, 0x61, 0x02], .ok [0xAB, 0xCD, 0x91, 0x00], .ok [0x90, 0x00]]
  }.start

theorem handle_follows_chain_lookalike :
    let c := Command.readBinary 0 4
    let r := Connection.handle ⟨some 0, false⟩ c lookalike
    lookalike.answers 2 = [.ok [0x90, 0x00, 0x61, 0x02], .ok [0xAB, 0xCD, 0x91, 0x00]] ∧
      r.value = .ok [0x90, 0x00, 0xAB, 0xCD] ∧
      commands (r.entries.map .note) =
        [[0x00, 0xB0, 0x00, 0x00, 0x04], [0x00, 0xC0, 0x00, 0x00, 0x02]] ∧
      (Connection.handle ⟨none, false⟩ c lookalike).value = .error .closed := by
  intro c r
  have h : Parted lookalike [⟨[0x90, 0x00], 0x02⟩] (.ok [0xAB, 0xCD, 0x91, 0x00])
      (.ok [0xAB, 0xCD]) := ⟨rfl, .accepted [0xAB, 0xCD] (.inr rfl)⟩
  obtain ⟨hchain, -⟩ := handle_follows_chain ⟨some 0, false⟩ c lookalike
  obtain ⟨-, -, hparts, -⟩ := hchain 0 rfl
  obtain ⟨hsent, hvalue, -⟩ := hparts _ _ _ h
  obtain ⟨-, hclosed⟩ := handle_follows_chain ⟨none, false⟩ c lookalike
  exact ⟨rfl, hvalue _ rfl, hsent, (hclosed rfl).1⟩

end Connection

end Pcsc

end SmartCard
