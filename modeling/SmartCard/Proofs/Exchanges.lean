import SmartCard.Proofs.CardDialogue

/-!
# Exchanges with the card

A journal names the commands that were sent, and the script of the manager says what each of them
was answered. Whatever that is, a call of the driver sends its own command and then nothing but
fetches of what the last answer announced; selecting a file is one such chain, and reading is a
sequence of chains, of which no command addresses a file by its short identifier.
-/
namespace SmartCard.Pcsc

variable {α : Type}

/-- A command, and what the manager answered to it. -/
abbrev Exchange := Octets × Except ReturnCode Octets

/-! ## Commands and their answers -/

namespace Manager

/-- The manager after it has answered commands. -/
def after (m : Manager) : List Octets → Manager
  | [] => m
  | _ :: cs => m.respond.2.after cs

/-- Commands in their order, each with the answer of the manager. -/
def replay (m : Manager) : List Octets → List Exchange
  | [] => []
  | c :: cs => (c, m.respond.1) :: m.respond.2.replay cs

variable {m m' : Manager}

@[simp] theorem after_nil (m : Manager) : m.after [] = m := rfl

@[simp] theorem after_append (m : Manager) (cs cs' : List Octets) :
    m.after (cs ++ cs') = (m.after cs).after cs' := by
  induction cs generalizing m with
  | nil => rfl
  | cons c cs ih => exact ih _

@[simp] theorem replay_append (m : Manager) (cs cs' : List Octets) :
    m.replay (cs ++ cs') = m.replay cs ++ (m.after cs).replay cs' := by
  induction cs generalizing m with
  | nil => rfl
  | cons c cs ih => exact congrArg _ (ih _)

/-- An answer takes nothing from the script but a response. -/
theorem respond_keeps (m : Manager) :
    ∃ rs, m.respond.2 = { m with responses := rs } := by
  rw [respond]
  split
  · exact ⟨m.responses, rfl⟩
  · split
    · split <;> exact ⟨_, rfl⟩
    · exact ⟨_, rfl⟩

theorem after_keeps (m : Manager) (cs : List Octets) :
    ∃ rs, m.after cs = { m with responses := rs } := by
  induction cs generalizing m with
  | nil => exact ⟨m.responses, rfl⟩
  | cons c cs ih =>
    obtain ⟨rs, hr⟩ := m.respond_keeps
    obtain ⟨rs', hr'⟩ := ih m.respond.2
    exact ⟨rs', by rw [after, hr', hr]⟩

/-- Only the responses of the script tell what commands are answered. -/
theorem respond_congr (h : m.responses = m'.responses) :
    m.respond.1 = m'.respond.1 ∧ m.respond.2.responses = m'.respond.2.responses := by
  rw [respond, respond, h]
  split
  · exact ⟨rfl, h⟩
  · split
    · split <;> exact ⟨rfl, rfl⟩
    · exact ⟨rfl, rfl⟩

theorem replay_congr (h : m.responses = m'.responses) (cs : List Octets) :
    m.replay cs = m'.replay cs := by
  induction cs generalizing m m' with
  | nil => rfl
  | cons c cs ih =>
    obtain ⟨hvalue, hrest⟩ := respond_congr h
    rw [replay, replay, hvalue, ih hrest]

end Manager

/-! ## Journals -/

/-- What the manager was asked for, in its order. -/
def events (es : List (Entry Event)) : List Event := es.filterMap Entry.event?

section
variable (es es' : List (Entry Event))

@[simp] theorem events_nil : events [] = [] := rfl

@[simp] theorem events_append : events (es ++ es') = events es ++ events es' :=
  List.filterMap_append

@[simp] theorem events_call (c : Call) (f : Option Fault) : events (.call c f :: es) = events es :=
  rfl

@[simp] theorem events_ofLog (l : Log) : events (.ofLog l :: es) = events es := rfl

@[simp] theorem events_logs (ls : List Log) : events (ls.map .ofLog) = [] := by
  induction ls with
  | nil => rfl
  | cons l ls ih => exact ih

theorem commands_eq_events : commands es = (events es).filterMap Event.command? := by
  rw [events, List.filterMap_filterMap]
  rfl

variable {es}

theorem commands_eq_nil (h : ∀ e ∈ events es, e.command? = none) : commands es = [] := by
  rw [commands_eq_events, List.filterMap_eq_nil_iff]
  exact h

theorem commands_eq_nil_of_events (h : events es = []) : commands es = [] :=
  commands_eq_nil (by simp [h])

end

/-- From one manager to another, all that a journal has of the manager are commands to the card. -/
structure Talk (m : Manager) (es : List (Entry Event)) (m' : Manager) : Prop where
  events : events es = (commands es).map .transmit
  world : m' = m.after (commands es)

namespace Talk

variable {m m' m'' : Manager} {es es' : List (Entry Event)}

theorem done (m : Manager) : Talk m [] m := ⟨rfl, rfl⟩

theorem append (h : Talk m es m') (h' : Talk m' es' m'') : Talk m (es ++ es') m'' where
  events := by rw [events_append, h.events, h'.events, commands_append, List.map_append]
  world := by rw [h'.world, h.world, commands_append, Manager.after_append]

/-- A journal without the manager. -/
theorem still (m : Manager) (he : Pcsc.events es = []) : Talk m es m := by
  have hcommands := commands_eq_nil_of_events he
  exact ⟨by rw [he, hcommands, List.map_nil], by rw [hcommands, Manager.after_nil]⟩

theorem call (c : Call) (f : Option Fault) (h : Talk m es m') : Talk m (.call c f :: es) m' :=
  ⟨h.events, h.world⟩

/-- The exchanges of two journals, one behind the other. -/
theorem replay_append (h : Talk m es m') (es' : List (Entry Event)) :
    m.replay (commands (es ++ es')) = m.replay (commands es) ++ m'.replay (commands es') := by
  rw [commands_append, Manager.replay_append, ← h.world]

end Talk

/-! ## Chains -/

/-- A command and the fetches that its answers ask for, up to the last answer. -/
inductive Chain : Octets → List Exchange → Except ReturnCode Octets → Prop
  | last (c : Octets) (r : Except ReturnCode Octets) : Chain c [(c, r)] r
  | fetch {c data : Octets} {le : UInt8} {xs : List Exchange} {r : Except ReturnCode Octets}
      (h : Chain (Command.getResponse le).octets xs r) :
      Chain c ((c, .ok (data ++ [0x61, le])) :: xs) r

/-- The status of the answer says that the command was carried out. -/
def Accepted (r : Except ReturnCode Octets) : Prop :=
  ∃ data sw1, (sw1 = 0x90 ∨ sw1 = 0x91) ∧ r = .ok (data ++ [sw1, 0x00])

/-- Reads of the selected file. -/
inductive Reads : List Exchange → Prop
  | nil : Reads []
  | cons {position : Nat} {le : UInt8} {xs ys : List Exchange} {r : Except ReturnCode Octets}
      (hp : position ≤ Command.maxPosition) (h : Chain (Command.readBinary position le).octets xs r)
      (hrest : Reads ys) : Reads (xs ++ ys)

theorem Reads.append {xs ys : List Exchange} (h : Reads xs) (h' : Reads ys) : Reads (xs ++ ys) := by
  induction h with
  | nil => exact h'
  | cons hp hc _ ih =>
    rw [List.append_assoc]
    exact .cons hp hc ih

/-! ## Calls of the driver -/

theorem absurd_of_error_eq_ok {ε : Type} {e : ε} {P : Prop}
    (h : ∃ a : α, (.error e : Except ε α) = .ok a) : P := by
  obtain ⟨a, h⟩ := h
  cases h

/-- The work sends commands and does nothing else with the manager; the exchanges and the value
are such as `P` says. -/
def Work.Sends (w : Work α) (m : Manager) (P : List Exchange → α → Prop) : Prop :=
  Talk m ((w m).entries.map .note) (w m).world ∧
    P (m.replay (commands ((w m).entries.map .note))) (w m).value

namespace Work.Sends

variable {β : Type} {w : Work α} {m : Manager} {P : List Exchange → α → Prop}

theorem mono {Q : List Exchange → α → Prop} (h : Sends w m P) (hPQ : ∀ xs a, P xs a → Q xs a) :
    Sends w m Q := ⟨h.1, hPQ _ _ h.2⟩

theorem pure {a : α} (h : P [] a) : Sends (pure a) m P := ⟨.done m, h⟩

theorem bind {g : α → Work β} {Q : List Exchange → β → Prop} (hw : Sends w m P)
    (hg : ∀ xs, P xs (w m).value →
      Sends (g (w m).value) (w m).world fun ys b => Q (xs ++ ys) b) : Sends (w >>= g) m Q := by
  obtain ⟨htalk, hp⟩ := hw
  obtain ⟨htalk', hq⟩ := hg _ hp
  rw [Sends, Action.bind_apply, List.map_append, htalk.replay_append]
  exact ⟨htalk.append htalk', hq⟩

end Work.Sends

namespace Connection

variable {k : Connection} {context : Nat}

theorem events_trace (k : Connection) (text : String) (m : Manager) :
    events ((k.trace text m).entries.map .note) = [] := by
  rw [trace]
  split <;> rfl

/-- Sending a command is one exchange. -/
theorem transmit_sends (hk : k.card = some context) (c : Octets) (m : Manager) :
    (k.transmit c).Sends m fun xs v =>
      xs = [(c, m.respond.1)] ∧ v = m.respond.1.mapError .manager := by
  obtain ⟨hvalue, hworld, hcommands⟩ := run_transmit hk c m
  have hevents : events ((k.transmit c m).entries.map .note) = [.transmit c] := by
    simp only [transmit, hk, Action.bind_apply, run_exchange, (run_trace k _ _).1,
      List.map_append, events_append, events_trace]
    cases m.respond.1 with
    | error code => rfl
    | ok response =>
      simp only [Action.bind_apply, List.map_append, events_append, events_trace]
      rfl
  exact ⟨⟨by rw [hevents, hcommands]; rfl, by rw [hworld, hcommands]; rfl⟩,
    by rw [hcommands]; rfl, hvalue⟩

theorem eq_append_of_splitLastTwo {o data : Octets} {sw1 sw2 : UInt8}
    (h : o.splitLastTwo = some (data, sw1, sw2)) : o = data ++ [sw1, sw2] := by
  rw [Octets.splitLastTwo] at h
  split at h
  next b a r hr =>
    cases h
    rw [← List.reverse_reverse o, hr]
    simp
  next => cases h

/-- A response is the last, with a result of its own, or it announces more. -/
theorem collect_cases (k : Connection) (response : Octets) :
    (∃ v, (∀ pending, k.collect pending response = pure v) ∧
      ((∃ data, v = .ok data) → Accepted (.ok response))) ∨
    ∃ data le, response = data ++ [0x61, le] := by
  cases h : response.splitLastTwo with
  | none =>
    refine .inl ⟨.error (.status 0x00 0x00), fun pending => ?_, absurd_of_error_eq_ok⟩
    rw [collect, h]
  | some p =>
    obtain ⟨data, sw1, sw2⟩ := p
    have he := eq_append_of_splitLastTwo h
    by_cases hok : (sw1 = 0x90 ∨ sw1 = 0x91) ∧ sw2 = 0x00
    · refine .inl ⟨.ok data, fun pending => ?_, fun _ => ⟨data, sw1, hok.1, by rw [he, hok.2]⟩⟩
      rw [collect, h]
      exact if_pos hok
    · by_cases h61 : sw1 = 0x61
      · exact .inr ⟨data, sw2, by rw [he, h61]⟩
      · refine .inl ⟨.error (.status sw1 sw2), fun pending => ?_, absurd_of_error_eq_ok⟩
        rw [collect, h]
        exact (if_neg hok).trans (if_neg h61)

/-- Each further command fetches what the answer before it announced. -/
theorem collect_sends (hk : k.card = some context) (pending : Nat) (response : Octets)
    (m : Manager) :
    (k.collect pending response).Sends m fun xs v => ∀ c, ∃ r,
      Chain c ((c, .ok response) :: xs) r ∧ ((∃ data, v = .ok data) → Accepted r) := by
  have hne (le : UInt8) : ¬(((0x61 : UInt8) = 0x90 ∨ (0x61 : UInt8) = 0x91) ∧ le = 0x00) := by
    rintro ⟨h | h, -⟩ <;> cases h
  induction pending generalizing response m with
  | zero =>
    obtain ⟨v, hv, haccepted⟩ | ⟨data, le, rfl⟩ := collect_cases k response
    · rw [hv]
      exact .pure fun c => ⟨_, .last c _, haccepted⟩
    · rw [collect, Octets.splitLastTwo_append]
      simp only [hne, if_false, if_true]
      exact .pure fun c => ⟨_, .last c _, absurd_of_error_eq_ok⟩
  | succ pending ih =>
    obtain ⟨v, hv, haccepted⟩ | ⟨data, le, rfl⟩ := collect_cases k response
    · rw [hv]
      exact .pure fun c => ⟨_, .last c _, haccepted⟩
    · rw [collect, Octets.splitLastTwo_append]
      simp only [hne, if_false, if_true]
      refine .bind (transmit_sends hk _ m) ?_
      rintro xs ⟨rfl, hv⟩
      rw [hv]
      cases m.respond.1 with
      | error code => exact .pure fun c => ⟨.error code, .fetch (.last _ _), absurd_of_error_eq_ok⟩
      | ok next =>
        refine .bind (ih next _) fun ys hys => .pure fun c => ?_
        -- The rest is a chain behind the fetch, which this response asked for.
        obtain ⟨r, hchain, haccepted⟩ := hys (Command.getResponse le).octets
        refine ⟨r, ?_, ?_⟩
        · rw [List.append_nil]
          exact .fetch hchain
        · rintro ⟨all, hall⟩
          apply haccepted
          generalize (k.collect pending next _).value = v at hall
          cases v with
          | error e => cases hall
          | ok rest => exact ⟨rest, rfl⟩

theorem handle_sends (hk : k.card = some context) (c : Command) (m : Manager) :
    (k.handle c).Sends m fun xs v => ∃ r, Chain c.octets xs r ∧
      ((∃ data, v = .ok data) → Accepted r) := by
  refine .bind (P := fun xs _ => xs = []) ⟨.done m, rfl⟩ ?_
  rintro xs rfl
  refine .bind (transmit_sends hk _ m) ?_
  rintro xs ⟨rfl, hv⟩
  rw [hv]
  cases m.respond.1 with
  | error code => exact .pure ⟨.error code, .last _ _, absurd_of_error_eq_ok⟩
  | ok response => exact (collect_sends hk _ response _).mono fun xs v h => h c.octets

theorem select_sends (hk : k.card = some context) (path : Path) (m : Manager) :
    (k.select path).Sends m fun xs v => ∃ r, Chain (Command.select path).octets xs r ∧
      ((∃ info, v = .ok info) → Accepted r) := by
  refine .bind (handle_sends hk _ m) ?_
  rintro xs ⟨r, hchain, haccepted⟩
  cases hv : (k.handle (.select path) m).value with
  | error e => exact .pure ⟨r, by rwa [List.append_nil], absurd_of_error_eq_ok⟩
  | ok response =>
    have hr := haccepted ⟨response, hv⟩
    dsimp only
    split
    · exact .pure ⟨r, by rwa [List.append_nil], fun _ => hr⟩
    · exact .pure ⟨r, by rwa [List.append_nil], absurd_of_error_eq_ok⟩

theorem readFrom_sends (hk : k.card = some context) (commands position missing : Nat)
    (m : Manager) : (k.readFrom commands position missing).Sends m fun xs _ => Reads xs := by
  induction commands generalizing position missing m with
  | zero => exact .pure .nil
  | succ commands ih =>
    rw [readFrom]
    split_ifs with hmissing hposition
    · exact .pure .nil
    · exact .pure .nil
    · refine .bind (handle_sends hk _ m) ?_
      rintro xs ⟨r, hchain, -⟩
      have hxs : Reads xs := by simpa using Reads.cons (Nat.le_of_not_lt hposition) hchain .nil
      cases (k.handle _ m).value with
      | error e => exact .pure (by rwa [List.append_nil])
      | ok piece =>
        dsimp only
        split_ifs
        · exact .pure (by rwa [List.append_nil])
        · refine .bind (ih _ _ _) fun ys hys => .pure ?_
          rw [List.append_nil]
          exact hxs.append hys

end Connection

end SmartCard.Pcsc
