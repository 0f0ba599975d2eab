import Mathlib.Data.List.Basic
import SmartCard.Pcsc.Stack
import SmartCard.Proofs.Exchanges
import SmartCard.Session

/-!
# What the manager grants and gets back

Opening a session asks the manager for a context, for the presence of a card, for the card and for
exclusive access to it, and stops at the first of these that it does not get. What was granted has a
way to be given back, which is tried once more where the first attempt fails. An opening that fails
gives back all that it was granted, the newest first, and so does closing a session.
-/
namespace SmartCard.Pcsc

/-! ## Grants -/

/-- What opening a session asks for, in this order. -/
def wanted (reader : Nat) : List Event :=
  [.establish, .status reader, .connect reader, .reconnect .exclusive]

theorem command?_of_mem_wanted {e : Event} {reader : Nat} (h : e ∈ wanted reader) :
    e.command? = none := by
  simp only [wanted, List.mem_cons, List.not_mem_nil, or_false] at h
  rcases h with rfl | rfl | rfl | rfl <;> rfl

namespace Script

/-- The manager grants something that has to be given back. -/
def grants (s : Script) : Event → Bool
  | .establish => s.establish.isNone
  | .connect reader => (s.readers[reader]?).any (·.connect.isNone)
  | .reconnect .exclusive => s.reconnects.head?.join.isNone
  | _ => false

@[simp] theorem grants_status (s : Script) (reader : Nat) : s.grants (.status reader) = false := rfl

/-- The readers can be listed; that there are none is no failure. -/
def lists (s : Script) : Bool := s.list.all (· = .noReadersAvailable)

/-- A first attempt, and a second one if the first fails. -/
def attempts (code : Option ReturnCode) (first second : Event) : List Event :=
  if code.isSome then [first, second] else [first]

theorem mem_attempts {code : Option ReturnCode} {first second e : Event}
    (h : e ∈ attempts code first second) : e = first ∨ e = second := by
  unfold attempts at h
  split at h <;> simp_all

/-- How to give back what was granted on a call. A card that cannot be left as it is is reset. A
context whose readers cannot be listed is dropped, which is not tried again. -/
def undo (s : Script) : Event → List Event
  | .establish => attempts (if s.lists then s.release else none) .release .release
  | .connect _ => attempts s.disconnect (.disconnect .leave) (.disconnect .reset)
  | .reconnect .exclusive => [.reconnect .shared]
  | _ => []

/-- Gives back what was granted on calls, the newest first. -/
def undoAll (s : Script) (es : List Event) : List Event :=
  (es.filter s.grants).reverse.flatMap s.undo

theorem undoAll_cons (s : Script) (e : Event) (es : List Event) :
    s.undoAll (e :: es) = s.undoAll es ++ if s.grants e then s.undo e else [] := by
  cases h : s.grants e <;> simp [undoAll, h]

@[simp] theorem undoAll_nil (s : Script) : s.undoAll [] = [] := rfl

theorem command?_of_mem_undoAll {s : Script} {e : Event} {es : List Event} (h : e ∈ s.undoAll es) :
    e.command? = none := by
  obtain ⟨e', -, he⟩ := List.mem_flatMap.mp h
  cases e' with
  | reconnect mode =>
    cases mode with
    | shared => cases he
    | exclusive =>
      rw [List.mem_singleton.mp he]
      rfl
  | establish | connect => rcases mem_attempts he with rfl | rfl <;> rfl
  | status | transmit | disconnect | release => cases he

/-- A manager with one context, which so many objects hold. -/
def held (s : Script) (holders : Nat) : Manager := ⟨s, 1, List.replicate holders 0⟩

@[simp] theorem toScript_held (s : Script) (n : Nat) : (s.held n).toScript = s := rfl

@[simp] theorem toScript_start (s : Script) : s.start.toScript = s := rfl

/-- What is left of the script when the share mode has been changed. -/
def shared (s : Script) : Script := { s with reconnects := s.reconnects.tail }

end Script

/-! ## What work asks of the manager -/

def Work.asks {α : Type} (w : Work α) (m : Manager) : List Event :=
  events ((w m).entries.map .note)

section
variable {α β : Type}

@[simp] theorem event_apply (e : Event) (m : Manager) : event e m = ⟨(), m, [.event e]⟩ := rfl

@[simp] theorem debug_apply (text : String) (m : Manager) :
    debug text m = ⟨(), m, [.log ⟨.debug, text⟩]⟩ := rfl

@[simp] theorem asks_pure (a : α) (m : Manager) : Work.asks (pure a) m = [] := rfl

@[simp] theorem asks_look (f : Manager → α) (m : Manager) : Work.asks (Action.look f) m = [] := rfl

@[simp] theorem asks_change (f : Manager → Manager) (m : Manager) :
    Work.asks (Action.change f) m = [] := rfl

@[simp] theorem asks_debug (text : String) (m : Manager) : Work.asks (debug text) m = [] := rfl

@[simp] theorem asks_event (e : Event) (m : Manager) : Work.asks (event e) m = [e] := rfl

@[simp] theorem asks_logs (xs : List α) (f : α → Log) (m : Manager) :
    Work.asks (Action.writeAll (xs.map fun x => .log (f x))) m = [] := by
  have hentries : (xs.map fun x => Note.log (f x)).map Entry.note =
      (xs.map f).map (Entry.ofLog (ε := Event)) := by
    simp [Entry.ofLog]
  rw [Work.asks, Action.writeAll_apply, hentries, events_logs]

@[simp] theorem asks_bind (w : Work α) (g : α → Work β) (m : Manager) :
    Work.asks (w >>= g) m = w.asks m ++ (g (w m).value).asks (w m).world := by
  simp [Work.asks]

@[simp] theorem asks_map (f : α → β) (w : Work α) (m : Manager) :
    Work.asks (f <$> w) m = w.asks m := by
  simp [Work.asks]

end

/-! ## Calls -/

section
variable (s : Script)

/-- The last object that holds the context takes the context with it. -/
theorem run_drop (n : Nat) :
    (drop 0 (s.held (n + 1))).world = s.held n ∧
      (drop 0).asks (s.held (n + 1)) = if n = 0 then [.release] else [] := by
  have hworld : Manager.letGo 0 (s.held (n + 1)) = s.held n := by
    simp [Manager.letGo, Script.held, List.replicate_succ]
  have hmem : 0 ∈ (s.held n).holders ↔ n ≠ 0 := by simp [Script.held]
  cases n with
  | zero => simp [drop, hworld, hmem]
  | succ n => simp [drop, hworld, hmem]

namespace Context

/-- The readers are listed, or the context has been given back. -/
theorem listed_cases (traced : Bool) :
    let w := listed 0 traced
    (∃ e, (w (s.held 1)).value = .error e ∧ (w (s.held 1)).world = s.held 0 ∧
      w.asks (s.held 1) = [.release] ∧ s.lists = false) ∨
    (∃ c, (w (s.held 1)).value = .ok c ∧ c.handle = some 0 ∧ (w (s.held 1)).world = s.held 1 ∧
      w.asks (s.held 1) = [] ∧ s.lists = true) := by
  intro w
  cases hl : s.list with
  | some code =>
    have hnames : (s.held 1).names = .error code := by simp [Manager.names, Script.held, hl]
    by_cases hc : code = .noReadersAvailable
    · right
      simp [w, listed, hnames, hc, Script.lists, hl]
    · left
      obtain ⟨hworld, hasks⟩ := run_drop s 0
      simp [w, listed, hnames, hc, Script.lists, hl, hworld, hasks]
  | none =>
    have hnames : (s.held 1).names = if s.readers.isEmpty then .error .noReadersAvailable
        else .ok ((s.readers.map (·.name)).takeWhile (· ≠ "")) := by
      simp [Manager.names, Script.held, hl]
    right
    cases hr : s.readers with
    | nil => simp [w, listed, hnames, hr, Script.lists, hl]
    | cons r rs => simp [w, listed, hnames, hr, Script.lists, hl]

/-- A context is granted with the list of its readers, or nothing is left of it. -/
theorem establish_cases (application : String) (traced : Bool) :
    let w := establish application traced
    (∃ e, (w s.start).value = .error e ∧ (w s.start).world.responses = s.responses ∧
      w.asks s.start = .establish :: s.undoAll [.establish]) ∨
    (∃ c, (w s.start).value = .ok c ∧ c.handle = some 0 ∧ (w s.start).world = s.held 1 ∧
      w.asks s.start = [.establish] ∧ s.grants .establish = true ∧ s.lists = true) := by
  intro w
  have hhold : Manager.hold 0 ⟨s, 1, s.start.holders⟩ = s.held 1 := rfl
  have hcontexts : s.start.contexts = 0 := rfl
  cases he : s.establish with
  | some code =>
    left
    simp [w, establish, he, Script.undoAll, Script.grants]
  | none =>
    rcases listed_cases s traced with ⟨e, hv, hr, ha, hl⟩ | ⟨c, hv, hc, hw, ha, hl⟩
    · left
      simp [w, establish, he, hhold, hcontexts, hv, hr, ha, hl, Script.undoAll, Script.grants,
        Script.undo, Script.attempts]
    · right
      simp [w, establish, he, hhold, hcontexts, hv, hc, hw, ha, hl, Script.grants]

variable {s} {c : Context} {reader : Nat} {name : String}

theorem run_detect (hc : c.handle = some 0) (hname : c.readers[reader]? = some name) :
    (c.detect reader (s.held 1)).world = s.held 1 ∧
      (c.detect reader).asks (s.held 1) = [.status ((s.held 1).indexOf name)] := by
  simp only [detect, target, hname, hc]
  cases hr : (s.held 1).readerNamed? name with
  | none => simp [hr]
  | some r => cases hs : r.status <;> simp [hr, hs]

theorem connect_cases (hc : c.handle = some 0) (hname : c.readers[reader]? = some name) :
    let o := c.connect reader (s.held 1)
    (c.connect reader).asks (s.held 1) = [.connect ((s.held 1).indexOf name)] ∧
    ((∃ e, o.value = .error e ∧ o.world = s.held 1 ∧
        s.grants (.connect ((s.held 1).indexOf name)) = false) ∨
      ∃ k, o.value = .ok k ∧ k.card = some 0 ∧ o.world = s.held 2 ∧
        s.grants (.connect ((s.held 1).indexOf name)) = true) := by
  have hreader : s.readers[(s.held 1).indexOf name]? = (s.held 1).readerNamed? name :=
    List.find?_eq_getElem?_findIdx.symm
  have hhold : Manager.hold 0 (s.held 1) = s.held 2 := rfl
  simp only [connect, target, hname, hc, Script.grants, hreader]
  cases hr : (s.held 1).readerNamed? name with
  | none => simp [hr]
  | some r => cases hs : r.connect <;> simp [hr, hs, hhold]

/-- A context that nothing else holds is given back. -/
theorem run_release (hc : c.handle = some 0) (hl : s.lists = true) :
    (c.release (s.held 1)).world.responses = s.responses ∧
      c.release.asks (s.held 1) = s.undo .establish := by
  obtain ⟨hworld, hasks⟩ := run_drop s 0
  have hcount : (s.held 1).holders.count 0 = 1 := rfl
  simp only [release, hc, giveBack, releaseSole, Script.undo, hl, if_true, Script.attempts]
  cases hr : s.release with
  | none => simp [hcount, hr, Manager.letGo]
  | some code => simp [hcount, hr, notReleased, hworld, hasks]

end Context

/-- The next change of the share mode succeeds or fails as the script says, and is used up. -/
theorem reconnect_held (n : Nat) :
    (s.held n).reconnect = (s.reconnects.head?.join, s.shared.held n) := by
  obtain ⟨readers, establish, list, release, disconnect, reconnects, responses⟩ := s
  cases reconnects with
  | nil => rfl
  | cons code codes => rfl

namespace Connection

variable {s} {k : Connection}

theorem lock_cases (hk : k.card = some 0) :
    (k.lock (s.held 2)).world = s.shared.held 2 ∧
    k.lock.asks (s.held 2) = [.reconnect .exclusive] ∧
    ((∃ e, (k.lock (s.held 2)).value = .error e ∧ s.grants (.reconnect .exclusive) = false) ∨
      (k.lock (s.held 2)).value = .ok () ∧ s.grants (.reconnect .exclusive) = true) := by
  simp only [lock, hk, share, Script.grants]
  cases hr : s.reconnects.head?.join <;> simp [reconnect_held, hr]

theorem run_unlock (hk : k.card = some 0) :
    (k.unlock (s.held 2)).world = s.shared.held 2 ∧
      k.unlock.asks (s.held 2) = [.reconnect .shared] := by
  simp only [unlock, hk, share]
  cases hr : s.reconnects.head?.join <;> simp [reconnect_held, hr]

/-- A card is given back, and with it one of the holds on the context. -/
theorem run_disconnect (hk : k.card = some 0) (reader : Nat) :
    (k.disconnect (s.held 2)).world = s.held 1 ∧
      k.disconnect.asks (s.held 2) = s.undo (.connect reader) := by
  obtain ⟨hworld, hasks⟩ := run_drop s 1
  simp only [disconnect, hk, giveBack, discard, Script.undo, Script.attempts]
  cases hr : s.disconnect <;> simp [hr, hworld, hasks]

end Connection

end

/-! ## The driver stack -/

section
variable {α : Type} (c : Context) (k : Connection)

@[simp] theorem stack_establish (application : String) (debug : Bool) :
    stack.establish application debug = (Context.establish application debug).reply := rfl

@[simp] theorem stack_readerCount (m : Manager) : stack.readerCount m c = c.readers.length := rfl

@[simp] theorem stack_detect (reader : Nat) : stack.detect c reader = (c.detect reader).reply := rfl

@[simp] theorem stack_connect (reader : Nat) :
    stack.connect c reader = (c.connect reader).reply := rfl

@[simp] theorem stack_lock : stack.lock k = k.lock.reply := rfl

@[simp] theorem stack_unlock : stack.unlock k = k.unlock := rfl

@[simp] theorem stack_disconnect_apply (m : Manager) :
    stack.disconnect k m = ⟨(), (k.disconnect m).world, (k.disconnect m).entries⟩ := by
  simp [stack]

@[simp] theorem stack_release_apply (m : Manager) :
    stack.release c m = ⟨(), (c.release m).world, (c.release m).entries⟩ := by
  simp [stack]

@[simp] theorem reply_apply (w : Work (Except Error α)) (m : Manager) :
    w.reply m = ⟨(w m).value.mapError Error.fault, (w m).world, (w m).entries⟩ := by
  simp [Work.reply]

@[simp] theorem events_notes (w : Work α) (m : Manager) :
    events ((w m).entries.map .note) = w.asks m := rfl

end

/-! ## Sessions -/

/-- A session that was opened on a reader has been granted all that it wanted, and nothing else has
happened to the manager. -/
structure Opened (s : Script) (t : Session Context Connection Empty) (reader : Nat) (m : Manager) :
    Prop where
  backend : t.backend = none
  serial : t.serial = none
  context : t.context.handle = some 0
  connection : t.connection.card = some 0
  world : m = s.shared.held 2
  lists : s.lists = true
  context_granted : s.grants .establish = true
  card_granted : s.grants (.connect reader) = true
  lock_granted : s.grants (.reconnect .exclusive) = true

attribute [local simp] Task.run_bind Task.run_call Task.run_recover Task.run_require Task.callOr
  Call.makeSure faultOf Except.map Except.mapError

/-- A card that cannot be locked is given back. -/
theorem lockCard_cases (o : Options) {s : Script} {k : Connection} (hk : k.card = some 0)
    (reader : Nat) :
    let p := (Session.lockCard stack o k).run (s.held 2)
    (∃ f, p.value = .error f ∧ p.world = s.shared.held 1 ∧
      s.grants (.reconnect .exclusive) = false ∧
      events p.entries = .reconnect .exclusive :: s.undo (.connect reader)) ∨
    (p.value = .ok () ∧ p.world = s.shared.held 2 ∧ s.grants (.reconnect .exclusive) = true ∧
      events p.entries = [.reconnect .exclusive]) := by
  intro p
  obtain ⟨hworld, hasks, hlocked⟩ := Connection.lock_cases (s := s) hk
  rcases hlocked with ⟨e, hv, hgrant⟩ | ⟨hv, hgrant⟩
  · obtain ⟨hleft, hgiven⟩ := Connection.run_disconnect (s := s.shared) hk reader
    have hundo : s.shared.undo (.connect reader) = s.undo (.connect reader) := rfl
    left
    simp [p, Session.lockCard, hv, hworld, hasks, hgrant, hleft, hgiven, hundo]
  · right
    simp [p, Session.lockCard, hv, hworld, hasks, hgrant]

/-- Connecting a card holds it and its lock in the end, or neither. -/
theorem connect_cases (o : Options) {s : Script} {c : Context} (hc : c.handle = some 0) :
    let p := (Session.connect stack o c).run (s.held 1)
    ∃ reader,
      (∃ f front, p.value = .error f ∧ (p.world = s.held 1 ∨ p.world = s.shared.held 1) ∧
        .establish :: front <+: wanted reader ∧ events p.entries = front ++ s.undoAll front) ∨
      ∃ k, p.value = .ok k ∧ k.card = some 0 ∧ p.world = s.shared.held 2 ∧
        .establish :: events p.entries = wanted reader ∧
        s.grants (.connect reader) = true ∧ s.grants (.reconnect .exclusive) = true := by
  intro p
  by_cases hcount : o.reader < c.readers.length
  case neg =>
    refine ⟨0, .inl ⟨.cardError, [], ?_⟩⟩
    simp [p, Session.connect, hcount, wanted]
  have hname : c.readers[o.reader]? = some c.readers[o.reader] := List.getElem?_eq_getElem hcount
  obtain ⟨hdetected, hstatus⟩ := Context.run_detect (s := s) hc hname
  obtain ⟨hconnect, hconnected⟩ := Context.connect_cases (s := s) hc hname
  refine ⟨(s.held 1).indexOf c.readers[o.reader], ?_⟩
  generalize (s.held 1).indexOf c.readers[o.reader] = reader at *
  cases hd : (c.detect o.reader (s.held 1)).value with
  | error e =>
    refine .inl ⟨.cardNotPresent, [.status reader], ?_⟩
    simp [p, Session.connect, hcount, hd, hdetected, hstatus, wanted,
      Script.undoAll_cons]
  | ok present =>
    cases present with
    | false =>
      refine .inl ⟨.cardNotPresent, [.status reader], ?_⟩
      simp [p, Session.connect, hcount, hd, hdetected, hstatus, wanted,
        Script.undoAll_cons]
    | true =>
      rcases hconnected with ⟨e, hv, hw, hgrant⟩ | ⟨k, hv, hk, hw, hgrant⟩
      · refine .inl ⟨.ofFault e.fault, [.status reader, .connect reader], ?_⟩
        simp [p, Session.connect, hcount, hd, hdetected, hstatus, hv, hw,
          hconnect, wanted, Script.undoAll_cons, hgrant]
      · rcases lockCard_cases o (s := s) hk reader with
          ⟨f, hv', hworld, hgrant', hasks⟩ | ⟨hv', hworld, hgrant', hasks⟩
        · refine .inl ⟨f, [.status reader, .connect reader, .reconnect .exclusive], ?_⟩
          simp [p, Session.connect, hcount, hd, hdetected, hstatus, hv, hw,
            hconnect, hv', hworld, hasks, wanted, Script.undoAll_cons, hgrant, hgrant']
        · refine .inr ⟨k, ?_⟩
          simp [p, Session.connect, hcount, hd, hdetected, hstatus, hv, hk, hw,
            hconnect, hv', hworld, hasks, wanted, hgrant, hgrant']

/-- Opening asks for one thing after the other, and holds all of them or none in the end. -/
theorem start_cases (parser : CertificateParser) (o : Options) (s : Script) :
    let p := (Session.start stack parser o).run s.start
    ∃ reader,
      (∃ f front, p.value = .error f ∧ p.world.responses = s.responses ∧
        front <+: wanted reader ∧ events p.entries = front ++ s.undoAll front) ∨
      ∃ t, p.value = .ok t ∧ Opened s t reader p.world ∧ events p.entries = wanted reader := by
  intro p
  rcases Context.establish_cases s o.appName o.debugTransport with
    ⟨e, hv, hr, ha⟩ | ⟨c, hv, hc, hw, ha, hgrant, hlists⟩
  · refine ⟨0, .inl ⟨.ofFault e.fault, [.establish], ?_⟩⟩
    simp [p, Session.start, hv, hr, ha, wanted]
  · obtain ⟨reader, hcases⟩ := connect_cases o (s := s) hc
    refine ⟨reader, ?_⟩
    rcases hcases with ⟨f, front, hf, hworld, hfront, hevents⟩ |
      ⟨k, hk, hcard, hworld, hevents, hconnect, hlock⟩
    · -- An attempt to lock may have used up a return code, on which a release does not depend.
      obtain ⟨s', hs, hundo, hresponses, hlists'⟩ : ∃ s' : Script,
          ((Session.connect stack o c).run (s.held 1)).world = s'.held 1 ∧
          s'.undo .establish = s.undo .establish ∧ s'.responses = s.responses ∧
          s'.lists = true := by
        rcases hworld with hworld | hworld
        · exact ⟨s, hworld, rfl, rfl, hlists⟩
        · exact ⟨s.shared, hworld, rfl, rfl, hlists⟩
      obtain ⟨hreleased, hgiven⟩ := Context.run_release hc hlists'
      refine .inl ⟨f, .establish :: front, ?_⟩
      simp [p, Session.start, hv, hw, ha, hf, hs, hfront, hevents, hreleased, hgiven, hundo,
        hresponses, Script.undoAll_cons, hgrant]
    · refine .inr ⟨⟨o, parser, c, k, none, none⟩, ?_, ⟨rfl, rfl, hc, hcard, ?_, hlists, hgrant,
        hconnect, hlock⟩, ?_⟩
      · simp [p, Session.start, hv, hw, hk]
      · simp [p, Session.start, hv, hw, hk, hworld]
      · simp [p, Session.start, hv, hw, hk, ha, hevents]

/-- Closing gives back all that opening was granted, whatever was sent to the card in between. -/
theorem Opened.events_close {s : Script} {t t' : Session Context Connection Empty} {reader : Nat}
    {m m' : Manager} {es : List (Entry Event)} (h : Opened s t reader m) (htalk : Talk m es m')
    (hcontext : t'.context = t.context) (hconnection : t'.connection = t.connection) :
    events (t'.close stack m').entries = s.undoAll (wanted reader) := by
  obtain ⟨rs, hkept⟩ := m.after_keeps (commands es)
  let s' : Script := { s.shared with responses := rs }
  have hm : m' = s'.held 2 := by
    rw [htalk.world, hkept, h.world]
    rfl
  have hc : t'.context.handle = some 0 := hcontext ▸ h.context
  have hk : t'.connection.card = some 0 := hconnection ▸ h.connection
  obtain ⟨hunlocked, hunlock⟩ := Connection.run_unlock (s := s') hk
  obtain ⟨hleft, hdisconnect⟩ := Connection.run_disconnect (s := s'.shared) hk reader
  obtain ⟨-, hrelease⟩ := Context.run_release (s := s'.shared) hc h.lists
  have hbackend : Backend.unbind stack t'.backend = pure () := by
    rcases t'.backend with _ | ⟨⟨⟩⟩ | _ <;> rfl
  have hundo (e : Event) : s'.shared.undo e = s.undo e := by cases e <;> rfl
  have hshared : s.undo (.reconnect .exclusive) = [.reconnect .shared] := rfl
  simp [hm, Session.close, hbackend, hunlocked, hunlock, hleft, hdisconnect, hrelease, hundo,
    hshared, wanted, Script.undoAll_cons, h.context_granted, h.card_granted, h.lock_granted]

end SmartCard.Pcsc
