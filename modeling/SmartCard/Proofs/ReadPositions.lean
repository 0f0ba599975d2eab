import SmartCard.Proofs.Exchanges

/-!
# Positions of reads

One read of the driver is a loop over commands. Each starts behind the octets that were received, at
a position that two octets write, and asks for as many octets as are missing, or for as many as one
command can bring. What the card sends in return may be shorter or longer than that.
-/
namespace SmartCard.Pcsc

/-! ## The loop -/

/-- A command of a read, all that is sent until its response is gathered, and what comes of it. -/
structure Chunk where
  start : Nat
  le : Nat
  sent : List Octets
  answer : Except Error Octets

namespace Chunk

def command (c : Chunk) : Command := .readBinary c.start (UInt8.ofNat c.le)

def data (c : Chunk) : Octets :=
  match c.answer with
  | .ok piece => piece
  | .error _ => []

end Chunk

/-- One round of a read for `length` octets from `offset` on that has received `n` of them: it asks
for what is missing, or for as much as one command can bring. -/
structure Round (k : Connection) (offset length n : Nat) (m : Manager) (c : Chunk) (m' : Manager) :
    Prop where
  missing : n < length
  inRange : offset + n ≤ Command.maxPosition
  start : c.start = offset + n
  le : c.le = min (length - n) Command.maxRead
  sent : c.sent = commands ((k.handle c.command m).entries.map .note)
  value : (k.handle c.command m).value = c.answer
  world : (k.handle c.command m).world = m'

/-- The rounds of a read for `length` octets from `offset` on once it has received `n` of them, what
becomes of the rest, and the manager afterwards. -/
inductive Transfer (k : Connection) (offset length : Nat) :
    Nat → Manager → List Chunk → Except Error Octets → Manager → Prop
  | done {n : Nat} {m : Manager} (h : length ≤ n) : Transfer k offset length n m [] (.ok []) m
  | beyond {n : Nat} {m : Manager} (h : n < length) (hp : Command.maxPosition < offset + n) :
      Transfer k offset length n m [] (.error (.positionOutOfRange (offset + n))) m
  | failed {n : Nat} {m m' : Manager} {c : Chunk} {e : Error}
      (hc : Round k offset length n m c m') (ha : c.answer = .error e) :
      Transfer k offset length n m [c] (.error e) m'
  | short {n : Nat} {m m' : Manager} {c : Chunk} {piece : Octets}
      (hc : Round k offset length n m c m') (ha : c.answer = .ok piece)
      (hl : piece.length < c.le) : Transfer k offset length n m [c] (.ok piece) m'
  | on {n : Nat} {m m' m'' : Manager} {c : Chunk} {piece : Octets} {cs : List Chunk}
      {v : Except Error Octets} (hc : Round k offset length n m c m') (ha : c.answer = .ok piece)
      (hl : c.le ≤ piece.length) (ht : Transfer k offset length (n + piece.length) m' cs v m'') :
      Transfer k offset length n m (c :: cs) (v.map (piece ++ ·)) m''

variable {k : Connection} {offset length n : Nat} {m m' : Manager} {c : Chunk} {cs : List Chunk}
  {v : Except Error Octets}

theorem Round.le_pos (h : Round k offset length n m c m') : 1 ≤ c.le := by
  have hmissing := h.missing
  rw [h.le, Command.maxRead]
  omega

theorem exists_round (h : n < length) (hp : offset + n ≤ Command.maxPosition) (m : Manager) :
    ∃ c m', Round k offset length n m c m' := by
  let command := Command.readBinary (offset + n) (UInt8.ofNat (min (length - n) Command.maxRead))
  let o := k.handle command m
  exact ⟨⟨offset + n, min (length - n) Command.maxRead, commands (o.entries.map .note), o.value⟩,
    o.world, h, hp, rfl, rfl, rfl, rfl, rfl⟩

/-- The loop ends, whatever the card answers. -/
theorem exists_transfer (k : Connection) (offset length n : Nat) (m : Manager) :
    ∃ cs v m', Transfer k offset length n m cs v m' := by
  -- Less is missing behind each round that is not the last.
  induction hmissing : length - n using Nat.strongRecOn generalizing n m with
  | ind missing ih =>
    by_cases h : n < length
    · by_cases hp : offset + n ≤ Command.maxPosition
      · obtain ⟨c, m', hc⟩ := exists_round (k := k) h hp m
        cases ha : c.answer with
        | error e => exact ⟨_, _, _, .failed hc ha⟩
        | ok piece =>
          by_cases hl : piece.length < c.le
          · exact ⟨_, _, _, .short hc ha hl⟩
          · have hpos := hc.le_pos
            obtain ⟨cs, v, m'', ht⟩ := ih (length - (n + piece.length)) (by omega)
              (n + piece.length) m' rfl
            exact ⟨_, _, _, .on hc ha (Nat.le_of_not_lt hl) ht⟩
      · exact ⟨_, _, _, .beyond h (Nat.lt_of_not_le hp)⟩
    · exact ⟨_, _, _, .done (Nat.le_of_not_lt h)⟩

/-- What a round goes on with. -/
theorem Round.readFrom_eq (h : Round k offset length n m c m') (fuel : Nat) :
    k.readFrom (fuel + 1) (offset + n) (length - n) = do
      match ← k.handle c.command with
      | .error e => return .error e
      | .ok piece =>
        if piece.length < c.le then return .ok piece
        else return (← k.readFrom fuel (offset + (n + piece.length))
          (length - (n + piece.length))).map (piece ++ ·) := by
  rw [Connection.readFrom, if_neg (Nat.sub_ne_zero_of_lt h.missing),
    if_neg (Nat.not_lt.mpr h.inRange), Chunk.command, h.start, h.le]
  refine congrArg (k.handle _ >>= ·) (funext fun v => ?_)
  cases v with
  | error e => rfl
  | ok piece => simp only [Nat.add_assoc, Nat.sub_sub]

/-- Commands for the octets that are missing are enough. -/
theorem run_readFrom (h : Transfer k offset length n m cs v m') {fuel : Nat}
    (hfuel : length - n ≤ fuel) :
    let r := k.readFrom fuel (offset + n) (length - n) m
    r.value = v ∧ r.world = m' ∧ commands (r.entries.map .note) = cs.flatMap Chunk.sent := by
  induction h generalizing fuel with
  | done h =>
    cases fuel with
    | zero => exact ⟨rfl, rfl, rfl⟩
    | succ fuel =>
      rw [Connection.readFrom, if_pos (Nat.sub_eq_zero_of_le h)]
      exact ⟨rfl, rfl, rfl⟩
  | beyond h hp =>
    obtain ⟨fuel, rfl⟩ := Nat.exists_eq_add_one.mpr (show 0 < fuel by omega)
    rw [Connection.readFrom, if_neg (Nat.sub_ne_zero_of_lt h), if_pos hp]
    exact ⟨rfl, rfl, rfl⟩
  | @failed n m m' c e hc ha =>
    have hmissing := hc.missing
    obtain ⟨fuel, rfl⟩ := Nat.exists_eq_add_one.mpr (show 0 < fuel by omega)
    simp [hc.readFrom_eq, hc.value, ha, hc.world, hc.sent]
  | @short n m m' c piece hc ha hl =>
    have hmissing := hc.missing
    obtain ⟨fuel, rfl⟩ := Nat.exists_eq_add_one.mpr (show 0 < fuel by omega)
    simp [hc.readFrom_eq, hc.value, ha, hl, hc.world, hc.sent]
  | @on n m m' m'' c piece cs v hc ha hl ht ih =>
    have hmissing := hc.missing
    have hle := hc.le_pos
    obtain ⟨fuel, rfl⟩ := Nat.exists_eq_add_one.mpr (show 0 < fuel by omega)
    have hfuel' : length - (n + piece.length) ≤ fuel := by omega
    obtain ⟨hvalue, hworld, hcommands⟩ := ih hfuel'
    simp [hc.readFrom_eq, hc.value, ha, Nat.not_lt.mpr hl, hc.world, hc.sent, hvalue, hworld,
      hcommands]

/-! ## Commands -/

/-- Behind its first command a chain only fetches. -/
theorem Chain.map_fst {o : Octets} {xs : List Exchange} {r : Except ReturnCode Octets}
    (h : Chain o xs r) : ∃ fetches, xs.map Prod.fst = o :: fetches ∧
      ∀ f ∈ fetches, ∃ le, f = (Command.getResponse le).octets := by
  induction h with
  | last o r => exact ⟨[], rfl, nofun⟩
  | @fetch o data le xs r _ ih =>
    obtain ⟨fetches, hxs, hfetches⟩ := ih
    refine ⟨_, congrArg (List.cons o) hxs, ?_⟩
    rintro f (_ | ⟨_, hf⟩)
    · exact ⟨le, rfl⟩
    · exact hfetches f hf

theorem Manager.map_fst_replay (m : Manager) (os : List Octets) :
    (m.replay os).map Prod.fst = os := by
  induction os generalizing m with
  | nil => rfl
  | cons o os ih => exact congrArg _ (ih _)

/-- A command is sent and then what it takes to gather its response, unless the connection was given
up. -/
theorem Round.sent_cases (h : Round k offset length n m c m') :
    (∀ context, k.card = some context → ∃ fetches, c.sent = c.command.octets :: fetches ∧
      ∀ f ∈ fetches, ∃ le, f = (Command.getResponse le).octets) ∧
    (k.card = none → c.sent = []) := by
  rw [h.sent]
  constructor
  · intro context hk
    obtain ⟨-, r, hchain, -⟩ := Connection.handle_sends hk c.command m
    simpa only [Manager.map_fst_replay] using hchain.map_fst
  · intro hk
    simp only [Connection.handle, Connection.transmit, hk, Action.bind_apply, Action.look_apply,
      Action.pure_apply, List.append_nil, List.nil_append]
    exact (Connection.run_trace k _ m).2

/-! ## Positions -/

/-- The octets that were received before the `i`-th of these commands, if there were `n` before the
first. -/
def received (n : Nat) (cs : List Chunk) (i : Nat) : Nat :=
  n + ((cs.take i).flatMap Chunk.data).length

theorem received_cons (n : Nat) (c : Chunk) (cs : List Chunk) (i : Nat) :
    received n (c :: cs) (i + 1) = received (n + c.data.length) cs i := by
  rw [received, received, List.take_succ_cons, List.flatMap_cons, List.length_append, Nat.add_assoc]

theorem received_succ (n : Nat) {i : Nat} (hc : cs[i]? = some c) :
    received n cs (i + 1) = received n cs i + c.data.length := by
  rw [received, received, List.take_add_one, hc, List.flatMap_append, List.length_append,
    ← Nat.add_assoc]
  simp

/-- A command that is sent when `n` octets were received: its position is in range and written by
two octets, and the length it asks for is neither zero nor cut short by the octet that writes it. -/
structure Placed (k : Connection) (offset length n : Nat) (c : Chunk) : Prop where
  missing : n < length
  start : c.start = offset + n
  inRange : c.start ≤ 0x7FFF
  le : c.le = min (length - n) 255
  bounds : 1 ≤ c.le ∧ c.le ≤ 255
  octets : ∃ p1 p2 le : UInt8, c.command.octets = [0x00, 0xB0, p1, p2, le] ∧
    Octets.bigEndian [p1, p2] = c.start ∧ le.toNat = c.le
  sent : ∀ context, k.card = some context → ∃ fetches, c.sent = c.command.octets :: fetches ∧
    ∀ f ∈ fetches, ∃ le, f = (Command.getResponse le).octets
  unsent : k.card = none → c.sent = []

/-- A position in range is written by two octets, most significant first. -/
theorem bigEndian_position {position : Nat} (h : position ≤ Command.maxPosition) :
    Octets.bigEndian [UInt8.ofNat (position / 256), UInt8.ofNat position] = position := by
  simp only [Command.maxPosition] at h
  simp only [Octets.bigEndian, List.foldl_cons, List.foldl_nil, UInt8.toNat_ofNat']
  omega

theorem Round.placed (h : Round k offset length n m c m') : Placed k offset length n c where
  missing := h.missing
  start := h.start
  inRange := by rw [h.start]; exact h.inRange
  le := h.le
  bounds := ⟨h.le_pos, by rw [h.le]; exact Nat.min_le_right _ _⟩
  octets := by
    have hle : c.le ≤ 255 := by rw [h.le]; exact Nat.min_le_right _ _
    refine ⟨_, _, _, rfl, ?_, ?_⟩
    · exact bigEndian_position (by rw [h.start]; exact h.inRange)
    · rw [Chunk.command, Command.readBinary, UInt8.toNat_ofNat']
      omega
  sent := h.sent_cases.1
  unsent := h.sent_cases.2

theorem Transfer.placed (h : Transfer k offset length n m cs v m') {i : Nat}
    (hi : cs[i]? = some c) : Placed k offset length (received n cs i) c := by
  induction h generalizing i with
  | done | beyond => cases hi
  | failed hc | short hc =>
    cases i with
    | zero =>
      cases hi
      exact hc.placed
    | succ i => cases hi
  | @on n m m' m'' c' piece cs v hc ha hl ht ih =>
    cases i with
    | zero =>
      cases hi
      exact hc.placed
    | succ i =>
      rw [received_cons, Chunk.data, ha]
      exact ih hi

/-- Positions are counted in 64 bits. -/
def positionLimit : Nat := 0x10000000000000000

/-- No position leaves these bits, not even one that is refused. -/
theorem Transfer.position_lt (h : Transfer k offset length 0 m cs v m')
    (hoffset : offset < positionLimit) (hdata : ∀ c ∈ cs, c.data.length < 0x8000000000000000)
    {i : Nat} (hi : i ≤ cs.length) : offset + received 0 cs i < positionLimit := by
  cases i with
  | zero => exact hoffset
  | succ i =>
    have hc : cs[i]? = some cs[i] := List.getElem?_eq_getElem hi
    have hp := h.placed hc
    have hstart := hp.start
    have hrange := hp.inRange
    have hlength := hdata cs[i] (List.getElem_mem hi)
    have hreceived := received_succ 0 hc
    simp only [positionLimit]
    omega

/-! ## What follows a command -/

/-- What follows a command, behind which `n` octets are received, among the commands of a read with
this value: a failure is the last, and so is a piece that is short or completes the read; behind any
other the read goes on, and fails if the position is out of range. -/
structure Followed (offset length n : Nat) (cs : List Chunk) (v : Except Error Octets) (i : Nat)
    (c : Chunk) : Prop where
  failed : ∀ e, c.answer = .error e → i + 1 = cs.length ∧ v = .error e
  last : ∀ piece, c.answer = .ok piece → ¬(n < length ∧ c.le ≤ piece.length) →
    i + 1 = cs.length ∧ v = .ok (cs.flatMap Chunk.data)
  on : ∀ piece, c.answer = .ok piece → n < length ∧ c.le ≤ piece.length → offset + n ≤ 0x7FFF →
    i + 1 < cs.length
  beyond : ∀ piece, c.answer = .ok piece → n < length ∧ c.le ≤ piece.length →
    0x7FFF < offset + n → i + 1 = cs.length ∧ v = .error (.positionOutOfRange (offset + n))

section
variable {piece : Octets} {e : Error}

theorem Chunk.data_of_ok (h : c.answer = .ok piece) : c.data = piece := by
  rw [data, h]

theorem followed_failed (ha : c.answer = .error e) :
    Followed offset length n [c] (.error e) 0 c where
  failed e' he := by
    cases ha.symm.trans he
    exact ⟨rfl, rfl⟩
  last _ hp := nomatch ha.symm.trans hp
  on _ hp := nomatch ha.symm.trans hp
  beyond _ hp := nomatch ha.symm.trans hp

theorem followed_short (ha : c.answer = .ok piece) (hl : piece.length < c.le) :
    Followed offset length n [c] (.ok piece) 0 c where
  failed _ he := nomatch ha.symm.trans he
  last _ _ _ := by
    rw [List.flatMap_singleton, Chunk.data_of_ok ha]
    exact ⟨rfl, rfl⟩
  on piece' hp hn := by
    cases ha.symm.trans hp
    exact absurd hn.2 (Nat.not_le.mpr hl)
  beyond piece' hp hn := by
    cases ha.symm.trans hp
    exact absurd hn.2 (Nat.not_le.mpr hl)

/-- How the loop begins decides what follows a full piece. -/
theorem followed_on (ha : c.answer = .ok piece) (hl : c.le ≤ piece.length)
    (ht : Transfer k offset length n m cs v m') :
    Followed offset length n (c :: cs) (v.map (piece ++ ·)) 0 c where
  failed _ he := nomatch ha.symm.trans he
  last piece' hp hn := by
    cases ha.symm.trans hp
    have hdone : ¬ n < length := fun h => hn ⟨h, hl⟩
    cases ht with
    | done => simp [Except.map, Chunk.data_of_ok ha]
    | beyond h => exact absurd h hdone
    | failed hc | short hc | on hc => exact absurd hc.missing hdone
  on piece' hp hn hrange := by
    cases ht with
    | done h => exact absurd hn.1 (Nat.not_lt.mpr h)
    | beyond h hrange' => exact absurd hrange (Nat.not_le.mpr hrange')
    | failed | short | on => exact Nat.succ_lt_succ (Nat.succ_pos _)
  beyond piece' hp hn hrange := by
    cases ht with
    | done h => exact absurd hn.1 (Nat.not_lt.mpr h)
    | beyond => exact ⟨rfl, rfl⟩
    | failed hc | short hc | on hc => exact absurd hc.inRange (Nat.not_le.mpr hrange)

theorem Followed.cons {i : Nat} {c' : Chunk} (h : Followed offset length n cs v i c)
    (ha : c'.answer = .ok piece) :
    Followed offset length n (c' :: cs) (v.map (piece ++ ·)) (i + 1) c where
  failed e he := by
    obtain ⟨hi, rfl⟩ := h.failed e he
    exact ⟨congrArg (· + 1) hi, rfl⟩
  last piece' hp hn := by
    obtain ⟨hi, rfl⟩ := h.last piece' hp hn
    refine ⟨congrArg (· + 1) hi, ?_⟩
    rw [List.flatMap_cons, Chunk.data_of_ok ha]
    rfl
  on piece' hp hn hrange := Nat.succ_lt_succ (h.on piece' hp hn hrange)
  beyond piece' hp hn hrange := by
    obtain ⟨hi, rfl⟩ := h.beyond piece' hp hn hrange
    exact ⟨congrArg (· + 1) hi, rfl⟩

end

theorem Transfer.followed (h : Transfer k offset length n m cs v m') {i : Nat}
    (hi : cs[i]? = some c) : Followed offset length (received n cs (i + 1)) cs v i c := by
  induction h generalizing i with
  | done | beyond => cases hi
  | failed hc ha =>
    cases i with
    | zero =>
      cases hi
      exact followed_failed ha
    | succ i => cases hi
  | short hc ha hl =>
    cases i with
    | zero =>
      cases hi
      exact followed_short ha hl
    | succ i => cases hi
  | on hc ha hl ht ih =>
    rw [received_cons, Chunk.data_of_ok ha]
    cases i with
    | zero =>
      cases hi
      exact followed_on ha hl ht
    | succ i => exact (ih hi).cons ha

/-! ## Exact cards -/

/-- The start of the last command if each brings as much as one command can, but for the last. -/
def lastStart (offset missing : Nat) : Nat := offset + 255 * ((missing - 1) / 255)

/-- The command was answered with just as many octets as it asked for. -/
def Chunk.IsExact (c : Chunk) : Prop := ∃ piece, c.answer = .ok piece ∧ piece.length = c.le

theorem Round.lastStart_eq (h : Round k offset length n m c m') :
    (length ≤ n + c.le → lastStart (offset + n) (length - n) = offset + n) ∧
    (n + c.le < length → lastStart (offset + n) (length - n) =
      lastStart (offset + (n + c.le)) (length - (n + c.le))) := by
  have hmissing := h.missing
  simp only [h.le, lastStart, Command.maxRead]
  constructor <;> intro hle <;> omega

theorem eq_ok_of_map {α β ε : Type} {g : α → β} {v : Except ε α} {b : β}
    (h : v.map g = .ok b) : ∃ a, v = .ok a ∧ g a = b := by
  cases v with
  | error e => cases h
  | ok a => exact ⟨a, rfl, Except.ok.inj h⟩

theorem exists_ok_map {α β ε : Type} {g : α → β} {v : Except ε α} :
    (∃ b, v.map g = .ok b) ↔ ∃ a, v = .ok a := by
  constructor
  · rintro ⟨b, hb⟩
    obtain ⟨a, ha, -⟩ := eq_ok_of_map hb
    exact ⟨a, ha⟩
  · rintro ⟨a, rfl⟩
    exact ⟨g a, rfl⟩

theorem Transfer.exact (h : Transfer k offset length n m cs v m') (hexact : ∀ c ∈ cs, c.IsExact) :
    ((∃ o, v = .ok o) ↔ length ≤ n ∨ lastStart (offset + n) (length - n) ≤ 0x7FFF) ∧
      ∀ o, v = .ok o → o.length = length - n := by
  induction h with
  | done h =>
    refine ⟨⟨fun _ => .inl h, fun _ => ⟨[], rfl⟩⟩, fun o ho => ?_⟩
    cases ho
    exact (Nat.sub_eq_zero_of_le h).symm
  | @beyond n m h hp =>
    have hstart : offset + n ≤ lastStart (offset + n) (length - n) := Nat.le_add_right _ _
    simp only [Command.maxPosition] at hp
    refine ⟨⟨fun hok => ?_, fun hrange => ?_⟩, fun o ho => ?_⟩
    · obtain ⟨o, ho⟩ := hok
      cases ho
    · omega
    · cases ho
  | failed hc ha =>
    obtain ⟨piece, hp, -⟩ := hexact _ List.mem_cons_self
    cases ha.symm.trans hp
  | short hc ha hl =>
    obtain ⟨piece, hp, hlength⟩ := hexact _ List.mem_cons_self
    cases ha.symm.trans hp
    exact absurd hlength (Nat.ne_of_lt hl)
  | @on n m m' m'' c piece cs v hc ha hl ht ih =>
    obtain ⟨piece', hp, hlength⟩ := hexact c List.mem_cons_self
    cases ha.symm.trans hp
    obtain ⟨hok, hall⟩ := ih fun c' hc' => hexact c' (List.mem_cons_of_mem c hc')
    obtain ⟨hend, hon⟩ := hc.lastStart_eq
    have hmissing := hc.missing
    have hrange := hc.inRange
    rw [hlength] at hok hall
    simp only [Command.maxPosition] at hrange
    constructor
    · rw [exists_ok_map, hok]
      rcases Nat.lt_or_ge (n + c.le) length with hlt | hge
      · rw [hon hlt]
        omega
      · rw [hend hge]
        omega
    · intro o ho
      obtain ⟨rest, rfl, rfl⟩ := eq_ok_of_map ho
      rw [List.length_append, hall rest rfl, hlength]
      have hle : c.le ≤ length - n := by rw [hc.le]; exact Nat.min_le_left _ _
      omega

/-! ## The main result -/

/-- Whatever the card answers, a read is one loop over commands. Each is placed behind the octets
that were received, and is followed by another one as long as octets are missing and the last piece
was not short. Reading nothing succeeds at every position and sends nothing; a position out of range
is refused before anything is sent from it. Pieces of less than half the positions that can be
counted never lead beyond these. If all pieces are as long as they should be, the read succeeds
exactly if its last command is in range, and then brings all octets. -/
theorem read_in_range (k : Connection) (offset length : Nat) (m : Manager) :
    (∃ cs v m', Transfer k offset length 0 m cs v m') ∧
    (∀ cs v m', Transfer k offset length 0 m cs v m' →
      let r := k.read offset length m
      r.value = v ∧ r.world = m' ∧ commands (r.entries.map .note) = cs.flatMap Chunk.sent ∧
      (∀ i c, cs[i]? = some c → Placed k offset length (received 0 cs i) c ∧
        Followed offset length (received 0 cs (i + 1)) cs v i c) ∧
      (offset < positionLimit → (∀ c ∈ cs, c.data.length < 0x8000000000000000) →
        ∀ i ≤ cs.length, offset + received 0 cs i < positionLimit) ∧
      ((∀ c ∈ cs, c.IsExact) →
        ((∃ o, v = .ok o) ↔ length = 0 ∨ lastStart offset length ≤ 0x7FFF) ∧
        ∀ o, v = .ok o → o.length = length)) ∧
    k.read offset 0 m = ⟨.ok [], m, []⟩ ∧
    (0x7FFF < offset → 0 < length →
      k.read offset length m = ⟨.error (.positionOutOfRange offset), m, []⟩) ∧
    ∀ position, (Error.positionOutOfRange position).code = .invalidArguments := by
  refine ⟨exists_transfer k offset length 0 m, ?_, rfl, ?_, fun _ => rfl⟩
  · intro cs v m' h r
    obtain ⟨hvalue, hworld, hcommands⟩ := run_readFrom h (Nat.le_refl _)
    refine ⟨hvalue, hworld, hcommands, fun i c hi => ⟨h.placed hi, h.followed hi⟩,
      fun hoffset hdata i hi => h.position_lt hoffset hdata hi, fun hexact => ?_⟩
    simpa using h.exact hexact
  · intro hoffset hlength
    obtain ⟨length, rfl⟩ := Nat.exists_eq_add_one.mpr hlength
    have hrange : Command.maxPosition < offset := hoffset
    rw [Connection.read, Connection.readFrom, if_neg (Nat.succ_ne_zero _), if_pos hrange]
    rfl

/-- A manager with one response, which brings three octets. -/
def threeOctets : Manager := { Script.quiet with responses := [.ok [1, 2, 3, 0x90, 0x00]] }.start

/-- A command in range may bring octets from behind the highest position, but none starts there. -/
theorem read_in_range_three :
    let k : Connection := ⟨some 0, false⟩
    let r := k.read 0x7FFE 3 threeOctets
    commands (r.entries.map .note) = [[0x00, 0xB0, 0x7F, 0xFE, 0x03]] ∧
      (∃ o, r.value = .ok o ∧ o.length = 3) ∧ 0x7FFE + 3 < positionLimit ∧
      k.read 0x8000 3 threeOctets = ⟨.error (.positionOutOfRange 0x8000), threeOctets, []⟩ := by
  intro k r
  let c : Chunk := ⟨0x7FFE, 3, [[0x00, 0xB0, 0x7F, 0xFE, 0x03]], .ok [1, 2, 3]⟩
  have hc : Round k 0x7FFE 3 0 threeOctets c { Script.quiet with responses := [] }.start :=
    ⟨by decide, by decide, rfl, rfl, by decide +kernel, by decide +kernel, rfl⟩
  have h := Transfer.on hc rfl (by decide) (.done (by decide))
  obtain ⟨-, hread, -⟩ := read_in_range k 0x7FFE 3 threeOctets
  obtain ⟨hvalue, -, hcommands, -, hposition, hexact⟩ := hread _ _ _ h
  obtain ⟨hok, hlength⟩ := hexact (by
    rintro _ (_ | ⟨_, ⟨⟩⟩)
    exact ⟨[1, 2, 3], rfl, rfl⟩)
  obtain ⟨o, ho⟩ := hok.mpr (.inr (by decide))
  refine ⟨hcommands, ⟨o, hvalue.trans ho, hlength o ho⟩, ?_, ?_⟩
  · refine hposition (by decide) ?_ 1 (by decide)
    rintro _ (_ | ⟨_, ⟨⟩⟩)
    decide
  · obtain ⟨-, -, -, hrefused, -⟩ := read_in_range k 0x8000 3 threeOctets
    exact hrefused (by decide) (by decide)

end SmartCard.Pcsc
