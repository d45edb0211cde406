import DistributedSmb.Gameplay.Datagrams
import DistributedSmb.Gameplay.HostWorld
import DistributedSmb.Library.Register

/-!
# Input caches

What `_drain_remote_input_packets` keeps of its players' packets: sequence numbers, inputs and
clocks, by player id. For each player the host has a register whose stamp is the sequence number, so
the order of the packets does not matter. The ids are those of the packets, whether or not the
roster has them.
-/

namespace DistributedSmb

open Library Fallible

namespace Node

/-! ## One packet -/

/-- A packet is taken in unless it is stale. -/
def takeInput (n : Node) (p : PlayerInputPacket) (now : ℚ) : Node :=
  if p.sequenceNumber ≤ n.lastRemoteInputSequence.getD p.playerId (-1) then n
  else
    { n with
      lastRemoteInputSequence := n.lastRemoteInputSequence.set p.playerId p.sequenceNumber
      cachedRemoteInputs := n.cachedRemoteInputs.set p.playerId p.inputState
      lastInputTime := n.lastInputTime.set p.playerId now }

theorem onRemoteInput_playerInput (n : Node) (p : PlayerInputPacket) (host : Ip) (port : ℕ)
    (now : ℚ) : n.onRemoteInput (.ok (.playerInput p)) host port now = .ok (n.takeInput p now) := by
  simp only [onRemoteInput, ok_bind, takeInput]
  split <;> rfl

/-- What the host keeps of a player: the stamp, and the entries of both maps. -/
def inputRegister (n : Node) (pid : PlayerId) : ℤ × Option ℤ × Option InputState :=
  (n.lastRemoteInputSequence.getD pid (-1), n.lastRemoteInputSequence.get? pid,
    n.cachedRemoteInputs.get? pid)

end Node

/-- What a packet writes. -/
def PlayerInputPacket.write (p : PlayerInputPacket) : ℤ × Option ℤ × Option InputState :=
  (p.sequenceNumber, some p.sequenceNumber, some p.inputState)

/-- What the packets of one player write. -/
def writesOf (pid : PlayerId) (packets : List PlayerInputPacket) :
    List (ℤ × Option ℤ × Option InputState) :=
  (packets.filter fun p => p.playerId = pid).map PlayerInputPacket.write

theorem mem_writesOf {pid : PlayerId} {packets : List PlayerInputPacket}
    {w : ℤ × Option ℤ × Option InputState} :
    w ∈ writesOf pid packets ↔ ∃ p ∈ packets, p.playerId = pid ∧ p.write = w := by
  simp [writesOf, and_assoc]

/-- At most one input for each player and sequence number. -/
def NoConflicts (packets : List PlayerInputPacket) : Prop :=
  ∀ p ∈ packets, ∀ q ∈ packets, p.playerId = q.playerId → p.sequenceNumber = q.sequenceNumber →
    p = q

theorem NoConflicts.distinct {packets : List PlayerInputPacket} (h : NoConflicts packets)
    (pid : PlayerId) : Register.Distinct (writesOf pid packets) := by
  intro v hv w hw hstamp
  obtain ⟨p, hp, hown, rfl⟩ := mem_writesOf.mp hv
  obtain ⟨q, hq, hown', rfl⟩ := mem_writesOf.mp hw
  rw [h p hp q hq (hown.trans hown'.symm) hstamp]

namespace Node

theorem takeInput_register_self (n : Node) (p : PlayerInputPacket) (now : ℚ) :
    (n.takeInput p now).inputRegister p.playerId =
      Register.write (n.inputRegister p.playerId) p.write := by
  unfold takeInput Register.write
  split
  case isTrue stale =>
    have hstale : ¬ (n.inputRegister p.playerId).1 < p.write.1 := not_lt.mpr stale
    rw [if_neg hstale]
  case isFalse newer =>
    have hnewer : (n.inputRegister p.playerId).1 < p.write.1 := not_le.mp newer
    rw [if_pos hnewer]
    simp [inputRegister, PlayerInputPacket.write, Dict.getD]

theorem takeInput_register_other (n : Node) {p : PlayerInputPacket} (now : ℚ) {pid : PlayerId}
    (other : pid ≠ p.playerId) : (n.takeInput p now).inputRegister pid = n.inputRegister pid := by
  unfold takeInput
  split
  · rfl
  · simp [inputRegister, Dict.getD, Dict.get?_set_ne _ other]

/-! ## Draining the socket -/

section
variable (text : JsonText) (py : Runtime)

/-- One drain of the socket after the other. -/
def drainAll (n : Node) (batches : List (List Datagram)) : Except PyError Node :=
  batches.foldlM (fun n queue => n.drainRemoteInputPackets text py queue) n

end

end Node

section
variable (text : JsonText) (py : Runtime)

/-- The datagram decodes to this packet. -/
def Datagram.Carries (d : Datagram) (p : PlayerInputPacket) : Prop :=
  text.decodeMessage py d.payload = .ok (some (.playerInput p))

/-- The datagrams carry these packets, each one at least once and in any order. -/
def CarryAll (queue : List Datagram) (packets : List PlayerInputPacket) : Prop :=
  (∀ d ∈ queue, ∃ p ∈ packets, d.Carries text py p) ∧
    ∀ p ∈ packets, ∃ d ∈ queue, d.Carries text py p

end

theorem Datagram.Carries.unique {text : JsonText} {py : Runtime} {d : Datagram}
    {p q : PlayerInputPacket} (hp : d.Carries text py p) (hq : d.Carries text py q) : p = q := by
  have heq := Except.ok.inj (hp.symm.trans hq)
  cases heq
  rfl

namespace Node

variable {text : JsonText} {py : Runtime}

theorem drainAll_eq (n : Node) (batches : List (List Datagram)) :
    n.drainAll text py batches = n.drainRemoteInputPackets text py batches.flatten := by
  induction batches generalizing n with
  | nil => rfl
  | cons queue batches ih =>
    rw [drainAll, List.foldlM_cons, List.flatten_cons, drainRemoteInputPackets,
      drainRemoteInputPackets, List.foldlM_append]
    exact bind_congr fun m => ih m

/-- A drain of input packets succeeds and writes them one after the other. -/
theorem drain_registers {queue : List Datagram} (n : Node)
    (carry : ∀ d ∈ queue, ∃ p, d.Carries text py p) :
    ∃ n' packets, n.drainRemoteInputPackets text py queue = .ok n' ∧
      (∀ p, p ∈ packets ↔ ∃ d ∈ queue, d.Carries text py p) ∧
      ∀ pid, n'.inputRegister pid =
        (writesOf pid packets).foldl Register.write (n.inputRegister pid) := by
  induction queue generalizing n with
  | nil => exact ⟨n, [], rfl, by simp, fun _ => rfl⟩
  | cons d queue ih =>
    obtain ⟨⟨p, hp⟩, hcarry⟩ := List.forall_mem_cons.mp carry
    obtain ⟨n', packets, hdrain, hall, hregister⟩ := ih (n.takeInput p d.now) hcarry
    have hstep : n.receiveRemoteInput text py d = .ok (n.takeInput p d.now) := by
      rw [receiveRemoteInput, show text.decodeMessage py d.payload = _ from hp, ok_bind]
      exact n.onRemoteInput_playerInput p d.host d.port d.now
    refine ⟨n', p :: packets, ?_, fun q => ?_, fun pid => ?_⟩
    · rw [drainRemoteInputPackets, List.foldlM_cons, hstep, ok_bind]
      exact hdrain
    · rw [List.mem_cons, hall, List.exists_mem_cons_iff]
      exact or_congr_left ⟨fun heq => heq ▸ hp, fun hq => hq.unique hp⟩
    · rw [hregister]
      by_cases hown : p.playerId = pid
      · subst hown
        simp [writesOf, takeInput_register_self]
      · simp [writesOf, hown, takeInput_register_other n d.now (Ne.symm hown)]

/-- The drains of a collection of packets leave each player's register with the newest write. -/
theorem drainAll_newest {packets : List PlayerInputPacket} (n : Node)
    {batches : List (List Datagram)} (carry : CarryAll text py batches.flatten packets) :
    ∃ m, n.drainAll text py batches = .ok m ∧
      ∀ pid, Register.Newest (n.inputRegister pid) (writesOf pid packets)
        (m.inputRegister pid) := by
  obtain ⟨m, arrived, hdrain, hall, hregister⟩ :=
    n.drain_registers fun d hd => (carry.1 d hd).imp fun p hp => hp.2
  refine ⟨m, (n.drainAll_eq batches).trans hdrain, fun pid => ?_⟩
  have hsame (p : PlayerInputPacket) : p ∈ arrived ↔ p ∈ packets := by
    rw [hall]
    constructor
    · rintro ⟨d, hd, hp⟩
      obtain ⟨q, hq, hcarries⟩ := carry.1 d hd
      exact hp.unique hcarries ▸ hq
    · exact carry.2 p
  rw [hregister pid]
  refine (Register.foldl_write_newest _ _).of_same fun w => ?_
  simp only [mem_writesOf, hsame]

/-- Every order, duplication and batching of the same packets leaves the same caches, with the input
of the greatest sequence number for each player. -/
theorem input_reception_confluent {packets : List PlayerInputPacket}
    (nonneg : ∀ p ∈ packets, 0 ≤ p.sequenceNumber) (noConflicts : NoConflicts packets) (n : Node)
    {batches batches' : List (List Datagram)} (carry : CarryAll text py batches.flatten packets)
    (carry' : CarryAll text py batches'.flatten packets) :
    ∃ m m', n.drainAll text py batches = .ok m ∧ n.drainAll text py batches' = .ok m' ∧
      ∀ pid,
        m.lastRemoteInputSequence.get? pid = m'.lastRemoteInputSequence.get? pid ∧
        m.cachedRemoteInputs.get? pid = m'.cachedRemoteInputs.get? pid ∧
        ∀ p ∈ packets, p.playerId = pid →
          (∀ q ∈ packets, q.playerId = pid → q.sequenceNumber ≤ p.sequenceNumber) →
          (∀ k, n.lastRemoteInputSequence.get? pid = some k → k < p.sequenceNumber) →
          m.lastRemoteInputSequence.get? pid = some p.sequenceNumber ∧
            m.cachedRemoteInputs.get? pid = some p.inputState := by
  obtain ⟨m, hm, hnewest⟩ := n.drainAll_newest carry
  obtain ⟨m', hm', hnewest'⟩ := n.drainAll_newest carry'
  refine ⟨m, m', hm, hm', fun pid => ?_⟩
  have hsame := (hnewest pid).unique (noConflicts.distinct pid) (hnewest' pid)
  simp only [inputRegister, Prod.mk.injEq] at hsame
  refine ⟨hsame.2.1, hsame.2.2, fun p hp hown hgreatest hnew => ?_⟩
  -- the greatest packet is the newest write
  have hnewer : (n.inputRegister pid).1 < p.write.1 := by
    change n.lastRemoteInputSequence.getD pid (-1) < p.sequenceNumber
    have hpositive := nonneg p hp
    cases hlast : n.lastRemoteInputSequence.get? pid with
    | none => rw [Dict.getD, hlast]; exact neg_one_lt_zero.trans_le hpositive
    | some k => rw [Dict.getD, hlast]; exact hnew k hlast
  have hwrites : Register.Newest (n.inputRegister pid) (writesOf pid packets) p.write := by
    refine ⟨.inl ⟨mem_writesOf.mpr ⟨p, hp, hown, rfl⟩, hnewer⟩, hnewer.le, fun w hw => ?_⟩
    obtain ⟨q, hq, hq', rfl⟩ := mem_writesOf.mp hw
    exact hgreatest q hq hq'
  have hwritten := (hnewest pid).unique (noConflicts.distinct pid) hwrites
  simp only [inputRegister, PlayerInputPacket.write, Prod.mk.injEq] at hwritten
  exact hwritten.2

/-! ### Two packets -/

def releaseText : String :=
  "\x7b\"player_id\": \"player-3\", \"sequence_number\": 8, \"input_state\": " ++
    "\x7b\"left\": false, \"right\": false, \"jump\": false, \"down\": false\x7d, " ++
    "\"message_type\": \"player_input\"\x7d"

def pressPacket : PlayerInputPacket := ⟨"player-3", 7, { jump := true }⟩

def releasePacket : PlayerInputPacket := ⟨"player-3", 8, {}⟩

def jumpTexts : JsonText where
  dumps _ := pressText
  loads string :=
    if string = pressText then .ok (encodeMessage sortedOrder (.playerInput pressPacket))
    else .ok (encodeMessage sortedOrder (.playerInput releasePacket))
  loads_error string e h := by split at h <;> cases h

/-- The packets overtake each other, and one arrives twice. -/
theorem overtaken_press_is_forgotten : ∃ m m',
    listener.drainAll jumpTexts strictRuntime [[datagramOf pressText], [datagramOf releaseText]] =
      .ok m ∧
    listener.drainAll jumpTexts strictRuntime
      [[datagramOf releaseText, datagramOf pressText], [datagramOf pressText]] = .ok m' ∧
    m.cachedRemoteInputs.get? "player-3" = some {} ∧
    m'.cachedRemoteInputs.get? "player-3" = some {} := by
  have hother : ¬ releaseText = pressText := by decide +kernel
  have hpress : (datagramOf pressText).Carries jumpTexts strictRuntime pressPacket := by
    have hloads : jumpTexts.loads pressText =
        .ok (encodeMessage sortedOrder (.playerInput pressPacket)) := by
      simp only [jumpTexts, ↓reduceIte]
    unfold datagramOf Datagram.Carries
    rw [JsonText.decodeMessage, JsonText.decode_toUTF8, hloads]
    rfl
  have hrelease : (datagramOf releaseText).Carries jumpTexts strictRuntime releasePacket := by
    have hloads : jumpTexts.loads releaseText =
        .ok (encodeMessage sortedOrder (.playerInput releasePacket)) := by
      simp only [jumpTexts, hother, ↓reduceIte]
    unfold datagramOf Datagram.Carries
    rw [JsonText.decodeMessage, JsonText.decode_toUTF8, hloads]
    rfl
  generalize datagramOf pressText = press at hpress ⊢
  generalize datagramOf releaseText = release at hrelease ⊢
  have hboth (queue : List Datagram) (hqueue : ∀ d, d ∈ queue ↔ d = press ∨ d = release) :
      CarryAll jumpTexts strictRuntime queue [pressPacket, releasePacket] := by
    refine ⟨fun d hd => ?_, fun p hp => ?_⟩
    · rcases (hqueue d).mp hd with rfl | rfl
      · exact ⟨pressPacket, by simp, hpress⟩
      · exact ⟨releasePacket, by simp, hrelease⟩
    · rcases List.mem_cons.mp hp with rfl | hp
      · exact ⟨press, (hqueue press).mpr (.inl rfl), hpress⟩
      · obtain rfl := List.mem_singleton.mp hp
        exact ⟨release, (hqueue release).mpr (.inr rfl), hrelease⟩
  obtain ⟨m, m', hm, hm', hall⟩ := input_reception_confluent
    (show ∀ p ∈ [pressPacket, releasePacket], 0 ≤ p.sequenceNumber by decide)
    (by unfold NoConflicts; decide) listener
    (hboth [[press], [release]].flatten (by simp))
    (hboth [[release, press], [press]].flatten (by simp; tauto))
  obtain ⟨-, hsame, hnewest⟩ := hall "player-3"
  have hcached := (hnewest releasePacket (by decide) rfl (by decide) (by decide)).2
  exact ⟨m, m', hm, hm', hcached, hsame ▸ hcached⟩

end Node

end DistributedSmb
