import DistributedSmb.Election.Effects

/-!
# Adopting the host's states

A client takes states of its host from two streams. A snapshot is dropped unless it is newer than
the last one; an `InitialStateSync` of the lobby is taken whatever its sequence number.
-/

namespace DistributedSmb

open Library Fallible

namespace Node

/-! ## Attached to one host -/

/-- Both flags are set once and stay: a node gets another host when the first one is set, and
becomes a host when the second one is. -/
def attachment (n : Node) : Bool × Bool := (n.election.reconnected, n.election.promotionDone)

/-- The flags only rise, and as long as they do not the number of the last snapshot stays. -/
structure KeepsSequence (n m : Node) : Prop where
  reconnected : n.election.reconnected = true → m.election.reconnected = true
  promotionDone : n.election.promotionDone = true → m.election.promotionDone = true
  sequence : m.attachment = n.attachment → m.lastSnapshotSequence = n.lastSnapshotSequence

theorem keepsSequence_of_same {n m : Node} (attached : m.attachment = n.attachment)
    (sequence : m.lastSnapshotSequence = n.lastSnapshotSequence) : n.KeepsSequence m := by
  obtain ⟨hreconnected, hpromoted⟩ := Prod.mk.inj attached
  exact ⟨fun h => hreconnected.trans h, fun h => hpromoted.trans h, fun _ => sequence⟩

theorem KeepsSequence.trans {n m k : Node} (h : n.KeepsSequence m) (h' : m.KeepsSequence k) :
    n.KeepsSequence k := by
  refine ⟨h'.reconnected ∘ h.reconnected, h'.promotionDone ∘ h.promotionDone, fun hsame => ?_⟩
  obtain ⟨hreconnected, hpromoted⟩ := Prod.mk.inj hsame
  -- a flag that has not risen in the end has not risen in between
  have unrisen {a b c : Bool} (hab : a = true → b = true) (hbc : b = true → c = true)
      (heq : c = a) : b = a := Bool.eq_iff_iff.mpr ⟨fun hb => heq ▸ hbc hb, hab⟩
  have hbetween : m.attachment = n.attachment :=
    Prod.ext (unrisen h.reconnected h'.reconnected hreconnected)
      (unrisen h.promotionDone h'.promotionDone hpromoted)
  exact (h'.sequence (hsame.trans hbetween.symm)).trans (h.sequence hbetween)

theorem ElectionPart.keepsSequence {n m : Node} (h : n.ElectionPart m) : n.KeepsSequence m := by
  cases h with
  | fields only reconnected promotionDone =>
    refine keepsSequence_of_same (by rw [attachment, reconnected, promotionDone, attachment]) ?_
    rw [only]
  | sends out => exact keepsSequence_of_same rfl rfl
  | evicts pid => exact keepsSequence_of_same rfl rfl
  | promotes now h =>
    rcases promoteToHost_cases h with ⟨-, rfl⟩ | ⟨waiting, hpromoted⟩
    · exact keepsSequence_of_same rfl rfl
    · refine ⟨fun h => by rw [hpromoted.election]; exact h, fun _ => by rw [hpromoted.election],
        fun hsame => ?_⟩
      have hflag := (Prod.mk.inj hsame).2
      rw [hpromoted.election, waiting] at hflag
      cases hflag
  | reconnects ack =>
    rcases onReconnectionAck_cases n ack with ⟨hsame, -⟩ | ⟨waiting, -, hreset⟩
    · rw [hsame]
      exact keepsSequence_of_same rfl rfl
    · refine ⟨fun _ => by rw [hreset.election]; rfl, fun h => by rw [hreset.election]; exact h,
        fun hsame => ?_⟩
      have hflag := (Prod.mk.inj hsame).1
      rw [hreset.election, waiting] at hflag
      cases hflag

theorem ElectionParts.keepsSequence {n m : Node} (h : n.ElectionParts m) : n.KeepsSequence m := by
  induction h with
  | refl => exact keepsSequence_of_same rfl rfl
  | tail _ last ih => exact ih.trans last.keepsSequence

/-! ## What a call adopts -/

/-- The number of the state that a call adopts, if it adopts one. -/
def adopts (n : Node) : ClientCall → Option ℤ
  | .lobbyMessage (.initialStateSync w) => some w.sequenceNumber
  | .datagram (.ok (.worldState snapshot)) =>
    if n.lastSnapshotSequence < snapshot.sequenceNumber then some snapshot.sequenceNumber else none
  | _ => none

/-- While the client has its host, the number it remembers is that of the state adopted last. -/
theorem clientCall_sequence {n m : Node} {now : ℚ} {call : ClientCall}
    (h : n.clientCall now call = .ok m) (attached : m.attachment = n.attachment) :
    m.lastSnapshotSequence = (n.adopts call).getD n.lastSnapshotSequence := by
  cases call with
  | ensureElectionComponents =>
    cases h
    simp only [ensureElectionComponents]
    split <;> rfl
  | lobbyMessage message =>
    cases h
    cases message <;> rfl
  | sendInputPacket localInput =>
    obtain ⟨packet, -, h⟩ := bind_eq_ok.mp h
    cases h; rfl
  | runPredictedTicks localInput sentAt =>
    refine foldlM_keeps (P := fun m : Node => m.lastSnapshotSequence = n.lastSnapshotSequence)
      (fun m _ m' _ hm hstep => ?_) h rfl
    obtain ⟨p, -, hstep⟩ := bind_eq_ok.mp hstep
    cases hstep
    exact hm
  | clearEvents => cases h; rfl
  | datagram payload =>
    obtain ⟨message, hpayload, h⟩ := bind_eq_ok.mp h
    subst hpayload
    cases message with
    | election message => exact (onElectionMessage_parts h).keepsSequence.sequence attached
    | hostIdentityResponse response =>
      cases h
      unfold onHostIdentityResponse
      split
      · rfl
      · split <;> rfl
    | worldState snapshot =>
      change n.onSnapshot snapshot now = .ok m at h
      unfold onSnapshot at h
      split at h
      case isTrue stale =>
        cases h
        simp [adopts, not_lt.mpr stale]
      case isFalse newer =>
        obtain ⟨p, -, h⟩ := bind_eq_ok.mp h
        cases h
        simp [adopts, not_le.mp newer]
    | playerInput _ | hostDiscoveryProbe _ => cases h; rfl
  | gameEvent message =>
    cases message with
    | playerLeft pid =>
      cases h
      split <;> rfl
    | rosterUpdate roster =>
      obtain ⟨merged, rfl, -⟩ := mergeRoster_spec h
      rfl
    | election message => exact (onElectionMessage_parts h).keepsSequence.sequence attached
    | _ => cases h; rfl
  | tickElectionState foundIp => exact (tickElectionState_parts h).keepsSequence.sequence attached
  | adjustPredictionLead =>
    cases h
    unfold adjustPredictionLead
    dsimp only
    split_ifs <;> rfl

/-! ## Runs -/

/-- A client's calls, each with the clock that it reads. -/
def clientStep (n : Node) (c : ℚ × ClientCall) : Except PyError Node := n.clientCall c.1 c.2

/-- The call leaves the client with the host that it has. -/
def StaysAttached (n : Node) (c : ℚ × ClientCall) : Prop :=
  ∀ m, n.clientStep c = .ok m → m.attachment = n.attachment

instance (n : Node) (c : ℚ × ClientCall) : Decidable (n.StaysAttached c) :=
  inferInstanceAs (Decidable (∀ m, n.clientStep c = .ok m → _))

/-- The numbers of the states that the client adopts, in order. -/
def adoptions (n : Node) : List (ℚ × ClientCall) → List ℤ
  | [] => []
  | c :: calls =>
    (n.adopts c.2).toList ++
      match n.clientStep c with
      | .ok m => m.adoptions calls
      | .error _ => []

/-- No call lowers the number of the last snapshot, and no adopted state is older than one adopted
before. -/
structure NeverGoesBack (n : Node) (calls : List (ℚ × ClientCall)) : Prop where
  sequence : Along clientStep
    (fun n c => ∀ m, n.clientStep c = .ok m → n.lastSnapshotSequence ≤ m.lastSnapshotSequence)
    n calls
  states : (n.adoptions calls).Pairwise (· ≤ ·)

/-- An `InitialStateSync` is not older than what the client has. -/
def SyncsForward (n : Node) (c : ℚ × ClientCall) : Prop :=
  match c.2 with
  | .lobbyMessage (.initialStateSync w) => n.lastSnapshotSequence ≤ w.sequenceNumber
  | _ => True

instance (n : Node) (c : ℚ × ClientCall) : Decidable (n.SyncsForward c) := by
  unfold SyncsForward
  split <;> infer_instance

/-- A state that is adopted under the condition is not older. -/
theorem le_of_adopts {n : Node} {c : ℚ × ClientCall} {k : ℤ} (forward : n.SyncsForward c)
    (h : n.adopts c.2 = some k) : n.lastSnapshotSequence ≤ k := by
  unfold adopts at h
  split at h
  case h_1 w hsync =>
    unfold SyncsForward at forward
    rw [hsync] at forward
    obtain rfl := Option.some.inj h
    exact forward
  case h_2 snapshot _ =>
    split at h
    case isTrue newer => exact Option.some.inj h ▸ newer.le
    case isFalse => cases h
  case h_3 => cases h

theorem clientStep_le {n m : Node} {c : ℚ × ClientCall} (forward : n.SyncsForward c)
    (attached : n.StaysAttached c) (h : n.clientStep c = .ok m) :
    n.lastSnapshotSequence ≤ m.lastSnapshotSequence := by
  rw [clientCall_sequence h (attached m h)]
  cases hadopts : n.adopts c.2 with
  | none => exact le_rfl
  | some k => exact le_of_adopts forward hadopts

/-- In a run whose syncs go forward every adopted state is at least as new as the start, and they
are adopted in order. -/
theorem adoptions_sorted {n : Node} {calls : List (ℚ × ClientCall)}
    (attached : Along clientStep StaysAttached n calls)
    (forward : Along clientStep SyncsForward n calls) :
    (∀ k ∈ n.adoptions calls, n.lastSnapshotSequence ≤ k) ∧
      (n.adoptions calls).Pairwise (· ≤ ·) := by
  induction calls generalizing n with
  | nil => exact ⟨by simp [adoptions], .nil⟩
  | cons c calls ih =>
    cases hstep : n.clientStep c with
    | error e =>
      simp only [adoptions, hstep, List.append_nil]
      cases hadopts : n.adopts c.2 with
      | none => simp
      | some k => simpa using le_of_adopts forward.1 hadopts
    | ok m =>
      obtain ⟨hlater, hsorted⟩ := ih (attached.2 m hstep) (forward.2 m hstep)
      have hle := clientStep_le forward.1 attached.1 hstep
      have hlast := clientCall_sequence hstep (attached.1 m hstep)
      simp only [adoptions, hstep]
      cases hadopts : n.adopts c.2 with
      | none => exact ⟨fun k hk => hle.trans (hlater k hk), hsorted⟩
      | some k =>
        rw [hadopts, Option.getD_some] at hlast
        rw [hlast] at hle hlater
        refine ⟨fun j hj => ?_, List.pairwise_cons.mpr ⟨hlater, hsorted⟩⟩
        rcases List.mem_cons.mp hj with rfl | hj
        · exact hle
        · exact hle.trans (hlater j hj)

/-- A client with one host goes back to an older state exactly when it takes an `InitialStateSync`
that is older than the state it has. -/
theorem neverGoesBack_iff {n : Node} {calls : List (ℚ × ClientCall)}
    (attached : Along clientStep StaysAttached n calls) :
    n.NeverGoesBack calls ↔ Along clientStep SyncsForward n calls := by
  constructor
  · rintro ⟨hsequence, -⟩
    induction calls generalizing n with
    | nil => trivial
    | cons c calls ih =>
      refine ⟨?_, fun m hstep => ih (attached.2 m hstep) (hsequence.2 m hstep)⟩
      unfold SyncsForward
      split
      case h_1 w hsync =>
        have hstep : n.clientStep c = .ok (n.onLobbyMessage (.initialStateSync w)) := by
          rw [clientStep, hsync]
          rfl
        exact hsequence.1 _ hstep
      case h_2 => trivial
  · intro forward
    refine ⟨?_, (adoptions_sorted attached forward).2⟩
    induction calls generalizing n with
    | nil => trivial
    | cons c calls ih =>
      exact ⟨fun m hstep => clientStep_le forward.1 attached.1 hstep,
        fun m hstep => ih (attached.2 m hstep) (forward.2 m hstep)⟩

/-! ### A late sync -/

def worldNumbered (k : ℤ) : WorldState := { sequenceNumber := k }

def arrivingSnapshot (k : ℤ) : ℚ × ClientCall :=
  (0, .datagram (.ok (.worldState ⟨k, worldNumbered k⟩)))

def arrivingSync (k : ℤ) : ℚ × ClientCall :=
  (0, .lobbyMessage (.initialStateSync (worldNumbered k)))

/-- A client in its first frame. -/
def attachedClient : Node :=
  (clientOf threePlayers ⟨"player-2", "10.0.0.2", 50011, 1, .connected, false⟩
    "10.0.0.1").ensureElectionComponents

theorem reordered_states_are_sorted :
    attachedClient.NeverGoesBack
      [arrivingSync 5, arrivingSnapshot 10, arrivingSnapshot 8, arrivingSync 10] :=
  (neverGoesBack_iff (by decide +kernel)).mpr (by decide +kernel)

/-- The sync of somebody else's rejoin arrives after a newer snapshot. -/
theorem late_sync_takes_the_client_back :
    Along clientStep StaysAttached attachedClient [arrivingSnapshot 10, arrivingSync 5] ∧
    attachedClient.adoptions [arrivingSnapshot 10, arrivingSync 5] = [10, 5] ∧
    ¬ attachedClient.NeverGoesBack [arrivingSnapshot 10, arrivingSync 5] := by
  have hadoptions : attachedClient.adoptions [arrivingSnapshot 10, arrivingSync 5] = [10, 5] := by
    decide +kernel
  refine ⟨by decide +kernel, hadoptions, fun h => ?_⟩
  have hsorted := h.states
  rw [hadoptions] at hsorted
  exact absurd hsorted (by decide)

end Node

end DistributedSmb
