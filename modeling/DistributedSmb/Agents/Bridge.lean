import DistributedSmb.Agents.Integration

/-!
# The bridge between two threads

A call of `publish` is a loop of single `put_nowait` and `get_nowait` steps, and the consumer may
poll between any two of them. Whatever it does, the loop ends in its second round at the latest, and
every message that was published was received, was counted as dropped, or is still in the queue.
-/

namespace DistributedSmb

open Library

namespace AgentQueue

variable {α : Type}

/-- `none` is `Full`. -/
def putNowait (q : AgentQueue α) (value : α) : Option (AgentQueue α) :=
  if hfull : 0 < q.maxsize ∧ q.maxsize ≤ q.items.length then none
  else
    some
      { maxsize := q.maxsize
        items := q.items ++ [value]
        fits := fun hbounded => by
          rw [List.length_append, List.length_singleton]
          omega }

/-- `none` is `Empty`. -/
def getNowait (q : AgentQueue α) : Option (α × AgentQueue α) :=
  q.items.head?.map fun value =>
    (value,
      { maxsize := q.maxsize
        items := q.items.tail
        fits := fun hbounded => by
          have := q.fits hbounded
          rw [List.length_tail]
          omega })

/-- An empty queue. -/
def ofCapacity (capacity : ℕ) : AgentQueue α where
  maxsize := capacity
  items := []
  fits _ := Nat.zero_le _

theorem putNowait_eq_some {q q' : AgentQueue α} {value : α} (h : q.putNowait value = some q') :
    q'.maxsize = q.maxsize ∧ q'.items = q.items ++ [value] := by
  unfold putNowait at h
  split at h
  · cases h
  · cases h
    exact ⟨rfl, rfl⟩

theorem putNowait_eq_none {q : AgentQueue α} {value : α} :
    q.putNowait value = none ↔ 0 < q.maxsize ∧ q.maxsize ≤ q.items.length := by
  unfold putNowait
  split
  case isTrue hfull => exact iff_of_true rfl hfull
  case isFalse hroom => exact iff_of_false (Option.some_ne_none _) hroom

theorem getNowait_eq_some {q q' : AgentQueue α} {value : α} (h : q.getNowait = some (value, q')) :
    q'.maxsize = q.maxsize ∧ q.items = value :: q'.items := by
  obtain ⟨first, hfirst, heq⟩ := Option.map_eq_some_iff.mp h
  cases heq
  exact ⟨rfl, (List.cons_head?_tail hfirst).symm⟩

theorem getNowait_eq_none {q : AgentQueue α} : q.getNowait = none ↔ q.items = [] := by
  rw [getNowait, Option.map_eq_none_iff, List.head?_eq_none_iff]

/-- Without a consumer the loop puts at once, or drops one item and puts then. -/
theorem putLatest_of_room {q q' : AgentQueue α} {value : α} (h : q.putNowait value = some q') :
    q.putLatest value = (q', 0) := by
  have hroom : ¬(0 < q.maxsize ∧ q.items.length = q.maxsize) := fun hfull => by
    rw [putNowait_eq_none.mpr ⟨hfull.1, hfull.2.ge⟩] at h
    cases h
  rw [putLatest, dif_neg hroom]
  unfold putNowait at h
  split at h
  · cases h
  · cases h
    rfl

theorem putLatest_of_full {q : AgentQueue α} {value : α} (h : q.putNowait value = none) :
    ∃ oldest q₁ q₂, q.getNowait = some (oldest, q₁) ∧ q₁.putNowait value = some q₂ ∧
      q.putLatest value = (q₂, 1) := by
  obtain ⟨hbounded, hfull⟩ := putNowait_eq_none.mp h
  have hlength : q.items.length = q.maxsize := (q.fits hbounded).antisymm hfull
  cases hget : q.getNowait with
  | none =>
    rw [getNowait_eq_none.mp hget, List.length_nil] at hlength
    exact absurd hlength hbounded.ne
  | some r =>
    obtain ⟨hsame, hitems⟩ := getNowait_eq_some hget
    cases hput : r.2.putNowait value with
    | none =>
      rw [putNowait_eq_none, hsame, ← hlength, hitems, List.length_cons] at hput
      omega
    | some q₂ =>
      obtain ⟨hsame₂, hitems₂⟩ := putNowait_eq_some hput
      refine ⟨r.1, r.2, q₂, rfl, hput, ?_⟩
      rw [putLatest, dif_pos ⟨hbounded, hlength⟩]
      cases q₂
      simp only at hsame₂ hitems₂
      simp only [hsame₂, hsame, hitems₂, hitems, List.tail_cons]

end AgentQueue

def SpadeAgentBridge.pollPerception (b : SpadeAgentBridge) :
    Option GoombaPerceptionMessage × SpadeAgentBridge :=
  match b.perceptions.getNowait with
  | some (message, perceptions) => (some message, { b with perceptions := perceptions })
  | none => (none, b)

/-! ## Interleavings -/

/-- Where the publisher is: outside, before a `put_nowait`, or before the `get_nowait` after a
`Full`. `round` counts the rounds of the loop. -/
inductive PublishCall where
  | returned
  | putting (value : GoombaPerceptionMessage) (dropped round : ℕ)
  | getting (value : GoombaPerceptionMessage) (dropped round : ℕ)
  deriving DecidableEq

namespace PublishCall

def round : PublishCall → ℕ
  | returned => 0
  | putting _ _ round => round
  | getting _ _ round => round

/-- What the call has dropped without having counted it. -/
def dropped : PublishCall → ℕ
  | returned => 0
  | putting _ dropped _ => dropped
  | getting _ dropped _ => dropped

/-- The message that is still to be put. -/
def pending : PublishCall → List GoombaPerceptionMessage
  | returned => []
  | putting value _ _ => [value]
  | getting value _ _ => [value]

/-- The second round finds room in a queue with this many items. -/
def HasRoom (capacity items : ℕ) : PublishCall → Prop
  | returned => True
  | putting _ _ round => round = 1 ∨ round = 2 ∧ items < capacity
  | getting _ _ round => round = 1

/-- The steps that are left at most. -/
def stepsLeft : PublishCall → ℕ
  | returned => 0
  | putting _ _ round => if round = 1 then 3 else 1
  | getting _ _ _ => 2

theorem HasRoom.mono {call : PublishCall} {capacity n m : ℕ} (h : call.HasRoom capacity n)
    (hle : m ≤ n) : call.HasRoom capacity m := by
  cases call with
  | returned => trivial
  | putting value dropped round => exact h.imp_right fun h => ⟨h.1, hle.trans_lt h.2⟩
  | getting value dropped round => exact h

theorem HasRoom.round_le {call : PublishCall} {capacity n : ℕ} (h : call.HasRoom capacity n) :
    call.round ≤ 2 := by
  cases call with
  | returned => exact Nat.zero_le 2
  | putting value dropped round =>
    rcases h with rfl | ⟨rfl, -⟩
    · exact Nat.le_succ 1
    · exact le_rfl
  | getting value dropped round =>
    cases h
    exact Nat.le_succ 1

theorem stepsLeft_le (call : PublishCall) : call.stepsLeft ≤ 3 := by
  cases call with
  | returned => exact Nat.zero_le 3
  | putting value dropped round =>
    rw [stepsLeft]
    split <;> omega
  | getting value dropped round => exact Nat.le_succ 2

end PublishCall

/-- The publisher calls, the publisher takes its next step, or the consumer polls. -/
inductive BridgeAction where
  | publish (message : GoombaPerceptionMessage)
  | publisher
  | poll
  deriving DecidableEq

/-- The bridge with what `publish` was called with and what the consumer received. -/
structure BridgeRun where
  bridge : SpadeAgentBridge
  call : PublishCall := .returned
  published : List GoombaPerceptionMessage := []
  consumed : List GoombaPerceptionMessage := []

namespace BridgeRun

/-- A step of the loop in `_put_latest`; the count of the dropped is added when it returns. -/
def stepCall (r : BridgeRun) : BridgeRun :=
  match r.call with
  | .returned => r
  | .putting value dropped round =>
    match r.bridge.perceptions.putNowait value with
    | some perceptions =>
      { r with
        bridge :=
          { r.bridge with
            perceptions := perceptions
            droppedPerceptions := r.bridge.droppedPerceptions + dropped }
        call := .returned }
    | none => { r with call := .getting value dropped round }
  | .getting value dropped round =>
    match r.bridge.perceptions.getNowait with
    | some (_, perceptions) =>
      { r with
        bridge := { r.bridge with perceptions := perceptions }
        call := .putting value (dropped + 1) (round + 1) }
    | none => { r with call := .putting value dropped (round + 1) }

/-- There is one publisher: it does not call again before it has returned. -/
def step (r : BridgeRun) : BridgeAction → BridgeRun
  | .publish message =>
    match r.call with
    | .returned => { r with call := .putting message 0 1, published := r.published ++ [message] }
    | _ => r
  | .publisher => r.stepCall
  | .poll =>
    { r with
      bridge := r.bridge.pollPerception.2
      consumed := r.consumed ++ r.bridge.pollPerception.1.toList }

def run (r : BridgeRun) (actions : List BridgeAction) : BridgeRun := actions.foldl step r

/-- Nothing published yet. -/
def fresh (capacity : ℕ) : BridgeRun where
  bridge := { SpadeAgentBridge.fresh with perceptions := .ofCapacity capacity }

/-! ## Every message is accounted for -/

/-- `gone` is what has left the queue, to the consumer or to make room. -/
structure Accounted (capacity : ℕ) (r : BridgeRun) : Prop where
  maxsize : r.bridge.perceptions.maxsize = capacity
  history : ∃ gone, r.published = gone ++ (r.bridge.perceptions.items ++ r.call.pending) ∧
    r.consumed.Sublist gone ∧
    gone.length = r.consumed.length + r.bridge.droppedPerceptions + r.call.dropped
  room : r.call.HasRoom capacity r.bridge.perceptions.items.length

variable {capacity : ℕ} {r : BridgeRun}

theorem accounted_fresh (capacity : ℕ) : (fresh capacity).Accounted capacity where
  maxsize := rfl
  history := ⟨[], rfl, .slnil, rfl⟩
  room := trivial

theorem Accounted.stepCall (hpos : 0 < capacity) (h : r.Accounted capacity) :
    r.stepCall.Accounted capacity := by
  obtain ⟨hmaxsize, ⟨gone, hpublished, hreceived, hcount⟩, hroom⟩ := h
  unfold BridgeRun.stepCall
  split
  case h_1 => exact ⟨hmaxsize, ⟨gone, hpublished, hreceived, hcount⟩, hroom⟩
  case h_2 value dropped round hcall =>
    rw [hcall] at hpublished hcount hroom
    split
    case h_1 perceptions hput =>
      obtain ⟨hsame, hitems⟩ := AgentQueue.putNowait_eq_some hput
      refine ⟨hsame.trans hmaxsize, ⟨gone, ?_, hreceived, ?_⟩, trivial⟩
      · simpa [hitems, PublishCall.pending] using hpublished
      · simpa [PublishCall.dropped, Nat.add_assoc] using hcount
    case h_2 hfull =>
      -- only the first round can find the queue full
      have hround : round = 1 := by
        rw [AgentQueue.putNowait_eq_none, hmaxsize] at hfull
        exact hroom.resolve_right fun hlater => absurd hlater.2 (not_lt.mpr hfull.2)
      exact ⟨hmaxsize, ⟨gone, hpublished, hreceived, hcount⟩, hround⟩
  case h_3 value dropped round hcall =>
    rw [hcall] at hpublished hcount hroom
    obtain rfl : round = 1 := hroom
    split
    case h_1 oldest perceptions hget =>
      obtain ⟨hsame, hitems⟩ := AgentQueue.getNowait_eq_some hget
      refine ⟨hsame.trans hmaxsize, ⟨gone ++ [oldest], ?_, ?_, ?_⟩, .inr ⟨rfl, ?_⟩⟩
      · simpa [hitems, PublishCall.pending] using hpublished
      · exact hreceived.trans (List.sublist_append_left gone [oldest])
      · rw [List.length_append, hcount]
        exact Nat.add_assoc _ _ _
      · have hfits := r.bridge.perceptions.fits (hmaxsize ▸ hpos)
        rw [hitems, hmaxsize, List.length_cons] at hfits
        exact hfits
    case h_2 hempty =>
      -- the consumer has emptied the queue since it was found full
      rw [AgentQueue.getNowait_eq_none] at hempty
      exact ⟨hmaxsize, ⟨gone, hpublished, hreceived, hcount⟩, .inr ⟨rfl, by simpa [hempty]⟩⟩

theorem Accounted.step (hpos : 0 < capacity) (h : r.Accounted capacity) (action : BridgeAction) :
    (r.step action).Accounted capacity := by
  cases action with
  | publish message =>
    obtain ⟨hmaxsize, ⟨gone, hpublished, hreceived, hcount⟩, hroom⟩ := h
    simp only [BridgeRun.step]
    split
    case h_1 hreturned =>
      rw [hreturned] at hpublished hcount
      refine ⟨hmaxsize, ⟨gone, ?_, hreceived, hcount⟩, .inl rfl⟩
      simp [hpublished, PublishCall.pending]
    case h_2 => exact ⟨hmaxsize, ⟨gone, hpublished, hreceived, hcount⟩, hroom⟩
  | publisher => exact h.stepCall hpos
  | poll =>
    obtain ⟨hmaxsize, ⟨gone, hpublished, hreceived, hcount⟩, hroom⟩ := h
    simp only [BridgeRun.step, SpadeAgentBridge.pollPerception]
    split
    case h_1 message perceptions hget =>
      obtain ⟨hsame, hitems⟩ := AgentQueue.getNowait_eq_some hget
      rw [hitems] at hpublished hroom
      refine ⟨hsame.trans hmaxsize, ⟨gone ++ [message], ?_, ?_, ?_⟩, hroom.mono (Nat.le_succ _)⟩
      · simpa using hpublished
      · exact hreceived.append (List.Sublist.refl [message])
      · simp only [List.length_append, List.length_singleton, Option.toList_some, hcount]
        omega
    case h_2 hempty =>
      refine ⟨hmaxsize, ⟨gone, hpublished, ?_, ?_⟩, hroom⟩
      · simpa using hreceived
      · simpa using hcount

theorem Accounted.run (hpos : 0 < capacity) (h : r.Accounted capacity)
    (actions : List BridgeAction) : (r.run actions).Accounted capacity := by
  induction actions generalizing r with
  | nil => exact h
  | cons action actions ih => exact ih (h.step hpos action)

/-! ## Every call returns -/

/-- Only the publisher's own steps bring the call forward, and each of them does. -/
theorem Accounted.stepsLeft_step (h : r.Accounted capacity) (busy : r.call ≠ .returned)
    (action : BridgeAction) :
    (r.step action).call.stepsLeft + [action].count .publisher ≤ r.call.stepsLeft := by
  cases action with
  | publish message =>
    simp only [BridgeRun.step]
    exact le_rfl
  | poll => exact le_rfl
  | publisher =>
    have hroom := h.room
    simp only [BridgeRun.step, BridgeRun.stepCall, List.count_singleton_self]
    split
    case h_1 hreturned => exact absurd hreturned busy
    case h_2 value dropped round hcall =>
      rw [hcall] at hroom ⊢
      split
      case h_1 => simp only [PublishCall.stepsLeft]; split <;> omega
      case h_2 hfull =>
        rw [AgentQueue.putNowait_eq_none, h.maxsize] at hfull
        have hround : round = 1 :=
          hroom.resolve_right fun hlater => absurd hlater.2 (not_lt.mpr hfull.2)
        simp [PublishCall.stepsLeft, hround]
    case h_3 value dropped round hcall =>
      rw [hcall] at hroom ⊢
      obtain rfl : round = 1 := hroom
      split <;> exact le_rfl

theorem Accounted.returns (hpos : 0 < capacity) (h : r.Accounted capacity)
    {actions : List BridgeAction} (enough : r.call.stepsLeft ≤ actions.count .publisher) :
    ∃ k, (r.run (actions.take k)).call = .returned := by
  induction actions generalizing r with
  | nil =>
    refine ⟨0, ?_⟩
    change r.call = .returned
    cases hcall : r.call with
    | returned => rfl
    | putting value dropped round =>
      rw [hcall] at enough
      simp only [PublishCall.stepsLeft] at enough
      split at enough <;> cases enough
    | getting value dropped round => rw [hcall] at enough; cases enough
  | cons action actions ih =>
    by_cases hreturned : r.call = .returned
    · exact ⟨0, hreturned⟩
    · have hstep := h.stepsLeft_step hreturned action
      rw [List.count_cons] at enough
      rw [List.count_singleton] at hstep
      obtain ⟨k, hk⟩ := ih (h.step hpos action) (by omega)
      exact ⟨k + 1, hk⟩

/-- Whatever the order of the steps: a call is in its second round at the latest and returns within
three steps of the publisher; between the calls what was published was received, dropped and
counted, or is queued; the queue keeps to its capacity; what was received is in the order of
publication; and the queue holds the latest messages. -/
theorem bridge_loses_nothing_silently (hpos : 0 < capacity) (actions : List BridgeAction) :
    let r := (fresh capacity).run actions
    r.call.round ≤ 2 ∧
    (∀ more : List BridgeAction, 3 ≤ more.count .publisher →
      ∃ k, (r.run (more.take k)).call = .returned) ∧
    (r.call = .returned → r.published.length =
      r.consumed.length + r.bridge.droppedPerceptions + r.bridge.perceptions.items.length) ∧
    r.bridge.perceptions.items.length ≤ capacity ∧
    r.consumed.Sublist r.published ∧
    r.bridge.perceptions.items ++ r.call.pending <:+ r.published := by
  intro r
  have h : r.Accounted capacity := (accounted_fresh capacity).run hpos actions
  obtain ⟨gone, hpublished, hreceived, hcount⟩ := h.history
  refine ⟨h.room.round_le, fun more enough => ?_, fun hreturned => ?_, ?_, ?_, ?_⟩
  · exact h.returns hpos (r.call.stepsLeft_le.trans enough)
  · rw [hreturned] at hpublished hcount
    rw [hpublished, List.length_append, hcount, PublishCall.pending, List.append_nil]
    rfl
  · have hfits := r.bridge.perceptions.fits (h.maxsize ▸ hpos)
    exact h.maxsize ▸ hfits
  · rw [hpublished]
    exact hreceived.trans (List.sublist_append_left gone _)
  · rw [hpublished]
    exact List.suffix_append gone _

/-- A perception of the enemy at this simulation step. -/
def perceptionAt (sequence : ℤ) : GoombaPerceptionMessage where
  simulationSequence := sequence
  perception := { goombaId := "enemy-1", position := ⟨0, 0⟩, direction := .left }

/-- The consumer empties a queue of one between the `Full` and the `get_nowait`: nothing is
dropped. -/
theorem emptied_after_full :
    let r := (fresh 1).run
      [.publish (perceptionAt 0), .publisher, .publish (perceptionAt 1), .publisher, .poll,
        .publisher, .publisher]
    r.bridge.droppedPerceptions = 0 ∧
      r.published.length =
        r.consumed.length + r.bridge.droppedPerceptions + r.bridge.perceptions.items.length := by
  have haccounts := bridge_loses_nothing_silently Nat.one_pos
    [.publish (perceptionAt 0), .publisher, .publish (perceptionAt 1), .publisher, .poll,
      .publisher, .publisher]
  exact ⟨rfl, haccounts.2.2.1 rfl⟩

/-- A call that nothing interrupts is one `publish`. -/
theorem run_publish (returned : r.call = .returned) (message : GoombaPerceptionMessage) :
    (r.run [.publish message, .publisher, .publisher, .publisher]).bridge =
      r.bridge.publish message := by
  have hcalled : r.step (.publish message) =
      { r with call := .putting message 0 1, published := r.published ++ [message] } := by
    simp [step, returned]
  simp only [run, List.foldl_cons, List.foldl_nil, hcalled, SpadeAgentBridge.publish]
  cases hput : r.bridge.perceptions.putNowait message with
  | some perceptions =>
    rw [AgentQueue.putLatest_of_room hput]
    simp [step, stepCall, hput]
  | none =>
    obtain ⟨oldest, q₁, q₂, hget, hput₂, hlatest⟩ := AgentQueue.putLatest_of_full hput
    rw [hlatest]
    simp [step, stepCall, hput, hget, hput₂]

end BridgeRun

end DistributedSmb
