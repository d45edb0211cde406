import DistributedSmb.Library.LiveList
import DistributedSmb.Network.GameEventServer

/-!
# Broadcasts

A broadcast walks the live list of connections. Whatever else the server does in between, a client
that stays registered and takes its sends is sent the payload at most once, and it is sent it unless
the walk slips over it.
-/

namespace DistributedSmb

open Library

variable {κ : Type} [DecidableEq κ]

namespace GameEventServer

/-- The socket stays registered, and no send of this round fails on it. -/
def StaysWith (k : ℕ) (ws : κ) (s : GameEventServer κ) (x : GameEventStep κ) : Prop :=
  ws ∈ (s.step x).connections ∧
    ∀ r ∈ s.rounds[k]?, r.awaiting = some ws → x ≠ .sendReturns k true

instance (k : ℕ) (ws : κ) : DecidableRel (StaysWith k ws) := fun s x =>
  inferInstanceAs (Decidable (ws ∈ (s.step x).connections ∧
    ∀ r ∈ s.rounds[k]?, r.awaiting = some ws → x ≠ .sendReturns k true))

/-- An endpoint ends whose socket the round has passed, while `ws` is the next one to be looked
up. -/
def SlipsOver (k : ℕ) (ws : κ) (s : GameEventServer κ) : GameEventStep κ → Prop
  | .endpointReturns gone cancelled => s.Returns gone cancelled ∧ ∃ r ∈ s.rounds[k]?,
      gone ∈ s.connections.take r.position ∧ s.connections[r.position]? = some ws
  | _ => False

instance (k : ℕ) (ws : κ) : DecidableRel (SlipsOver k ws) := fun s x =>
  match x with
  | .endpointReturns gone cancelled => inferInstanceAs (Decidable (s.Returns gone cancelled ∧
      ∃ r ∈ s.rounds[k]?, gone ∈ s.connections.take r.position ∧
        s.connections[r.position]? = some ws))
  | .connect .. | .broadcast _ | .heartbeat | .sendReturns .. | .poll => .isFalse id

/-- Round `k` walks the connections like `w`, which counts a send when it begins. -/
structure Follows (k : ℕ) (text : String) (ws : κ) (s : GameEventServer κ) (w : Walk κ) : Prop where
  list : w.list = s.connections
  round : ∃ r, s.rounds[k]? = some r ∧ r.text = text ∧ w.position = r.position ∧
    w.ended = r.awaiting.isNone ∧
    w.visited.count ws = r.sent.count ws + if r.awaiting = some ws then 1 else 0

/-- The loop goes on: the send that was awaited is accounted for, and the next one begins. -/
theorem proceed_follows {s : GameEventServer κ} {k : ℕ} {r : SendRound κ} {w : Walk κ} {ws : κ}
    (hk : k < s.rounds.length) (list : w.list = s.connections) (position : w.position = r.position)
    (running : w.ended = false) (count : w.visited.count ws = r.sent.count ws) :
    Follows k r.text ws (s.proceed k r) (w.step .next) := by
  have hround : (s.proceed k r).rounds[k]? = some (r.advance s.connections) := by
    simp [proceed, hk]
  have hrunning : ¬ w.ended = true := by simp [running]
  simp only [Walk.step, Walk.advance, if_neg hrunning, list, position]
  unfold SendRound.advance at hround
  split
  case h_1 next hnext =>
    simp only [hnext] at hround
    refine ⟨rfl, _, hround, rfl, rfl, running, ?_⟩
    simp only [List.count_append, count, List.count_singleton, Option.some.injEq, beq_iff_eq]
  case h_2 hnone =>
    simp only [hnone] at hround
    exact ⟨rfl, _, hround, rfl, rfl, rfl, by simpa using count⟩

/-- What leaves the connections and the round alone. -/
theorem Follows.same {k : ℕ} {text : String} {ws : κ} {s s' : GameEventServer κ} {w : Walk κ}
    (h : Follows k text ws s w) (connections : s'.connections = s.connections)
    (rounds : s'.rounds[k]? = s.rounds[k]?) : Follows k text ws s' w :=
  ⟨h.list.trans connections.symm, by rw [rounds]; exact h.round⟩

/-- Every step of the server is a step of the walk, or none. -/
theorem Follows.step {k : ℕ} {text : String} {ws : κ} {s : GameEventServer κ} {w : Walk κ}
    {x : GameEventStep κ} (h : Follows k text ws s w) (inOrder : s.InOrder)
    (stays : StaysWith k ws s x) :
    (Follows k text ws (s.step x) w ∧ ¬ SlipsOver k ws s x) ∨
    ∃ y, Follows k text ws (s.step x) (w.step y) ∧ w.Retains ws y ∧
      (w.SlipsOver ws y ↔ SlipsOver k ws s x) := by
  obtain ⟨r, hr, htext, hposition, hended, hcount⟩ := h.round
  have hk : k < s.rounds.length := (List.getElem?_eq_some_iff.mp hr).1
  have begins (other : String) : Follows k text ws (s.sendRound other) w := by
    refine h.same rfl ?_
    simp only [sendRound, proceed]
    rw [List.getElem?_set_ne (by omega), List.getElem?_append_left hk]
  cases x with
  | connect new playerId =>
    simp only [GameEventServer.step, connect]
    split
    case isTrue => exact .inl ⟨h, id⟩
    case isFalse hnew =>
      have hfree : new ∉ w.list := fun hmem => hnew (inOrder.accepted new (h.list ▸ hmem))
      refine .inr ⟨.append new, ⟨?_, h.round⟩, hfree, Iff.rfl⟩
      simp [Walk.step, h.list]
  | broadcast payload => exact .inl ⟨begins payload, id⟩
  | heartbeat => exact .inl ⟨begins ping, id⟩
  | sendReturns j raises =>
    simp only [GameEventServer.step, sendReturns]
    split
    case h_1 => exact .inl ⟨h, id⟩
    case h_2 r' hr' =>
      split
      case h_1 => exact .inl ⟨h, id⟩
      case h_2 target htarget =>
        by_cases hj : j = k
        · subst hj
          obtain rfl : r' = r := Option.some.inj (hr'.symm.trans hr)
          have hsent := stays.2 r' hr
          subst htext
          have hfollows := proceed_follows (r := r'.sendReturns target raises) hk h.list
            (by rw [hposition]; unfold SendRound.sendReturns; split <;> rfl)
            (by simp [hended, htarget]) (by
              rw [hcount, htarget]
              unfold SendRound.sendReturns
              by_cases hws : target = ws
              · subst hws
                have hreturns : raises = false := by simpa using hsent htarget
                simp [hreturns]
              · cases raises <;> simp [hws])
          refine .inr ⟨.next, ?_, trivial, Iff.rfl⟩
          have htext : (r'.sendReturns target raises).text = r'.text := by
            unfold SendRound.sendReturns
            split <;> rfl
          exact htext ▸ hfollows
        · refine .inl ⟨h.same rfl ?_, id⟩
          simp [proceed, List.getElem?_set_ne hj]
  | endpointReturns gone cancelled =>
    simp only [GameEventServer.step]
    split
    case isTrue hreturns =>
      have hne : gone ≠ ws := by
        rintro rfl
        have hstays : gone ∈ (s.step (.endpointReturns gone cancelled)).connections := stays.1
        simp only [GameEventServer.step, if_pos hreturns] at hstays
        exact inOrder.nodup.not_mem_erase hstays
      refine .inr ⟨.remove gone, ⟨?_, h.round⟩, hne, ?_⟩
      · simp [Walk.step, finish, h.list]
      · simp [Walk.SlipsOver, SlipsOver, hreturns, h.list, hr, hposition]
    case isFalse hwaits => exact .inl ⟨h, fun hslips => hwaits hslips.1⟩
  | poll => exact .inl ⟨h.same rfl rfl, id⟩

theorem Follows.run {k : ℕ} {text : String} {ws : κ} {steps : List (GameEventStep κ)}
    {s : GameEventServer κ} {w : Walk κ} (h : Follows k text ws s w) (inOrder : s.InOrder)
    (stays : Fallible.Meets GameEventServer.step (StaysWith k ws) s steps) :
    ∃ walk : List (WalkStep κ), Follows k text ws (s.run steps) (w.run walk) ∧
      Fallible.Meets Walk.step (Walk.Retains ws) w walk ∧
      (Fallible.Meets Walk.step (fun w y => ¬ w.SlipsOver ws y) w walk ↔
        Fallible.Meets GameEventServer.step (fun s x => ¬ SlipsOver k ws s x) s steps) := by
  induction steps generalizing s w with
  | nil => exact ⟨[], h, trivial, Iff.rfl⟩
  | cons x steps ih =>
    rcases h.step inOrder stays.1 with ⟨hfollows, hslips⟩ | ⟨y, hfollows, hretains, hslips⟩
    · obtain ⟨walk, hrun, hwalk, hiff⟩ := ih hfollows (inOrder.step x) stays.2
      exact ⟨walk, hrun, hwalk, hiff.trans (and_iff_right hslips).symm⟩
    · obtain ⟨walk, hrun, hwalk, hiff⟩ := ih hfollows (inOrder.step x) stays.2
      exact ⟨y :: walk, hrun, ⟨hretains, hwalk⟩, and_congr (not_congr hslips) hiff⟩

/-- When a broadcast is over, a client that was registered when it started, has stayed and has
taken its sends has been sent the payload exactly once, if and only if the walk has not slipped
over it. -/
theorem broadcast_once_iff (before : List (GameEventStep κ)) (payload : String) {ws : κ}
    (registered : ws ∈ (run {} before).connections) {steps : List (GameEventStep κ)}
    (stays : Fallible.Meets step (StaysWith (run {} before).rounds.length ws)
      ((run {} before).step (.broadcast payload)) steps) {r : SendRound κ}
    (round : (((run {} before).step (.broadcast payload)).run steps).rounds[
      (run {} before).rounds.length]? = some r)
    (ended : r.awaiting = none) :
    r.text = payload ∧ (r.sent.count ws = 1 ↔
      Fallible.Meets step (fun s x => ¬ SlipsOver (run {} before).rounds.length ws s x)
        ((run {} before).step (.broadcast payload)) steps) := by
  have inOrder := run_inOrder before
  generalize run {} before = s at *
  let w : Walk κ := { list := s.connections }
  have hbegins : Follows s.rounds.length payload ws (s.step (.broadcast payload)) (w.step .next) :=
    proceed_follows (r := { text := payload }) (by simp) rfl rfl rfl rfl
  obtain ⟨walk, hfollows, hretains, hiff⟩ := hbegins.run (inOrder.step _) stays
  obtain ⟨r', hr', htext, -, hended, hcount⟩ := hfollows.round
  obtain rfl : r' = r := Option.some.inj (hr'.symm.trans round)
  obtain ⟨i, hi, hws⟩ := List.mem_iff_getElem.mp registered
  have hahead : w.Ahead ws := ⟨i, Nat.zero_le i, List.getElem?_eq_some_iff.mpr ⟨hi, hws⟩⟩
  have hover : (w.run (.next :: walk)).ended = true := by
    change ((w.step .next).run walk).ended = true
    rw [hended, ended]
    rfl
  have hwalk : Fallible.Meets Walk.step (Walk.Retains ws) w (.next :: walk) := ⟨trivial, hretains⟩
  have honce := Walk.visited_once_iff hahead inOrder.nodup rfl List.not_mem_nil hwalk hover
  refine ⟨htext, ?_⟩
  have hsent : (w.run (.next :: walk)).visited.count ws = r'.sent.count ws := by
    change ((w.step .next).run walk).visited.count ws = _
    simpa [ended] using hcount
  rw [← hsent, honce, ← hiff]
  exact and_iff_right id

end GameEventServer

/-! ### Three clients -/

/-- The sockets of three clients. -/
def threeClients : List (GameEventStep ℕ) :=
  [.connect 1 "player2", .connect 2 "player3", .connect 3 "player4"]

/-- A heartbeat, and the end of an endpoint that the broadcast has passed, do no harm here: the send
to the last client has begun already. -/
theorem heartbeat_does_not_disturb :
    let begun := (GameEventServer.run {} threeClients).step (.broadcast "event")
    ∃ r, (begun.run [.sendReturns 0 false, .heartbeat, .sendReturns 0 false,
      .endpointReturns 1 true, .sendReturns 0 false]).rounds[0]? = some r ∧
      r.text = "event" ∧ r.sent.count 3 = 1 := by
  intro begun
  let r : SendRound ℕ :=
    { text := "event"
      position := 3
      sent := [1, 2, 3] }
  have hround : (begun.run [.sendReturns 0 false, .heartbeat, .sendReturns 0 false,
      .endpointReturns 1 true, .sendReturns 0 false]).rounds[0]? = some r := by decide
  have hregistered : 3 ∈ (GameEventServer.run {} threeClients).connections := by decide
  obtain ⟨htext, honce⟩ := GameEventServer.broadcast_once_iff threeClients "event" hregistered
    (by decide) hround rfl
  exact ⟨r, hround, htext, honce.mpr (by decide)⟩

/-- A heartbeat has found the first socket dead. Its endpoint ends while a broadcast awaits the send
to the second client, and the third one, which has been connected all along, is never looked up. -/
theorem third_client_is_missed :
    let before := threeClients ++
      [.heartbeat, .sendReturns 0 true, .sendReturns 0 false, .sendReturns 0 false]
    let begun := (GameEventServer.run {} before).step (.broadcast "event")
    let steps : List (GameEventStep ℕ) :=
      [.sendReturns 1 true, .endpointReturns 1 false, .sendReturns 1 false]
    3 ∈ (GameEventServer.run {} before).connections ∧
      Fallible.Meets GameEventServer.step (GameEventServer.StaysWith 1 3) begun steps ∧
      ∃ r, (begun.run steps).rounds[1]? = some r ∧ r.text = "event" ∧ r.awaiting = none ∧
        r.sent = [2] := by
  refine ⟨by decide, by decide, ⟨"event", 2, none, [1], [2]⟩, by decide, rfl, rfl, rfl⟩

end DistributedSmb
