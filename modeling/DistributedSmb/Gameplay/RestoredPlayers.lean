import DistributedSmb.Gameplay.Rejoining

/-!
# The state that a returning player gets back

A node saves the character of every player that it evicts, as client and as host, but forgets it
only when it readmits the player itself. A player that comes back to a client over a roster of the
host leaves its saved character behind, and the client uses it once it has been promoted.
-/

namespace DistributedSmb

open Library

/-- A node, and the character of each player at its last eviction on this node, if it had one. -/
structure Log where
  node : Node
  left : PlayerId → Option Player := fun _ => none

namespace Log

/-- A call for a player that is neither in the roster nor in the world evicts nobody. -/
def leftAfter (s : Log) : Deed → PlayerId → Option Player
  | .evict pid =>
    if pid ∈ s.node.roster.ids ∨ pid ∈ s.node.engine.worldState.characters then
      Function.update s.left pid (s.node.engine.worldState.getPlayer pid)
    else s.left
  | _ => s.left

def Next (s : Log) (d : Deed) (s' : Log) : Prop := s.node.Does d s'.node ∧ s'.left = s.leftAfter d

/-- What a readmission that leads to `m` is to do: a character in the world stays as it is, and one
that is not there is as it was at the last eviction, or as new. -/
def Restores (s : Log) (entry : RosterEntry) (m : Node) : Prop :=
  match s.node.engine.worldState.getPlayer entry.playerId with
  | some p => m.engine.worldState.getPlayer entry.playerId = some p
  | none =>
    match s.left entry.playerId with
    | some p =>
      m.engine.worldState.getPlayer entry.playerId =
        some { p with playerId := entry.playerId, joinIndex := entry.joinIndex }
    | none =>
      m.engine = s.node.engine ∨
        m.engine = s.node.engine.spawnPlayer entry.playerId
          (s.node.engine.spawnPositionFor entry.joinIndex) entry.joinIndex

/-- A player for whose slot a character is saved is evicted from both the roster and the world, or
from neither. -/
def Regular (s : Log) : Deed → Prop
  | .evict pid =>
    (∀ i ∈ s.node.rejoinStates, playerIdFor i ≠ pid) ∨
      (pid ∈ s.node.roster.ids ↔ pid ∈ s.node.engine.worldState.characters)
  | _ => True

/-- A player in the world is listed, and nothing is saved for it; for one that is not, a character
is saved unless the player had none when it was evicted last. -/
def Expects (s : Log) (entry : RosterEntry) : Prop :=
  if entry.playerId ∈ s.node.engine.worldState.characters then
    entry.playerId ∈ s.node.roster.ids ∧ entry.joinIndex ∉ s.node.rejoinStates
  else entry.joinIndex ∈ s.node.rejoinStates ∨ s.left entry.playerId = none

def History : Log → Log → Prop := Relation.ReflTransGen fun s s' => ∃ d, s.Next d s'

def RegularHistory : Log → Log → Prop :=
  Relation.ReflTransGen fun s s' => ∃ d, s.Next d s' ∧ s.Regular d

/-- What is saved for a slot is the character that its player had at its last eviction. -/
structure SavesLast (s : Log) : Prop where
  known : s.node.KnowsSlots
  last : ∀ (i : ℕ) (p : Player), s.node.rejoinStates.get? i = some p →
    s.left (playerIdFor i) = some p

variable {s s' : Log} {d : Deed}

/-! ## Evictions -/

theorem evictPlayer_rejoinStates {n : Node} (known : n.KnowsSlots) (pid : PlayerId) :
    (∃ (i : ℕ) (p : Player), i < maxPlayers ∧ playerIdFor i = pid ∧ pid ∈ n.roster.ids ∧
        n.engine.worldState.getPlayer pid = some p ∧
        (n.evictPlayer pid).rejoinStates = n.rejoinStates.set i p) ∨
      ¬ (pid ∈ n.roster.ids ∧ pid ∈ n.engine.worldState.characters) ∧
        (n.evictPlayer pid).rejoinStates = n.rejoinStates := by
  simp only [Node.evictPlayer]
  cases hentry : n.roster.getPlayer pid with
  | none =>
    refine .inr ⟨fun both => ?_, rfl⟩
    obtain ⟨e, he, hid⟩ := GlobalRoster.mem_ids.mp both.1
    exact List.find?_eq_none.mp hentry e he (decide_eq_true hid)
  | some e =>
    obtain ⟨hmem, hid⟩ := Node.getPlayer_eq_some hentry
    obtain ⟨hslot, hname⟩ := known.listed e hmem
    cases hplayer : n.engine.worldState.getPlayer pid with
    | none => exact .inr ⟨fun h => Dict.get?_eq_none_iff.mp hplayer h.2, rfl⟩
    | some p =>
      exact .inl ⟨e.joinIndex, p, hslot, hname.symm.trans hid,
        GlobalRoster.mem_ids.mpr ⟨e, hmem, hid⟩, rfl, rfl⟩

theorem SavesLast.evict (h : s.SavesLast) {pid : PlayerId}
    (regular : s.Regular (.evict pid)) (i : ℕ) (p : Player)
    (saved : (s.node.evictPlayer pid).rejoinStates.get? i = some p) :
    s.leftAfter (.evict pid) (playerIdFor i) = some p := by
  rcases evictPlayer_rejoinStates h.known pid with
    ⟨j, q, hslot, rfl, there, alive, hsaves⟩ | ⟨hnot, hsame⟩
  · rw [leftAfter, if_pos (.inl there), alive]
    rw [hsaves] at saved
    by_cases hij : i = j
    · subst hij
      rw [Dict.get?_set_self] at saved
      rw [Function.update_self, saved]
    · rw [Dict.get?_set_ne _ hij] at saved
      have hi : i < maxPlayers := h.known.saved i (Dict.mem_of_get?_eq_some saved)
      rw [Function.update_of_ne fun heq => hij (playerIdFor_injective hi hslot heq)]
      exact h.last i p saved
  · rw [hsame] at saved
    rw [← h.last i p saved, leftAfter]
    split
    case isTrue there =>
      rcases regular with hunsaved | hboth
      · exact Function.update_of_ne (hunsaved i (Dict.mem_of_get?_eq_some saved)) _ _
      · exact absurd (there.elim (fun hids => ⟨hids, hboth.mp hids⟩)
          fun halive => ⟨hboth.mpr halive, halive⟩) hnot
    case isFalse => rfl

theorem SavesLast.next (h : s.SavesLast) (next : s.Next d s') (regular : s.Regular d) :
    s'.SavesLast := by
  obtain ⟨node', left'⟩ := s'
  obtain ⟨hdoes, hleft⟩ := next
  change left' = _ at hleft
  subst hleft
  refine ⟨h.known.deeds hdoes.deeds, ?_⟩
  cases hdoes with
  | elsewhere same =>
    intro i p saved
    have hsame : node'.rejoinStates = s.node.rejoinStates := congrArg (fun s => s.2.1) same
    rw [hsame] at saved
    exact h.last i p saved
  | evict pid => exact h.evict regular
  | learn slot named added => exact h.last
  | rejoin slot named rejoined =>
    intro i p saved
    rcases Node.rejoin_cases rejoined with ⟨-, rfl⟩ | ⟨-, -, roster, rfl⟩
    · exact h.last i p saved
    · have hne : i ≠ _ := (Dict.mem_erase.mp (Dict.mem_of_get?_eq_some saved)).2
      exact h.last i p ((Dict.get?_erase_ne _ hne).symm.trans saved)

theorem SavesLast.history (h : s.SavesLast) (history : RegularHistory s s') : s'.SavesLast := by
  induction history with
  | refl => exact h
  | tail _ last ih =>
    obtain ⟨d, hnext, hregular⟩ := last
    exact ih.next hnext hregular

/-! ## Readmissions -/

theorem isSome_find?_iff {n : Node} (known : n.KnowsSlots) {entry : RosterEntry}
    (slot : entry.joinIndex < maxPlayers) (named : entry.playerId = playerIdFor entry.joinIndex) :
    (n.roster.getAllPlayers.find? fun e => e.joinIndex = entry.joinIndex).isSome ↔
      entry.playerId ∈ n.roster.ids := by
  rw [List.find?_isSome, GlobalRoster.mem_ids]
  refine exists_congr fun e => ?_
  rw [GlobalRoster.mem_getAllPlayers]
  refine and_congr_right fun he => ?_
  obtain ⟨hslot, hname⟩ := known.listed e he
  rw [decide_eq_true_iff, hname, named]
  exact ⟨fun heq => by rw [heq], playerIdFor_injective hslot slot⟩

theorem SavesLast.restores (h : s.SavesLast) {entry : RosterEntry} {now : ℚ} {m : Node}
    (slot : entry.joinIndex < maxPlayers) (named : entry.playerId = playerIdFor entry.joinIndex)
    (expects : s.Expects entry) (readmits : s.node.rejoin entry now = .ok (m, true)) :
    s.Restores entry m := by
  obtain ⟨-, -, roster, rfl⟩ := (Node.rejoin_cases readmits).resolve_left fun h => nomatch h.1
  have hsaved (p : Player) (hp : s.node.rejoinStates.get? entry.joinIndex = some p) :
      s.left entry.playerId = some p := by
    rw [named]
    exact h.last _ p hp
  have hlisted := isSome_find?_iff h.known slot named
  unfold Restores
  split
  case h_1 p alive =>
    rw [Expects, if_pos (Dict.mem_of_get?_eq_some alive)] at expects
    dsimp only
    rw [Dict.get?_eq_none_iff.mpr expects.2, hlisted.mpr expects.1]
    exact alive
  case h_2 dead =>
    rw [Expects, if_neg (Dict.get?_eq_none_iff.mp dead)] at expects
    cases hstate : s.node.rejoinStates.get? entry.joinIndex with
    | some p =>
      rw [hsaved p hstate]
      exact Dict.get?_set_self _ _ _
    | none =>
      rw [expects.resolve_left (Dict.get?_eq_none_iff.mp hstate)]
      dsimp only [Node.restorePlayer]
      split
      · exact .inl rfl
      · exact .inr rfl

/-- After any history of regular deeds on a node that has saved nothing before, the readmission of a
player leaves its character as it is, or restores the one that it had at its last eviction. -/
theorem readmission_restores {n : Node} (known : n.KnowsSlots)
    (fresh : n.rejoinStates = ∅) {s : Log}
    (history : RegularHistory { node := n } s) {entry : RosterEntry} {now : ℚ} {m : Node}
    (slot : entry.joinIndex < maxPlayers) (named : entry.playerId = playerIdFor entry.joinIndex)
    (expects : s.Expects entry) (readmits : s.node.rejoin entry now = .ok (m, true)) :
    s.Restores entry m := by
  have start : SavesLast { node := n } := by
    refine ⟨known, fun i p saved => ?_⟩
    change n.rejoinStates.get? i = some p at saved
    rw [fresh] at saved
    cases saved
  exact (start.history history).restores slot named expects readmits

/-! ## Runs -/

/-- Deeds make a history, whatever was logged before. -/
theorem history_of_deeds {n m : Node} (deeds : n.Deeds m) (left : PlayerId → Option Player) :
    ∃ left', History ⟨n, left⟩ ⟨m, left'⟩ := by
  induction deeds with
  | refl => exact ⟨left, .refl⟩
  | tail _ last ih =>
    obtain ⟨d, hdoes⟩ := last
    obtain ⟨left', hhistory⟩ := ih
    exact ⟨_, hhistory.tail ⟨d, hdoes, rfl⟩⟩

/-- Every run of client and host calls is a history. -/
theorem history_of_run {n m : Node} {calls : List TimedCall} (known : n.KnowsSlots)
    (named : ∀ c ∈ calls, c.NamesSlots) (hrun : n.run calls = .ok m)
    (left : PlayerId → Option Player) : ∃ left', History ⟨n, left⟩ ⟨m, left'⟩ :=
  history_of_deeds (Node.run_deeds known named hrun) left

/-! ## Three players -/

def thirdPlayer : RosterEntry := ⟨"player3", "10.0.0.3", 50012, 2, .connected, false⟩

def thirdAt (x : ℚ) : Dict PlayerId Player :=
  Dict.ofList [("player3", { playerId := "player3", x := x, y := 0, joinIndex := 2 })]

def allThree : GlobalRoster := ⟨[firstHost, secondPlayer, thirdPlayer]⟩

/-- The second player, who sees the third one. -/
def watcher : Node :=
  { Node.clientOf allThree secondPlayer "10.0.0.1" with
    engine :=
      { isAuthoritative := false
        worldState := { characters := thirdAt 100 } } }

theorem watcher_knowsSlots : watcher.KnowsSlots where
  session := show "session" ≠ "" by decide
  address := show "10.0.0.2" ≠ "" by decide
  own := show 1 < maxPlayers by decide
  ownName := show "player2" = playerIdFor (1 : ℕ) by decide
  listed := show allThree.NamesSlots by decide
  saved i hi := absurd hi (Dict.not_mem_empty i)

/-- The third player, as it is logged when it has been evicted. -/
def thirdEvicted : Log where
  node := watcher.evictPlayer "player3"
  left := leftAfter { node := watcher } (.evict "player3")

theorem evicted_player_is_restored : ∃ m, thirdEvicted.node.rejoin thirdPlayer 9 = .ok (m, true) ∧
    thirdEvicted.Restores thirdPlayer m := by
  obtain ⟨⟨m, reentered⟩, hrejoin, hreentered⟩ := Fallible.exists_of_okAnd
    (x := thirdEvicted.node.rejoin thirdPlayer 9) (p := Prod.snd) (by decide +kernel)
  obtain rfl : reentered = true := hreentered
  have history : RegularHistory { node := watcher } thirdEvicted :=
    .single ⟨.evict "player3", ⟨.evict "player3", rfl⟩,
      .inl fun _ hi => absurd hi (Dict.not_mem_empty _)⟩
  have expects : thirdEvicted.Expects thirdPlayer := by
    rw [Expects, if_neg (by decide +kernel)]
    exact .inl (by decide +kernel)
  exact ⟨m, hrejoin,
    readmission_restores watcher_knowsSlots rfl history (by decide) (by decide) expects hrejoin⟩

/-- The third player leaves, comes back over the host and walks on. -/
def awayAndBack : List TimedCall :=
  [⟨1, .client (.gameEvent (.playerLeft "player3"))⟩,
    ⟨2, .client (.gameEvent (.rosterUpdate allThree))⟩,
    ⟨3, .client (.datagram (.ok (.worldState
      ⟨5, { sequenceNumber := 5, characters := thirdAt 300 }⟩)))⟩]

theorem awayAndBack_namesSlots : ∀ c ∈ awayAndBack, c.NamesSlots := by
  intro c hc
  simp only [awayAndBack, List.mem_cons, List.not_mem_nil, or_false] at hc
  rcases hc with rfl | rfl | rfl
  · trivial
  · exact watcher_knowsSlots.listed
  · trivial

def xOf (n : Node) : Option ℚ := (n.engine.worldState.getPlayer "player3").map (·.x)

/-- The new host puts the third player back to where it was when it left as seen by a client. -/
theorem returned_player_is_set_back : ∃ c n left m, watcher.run awayAndBack = .ok c ∧
    c.promoteToHost 4 = .ok n ∧ History { node := watcher } ⟨n, left⟩ ∧
      n.rejoin thirdPlayer 9 = .ok (m, true) ∧ xOf n = some 300 ∧ xOf m = some 100 ∧
      ¬ Restores ⟨n, left⟩ thirdPlayer m := by
  obtain ⟨c, hrun, hcheck⟩ := Fallible.exists_of_okAnd (x := watcher.run awayAndBack)
    (p := fun c => Fallible.okAnd (c.promoteToHost 4) fun n =>
      Fallible.okAnd (n.rejoin thirdPlayer 9) fun r =>
        decide (r.2 = true ∧ xOf n = some 300 ∧ xOf r.1 = some 100)) (by decide +kernel)
  obtain ⟨n, hpromoted, hcheck⟩ := Fallible.exists_of_okAnd hcheck
  obtain ⟨⟨m, reentered⟩, hrejoin, hcheck⟩ := Fallible.exists_of_okAnd hcheck
  obtain ⟨rfl, hbefore, hafter⟩ := of_decide_eq_true hcheck
  have hdeeds : watcher.Deeds n :=
    (Node.run_deeds watcher_knowsSlots awayAndBack_namesSlots hrun).trans
      (Node.promoteToHost_deeds hpromoted)
  obtain ⟨left, hhistory⟩ := history_of_deeds hdeeds fun _ => none
  refine ⟨c, n, left, m, hrun, hpromoted, hhistory, hrejoin, hbefore, hafter, fun hrestores => ?_⟩
  obtain ⟨p, alive, hp⟩ := Option.map_eq_some_iff.mp hbefore
  rw [Restores, show thirdPlayer.playerId = "player3" from rfl, alive] at hrestores
  rw [xOf, hrestores, Option.map_some, hp] at hafter
  exact absurd hafter (by decide)

end Log

end DistributedSmb
