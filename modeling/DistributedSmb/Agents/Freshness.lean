import DistributedSmb.Agents.Integration
import DistributedSmb.Library.Freshest
import Mathlib

/-!
# SPADE actions are fresh

While an enemy is selected for SPADE, the integration holds the freshest request drained for it
since then, of those that were admissible when they were drained, and forgets it once it is too old.
So whatever requests arrive in which order, and however control changes, a tick drives the enemy by
the freshest admissible request, or holds it still.
-/

namespace DistributedSmb

open Library

/-- The observation that a request answers, as a key of freshness. -/
def ActionRequest.observed (request : ActionRequest) : WithBot ℤ := request.observationSequence

/-- The observation of a request drained at `n` is neither in the future nor too old. -/
def ActionRequest.admissibleAt (maxAge : ℕ) (n : ℤ) (request : ActionRequest) : Bool :=
  request.observationSequence.any fun obs => obs ≤ n ∧ n - obs ≤ maxAge

/-- An observation that is too old at `n`. -/
def TooOld (maxAge : ℕ) (n : ℤ) (obs : WithBot ℤ) : Prop := obs < (n - maxAge : ℤ)

theorem tooOld_coe {maxAge : ℕ} {n obs : ℤ} : TooOld maxAge n obs ↔ maxAge < n - obs := by
  rw [TooOld, WithBot.coe_lt_coe]
  omega

/-- The command of the freshest request if that is not too old at `n`, and a stop otherwise. -/
def Drives (maxAge : ℕ) (n : ℤ) (accepted : List ActionRequest) (command : EnemyMovementCommand) :
    Prop :=
  (∃ request obs, IsFreshest ActionRequest.observed accepted request ∧
      request.observationSequence = some obs ∧ n - obs ≤ maxAge ∧
      command = request.action.direction) ∨
    (∀ request obs, IsFreshest ActionRequest.observed accepted request →
      request.observationSequence = some obs → maxAge < n - obs) ∧ command = .stop

namespace AgentGameIntegration

variable {s s' : AgentGameIntegration} {n : ℤ} {enemyId : EnemyId} {request : ActionRequest}

/-! ## What is held for one enemy -/

theorem observed_of_some {obs : ℤ} (h : request.observationSequence = some obs) :
    request.observed = (obs : WithBot ℤ) := h

theorem previous_all_iff {previous : Option ActionRequest} {obs : ℤ}
    (h : request.observationSequence = some obs) :
    (previous.bind (·.observationSequence)).all (· ≤ obs) = true ↔
      ∀ r ∈ previous, r.observed ≤ request.observed := by
  rw [observed_of_some h]
  cases previous with
  | none => simp
  | some r =>
    cases before : r.observationSequence with
    | none =>
      have hbot : r.observed = ⊥ := before
      simp [before, hbot]
    | some before' => simp [before, observed_of_some before]

/-- An admissible request arrives at the place for its enemy; no other one does. -/
theorem drainOne_latest (selected : enemyId ∈ s.spadeControlledEnemyIds) :
    (drainOne n s request).latestSpadeActions.get? enemyId =
      if request.enemyId = enemyId ∧ request.admissibleAt s.actionMaxAgeTicks n then
        fresher ActionRequest.observed (s.latestSpadeActions.get? enemyId) request
      else s.latestSpadeActions.get? enemyId := by
  by_cases own : request.enemyId = enemyId
  · subst own
    obtain ⟨id, action, obs⟩ := request
    cases obs with
    | none => simp [drainOne, admits, ActionRequest.admissibleAt]
    | some obs =>
      by_cases admissible : obs ≤ n ∧ n - obs ≤ s.actionMaxAgeTicks
      · have hadmits : s.admits n ⟨id, action, some obs⟩ = some obs :=
          Option.filter_eq_some_iff.mpr ⟨rfl, decide_eq_true ⟨selected, admissible⟩⟩
        rw [if_pos ⟨rfl, decide_eq_true admissible⟩]
        simp only [drainOne, hadmits, fresher]
        by_cases newer : ((s.latestSpadeActions.get? id).bind (·.observationSequence)).all (· ≤ obs)
        · rw [if_pos newer, if_pos ((previous_all_iff rfl).mp newer)]
          exact Dict.get?_set_self _ _ _
        · rw [if_neg newer, if_neg (fun h => newer ((previous_all_iff rfl).mpr h))]
      · have hadmits : s.admits n ⟨id, action, some obs⟩ = none := by
          refine Option.filter_eq_none_iff.mpr fun obs' hobs' hall => ?_
          cases hobs'
          exact admissible (of_decide_eq_true hall).2
        rw [if_neg (fun h => admissible (of_decide_eq_true h.2))]
        simp only [drainOne, hadmits]
  · rw [if_neg (fun h => own h.1)]
    unfold drainOne
    split
    · rfl
    · extract_lets previous
      split
      · exact Dict.get?_set_ne _ (Ne.symm own) _
      · rfl

/-- The requests for an enemy that are admitted when `items` are drained at `n`. -/
def admitted (maxAge : ℕ) (n : ℤ) (enemyId : EnemyId) (items : List ActionRequest) :
    List ActionRequest :=
  items.filter fun r => r.enemyId = enemyId ∧ r.admissibleAt maxAge n

/-- What is held for a selected enemy, given the requests accepted for it since it was selected. -/
structure Holds (s : AgentGameIntegration) (n : ℤ) (enemyId : EnemyId)
    (accepted : List ActionRequest) : Prop where
  alone : enemyId ∉ s.controllers
  own : ∀ r ∈ accepted, r.enemyId = enemyId
  freshest : HoldsFreshest ActionRequest.observed (TooOld s.actionMaxAgeTicks n) accepted
    (s.latestSpadeActions.get? enemyId)

variable {accepted : List ActionRequest}

theorem not_tooOld_of_admissible {maxAge : ℕ} (h : request.admissibleAt maxAge n) {k : WithBot ℤ}
    (old : TooOld maxAge n k) : k ≤ request.observed := by
  obtain ⟨obs, hobs, hadmissible⟩ := (Option.any_eq_true _ _).mp h
  obtain ⟨-, hage⟩ := of_decide_eq_true hadmissible
  rw [observed_of_some hobs]
  exact old.le.trans (WithBot.coe_le_coe.mpr (by omega))

theorem drainOne_holds (selected : enemyId ∈ s.spadeControlledEnemyIds)
    (h : s.Holds n enemyId accepted) (request : ActionRequest) :
    (drainOne n s request).Holds n enemyId
      (accepted ++ admitted s.actionMaxAgeTicks n enemyId [request]) := by
  have hlatest : (drainOne n s request).latestSpadeActions.get? enemyId = _ :=
    drainOne_latest selected
  obtain ⟨latest, hdrained⟩ := drainOne_remembers n s request
  rw [hdrained] at hlatest ⊢
  refine ⟨h.alone, fun r hr => ?_, ?_⟩
  · rcases List.mem_append.mp hr with hr | hr
    · exact h.own r hr
    · exact (of_decide_eq_true (List.mem_filter.mp hr).2).1
  · rw [hlatest, admitted, List.filter_singleton]
    by_cases hadmitted : request.enemyId = enemyId ∧ request.admissibleAt s.actionMaxAgeTicks n
    · rw [if_pos hadmitted, decide_eq_true hadmitted]
      exact h.freshest.arrive fun k => not_tooOld_of_admissible hadmitted.2
    · rw [if_neg hadmitted, decide_eq_false hadmitted]
      simpa using h.freshest

theorem drain_holds (selected : enemyId ∈ s.spadeControlledEnemyIds)
    (h : s.Holds n enemyId accepted) (items : List ActionRequest) :
    (items.foldl (drainOne n) s).Holds n enemyId
      (accepted ++ admitted s.actionMaxAgeTicks n enemyId items) := by
  induction items generalizing s accepted with
  | nil => simpa [admitted] using h
  | cons r items ih =>
    have hone := drainOne_holds selected h r
    obtain ⟨latest, hdrained⟩ := drainOne_remembers n s r
    have hrest := ih (s := drainOne n s r) (by rw [hdrained]; exact selected) hone
    rw [hdrained] at hrest
    have hsplit : admitted s.actionMaxAgeTicks n enemyId (r :: items) =
        admitted s.actionMaxAgeTicks n enemyId [r] ++
          admitted s.actionMaxAgeTicks n enemyId items := List.filter_append [r] items
    rw [List.foldl_cons, hdrained, hsplit, ← List.append_assoc]
    exact hrest

theorem drives_stop {maxAge : ℕ} (old : ∀ r ∈ accepted, TooOld maxAge n r.observed) :
    Drives maxAge n accepted .stop := by
  refine .inr ⟨fun r obs hfreshest hobs => ?_, rfl⟩
  have hold := old r hfreshest.mem
  rwa [observed_of_some hobs, tooOld_coe] at hold

theorem tooOld_of_le {maxAge : ℕ} (k k' : WithBot ℤ) (hle : k ≤ k') (old : TooOld maxAge n k') :
    TooOld maxAge n k := hle.trans_lt old

/-- Reading the SPADE action of an enemy gives the command that is due, and forgets at most what is
too old. -/
theorem spadeActionFor_spec (h : s.Holds n enemyId accepted) :
    ((s.spadeActionFor enemyId n).1.enemyId = enemyId ∧
      Drives s.actionMaxAgeTicks n accepted (s.spadeActionFor enemyId n).1.action.direction) ∧
    (s.spadeActionFor enemyId n).2.Holds n enemyId accepted := by
  simp only [spadeActionFor]
  split
  case h_1 request hcurrent =>
    obtain ⟨hheld, hfresh⟩ := Option.filter_eq_some_iff.mp hcurrent
    obtain ⟨obs, hobs, hage⟩ := (Option.any_eq_true _ _).mp hfresh
    have hfreshest := h.freshest
    rw [hheld] at hfreshest
    exact ⟨⟨h.own request (IsFreshest.mem hfreshest),
      .inl ⟨request, obs, hfreshest, hobs, of_decide_eq_true hage, rfl⟩⟩, h⟩
  case h_2 hcurrent =>
    have hnone : HoldsFreshest ActionRequest.observed (TooOld s.actionMaxAgeTicks n)
        accepted none := by
      refine h.freshest.forget tooOld_of_le fun request hheld => ?_
      have hstale := Option.filter_eq_none_iff.mp hcurrent request hheld
      cases hobs : request.observationSequence with
      | none =>
        have hbot : request.observed = ⊥ := hobs
        rw [hbot]
        exact WithBot.bot_lt_coe _
      | some obs =>
        rw [observed_of_some hobs, tooOld_coe]
        rw [hobs] at hstale
        simp only [Option.any_some, decide_eq_true_eq, not_le] at hstale
        exact hstale
    refine ⟨⟨rfl, drives_stop hnone⟩, h.alone, h.own, ?_⟩
    rw [Dict.get?_erase_self]
    exact hnone

/-! ## All enemies, over one tick -/

/-- The integration holds what is due for every selected enemy, and nothing for one without any
control. -/
structure Tracks (s : AgentGameIntegration) (n : ℤ) (accepted : EnemyId → List ActionRequest) :
    Prop where
  enabled : s.enabled = true
  forgotten : ∀ enemyId, enemyId ∉ s.spadeControlledEnemyIds → enemyId ∉ s.controllers →
    s.latestSpadeActions.get? enemyId = none
  holds : ∀ enemyId ∈ s.spadeControlledEnemyIds, s.Holds n enemyId (accepted enemyId)

variable {c : AgentTick} {plan plan' : Plan} {accepted : EnemyId → List ActionRequest}

theorem drainOne_latest_of_not_selected (h : enemyId ∉ s.spadeControlledEnemyIds)
    (request : ActionRequest) : (drainOne n s request).latestSpadeActions.get? enemyId =
      s.latestSpadeActions.get? enemyId := by
  unfold drainOne
  split
  · rfl
  · case h_2 obs hadmits =>
    have selected : request.enemyId ∈ s.spadeControlledEnemyIds :=
      (of_decide_eq_true (Option.filter_eq_some_iff.mp hadmits).2).1
    extract_lets previous
    split
    · exact Dict.get?_set_ne _ (fun heq : enemyId = request.enemyId => h (by rwa [heq])) _
    · rfl

theorem drain_latest_of_not_selected (h : enemyId ∉ s.spadeControlledEnemyIds)
    (items : List ActionRequest) :
    (items.foldl (drainOne n) s).latestSpadeActions.get? enemyId =
      s.latestSpadeActions.get? enemyId := by
  induction items generalizing s with
  | nil => rfl
  | cons r items ih =>
    obtain ⟨latest, hdrained⟩ := drainOne_remembers n s r
    have hrest := ih (s := drainOne n s r) (by rw [hdrained]; exact h)
    rw [List.foldl_cons, hrest, drainOne_latest_of_not_selected h]

theorem drainSpadeActions_tracks (h : s.Tracks n accepted) :
    (s.drainSpadeActions n).Tracks n fun enemyId =>
      accepted enemyId ++
        admitted s.actionMaxAgeTicks n enemyId s.bridge.actionRequests.items := by
  obtain ⟨latest, heq⟩ := s.drainSpadeActions_remembers n
  refine ⟨?_, fun enemyId free alone => ?_, fun enemyId selected => ?_⟩
  · rw [heq]
    exact h.enabled
  · rw [heq] at free alone
    exact (drain_latest_of_not_selected (s := s.discardQueuedActions) free _).trans
      (h.forgotten enemyId free alone)
  · rw [heq] at selected
    have hold := h.holds enemyId selected
    exact drain_holds (s := s.discardQueuedActions) selected
      ⟨hold.alone, hold.own, hold.freshest⟩ _

theorem spadeActionFor_latest (s : AgentGameIntegration) (enemyId : EnemyId) (n : ℤ) :
    (s.spadeActionFor enemyId n).2.latestSpadeActions = s.latestSpadeActions ∨
      (s.spadeActionFor enemyId n).2.latestSpadeActions = s.latestSpadeActions.erase enemyId := by
  simp only [spadeActionFor]
  split
  · exact .inl rfl
  · exact .inr rfl

theorem spadeActionFor_tracks (h : s.Tracks n accepted) (id : EnemyId) :
    (s.spadeActionFor id n).2.Tracks n accepted := by
  have hlatest := s.spadeActionFor_latest id n
  have hown (selected : id ∈ s.spadeControlledEnemyIds) :=
    (spadeActionFor_spec (h.holds id selected)).2
  obtain ⟨latest, heq⟩ := s.spadeActionFor_remembers id n
  rw [heq] at hlatest hown ⊢
  have hother (enemyId : EnemyId) (hne : enemyId ≠ id) :
      latest.get? enemyId = s.latestSpadeActions.get? enemyId := by
    rcases hlatest with hsame | herased
    · exact congrArg (Dict.get? · enemyId) hsame
    · exact (congrArg (Dict.get? · enemyId) herased).trans (Dict.get?_erase_ne _ hne)
  refine ⟨h.enabled, fun enemyId free alone => ?_, fun enemyId selected => ?_⟩
  · have hnone := h.forgotten enemyId free alone
    rcases hlatest with hsame | herased
    · exact (congrArg (Dict.get? · enemyId) hsame).trans hnone
    · refine (congrArg (Dict.get? · enemyId) herased).trans ?_
      rw [Dict.get?_eq_none_iff] at hnone ⊢
      exact fun hmem => hnone (Dict.mem_erase.mp hmem).1
  · by_cases hid : enemyId = id
    · subst hid
      exact hown selected
    · have hold := h.holds enemyId selected
      refine ⟨hold.alone, hold.own, ?_⟩
      rw [hother enemyId hid]
      exact hold.freshest

/-- Without a request passed to the tick, an enemy without a controller follows its SPADE action. -/
theorem requestFor_cases (h : s.requestFor c ∅ n enemyId = .ok (request, s')) :
    (enemyId ∈ s.controllers ∧ s' = s) ∨
      enemyId ∉ s.controllers ∧ (request, s') = s.spadeActionFor enemyId n := by
  unfold requestFor at h
  split at h
  case h_1 hpassed => cases hpassed
  case h_2 hcontroller =>
    cases h
    exact .inl ⟨Dict.mem_of_get?_eq_some hcontroller, rfl⟩
  case h_3 hcontroller =>
    obtain ⟨perception, -, h⟩ := Fallible.bind_eq_ok.mp h
    obtain ⟨answer, -, h⟩ := Fallible.bind_eq_ok.mp h
    cases answer <;> cases h
    exact .inl ⟨Dict.mem_of_get?_eq_some hcontroller, rfl⟩
  case h_4 hcontroller =>
    exact .inr ⟨Dict.get?_eq_none_iff.mp hcontroller, (Except.ok.inj h).symm⟩

theorem requestFor_tracks (h : s.Tracks n accepted)
    (hrequest : s.requestFor c ∅ n enemyId = .ok (request, s')) : s'.Tracks n accepted := by
  rcases requestFor_cases hrequest with ⟨-, rfl⟩ | ⟨-, heq⟩
  · exact h
  · have hs : s' = (s.spadeActionFor enemyId n).2 := congrArg Prod.snd heq
    rw [hs]
    exact spadeActionFor_tracks h enemyId

/-- The command that a round gives to a selected enemy is the one that is due. -/
theorem controlOne_drives (h : s.Tracks n accepted)
    (selected : enemyId ∈ s.spadeControlledEnemyIds) (there : enemyId ∈ s.engine.enemies)
    (hround : controlOne c ∅ n (s, plan) enemyId = .ok (s', plan')) :
    ∃ command, plan'.directions.get? enemyId = some command ∧
      Drives s.actionMaxAgeTicks n (accepted enemyId) command := by
  rcases controlOne_spec hround with ⟨missing, -, -⟩ | ⟨request, -, hrequest, hdirections⟩
  · exact absurd there missing
  have hold := h.holds enemyId selected
  rcases requestFor_cases hrequest with ⟨controlled, -⟩ | ⟨-, heq⟩
  · exact absurd controlled hold.alone
  obtain ⟨⟨hown, hdrives⟩, -⟩ := spadeActionFor_spec hold
  obtain rfl : request = (s.spadeActionFor enemyId n).1 := congrArg Prod.fst heq
  rw [if_pos hown] at hdirections
  exact ⟨_, by rw [hdirections, Dict.get?_set_self], hdrives⟩

theorem controlAll_drives {ids : List EnemyId} (h : s.Tracks n accepted)
    (selected : enemyId ∈ s.spadeControlledEnemyIds) (there : enemyId ∈ s.engine.enemies)
    (walked : enemyId ∈ ids ∨ ∃ command, plan.directions.get? enemyId = some command ∧
      Drives s.actionMaxAgeTicks n (accepted enemyId) command)
    (hloop : ids.foldlM (controlOne c ∅ n) (s, plan) = .ok (s', plan')) :
    ∃ command, plan'.directions.get? enemyId = some command ∧
      Drives s.actionMaxAgeTicks n (accepted enemyId) command := by
  induction ids generalizing s plan with
  | nil =>
    cases hloop
    exact walked.resolve_left List.not_mem_nil
  | cons id ids ih =>
    rw [List.foldlM_cons] at hloop
    obtain ⟨⟨s₁, plan₁⟩, hround, hloop⟩ := Fallible.bind_eq_ok.mp hloop
    have htracks := (controlAll_keeps (fun _ _ _ _ => requestFor_tracks) [id] h).2 s₁ plan₁
      (by rw [List.foldlM_cons, hround]; rfl)
    obtain ⟨latest, hs₁⟩ := controlOne_remembers hround
    have hnext : enemyId ∈ ids ∨ ∃ command, plan₁.directions.get? enemyId = some command ∧
        Drives s.actionMaxAgeTicks n (accepted enemyId) command := by
      by_cases hid : enemyId = id
      · subst hid
        exact .inr (controlOne_drives h selected there hround)
      · refine walked.imp (fun hmem => (List.mem_cons.mp hmem).resolve_left hid) ?_
        rintro ⟨command, hcommand, hdrives⟩
        refine ⟨command, ?_, hdrives⟩
        rw [← hcommand]
        have hround' : [id].foldlM (controlOne c ∅ n) (s, plan) = .ok (s₁, plan₁) := by
          rw [List.foldlM_cons, hround]
          rfl
        exact controlAll_directions_of_not_mem hround' (by simpa using hid)
    have hage : s₁.actionMaxAgeTicks = s.actionMaxAgeTicks := by rw [hs₁]
    rw [← hage] at hnext ⊢
    exact ih htracks (by rw [hs₁]; exact selected) (by rw [hs₁]; exact there) hnext hloop

/-- What is accepted for an enemy once a tick has drained the queue. -/
def acceptedWith (s : AgentGameIntegration) (accepted : EnemyId → List ActionRequest)
    (enemyId : EnemyId) : List ActionRequest :=
  accepted enemyId ++ admitted s.actionMaxAgeTicks s.engine.worldState.sequenceNumber enemyId
    s.bridge.actionRequests.items

theorem Tracks.later {n' : ℤ} (h : s.Tracks n accepted) (hle : n ≤ n') : s.Tracks n' accepted where
  enabled := h.enabled
  forgotten := h.forgotten
  holds enemyId selected := by
    obtain ⟨alone, own, freshest⟩ := h.holds enemyId selected
    refine ⟨alone, own, freshest.mono fun k old => lt_of_lt_of_le old ?_⟩
    exact WithBot.coe_le_coe.mpr (by omega)

/-- The simulation, the bridge and the results do not matter for what is held. -/
theorem Tracks.aside (h : s.Tracks n accepted) (engine : GameEngine) (bridge : SpadeAgentBridge)
    (results : Dict EnemyId ActionResult) :
    ({ s with engine := engine, bridge := bridge, lastResults := results } :
      AgentGameIntegration).Tracks n accepted where
  enabled := h.enabled
  forgotten := h.forgotten
  holds enemyId selected := by
    obtain ⟨alone, own, freshest⟩ := h.holds enemyId selected
    exact ⟨alone, own, freshest⟩

theorem controlEnemy_tracks {controller : Controller} (h : s.Tracks n accepted)
    (hok : s.controlEnemy enemyId controller = .ok s') :
    s'.Tracks n accepted ∧ s'.engine = s.engine ∧
      s'.actionMaxAgeTicks = s.actionMaxAgeTicks := by
  unfold controlEnemy at hok
  split at hok
  case isTrue => cases hok
  case isFalse =>
    cases hok
    refine ⟨⟨h.enabled, fun id free alone => ?_, fun id selected => ?_⟩, rfl, rfl⟩
    · simp only [Dict.mem_set, not_or, Dict.mem_erase, not_and, not_not] at free alone
      exact h.forgotten id (fun hselected => alone.1 (free hselected)) alone.2
    · obtain ⟨selected, hne⟩ := Dict.mem_erase.mp selected
      obtain ⟨alone, own, freshest⟩ := h.holds id selected
      exact ⟨fun hmem => (Dict.mem_set.mp hmem).elim hne alone, own, freshest⟩

/-- A selection begins with nothing accepted, and nothing is held then. -/
theorem controlEnemyWithSpade_tracks (h : s.Tracks n accepted)
    (hok : s.controlEnemyWithSpade enemyId = .ok s') :
    s'.Tracks n (if enemyId ∈ s.spadeControlledEnemyIds then accepted
      else Function.update accepted enemyId []) ∧ s'.engine = s.engine ∧
      s'.actionMaxAgeTicks = s.actionMaxAgeTicks := by
  unfold controlEnemyWithSpade at hok
  split at hok
  case isTrue => cases hok
  case isFalse =>
    split at hok
    case isTrue => cases hok
    case isFalse uncontrolled =>
      cases hok
      refine ⟨⟨h.enabled, fun id free alone => ?_, fun id selected => ?_⟩, rfl, rfl⟩
      · simp only [Dict.mem_set, not_or] at free
        exact h.forgotten id free.2 alone
      · by_cases before : id ∈ s.spadeControlledEnemyIds
        · have same : (if enemyId ∈ s.spadeControlledEnemyIds then accepted
              else Function.update accepted enemyId []) id = accepted id := by
            split
            · rfl
            · case isFalse unselected =>
                exact Function.update_of_ne
                  (fun heq : id = enemyId => unselected (by rwa [← heq])) _ _
          rw [same]
          obtain ⟨alone, own, freshest⟩ := h.holds id before
          exact ⟨alone, own, freshest⟩
        · obtain rfl : id = enemyId := (Dict.mem_set.mp selected).resolve_right before
          rw [if_neg before, Function.update_self]
          refine ⟨uncontrolled, fun _ hr => (List.not_mem_nil hr).elim, ?_⟩
          change HoldsFreshest _ _ _ (s.latestSpadeActions.get? id)
          rw [h.forgotten id before uncontrolled]
          exact .nil

theorem releaseEnemy_tracks (h : s.Tracks n accepted) (enemyId : EnemyId) :
    (s.releaseEnemy enemyId).Tracks n accepted := by
  refine ⟨h.enabled, fun id free alone => ?_, fun id selected => ?_⟩
  · change (s.latestSpadeActions.erase enemyId).get? id = none
    by_cases hid : id = enemyId
    · rw [hid, Dict.get?_erase_self]
    · rw [Dict.get?_erase_ne _ hid]
      exact h.forgotten id (fun hmem => free (Dict.mem_erase.mpr ⟨hmem, hid⟩))
        fun hmem => alone (Dict.mem_erase.mpr ⟨hmem, hid⟩)
  · obtain ⟨selected, hne⟩ := Dict.mem_erase.mp selected
    obtain ⟨alone, own, freshest⟩ := h.holds id selected
    refine ⟨fun hmem => alone (Dict.mem_erase.mp hmem).1, own, ?_⟩
    change HoldsFreshest _ _ _ ((s.latestSpadeActions.erase enemyId).get? id)
    rw [Dict.get?_erase_ne _ hne]
    exact freshest

theorem requests_of_none (none_passed : c.actionRequests = none) : c.requests = .ok ∅ := by
  simp only [AgentTick.requests, none_passed]
  rfl

/-- A tick gives every selected enemy that is there the command that is due. -/
theorem tick_drives (h : s.Tracks s.engine.worldState.sequenceNumber accepted)
    (none_passed : c.actionRequests = none) (hok : s.tick c = .ok s') :
    (∃ commands, s.engine.tick (c.engineArgs commands) = .ok s'.engine ∧
      ∀ enemyId ∈ s.spadeControlledEnemyIds, enemyId ∈ s.engine.enemies →
        ∃ command, (c.engineArgs commands).commandFor enemyId = some command ∧
          Drives s.actionMaxAgeTicks s.engine.worldState.sequenceNumber
            (s.acceptedWith accepted enemyId) command) ∧
    s'.Tracks s'.engine.worldState.sequenceNumber (s.acceptedWith accepted) ∧
    s'.actionMaxAgeTicks = s.actionMaxAgeTicks := by
  obtain ⟨requests, s₁, plan, plan', hrequests, hloop, hdirections, hengine, hstep⟩ :=
    tick_enabled h.enabled hok
  obtain rfl : requests = ∅ := Except.ok.inj (hrequests.symm.trans (requests_of_none none_passed))
  have hdrained : (s.drainSpadeActions s.engine.worldState.sequenceNumber).Tracks
      s.engine.worldState.sequenceNumber (s.acceptedWith accepted) := drainSpadeActions_tracks h
  have hlooped : s₁.Tracks s.engine.worldState.sequenceNumber (s.acceptedWith accepted) :=
    (controlAll_keeps (fun _ _ _ _ => requestFor_tracks) _ hdrained).2 s₁ plan hloop
  obtain ⟨g, bridge, results, hmoved, rfl⟩ := step_eq hstep
  rw [hengine] at hmoved
  refine ⟨?_, ?_, ?_⟩
  · refine ⟨plan'.commands, hmoved, fun enemyId selected there => ?_⟩
    rw [commandFor_commands, hdirections]
    obtain ⟨latest, heq⟩ := s.drainSpadeActions_remembers s.engine.worldState.sequenceNumber
    have walked : enemyId ∈ c.order.walk s.controlledIds :=
      mem_walk_controlledIds.mpr (.inr selected)
    have hdue := controlAll_drives hdrained (by rw [heq]; exact selected)
      (by rw [heq]; exact there) (.inl walked) hloop
    rw [heq] at hdue
    exact hdue
  · have hlater : s.engine.worldState.sequenceNumber ≤ g.worldState.sequenceNumber := by
      rw [GameEngine.tick_sequenceNumber hmoved]
      omega
    exact (hlooped.later hlater).aside g bridge results
  · obtain ⟨latest, rfl⟩ :=
      (s.drainSpadeActions_remembers s.engine.worldState.sequenceNumber).trans
        (controlAll_remembers hloop)
    rfl

/-- A tick that raises before the step has drained the queue all the same. -/
theorem tick_raises (h : s.Tracks s.engine.worldState.sequenceNumber accepted)
    (none_passed : c.actionRequests = none) {error : AgentError} {left : AgentGameIntegration}
    (hraised : s.tick c = .error (.before error left)) :
    left.Tracks s.engine.worldState.sequenceNumber (s.acceptedWith accepted) ∧
      s.discardQueuedActions.Remembers left := by
  let P (left : AgentGameIntegration) : Prop :=
    left.Tracks s.engine.worldState.sequenceNumber (s.acceptedWith accepted) ∧
      s.discardQueuedActions.Remembers left
  have hdrained : P (s.drainSpadeActions s.engine.worldState.sequenceNumber) :=
    ⟨drainSpadeActions_tracks h, s.drainSpadeActions_remembers _⟩
  have hraises : Fallible.RaisesOnly (fun failure => ∀ error left, failure = .before error left →
      P left) (s.tick c) := by
    unfold tick
    rw [requests_of_none none_passed]
    change Fallible.RaisesOnly _ (if !s.enabled then _ else _)
    rw [if_neg (by simp [h.enabled])]
    refine Fallible.raisesOnly_bind.mpr ⟨fun failure hloop error left hleft => ?_, ?_⟩
    · subst hleft
      exact (controlAll_keeps (P := P)
        (fun _ _ _ _ hleft hrequest => ⟨requestFor_tracks hleft.1 hrequest,
          hleft.2.trans (requestFor_remembers hrequest)⟩) _ hdrained).1 _ hloop
    · rintro ⟨s₁, plan⟩ -
      intro failure hstep error left hleft
      obtain ⟨error', rfl⟩ := step_raises failure hstep
      cases hleft
  exact hraises _ hraised error left rfl

end AgentGameIntegration

/-! ## Runs -/

/-- What happens to an integration between two frames of its owner and in them. The owner may
change the world between ticks, but not its sequence number. -/
inductive AgentOp where
  | submitAction (request : Option ActionRequest)
  | controlEnemy (enemyId : EnemyId) (controller : Controller)
  | controlEnemyWithSpade (enemyId : EnemyId)
  | releaseEnemy (enemyId : EnemyId)
  | worldChanged (world : WorldState)
  | tick (c : AgentTick)

/-- An integration, and the requests drained for each enemy since it was last selected for SPADE,
each with the sequence number at which it was drained. -/
structure SpadeWatch where
  integration : AgentGameIntegration
  drained : EnemyId → List (ActionRequest × ℤ) := fun _ => []

namespace SpadeWatch

/-- The drained requests that were admissible when they were drained. -/
def accepted (w : SpadeWatch) (enemyId : EnemyId) : List ActionRequest :=
  ((w.drained enemyId).filter fun (request, n) =>
    request.admissibleAt w.integration.actionMaxAgeTicks n).map Prod.fst

/-- The record after the draining of a tick. -/
def drain (w : SpadeWatch) : SpadeWatch where
  integration := w.integration
  drained enemyId :=
    w.drained enemyId ++
      (w.integration.bridge.actionRequests.items.filter fun request =>
        request.enemyId = enemyId).map fun request =>
          (request, w.integration.engine.worldState.sequenceNumber)

/-- A call that raises leaves the integration as it was, except for a tick that has drained the
queue; a tick that raises in the simulation ends the run. No request is passed to a tick. -/
def act (w : SpadeWatch) : AgentOp → Except AgentError SpadeWatch
  | .submitAction request =>
    match w.integration.bridge.submitAction request with
    | .ok bridge => .ok { w with integration := { w.integration with bridge := bridge } }
    | .error _ => .ok w
  | .controlEnemy enemyId controller =>
    match w.integration.controlEnemy enemyId controller with
    | .ok integration => .ok { w with integration := integration }
    | .error _ => .ok w
  | .controlEnemyWithSpade enemyId =>
    match w.integration.controlEnemyWithSpade enemyId with
    | .ok integration =>
      .ok
        { integration := integration
          drained :=
            if enemyId ∈ w.integration.spadeControlledEnemyIds then w.drained
            else Function.update w.drained enemyId [] }
    | .error _ => .ok w
  | .releaseEnemy enemyId =>
    .ok { w with integration := w.integration.releaseEnemy enemyId }
  | .worldChanged world =>
    let n := w.integration.engine.worldState.sequenceNumber
    .ok { w with
      integration := { w.integration with
        engine := { w.integration.engine with worldState := { world with sequenceNumber := n } } } }
  | .tick c =>
    match w.integration.tick { c with actionRequests := none } with
    | .ok integration => .ok { w.drain with integration := integration }
    | .error (.before _ left) => .ok { w.drain with integration := left }
    | .error (.during error) => .error error

def run (w : SpadeWatch) (ops : List AgentOp) : Except AgentError SpadeWatch := ops.foldlM act w

/-- What a fresh integration starts from: no control and nothing remembered. -/
structure Fresh (s : AgentGameIntegration) : Prop where
  enabled : s.enabled = true
  controllers : s.controllers = ∅
  spade : s.spadeControlledEnemyIds = ∅
  latest : s.latestSpadeActions = ∅

/-- The record and what the integration holds fit. -/
def Tracked (w : SpadeWatch) : Prop :=
  w.integration.Tracks w.integration.engine.worldState.sequenceNumber w.accepted

theorem accepted_drain (w : SpadeWatch) :
    w.drain.accepted = w.integration.acceptedWith w.accepted := by
  funext enemyId
  simp only [accepted, drain, AgentGameIntegration.acceptedWith, AgentGameIntegration.admitted,
    List.filter_append, List.map_append, List.filter_map, List.map_map, List.filter_filter]
  congr 1
  rw [show Prod.fst ∘ (fun request : ActionRequest =>
    (request, w.integration.engine.worldState.sequenceNumber)) = id from rfl, List.map_id]
  refine List.filter_congr fun request _ => ?_
  simp [Bool.and_comm]

theorem accepted_of_age {w w' : SpadeWatch} (drained : w'.drained = w.drained)
    (age : w'.integration.actionMaxAgeTicks = w.integration.actionMaxAgeTicks) :
    w'.accepted = w.accepted := by
  funext enemyId
  rw [accepted, accepted, drained, age]

theorem fresh_tracked {s : AgentGameIntegration} (h : Fresh s) : Tracked { integration := s } := by
  refine ⟨h.enabled, fun enemyId _ _ => ?_, fun enemyId selected => ?_⟩
  · change s.latestSpadeActions.get? enemyId = none
    rw [h.latest]
    rfl
  · change enemyId ∈ s.spadeControlledEnemyIds at selected
    rw [h.spade] at selected
    exact absurd selected (Dict.not_mem_empty _)

/-- A selection that is new begins with an empty record. -/
theorem accepted_select (w : SpadeWatch) {s : AgentGameIntegration} (enemyId : EnemyId)
    (age : s.actionMaxAgeTicks = w.integration.actionMaxAgeTicks) :
    SpadeWatch.accepted
        { integration := s
          drained :=
            if enemyId ∈ w.integration.spadeControlledEnemyIds then w.drained
            else Function.update w.drained enemyId [] } =
      if enemyId ∈ w.integration.spadeControlledEnemyIds then w.accepted
      else Function.update w.accepted enemyId [] := by
  split
  · exact accepted_of_age rfl age
  · funext id
    by_cases hid : id = enemyId
    · subst hid
      simp [accepted]
    · simp [accepted, Function.update_of_ne hid, age]

theorem act_tracked {w w' : SpadeWatch} {op : AgentOp} (h : w.Tracked) (hact : w.act op = .ok w') :
    w'.Tracked := by
  cases op with
  | submitAction request =>
    simp only [act] at hact
    split at hact <;> cases hact
    · exact h.aside _ _ _
    · exact h
  | controlEnemy enemyId controller =>
    simp only [act] at hact
    split at hact
    case h_1 integration hok =>
      cases hact
      obtain ⟨htracks, hengine, hage⟩ := AgentGameIntegration.controlEnemy_tracks h hok
      have hsame : SpadeWatch.accepted { w with integration := integration } = w.accepted :=
        accepted_of_age rfl hage
      rw [Tracked, hengine, hsame]
      exact htracks
    case h_2 => cases hact; exact h
  | controlEnemyWithSpade enemyId =>
    simp only [act] at hact
    split at hact
    case h_1 integration hok =>
      cases hact
      obtain ⟨htracks, hengine, hage⟩ := AgentGameIntegration.controlEnemyWithSpade_tracks h hok
      rw [Tracked, hengine, accepted_select w enemyId hage]
      exact htracks
    case h_2 => cases hact; exact h
  | releaseEnemy enemyId =>
    cases hact
    exact AgentGameIntegration.releaseEnemy_tracks h enemyId
  | worldChanged world =>
    cases hact
    exact h.aside _ _ _
  | tick c =>
    simp only [act] at hact
    split at hact
    case h_1 integration hok =>
      cases hact
      obtain ⟨-, htracks, hage⟩ := AgentGameIntegration.tick_drives h rfl hok
      have hsame : SpadeWatch.accepted { w.drain with integration := integration } =
          w.drain.accepted :=
        accepted_of_age rfl hage
      rw [Tracked, hsame, accepted_drain]
      exact htracks
    case h_2 error left hraised =>
      cases hact
      obtain ⟨htracks, latest, hleft⟩ := AgentGameIntegration.tick_raises h rfl hraised
      have hage : left.actionMaxAgeTicks = w.integration.actionMaxAgeTicks := by rw [hleft]; rfl
      have hengine : left.engine = w.integration.engine := by rw [hleft]; rfl
      have hsame : SpadeWatch.accepted { w.drain with integration := left } = w.drain.accepted :=
        accepted_of_age rfl hage
      rw [Tracked, hsame, accepted_drain, hengine]
      exact htracks
    case h_3 => cases hact

theorem run_tracked {w w' : SpadeWatch} {ops : List AgentOp} (h : w.Tracked)
    (hrun : w.run ops = .ok w') : w'.Tracked :=
  Fallible.foldlM_keeps (P := Tracked) (fun _ _ _ _ h hact => act_tracked h hact) hrun h

end SpadeWatch

open SpadeWatch in
/-- After any run from a fresh integration, a tick drives every selected enemy that is there by the
freshest request accepted for it since it was selected, if that is not too old, and holds it still
otherwise. -/
theorem spade_actions_are_fresh {s : AgentGameIntegration} (fresh : Fresh s) {ops : List AgentOp}
    {w : SpadeWatch} (hrun : SpadeWatch.run { integration := s } ops = .ok w) {c : AgentTick}
    (none_passed : c.actionRequests = none) {s' : AgentGameIntegration}
    (htick : w.integration.tick c = .ok s') :
    ∃ commands, w.integration.engine.tick (c.engineArgs commands) = .ok s'.engine ∧
      ∀ enemyId ∈ w.integration.spadeControlledEnemyIds, ∀ e,
        w.integration.engine.enemies.get? enemyId = some e →
        ∃ command, (c.engineArgs commands).commandFor enemyId = some command ∧
          Drives w.integration.actionMaxAgeTicks w.integration.engine.worldState.sequenceNumber
            (w.drain.accepted enemyId) command ∧
          ∀ e', s'.engine.enemies.get? enemyId = some e' →
            e' = if w.integration.engine.worldState.victory then e
              else e.update c.dt (some command) := by
  have tracked := run_tracked (fresh_tracked fresh) hrun
  obtain ⟨⟨commands, hstep, hdue⟩, -⟩ := AgentGameIntegration.tick_drives tracked none_passed htick
  refine ⟨commands, hstep, fun enemyId selected e there => ?_⟩
  obtain ⟨command, hcommand, hdrives⟩ := hdue enemyId selected (Dict.mem_of_get?_eq_some there)
  rw [← accepted_drain] at hdrives
  refine ⟨command, hcommand, hdrives, fun e' survives => ?_⟩
  obtain ⟨e₀, there', rfl⟩ := GameEngine.tick_survivor hstep survives
  obtain rfl : e = e₀ := Option.some.inj (there.symm.trans there')
  rw [hcommand]
  rfl

/-- One koopa in the world, controlled by nobody yet. -/
def loneKoopa : AgentGameIntegration where
  engine :=
    { worldState :=
        { environment :=
            { enemies :=
                Dict.ofList [("koopa-1",
                  { enemyId := "koopa-1", x := 520, y := 0, rightBound := 2000,
                    movementSpeed := some 50 })] } } }
  enabled := true
  interval_pos := defaultInterval_pos
  bridge := .fresh

def plainTick : AgentTick where
  dt := 1 / 10
  playerInputs := ∅
  now := 5
  order := .stored
  decide _ _ := .ok none

/-- The koopa is selected, a request to move left arrives after a newer one to move right, and a
tick drains both. -/
def lateRequest : List AgentOp :=
  [.tick plainTick, .controlEnemyWithSpade "koopa-1",
    .submitAction (some
      { enemyId := "koopa-1", action := .enemyAction .moveRight, observationSequence := some 1 }),
    .submitAction (some
      { enemyId := "koopa-1", action := .enemyAction .moveLeft, observationSequence := some 0 }),
    .tick plainTick]

theorem late_request_is_ignored :
    ∃ w s' e e' commands command, SpadeWatch.run { integration := loneKoopa } lateRequest = .ok w ∧
      w.integration.tick plainTick = .ok s' ∧
      w.integration.engine.tick (plainTick.engineArgs commands) = .ok s'.engine ∧
      w.integration.engine.enemies.get? "koopa-1" = some e ∧
      s'.engine.enemies.get? "koopa-1" = some e' ∧ e.x < e'.x ∧
      (plainTick.engineArgs commands).commandFor "koopa-1" = some command ∧
      Drives w.integration.actionMaxAgeTicks w.integration.engine.worldState.sequenceNumber
        (w.drain.accepted "koopa-1") command := by
  obtain ⟨w, hrun, hstands⟩ := Fallible.exists_of_okAnd
    (x := SpadeWatch.run { integration := loneKoopa } lateRequest)
    (p := fun w => decide ("koopa-1" ∈ w.integration.spadeControlledEnemyIds) &&
      (w.integration.engine.enemies.get? "koopa-1").any fun e =>
        Fallible.okAnd (w.integration.tick plainTick) fun s' =>
          (s'.engine.enemies.get? "koopa-1").any fun e' => e.x < e'.x) (by decide +kernel)
  obtain ⟨hselected, hstands⟩ := Bool.and_eq_true_iff.mp hstands
  have selected := of_decide_eq_true hselected
  obtain ⟨e, there, hmoves⟩ := (Option.any_eq_true _ _).mp hstands
  obtain ⟨s', htick, hmoves⟩ := Fallible.exists_of_okAnd hmoves
  obtain ⟨e', survives, hmoves⟩ := (Option.any_eq_true _ _).mp hmoves
  obtain ⟨commands, hstep, hdue⟩ :=
    spade_actions_are_fresh ⟨rfl, rfl, rfl, rfl⟩ hrun (c := plainTick) rfl htick
  obtain ⟨command, hcommand, hdrives, -⟩ := hdue "koopa-1" selected e there
  exact ⟨w, s', e, e', commands, command, hrun, htick, hstep, there, survives,
    of_decide_eq_true hmoves, hcommand, hdrives⟩

end DistributedSmb
