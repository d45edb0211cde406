import DistributedSmb.Election.Effects

/-!
# The order in which claims arrive

A coordinator compares a claim with its own join index, and not with the claim it follows already.
So of the claims below its own index it follows the one delivered last, whatever the others were.
-/

namespace DistributedSmb

open Library

namespace ElectionCoordinator

/-- The claims of one election, in the order of their delivery. -/
def receiveClaims (c : ElectionCoordinator) (claims : List NewHostClaim) : ElectionCoordinator :=
  claims.foldl (fun c claim => (c.onNewHostClaim claim.claimerJoinIndex claim.claimerIp).1) c

/-- The coordinator follows a claimer with the lowest join index of the list. -/
def FollowsLowest (c : ElectionCoordinator) (claims : List NewHostClaim) : Prop :=
  ∃ lowest ∈ claims, (∀ claim ∈ claims, lowest.claimerJoinIndex ≤ claim.claimerJoinIndex) ∧
    c.currentHostJoinIndex = some lowest.claimerJoinIndex ∧ c.currentHostIp = some lowest.claimerIp

/-- The claims below the coordinator's own join index. -/
def lowerClaims (c : ElectionCoordinator) (claims : List NewHostClaim) : List NewHostClaim :=
  claims.filter fun claim => claim.claimerJoinIndex < c.joinIndex

/-- The last of the lower claims has the lowest join index of the list. -/
def LowestLast (c : ElectionCoordinator) (claims : List NewHostClaim) : Prop :=
  ∃ last ∈ (c.lowerClaims claims).getLast?,
    ∀ claim ∈ claims, last.claimerJoinIndex ≤ claim.claimerJoinIndex

def follows (c : ElectionCoordinator) (claim : NewHostClaim) : ElectionCoordinator :=
  { c with
    state := .follower
    currentHostIp := some claim.claimerIp
    currentHostJoinIndex := some claim.claimerJoinIndex
    electionTimerExpiry := none }

theorem mem_lowerClaims {c : ElectionCoordinator} {claims : List NewHostClaim}
    {claim : NewHostClaim} :
    claim ∈ c.lowerClaims claims ↔ claim ∈ claims ∧ claim.claimerJoinIndex < c.joinIndex := by
  simp [lowerClaims]

theorem onNewHostClaim_fst (c : ElectionCoordinator) (claim : NewHostClaim) :
    (c.onNewHostClaim claim.claimerJoinIndex claim.claimerIp).1 =
      if claim.claimerJoinIndex < c.joinIndex then c.follows claim else c := by
  unfold onNewHostClaim
  by_cases hlower : claim.claimerJoinIndex < c.joinIndex
  · rw [if_neg (not_le.mpr hlower), if_pos hlower]
    rfl
  · rw [if_pos (not_lt.mp hlower), if_neg hlower]

/-- Each lower claim replaces the one before. -/
theorem receiveClaims_eq (c : ElectionCoordinator) (claims : List NewHostClaim) :
    c.receiveClaims claims =
      match (c.lowerClaims claims).getLast? with
      | some last => c.follows last
      | none => c := by
  induction claims using List.reverseRecOn with
  | nil => rfl
  | append_singleton claims claim ih =>
    have hjoinIndex : (c.receiveClaims claims).joinIndex = c.joinIndex := by
      rw [ih]
      split <;> rfl
    have hstep : c.receiveClaims (claims ++ [claim]) =
        ((c.receiveClaims claims).onNewHostClaim claim.claimerJoinIndex claim.claimerIp).1 :=
      List.foldl_append
    rw [hstep, onNewHostClaim_fst, hjoinIndex]
    by_cases hlower : claim.claimerJoinIndex < c.joinIndex
    · have hlast : (c.lowerClaims (claims ++ [claim])).getLast? = some claim := by
        simp [lowerClaims, hlower]
      rw [if_pos hlower, hlast, ih]
      split <;> rfl
    · have hlast : c.lowerClaims (claims ++ [claim]) = c.lowerClaims claims := by
        simp [lowerClaims, hlower]
      rw [if_neg hlower, hlast, ih]

theorem receiveClaims_of_last {c : ElectionCoordinator} {claims : List NewHostClaim}
    {last : NewHostClaim} (h : last ∈ (c.lowerClaims claims).getLast?) :
    c.receiveClaims claims = c.follows last := by
  rw [receiveClaims_eq, Option.mem_def.mp h]

theorem exists_last {c : ElectionCoordinator} {claims : List NewHostClaim}
    (hlower : ∃ claim ∈ claims, claim.claimerJoinIndex < c.joinIndex) :
    ∃ last, last ∈ (c.lowerClaims claims).getLast? ∧ last ∈ claims := by
  obtain ⟨claim, hmem, hlt⟩ := hlower
  have hne : c.lowerClaims claims ≠ [] := List.ne_nil_of_mem (mem_lowerClaims.mpr ⟨hmem, hlt⟩)
  refine ⟨_, List.getLast?_eq_getLast_of_ne_nil hne, ?_⟩
  exact (mem_lowerClaims.mp (List.getLast_mem hne)).1

theorem FollowsLowest.perm {c : ElectionCoordinator} {claims claims' : List NewHostClaim}
    (hperm : claims.Perm claims') (h : c.FollowsLowest claims) : c.FollowsLowest claims' := by
  obtain ⟨lowest, hmem, hlowest, hhost⟩ := h
  refine ⟨lowest, hperm.mem_iff.mp hmem, ?_, hhost⟩
  intro claim hclaim
  exact hlowest claim (hperm.mem_iff.mpr hclaim)

/-- Two coordinators that follow the lowest of the same claims follow the same join index. -/
theorem FollowsLowest.agree {c c' : ElectionCoordinator} {claims : List NewHostClaim}
    (h : c.FollowsLowest claims) (h' : c'.FollowsLowest claims) :
    c.currentHostJoinIndex = c'.currentHostJoinIndex := by
  obtain ⟨lowest, hmem, hlowest, hindex, -⟩ := h
  obtain ⟨lowest', hmem', hlowest', hindex', -⟩ := h'
  have hsame : lowest.claimerJoinIndex = lowest'.claimerJoinIndex :=
    le_antisymm (hlowest lowest' hmem') (hlowest' lowest hmem)
  rw [hindex, hindex', hsame]

/-- The coordinator follows a lowest claimer exactly when the last lower claim is a lowest one. -/
theorem followsLowest_iff (c : ElectionCoordinator) {claims : List NewHostClaim}
    (hlower : ∃ claim ∈ claims, claim.claimerJoinIndex < c.joinIndex) :
    (c.receiveClaims claims).FollowsLowest claims ↔ c.LowestLast claims := by
  obtain ⟨last, hlast, hmem⟩ := exists_last hlower
  rw [receiveClaims_of_last hlast]
  constructor
  · rintro ⟨lowest, -, hlowest, hindex, -⟩
    refine ⟨last, hlast, fun claim hclaim => ?_⟩
    have hsame : last.claimerJoinIndex = lowest.claimerJoinIndex := Option.some.inj hindex
    exact hsame.trans_le (hlowest claim hclaim)
  · rintro ⟨last', hlast', hlowest⟩
    obtain rfl : last' = last := Option.mem_unique hlast' hlast
    exact ⟨last', hmem, hlowest, rfl, rfl⟩

/-- All lower claims carry one join index. -/
def OneIndex (c : ElectionCoordinator) (claims : List NewHostClaim) : Prop :=
  ∀ a ∈ c.lowerClaims claims, ∀ b ∈ c.lowerClaims claims, a.claimerJoinIndex = b.claimerJoinIndex

theorem OneIndex.lowestLast {c : ElectionCoordinator} {claims claims' : List NewHostClaim}
    (h : c.OneIndex claims) (hperm : claims'.Perm claims)
    (hlower : ∃ claim ∈ claims, claim.claimerJoinIndex < c.joinIndex) : c.LowestLast claims' := by
  have hlower' : ∃ claim ∈ claims', claim.claimerJoinIndex < c.joinIndex := by
    obtain ⟨claim, hmem, hlt⟩ := hlower
    exact ⟨claim, hperm.mem_iff.mpr hmem, hlt⟩
  obtain ⟨last, hlast, -⟩ := exists_last hlower'
  have hmem := mem_lowerClaims.mp (List.mem_of_getLast? hlast)
  refine ⟨last, hlast, fun claim hclaim => ?_⟩
  by_cases hlt : claim.claimerJoinIndex < c.joinIndex
  · have hsame := h last (mem_lowerClaims.mpr ⟨hperm.mem_iff.mp hmem.1, hmem.2⟩) claim
      (mem_lowerClaims.mpr ⟨hperm.mem_iff.mp hclaim, hlt⟩)
    exact hsame.le
  · exact hmem.2.le.trans (not_lt.mp hlt)

/-- A lower claim can be delivered last. -/
theorem exists_perm_last {c : ElectionCoordinator} {claims : List NewHostClaim}
    {claim : NewHostClaim} (h : claim ∈ c.lowerClaims claims) :
    ∃ claims', claims'.Perm claims ∧ (c.lowerClaims claims').getLast? = some claim := by
  obtain ⟨hmem, hlt⟩ := mem_lowerClaims.mp h
  obtain ⟨before, after, rfl⟩ := List.append_of_mem hmem
  refine ⟨before ++ after ++ [claim], ?_, by simp [lowerClaims, hlt]⟩
  have hswap : (after ++ [claim]).Perm (claim :: after) := List.perm_append_comm
  rw [List.append_assoc]
  exact hswap.append_left before

/-- Whatever the order of delivery, the last lower claim decides; only when all lower claims carry
one join index does every order lead to the lowest. -/
theorem follows_lowest_in_order_iff (c : ElectionCoordinator) {claims : List NewHostClaim}
    (hlower : ∃ claim ∈ claims, claim.claimerJoinIndex < c.joinIndex) :
    (∀ delivered, delivered.Perm claims →
        ((c.receiveClaims delivered).FollowsLowest claims ↔ c.LowestLast delivered)) ∧
      ((∀ delivered, delivered.Perm claims → (c.receiveClaims delivered).FollowsLowest claims) ↔
        c.OneIndex claims) := by
  have hany (delivered : List NewHostClaim) (hperm : delivered.Perm claims) :
      (c.receiveClaims delivered).FollowsLowest claims ↔ c.LowestLast delivered := by
    obtain ⟨claim, hmem, hlt⟩ := hlower
    rw [← followsLowest_iff c ⟨claim, hperm.mem_iff.mpr hmem, hlt⟩]
    exact ⟨.perm hperm.symm, .perm hperm⟩
  refine ⟨hany, ?_, ?_⟩
  · intro hevery a ha b hb
    obtain ⟨lastA, hpermA, hlastA⟩ := exists_perm_last ha
    obtain ⟨lastB, hpermB, hlastB⟩ := exists_perm_last hb
    obtain ⟨a', ha', hlowestA⟩ := (hany _ hpermA).mp (hevery _ hpermA)
    obtain ⟨b', hb', hlowestB⟩ := (hany _ hpermB).mp (hevery _ hpermB)
    obtain rfl : a = a' := Option.some.inj (hlastA.symm.trans ha')
    obtain rfl : b = b' := Option.some.inj (hlastB.symm.trans hb')
    apply le_antisymm
    · exact hlowestA b (hpermA.mem_iff.mpr (mem_lowerClaims.mp hb).1)
    · exact hlowestB a (hpermB.mem_iff.mpr (mem_lowerClaims.mp ha).1)
  · intro hone delivered hperm
    exact (hany delivered hperm).mpr (hone.lowestLast hperm hlower)

/-- The fourth player, and the claims of the two before it. -/
def fourthInLine : ElectionCoordinator where
  joinIndex := 3
  myIp := "10.0.0.4"
  state := .electionPending

def twoClaims : List NewHostClaim := [⟨"10.0.0.3", 2, "session"⟩, ⟨"10.0.0.2", 1, "session"⟩]

/-- In this order the lower claim comes last. -/
theorem lower_claim_last_is_followed :
    (fourthInLine.receiveClaims twoClaims).FollowsLowest twoClaims :=
  ((follows_lowest_in_order_iff fourthInLine (by decide)).1 twoClaims (.refl _)).mpr
    ⟨⟨"10.0.0.2", 1, "session"⟩, rfl, by decide⟩

/-- In the other order the higher claimer takes the lower one's place. -/
theorem higher_claim_last_is_followed :
    ¬ ∀ (c : ElectionCoordinator) (claims delivered : List NewHostClaim),
      (∃ claim ∈ claims, claim.claimerJoinIndex < c.joinIndex) → delivered.Perm claims →
      (c.receiveClaims delivered).FollowsLowest claims := by
  intro always
  obtain ⟨lowest, -, hlowest, hindex, -⟩ :=
    always fourthInLine twoClaims twoClaims.reverse (by decide) (List.reverse_perm _)
  have hle : lowest.claimerJoinIndex ≤ 1 := hlowest ⟨"10.0.0.2", 1, "session"⟩ (by decide)
  have hfollowed : 2 = lowest.claimerJoinIndex := Option.some.inj hindex
  omega

end ElectionCoordinator

namespace Node

/-- What a node's handler makes of the coordinator. -/
theorem onNewHostClaim_coordinator {n n' : Node} {c : ElectionCoordinator} {claim : NewHostClaim}
    {now : ℚ} (hcoordinator : n.election.coordinator = some c) (hindex : n.joinIndex = c.joinIndex)
    (h : n.onNewHostClaim claim now = .ok n') :
    n'.election.coordinator = some (c.receiveClaims [claim]) ∧ n'.joinIndex = n.joinIndex := by
  have hreceive : c.receiveClaims [claim] =
      if claim.claimerJoinIndex < c.joinIndex then c.follows claim else c :=
    c.onNewHostClaim_fst claim
  obtain ⟨rfl, hignored⟩ | ⟨c', hsome, hyields, rfl⟩ := onNewHostClaim_cases h
  · have hnot : ¬ claim.claimerJoinIndex < c.joinIndex := fun hlt =>
      hignored ⟨c, hcoordinator, by omega, hlt⟩
    rw [hreceive, if_neg hnot]
    exact ⟨hcoordinator, rfl⟩
  · obtain rfl : c' = c := Option.some.inj (hsome.symm.trans hcoordinator)
    obtain ⟨c'', hsome', -, hlt⟩ := hyields
    obtain rfl : c'' = c' := Option.some.inj (hsome'.symm.trans hsome)
    rw [hreceive, if_pos hlt]
    exact ⟨rfl, rfl⟩

/-- The claims that reach a node reach its coordinator in the same order. -/
theorem receiveClaims_coordinator {n n' : Node} {c : ElectionCoordinator}
    {claims : List NewHostClaim} {now : ℚ} (hcoordinator : n.election.coordinator = some c)
    (hindex : n.joinIndex = c.joinIndex)
    (h : claims.foldlM (fun n claim => n.onNewHostClaim claim now) n = .ok n') :
    n'.election.coordinator = some (c.receiveClaims claims) := by
  induction claims generalizing n c with
  | nil => cases h; exact hcoordinator
  | cons claim claims ih =>
    rw [List.foldlM_cons] at h
    obtain ⟨n₁, hfirst, h⟩ := Fallible.bind_eq_ok.mp h
    obtain ⟨hcoordinator₁, hindex₁⟩ := onNewHostClaim_coordinator hcoordinator hindex hfirst
    have hjoinIndex : (c.receiveClaims [claim]).joinIndex = c.joinIndex := by
      rw [ElectionCoordinator.receiveClaims_eq]
      split <;> rfl
    exact ih hcoordinator₁ ((hindex₁.trans hindex).trans hjoinIndex.symm) h

end Node

end DistributedSmb
