import Agentype.Core.States

/-!
# `Agentype.Core.Authority` — authority predicates and the physical graph

The pure predicates the kernel applies inside its transactions: the fence an attempt must pass to
act for its task, the graph of physical execution states, and the rule under which a writer may be
replaced.
-/

namespace Agentype

/-- What the authority predicates read of an attempt, its lease and its task. -/
structure AuthoritySnapshot where
  attemptId : AttemptId
  attemptState : AttemptState
  leaseState : LeaseState
  leaseEpoch : LeaseEpoch
  leaseExpiresAt : UnixTime
  taskCurrentAttemptId : Option AttemptId
  taskFencingEpoch : LeaseEpoch

/-- The message of every refused authority check. -/
def staleAuthorityMessage : String := "attempt no longer owns authoritative task state"

/-- Identity and ownership fence, without the expiry test. -/
def validateClaimOwnership (snap : AuthoritySnapshot) (expectedEpoch : LeaseEpoch) :
    Except Error Unit :=
  if snap.attemptState ≠ .active ∨ snap.leaseState ≠ .active ∨ snap.leaseEpoch ≠ expectedEpoch ∨
      snap.taskCurrentAttemptId ≠ some snap.attemptId ∨ snap.taskFencingEpoch ≠ expectedEpoch then
    .error (.staleAuthority staleAuthorityMessage)
  else
    .ok ()

/-- Current attempt, active unexpired lease and matching epoch; expiry is judged at `now`. -/
def validateAuthority (snap : AuthoritySnapshot) (expectedEpoch : LeaseEpoch) (now : UnixTime) :
    Except Error Unit :=
  match validateClaimOwnership snap expectedEpoch with
  | .error err => .error err
  | .ok () =>
    if snap.leaseExpiresAt ≤ now then .error (.staleAuthority staleAuthorityMessage) else .ok ()

theorem validateClaimOwnership_ok {snap : AuthoritySnapshot} {e : LeaseEpoch} :
    validateClaimOwnership snap e = .ok () ↔
      snap.attemptState = .active ∧ snap.leaseState = .active ∧ snap.leaseEpoch = e ∧
        snap.taskCurrentAttemptId = some snap.attemptId ∧ snap.taskFencingEpoch = e := by
  unfold validateClaimOwnership
  split
  · rename_i h
    constructor
    · intro hc
      cases hc
    · rintro ⟨h₁, h₂, h₃, h₄, h₅⟩
      rcases h with h | h | h | h | h
      · exact absurd h₁ h
      · exact absurd h₂ h
      · exact absurd h₃ h
      · exact absurd h₄ h
      · exact absurd h₅ h
  · rename_i h
    simpa [not_or] using h

theorem validateAuthority_ok {snap : AuthoritySnapshot} {e : LeaseEpoch} {now : UnixTime} :
    validateAuthority snap e now = .ok () ↔
      validateClaimOwnership snap e = .ok () ∧ now < snap.leaseExpiresAt := by
  unfold validateAuthority
  split
  · rename_i err h
    simp [h]
  · rename_i h
    simp [h]

/-- The physical execution graph. `UNKNOWN → RUNNING` is required. -/
def physicalTransitionAllowed (source target : ExecutionState) : Bool :=
  match source with
  -- the source lists all seven states here
  | .starting => true
  | .unknown => (target matches .unknown | .running | .succeeded | .failed | .lost | .terminated)
  | .running => (target matches .running | .succeeded | .failed | .lost | .terminated)
  | .lost => (target matches .lost | .succeeded | .failed | .terminated)
  | .succeeded => (target matches .succeeded | .terminated)
  | .failed => (target matches .failed | .terminated)
  | .terminated => (target matches .terminated)

theorem physicalTransitionAllowed_refl (s : ExecutionState) : physicalTransitionAllowed s s := by
  cases s <;> decide

/-- An active execution may enter every state that is not a return to the start. -/
theorem physicalTransitionAllowed_of_active {source target : ExecutionState}
    (h : source.isActivePhysical = true) (h₁ : target ≠ .starting) (h₂ : target ≠ .unknown) :
    physicalTransitionAllowed source target = true := by
  revert h h₁ h₂
  cases source <;> cases target <;> decide

/-- The message of a refused physical transition. -/
def physicalTransitionMessage (source target : ExecutionState) : String :=
  "execution cannot transition from " ++ source.asSql ++ " to " ++ target.asSql

def requirePhysicalTransition (source target : ExecutionState) : Except Error Unit :=
  if physicalTransitionAllowed source target then .ok ()
  else .error (.invalidTransition (physicalTransitionMessage source target))

theorem requirePhysicalTransition_ok {source target : ExecutionState} :
    requirePhysicalTransition source target = .ok () ↔
      physicalTransitionAllowed source target = true := by
  unfold requirePhysicalTransition
  split <;> simp_all

/-- A writer may be replaced only with a quiescence proof or frozen attempt isolation. -/
def writerIsSafeToReplace (workspaceWrite executionExists quiescentConfirmed
    attemptIsolation : Bool) : Bool :=
  !workspaceWrite || !executionExists || quiescentConfirmed || attemptIsolation

/-- The required tags are a subset of the actual ones. -/
def tagsMatch (required actual : List String) : Bool :=
  required.all fun t => actual.any fun a => a = t

/-- A missing runtime configuration is a mechanical failure. -/
def unavailableConfigurationFailure : FailureClass := .resourceUnavailable

end Agentype
