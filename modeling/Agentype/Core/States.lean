import Agentype.Lib.Binary64
import Agentype.Lib.Check

/-!
# `Agentype.Core.States` — persisted state machines, identities and errors

The closed enumerations of the scheduler core, the identities of its rows and the domain errors.
Identities are opaque durable strings. Times are UTC epoch seconds with a fraction; every finite
floating-point reading is a rational, and only sums and comparisons of times are ever taken, so
times are rationals here.
-/

namespace Agentype

abbrev TaskId := String
abbrev BatchId := String
abbrev AttemptId := String
abbrev LeaseId := String
abbrev LogicalAgentId := String
abbrev IncarnationId := String
abbrev ExecutionId := String
abbrev ResultId := String
abbrev EscalationId := String
abbrev CheckpointId := String
abbrev FailureId := String
abbrev OutboxEventId := String
abbrev WorkstreamId := String
abbrev PartitionId := String

/-- Monotonic fencing token per task; a claim increments it. -/
abbrev LeaseEpoch := Nat

abbrev UnixTime := ℚ

/-- Domain and authority errors, with the message the operation reports. -/
inductive Error where
  | invalidTransition (msg : String)
  | staleAuthority (msg : String)
  | invalidAuthority (msg : String)
  | invariantViolation (msg : String)
  | notFound (msg : String)
  | conflict (msg : String)
  | configurationUnavailable (msg : String)
  | recoveryRequired (msg : String)
  | storageFailure (msg : String)
  deriving DecidableEq, Repr

def Error.display : Error → String
  | .invalidTransition msg => "invalid transition: " ++ msg
  | .staleAuthority msg => "stale authority: " ++ msg
  | .invalidAuthority msg => "invalid authority: " ++ msg
  | .invariantViolation msg => "invariant violation: " ++ msg
  | .notFound msg => "not found: " ++ msg
  | .conflict msg => "conflict: " ++ msg
  | .configurationUnavailable msg => "configuration unavailable: " ++ msg
  | .recoveryRequired msg => "recovery required: " ++ msg
  | .storageFailure msg => "storage failure: " ++ msg

inductive TaskState where
  | blocked | queued | leased | running | retryWait | suspended | completed | cancelled
  deriving DecidableEq, Repr

namespace TaskState

def asSql : TaskState → String
  | blocked => "BLOCKED"
  | queued => "QUEUED"
  | leased => "LEASED"
  | running => "RUNNING"
  | retryWait => "RETRY_WAIT"
  | suspended => "SUSPENDED"
  | completed => "COMPLETED"
  | cancelled => "CANCELLED"

def isTerminal : TaskState → Bool
  | completed | cancelled => true
  | _ => false

/-- The task is held by an attempt. -/
def isAssigned : TaskState → Bool
  | leased | running => true
  | _ => false

end TaskState

inductive AttemptState where
  | active | succeeded | failed | expired | cancelled
  deriving DecidableEq, Repr

inductive LeaseState where
  | active | released | expired | revoked
  deriving DecidableEq, Repr

inductive ExecutionState where
  | starting | running | succeeded | failed | lost | unknown | terminated
  deriving DecidableEq, Repr

namespace ExecutionState

def asSql : ExecutionState → String
  | starting => "STARTING"
  | running => "RUNNING"
  | succeeded => "SUCCEEDED"
  | failed => "FAILED"
  | lost => "LOST"
  | unknown => "UNKNOWN"
  | terminated => "TERMINATED"

def isActivePhysical : ExecutionState → Bool
  | starting | running | unknown => true
  | _ => false

/-- The states in which an execution row may carry a quiescence proof. -/
def isEnded : ExecutionState → Bool
  | succeeded | failed | terminated => true
  | _ => false

end ExecutionState

inductive ResultState where
  | available | acked
  deriving DecidableEq, Repr

inductive BatchState where
  | opened | active | suspended | completed | cancelled
  deriving DecidableEq, Repr

inductive LogicalAgentState where
  | initializing | ready | assigned | reviving | draining | suspended | retired
  deriving DecidableEq, Repr

def LogicalAgentState.asSql : LogicalAgentState → String
  | initializing => "INITIALIZING"
  | ready => "READY"
  | assigned => "ASSIGNED"
  | reviving => "REVIVING"
  | draining => "DRAINING"
  | suspended => "SUSPENDED"
  | retired => "RETIRED"

def LogicalAgentState.isLiveMember : LogicalAgentState → Bool
  | initializing | ready | assigned | draining | reviving => true
  | _ => false

inductive IncarnationState where
  | starting | warm | cold | lost | terminated
  deriving DecidableEq, Repr

def IncarnationState.isLivePresence : IncarnationState → Bool
  | starting | warm | cold => true
  | _ => false

inductive EscalationState where
  | opened | resolved | cancelled
  deriving DecidableEq, Repr

inductive OutboxState where
  | pending | delivered | acked
  deriving DecidableEq, Repr

inductive FailureClass where
  | transientExternal | timeout | executionLost | startFailure | resourceUnavailable
  | permissionFailure | invalidResult | adapterProtocolFailure | unknown
  | writerQuiescenceUnknown
  deriving DecidableEq, Repr

namespace FailureClass

def asSql : FailureClass → String
  | transientExternal => "TRANSIENT_EXTERNAL"
  | timeout => "TIMEOUT"
  | executionLost => "EXECUTION_LOST"
  | startFailure => "START_FAILURE"
  | resourceUnavailable => "RESOURCE_UNAVAILABLE"
  | permissionFailure => "PERMISSION_FAILURE"
  | invalidResult => "INVALID_RESULT"
  | adapterProtocolFailure => "ADAPTER_PROTOCOL_FAILURE"
  | unknown => "UNKNOWN"
  | writerQuiescenceUnknown => "WRITER_QUIESCENCE_UNKNOWN"

theorem asSql_injective : Function.Injective asSql := by
  intro a b
  cases a <;> cases b <;> simp [asSql]

def parseSql : String → Except String FailureClass :=
  Check.parseSpelling "FailureClass" [transientExternal, timeout, executionLost, startFailure,
    resourceUnavailable, permissionFailure, invalidResult, adapterProtocolFailure, unknown,
    writerQuiescenceUnknown] asSql

@[simp] theorem parseSql_asSql (c : FailureClass) : parseSql c.asSql = .ok c :=
  Check.parse_spell (by intro a; cases a <;> simp) asSql_injective c

end FailureClass

/-- Payload-free fatal preparation categories, outside the worker retry classes. -/
inductive PreparationFaultKind where
  | storageFailure | invariantViolation | recoveryRequired | missingRevision | invalidContract
  | other
  deriving DecidableEq, Repr

/-- Why an escalation was opened. -/
inductive EscalationCause where
  | taskFailure (class_ : FailureClass)
  | preparationFault (attemptId : AttemptId) (kind : PreparationFaultKind)
  deriving DecidableEq, Repr

inductive WorkspaceMode where
  | readOnly | write
  deriving DecidableEq, Repr

namespace WorkspaceMode

def asSql : WorkspaceMode → String
  | readOnly => "read_only"
  | write => "write"

def parseSql : String → Except String WorkspaceMode :=
  Check.parseSpelling "WorkspaceMode" [readOnly, write] asSql

@[simp] theorem parseSql_asSql (m : WorkspaceMode) : parseSql m.asSql = .ok m :=
  Check.parse_spell (by intro a; cases a <;> simp)
    (by intro a b; cases a <;> cases b <;> simp [asSql]) m

end WorkspaceMode

inductive Retention where
  | resident | ephemeral
  deriving DecidableEq, Repr

inductive ContinuityPreference where
  | required | preferred | none
  deriving DecidableEq, Repr

namespace ContinuityPreference

def asSql : ContinuityPreference → String
  | required => "required"
  | preferred => "preferred"
  | none => "none"

def parseSql : String → Except String ContinuityPreference :=
  Check.parseSpelling "ContinuityPreference" [required, preferred, none] asSql

@[simp] theorem parseSql_asSql (c : ContinuityPreference) : parseSql c.asSql = .ok c :=
  Check.parse_spell (by intro a; cases a <;> simp)
    (by intro a b; cases a <;> cases b <;> simp [asSql]) c

end ContinuityPreference

/-- What a task does to the information of its generation. -/
inductive InformationFunction where
  | expand | compressPositive | compressNegative
  deriving DecidableEq, Repr

namespace InformationFunction

def asSql : InformationFunction → String
  | expand => "EXPAND"
  | compressPositive => "COMPRESS_POSITIVE"
  | compressNegative => "COMPRESS_NEGATIVE"

theorem asSql_injective : Function.Injective asSql := by
  intro f g
  cases f <;> cases g <;> simp [asSql]

def parseSql : String → Except String InformationFunction :=
  Check.parseSpelling "InformationFunction" [expand, compressPositive, compressNegative] asSql

@[simp] theorem parseSql_asSql (f : InformationFunction) : parseSql f.asSql = .ok f :=
  Check.parse_spell (by intro a; cases a <;> simp) asSql_injective f

end InformationFunction

/-- Whether a task demands an exact agent type. -/
inductive AgentRequirementMode where
  | legacy | typed
  deriving DecidableEq, Repr

/-- Whether an agent is bound to an exact agent type. -/
inductive AgentTypeBindingMode where
  | unbound | bound
  deriving DecidableEq, Repr

inductive ProvisioningMode where
  | legacy | provisioned
  deriving DecidableEq, Repr

inductive BindingSnapshotMode where
  | none | snapshot
  deriving DecidableEq, Repr

/-- `char::is_whitespace`: the Unicode property White_Space. -/
def isWhitespace (c : Char) : Bool :=
  (9 ≤ c.toNat && c.toNat ≤ 13) || c.toNat == 32 || c.toNat == 0x85 || c.toNat == 0xA0 ||
    c.toNat == 0x1680 || (0x2000 ≤ c.toNat && c.toNat ≤ 0x200A) || c.toNat == 0x2028 ||
    c.toNat == 0x2029 || c.toNat == 0x202F || c.toNat == 0x205F || c.toNat == 0x3000

/-- `trim().is_empty()`. -/
def isBlank (text : String) : Bool := text.toList.all isWhitespace

theorem isBlank_eq_false {text : String} (h : ¬ isBlank text = true) : isBlank text = false :=
  Bool.eq_false_iff.mpr h

/-- What a task permits to be retried, and how often. -/
structure RetryPolicy where
  maxAttempts : Nat
  retryClasses : List FailureClass
  baseBackoffSeconds : ℚ
  maxBackoffSeconds : ℚ
  deriving DecidableEq, Repr

namespace RetryPolicy

/-- The default policy of a task specification. -/
def default : RetryPolicy where
  maxAttempts := 1
  retryClasses := [.transientExternal, .timeout, .executionLost, .resourceUnavailable]
  baseBackoffSeconds := 1
  maxBackoffSeconds := 60

/-- A power of two that overflows is infinite, and its product with zero is no number: the minimum of
    either with the limit is the limit. -/
def delayForAttempt (p : RetryPolicy) (attemptNumber : Nat) : ℚ :=
  if 1024 ≤ attemptNumber - 1 then p.maxBackoffSeconds
  else min (p.baseBackoffSeconds * 2 ^ (attemptNumber - 1)) p.maxBackoffSeconds

def allows (p : RetryPolicy) (class_ : FailureClass) (attemptNumber : Nat) : Bool :=
  p.retryClasses.contains class_ && attemptNumber < p.maxAttempts

end RetryPolicy

/-- A JSON value as the kernel reads it: its text, and its keys when it is an object. -/
structure JsonValue where
  text : String
  keys : Option (List String)
  deriving DecidableEq, Repr

/-- The empty object, the default of every JSON column. -/
def JsonValue.emptyObject : JsonValue := ⟨"\x7b\x7d", some []⟩

def JsonValue.null : JsonValue := ⟨"null", none⟩

end Agentype
