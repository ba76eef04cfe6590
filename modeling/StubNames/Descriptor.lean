/-!
The types of an interface description. A type is written as a token such as `job_id()`; the set
of types is closed, with the built-in types first and the identifiers of the workload manager
after them. Tokens are read by a table of their own (`ofToken?`), which agrees with the table they
are written by (`token`): the token of each type is read as that type, and nothing else is read
(`ofToken?_eq_some_iff`).
-/
namespace StubNames

/-- A type of the interface description, in the order of the table of types. -/
inductive Descriptor where
  | atom | any | map | string | binary | integer | posInteger | float
  | credentialId | remoteId | accountId | sessionId | userId | gridId | clusterId | partitionId
  | nodeId | jobId | imageId | relocationId | hookId
  deriving DecidableEq, Ord, Repr

namespace Descriptor

/-- The token that denotes a type. -/
def token : Descriptor → String
  | atom => "atom()"
  | any => "any()"
  | map => "map()"
  | string => "string()"
  | binary => "binary()"
  | integer => "integer()"
  | posInteger => "pos_integer()"
  | float => "float()"
  | credentialId => "credential_id()"
  | remoteId => "remote_id()"
  | accountId => "account_id()"
  | sessionId => "session_id()"
  | userId => "user_id()"
  | gridId => "grid_id()"
  | clusterId => "cluster_id()"
  | partitionId => "partition_id()"
  | nodeId => "node_id()"
  | jobId => "job_id()"
  | imageId => "image_id()"
  | relocationId => "relocation_id()"
  | hookId => "hook_id()"

/-- The name by which messages about the tables call a type. -/
def name : Descriptor → String
  | atom => "Atom"
  | any => "Any"
  | map => "Map"
  | string => "String"
  | binary => "Binary"
  | integer => "Integer"
  | posInteger => "PosInteger"
  | float => "Float"
  | credentialId => "CredentialId"
  | remoteId => "RemoteId"
  | accountId => "AccountId"
  | sessionId => "SessionId"
  | userId => "UserId"
  | gridId => "GridId"
  | clusterId => "ClusterId"
  | partitionId => "PartitionId"
  | nodeId => "NodeId"
  | jobId => "JobId"
  | imageId => "ImageId"
  | relocationId => "RelocationId"
  | hookId => "HookId"

/-- The built-in types, in the order of the table. -/
def builtins : List Descriptor := [atom, any, map, string, binary, integer, posInteger, float]

/-- The identifiers that the workload manager adds to the built-in types. -/
def identifiers : List Descriptor :=
  [credentialId, remoteId, accountId, sessionId, userId, gridId, clusterId, partitionId, nodeId,
   jobId, imageId, relocationId, hookId]

/-- Every type, in the order of the table. -/
def all : List Descriptor := builtins ++ identifiers

/-- Whether a type is built in rather than an identifier of the workload manager. -/
def isBuiltin (descriptor : Descriptor) : Bool := builtins.contains descriptor

/-- The type that a token denotes, if it is spelled exactly. -/
def ofToken? : String → Option Descriptor
  | "atom()" => some atom
  | "any()" => some any
  | "map()" => some map
  | "string()" => some string
  | "binary()" => some binary
  | "integer()" => some integer
  | "pos_integer()" => some posInteger
  | "float()" => some float
  | "credential_id()" => some credentialId
  | "remote_id()" => some remoteId
  | "account_id()" => some accountId
  | "session_id()" => some sessionId
  | "user_id()" => some userId
  | "grid_id()" => some gridId
  | "cluster_id()" => some clusterId
  | "partition_id()" => some partitionId
  | "node_id()" => some nodeId
  | "job_id()" => some jobId
  | "image_id()" => some imageId
  | "relocation_id()" => some relocationId
  | "hook_id()" => some hookId
  | _ => none

theorem mem_all (descriptor : Descriptor) : descriptor ∈ all := by
  cases descriptor <;> decide

/-- Every type is read back from its token. -/
@[simp] theorem ofToken?_token (descriptor : Descriptor) :
    ofToken? descriptor.token = some descriptor := by
  cases descriptor <;> rfl

/-- What is read as a type is spelled as its token. -/
theorem token_of_ofToken? {text : String} {descriptor : Descriptor}
    (found : ofToken? text = some descriptor) : text = descriptor.token := by
  unfold ofToken? at found
  split at found <;> cases found <;> rfl

/-- A text denotes a type exactly when it is the token of that type. -/
theorem ofToken?_eq_some_iff {text : String} {descriptor : Descriptor} :
    ofToken? text = some descriptor ↔ text = descriptor.token := by
  constructor
  · exact token_of_ofToken?
  · rintro rfl
    exact ofToken?_token descriptor

/-- Different types have different tokens. -/
theorem token_injective {left right : Descriptor} (same : left.token = right.token) :
    left = right := by
  have found := ofToken?_token left
  rw [same, ofToken?_token] at found
  exact (Option.some.inj found).symm

end Descriptor
end StubNames
