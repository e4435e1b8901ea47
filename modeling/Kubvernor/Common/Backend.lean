import Kubvernor.Common.ResourceKey

/-!
# Services, inference pools and backends

The Kubernetes objects a route can send traffic to, as far as the controller reads them, and the
controller's own record of one backend of a rule: what it refers to (`BackendType`) and how far it
has been resolved (`Backend`). Ports and weights are the source's `i32`, within the bounds the
resource definitions put on them.
-/

namespace Kubvernor

def KUBERNETES_NONE : String := "None"

/-! ## Kubernetes objects -/

inductive IntOrString
  | int (value : Int)
  | string (value : String)
deriving DecidableEq, Repr

structure ServicePort where
  port : Int
  targetPort : Option IntOrString := none
deriving DecidableEq, Repr

structure ServiceSpec where
  clusterIP : Option String := none
  ports : Option (List ServicePort) := none
deriving DecidableEq, Repr

structure Service where
  metadata : ObjectMeta := {}
  spec : Option ServiceSpec := none
deriving DecidableEq, Repr

inductive EndpointPickerFailureMode
  | failOpen
  | failClose
deriving DecidableEq, Repr

/-- `InferencePoolEndpointPickerRef`, with the number of its port. -/
structure EndpointPickerRef where
  group : Option String := none
  kind : Option String := none
  name : String
  port : Option Int := none
  failureMode : Option EndpointPickerFailureMode := none
deriving DecidableEq, Repr

/-- `InferencePoolSpec`; the target ports are given by their numbers. -/
structure InferencePoolSpec where
  endpointPickerRef : EndpointPickerRef
  matchLabels : List (String × String) := []
  targetPorts : List Int := []
deriving DecidableEq, Repr

/-- A status condition, without its time stamp. -/
structure Condition where
  type : String
  status : String
  reason : String
  message : String := ""
  observedGeneration : Option Int := none
deriving DecidableEq, Repr

/-- `InferencePoolStatusParents`: one gateway the pool is used by. -/
structure InferencePoolParent where
  name : String
  ns : Option String
  kind : Option String
  controllerName : Option String
  conditions : Option (List Condition)
deriving DecidableEq, Repr

structure InferencePool where
  metadata : ObjectMeta := {}
  spec : InferencePoolSpec
  parents : Option (List InferencePoolParent) := none
deriving DecidableEq, Repr

/-- `ResourceKey::from(&InferencePool)`. -/
def InferencePool.resourceKey (p : InferencePool) : ResourceKey :=
  { p.metadata.resourceKey "InferencePool" with group := DEFAULT_INFERENCE_GROUP_NAME }

/-! ## Backends -/

structure ServiceTypeConfig where
  resourceKey : ResourceKey
  endpoint : String := ""
  port : Int := 0
  effectivePort : Int := 0
  weight : Int := 1
deriving DecidableEq, Repr

structure InferencePoolTypeConfig where
  resourceKey : ResourceKey
  endpoint : String := ""
  port : Int := 0
  targetPorts : List Int := []
  weight : Int := 1
  inferenceConfig : Option InferencePoolSpec := none
  endpoints : Option (List String) := none
deriving DecidableEq, Repr

/-- The name of the cluster a backend is served by: its key's name and namespace. -/
def ResourceKey.clusterName (k : ResourceKey) : String := k.name ++ "." ++ k.ns

def ServiceTypeConfig.clusterName (c : ServiceTypeConfig) : String := c.resourceKey.clusterName

def InferencePoolTypeConfig.clusterName (c : InferencePoolTypeConfig) : String := c.resourceKey.clusterName

inductive BackendType
  | service (config : ServiceTypeConfig)
  | inferencePool (config : InferencePoolTypeConfig)
  | invalid (config : ServiceTypeConfig)
deriving DecidableEq, Repr

def BackendType.resourceKey : BackendType → ResourceKey
  | .service c | .invalid c => c.resourceKey
  | .inferencePool c => c.resourceKey

inductive Backend
  | resolved (type : BackendType)
  | unresolved (type : BackendType)
  | notAllowed (type : BackendType)
  | maybe (type : BackendType)
  | invalid (type : BackendType)
deriving DecidableEq, Repr

namespace Backend

def backendType : Backend → BackendType
  | .resolved t | .unresolved t | .notAllowed t | .maybe t | .invalid t => t

def resourceKey (b : Backend) : ResourceKey := b.backendType.resourceKey

/-- The one state in which traffic may be sent to the backend. -/
def IsResolved : Backend → Prop
  | .resolved _ => True
  | _ => False

instance : DecidablePred IsResolved
  | .resolved _ => .isTrue trivial
  | .unresolved _ | .notAllowed _ | .maybe _ | .invalid _ => .isFalse id

def IsNotAllowed : Backend → Prop
  | .notAllowed _ => True
  | _ => False

instance : DecidablePred IsNotAllowed
  | .notAllowed _ => .isTrue trivial
  | .unresolved _ | .resolved _ | .maybe _ | .invalid _ => .isFalse id

end Backend

/-! ## Resolution status -/

inductive NotResolvedReason
  | unknown
  | notAllowedByListeners
  | noMatchingListenerHostname
  | invalidBackend
  | backendNotFound
  | refNotPermitted
  | noMatchingParent
deriving DecidableEq, Repr

inductive ResolutionStatus
  | resolved
  | notResolved (reason : NotResolvedReason)
deriving DecidableEq, Repr

end Kubvernor
