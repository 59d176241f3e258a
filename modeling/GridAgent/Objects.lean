import GridAgent.Error
import GridAgent.Health.Report
import GridAgent.Table

/-!
# Object storage

Payloads and results are stored as bytes. While the storage is unavailable nothing can be fetched.
-/

namespace GridAgent

/-- State of the object storage. -/
structure Objects where
  /-- The bytes of each object. -/
  bytes : Table DataId (List UInt8) := .empty
  /-- Nothing can be fetched. -/
  unavailable : Bool := false

namespace Objects

instance : Inhabited Objects := ⟨{}⟩

/-- Stores an object. -/
def put (o : Objects) (data : DataId) (bytes : List UInt8) : Objects :=
  { o with bytes := o.bytes.set data bytes }

/-- Fetches an object. -/
def fetch (o : Objects) (data : DataId) : Except StorageError (List UInt8) :=
  if o.unavailable then .error (.unavailable "injected failure")
  else
    match o.bytes.get? data with
    | some bytes => .ok bytes
    | none => .error (.notFound data)

/-- Answer to a probe. -/
def report (o : Objects) : HealthReport :=
  if o.unavailable then .unhealthy "object storage unavailable" else .healthy

end Objects

end GridAgent
