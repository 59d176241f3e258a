import GridAgent.Text.Base32

/-!
# Identifiers

Tasks, sessions, queue messages and data objects are each addressed by a 128-bit value. The kind is
part of the type, so an identifier of one kind is never taken for another. Written out, an
identifier is the label of its kind followed by 26 base-32 digits; identifiers are ordered by value.
Pods are named by the cluster and keep the name they are given.
-/

namespace GridAgent

/-- What an identifier addresses. -/
inductive IdKind where
  /-- A task record. -/
  | task
  /-- A session. -/
  | session
  /-- One delivery of a queue message. -/
  | message
  /-- A payload or result in object storage. -/
  | data
  deriving DecidableEq, Repr

/-- The label in front of the digits. -/
def IdKind.label : IdKind → String
  | .task => "task-"
  | .session => "session-"
  | .message => "msg-"
  | .data => "data-"

/-- An identifier of one kind. -/
structure Id (kind : IdKind) where
  /-- The 128 bits: 48 of a time stamp in milliseconds, then 80 of entropy. -/
  value : BitVec 128
  deriving DecidableEq, Repr

/-- Identifier of a task record. -/
abbrev TaskId := Id .task
/-- Identifier of a session. -/
abbrev SessionId := Id .session
/-- Identifier of one delivery of a queue message. -/
abbrev MessageId := Id .message
/-- Identifier of a payload or result in object storage. -/
abbrev DataId := Id .data

namespace Id

variable {kind : IdKind}

/-- The identifier with a given number as its value. -/
def ofNat (n : Nat) : Id kind := ⟨BitVec.ofNat 128 n⟩

/-- The 26 digits without the label. -/
def digits (id : Id kind) : String := Text.Base32.encode id.value

/-- The written form: label and digits. -/
def toString (id : Id kind) : String := kind.label ++ id.digits

instance : ToString (Id kind) := ⟨toString⟩

/-- Reads the 26 digits of an identifier. -/
def ofDigits (s : String) : Except Text.Base32.DecodeError (Id kind) :=
  (Text.Base32.decode s).map Id.mk

/-- Milliseconds since 1970 kept in the upper 48 bits. -/
def timestamp (id : Id kind) : Nat := id.value.toNat / Nat.pow 2 80

/-- Identifiers are ordered by value. -/
def le (a b : Id kind) : Bool := a.value.toNat ≤ b.value.toNat

/-- An identifier stamped with a time, of which the low 48 bits are kept, and eighty bits of
entropy. -/
def stamped (milliseconds : Nat) (entropy : BitVec 80) : Id kind :=
  ⟨BitVec.ofNat 48 milliseconds ++ entropy⟩

end Id

/-- Number of a delivery; no two deliveries of a queue have the same. -/
abbrev DeliveryId := Nat

/-- The identifier that a delivery shows of itself. -/
def DeliveryId.messageId (delivery : DeliveryId) : MessageId := .ofNat delivery

/-- Identity of an agent pod, as the cluster names it. -/
structure PodId where
  /-- The name given by the cluster. -/
  name : String
  deriving DecidableEq, Repr

instance : ToString PodId := ⟨PodId.name⟩

end GridAgent
