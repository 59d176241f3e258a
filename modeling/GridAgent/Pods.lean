import GridAgent.Id

/-!
# Pods

Which pods are dead. Every other pod is alive, and every question is counted.
-/

namespace GridAgent

/-- What is known about pods. -/
structure Pods where
  /-- Pods known to be dead. -/
  dead : List PodId := []
  /-- Number of questions asked. -/
  asked : Nat := 0

namespace Pods

instance : Inhabited Pods := ⟨{}⟩

/-- The pod is dead. -/
def markDead (p : Pods) (pod : PodId) : Pods :=
  { p with dead := if p.dead.contains pod then p.dead else pod :: p.dead }

/-- The pod is alive. -/
def markAlive (p : Pods) (pod : PodId) : Pods := { p with dead := p.dead.filter (· ≠ pod) }

/-- Answers whether a pod is alive. -/
def isAlive (p : Pods) (pod : PodId) : Bool × Pods :=
  (!p.dead.contains pod, { p with asked := p.asked + 1 })

end Pods

end GridAgent
