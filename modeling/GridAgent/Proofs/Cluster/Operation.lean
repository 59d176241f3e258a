import GridAgent.Agent.Handler
import GridAgent.Agent.Registry
import GridAgent.Finalizer

/-!
# Agents as actors

What an agent does for a message is one program after another; what happens elsewhere comes between
any two of its calls. A call that settles results is a program of the finalizer itself, so it is
replaced by the calls of that program. An actor is such a program on its way: the calls it has made,
with what they were answered, and what is left of it.
-/

namespace GridAgent.Cluster

/-- One call, of an agent or of the finalizer it uses. -/
inductive Operation where
  /-- A call of an agent. -/
  | agent (request : Agent.Request)
  /-- A call of a finalizer. -/
  | finalizer (request : Finalizer.Request)

/-- What each call answers. -/
def Operation.Reply : Operation → Type
  | agent request => request.Reply
  | finalizer request => request.Reply

/-- The calls of agents and finalizers. -/
def operations : Interface := ⟨Operation, Operation.Reply⟩

/-- A program of the finalizer, call by call. -/
def finalizerCalls {α : Type} (p : Finalizer.Action α) :
    Program operations (Except AgentError α) :=
  Program.expand (I := Finalizer.collaborators) (J := operations)
    (fun request => .call (.finalizer request) .done) p.run

/-- A call of an agent; settling results is what the finalizer does for it. -/
def agentCall : (request : Agent.Request) → Program operations request.Reply
  | .finalize task => finalizerCalls (Finalizer.finalize task)
  | .abandon task => finalizerCalls (Finalizer.abandon task)
  | request => .call (.agent request) .done

/-- A program of an agent, call by call. -/
def agentCalls {α : Type} (p : Agent.Action α) : Program operations α :=
  Program.expand (I := Agent.collaborators) (J := operations) agentCall p

/-- A sequence is one call by call. -/
theorem agentCalls_bind {α β : Type} (p : Agent.Action α) (f : α → Agent.Action β) :
    agentCalls (p.bind f) = (agentCalls p).bind fun value => agentCalls (f value) :=
  Program.expand_bind (I := Agent.collaborators) (J := operations) agentCall p f

/-- What an agent has to do. -/
inductive Job where
  /-- Handles a message about a task. -/
  | handle (message : DeliveryId) (task : TaskId)
  /-- Acquires a task on its own. -/
  | acquire (task : TaskId)
  /-- Stops an execution of a task. -/
  | stop (run : Agent.RunId) (task : TaskId)
  /-- Looks once whether the task of an execution is to be cancelled. -/
  | watch (run : Agent.RunId) (task : TaskId)
  deriving DecidableEq, Repr

namespace Job

/-- The task that the job is about. -/
def task : Job → TaskId
  | handle _ task => task
  | acquire task => task
  | stop _ task => task
  | watch _ task => task

/-- The message that the job settles. -/
def message? : Job → Option DeliveryId
  | handle message _ => some message
  | _ => none

/-- What the job ends with. -/
def Result : Job → Type
  | handle .. => Except AgentError Agent.HandlerReport
  | acquire _ => Except AgentError Agent.Acquired
  | stop .. => Except AgentError Bool
  | watch .. => Bool

/-- What is done for the job. -/
def program (s : Settings) : (job : Job) → Program operations job.Result
  | handle message task => agentCalls (Agent.handleMessage s message task).run
  | acquire task => agentCalls (Agent.acquire s task).run
  | stop run task => agentCalls (Agent.stopExecution s task run).run
  | watch run task => agentCalls (Agent.lookForCancellation s task run)

end Job

/-- A call and what it was answered. -/
structure Answered where
  /-- The call. -/
  operation : Operation
  /-- The answer. -/
  reply : operation.Reply

/-- A job on its way on a pod. -/
structure Actor where
  /-- Where the job is done. -/
  pod : PodId
  /-- What is to be done. -/
  job : Job
  /-- The answered calls, the latest first. -/
  past : List Answered
  /-- What is left of the program. -/
  rest : Program operations job.Result

namespace Actor

/-- A job that has not begun. -/
def start (s : Settings) (job : Job) : Actor := ⟨s.podId, job, [], job.program s⟩

/-- The actor after the answer to its next call. -/
def advance (a : Actor) (operation : Operation) (reply : operation.Reply)
    (rest : Program operations a.job.Result) : Actor :=
  ⟨a.pod, a.job, ⟨operation, reply⟩ :: a.past, rest⟩

/-- The actor has a call to make. -/
def Asks (a : Actor) (operation : Operation) : Prop :=
  ∃ next, a.rest = .call operation next

/-- What the handler of a message has returned. -/
def outcome? : Actor → Option (Except AgentError Agent.HandlerReport)
  | ⟨_, .handle .., _, .done outcome⟩ => some outcome
  | _ => none

end Actor

end GridAgent.Cluster
