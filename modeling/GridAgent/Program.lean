/-!
# Programs

A program is a tree of requests to its surroundings, each followed by what it does with the reply.
It has no effect of its own, so the same program can be run against a state, beside other programs
one request at a time, or against replies that are only assumed.
-/

namespace GridAgent

/-- Requests and the type of the reply to each. -/
structure Interface where
  /-- What can be asked. -/
  Request : Type
  /-- What is replied. -/
  Reply : Request → Type

/-- A program that makes requests and ends with a value. -/
inductive Program (I : Interface) (α : Type) where
  /-- The program has ended. -/
  | done (value : α)
  /-- The program asks and goes on with the reply. -/
  | call (request : I.Request) (next : I.Reply request → Program I α)

namespace Program

variable {I J : Interface} {α β γ σ : Type}

/-- A single request. -/
def ask (request : I.Request) : Program I (I.Reply request) := .call request .done

/-- One program after another. -/
def bind (p : Program I α) (f : α → Program I β) : Program I β :=
  match p with
  | .done value => f value
  | .call request next => .call request fun reply => (next reply).bind f

instance : Monad (Program I) where
  pure := .done
  bind := .bind

@[simp] theorem bind_done (value : α) (f : α → Program I β) : (done value).bind f = f value := rfl

@[simp] theorem bind_call (request : I.Request) (next : I.Reply request → Program I α)
    (f : α → Program I β) :
    (call request next).bind f = call request fun reply => (next reply).bind f := rfl

theorem bind_done_right (p : Program I α) : p.bind done = p := by
  induction p with
  | done value => rfl
  | call request next ih => simp only [bind_call, ih]

theorem bind_assoc (p : Program I α) (f : α → Program I β) (g : β → Program I γ) :
    (p.bind f).bind g = p.bind fun a => (f a).bind g := by
  induction p with
  | done value => rfl
  | call request next ih => simp only [bind_call, ih]

instance : LawfulMonad (Program I) :=
  .mk' _ (fun p => bind_done_right p) (fun _ _ => rfl) bind_assoc

/-- Runs a program on a state that replies to every request. -/
def run (reply : (request : I.Request) → σ → I.Reply request × σ) : Program I α → σ → α × σ
  | .done value, s => (value, s)
  | .call request next, s =>
    let (answer, s) := reply request s
    (next answer).run reply s

/-- Replaces each request by a program over another interface. -/
def expand (handler : (request : I.Request) → Program J (I.Reply request)) :
    Program I α → Program J α
  | .done value => .done value
  | .call request next => (handler request).bind fun reply => (next reply).expand handler

theorem expand_bind (handler : (request : I.Request) → Program J (I.Reply request))
    (p : Program I α) (f : α → Program I β) :
    (p.bind f).expand handler = (p.expand handler).bind fun a => (f a).expand handler := by
  induction p with
  | done value => rfl
  | call request next ih =>
    have later : (fun reply => ((next reply).bind f).expand handler) =
        fun reply => ((next reply).expand handler).bind fun a => (f a).expand handler :=
      funext ih
    simp only [bind_call, expand, later, bind_assoc]

end Program

end GridAgent
