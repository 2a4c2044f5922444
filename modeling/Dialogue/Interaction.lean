/-!
# Interactions

A computation that asks its surroundings for answers.  It is a tree: a finished
computation has a value, and one that is not finished has a request and, for
every answer to it, the rest of the computation.  What the answers are is
decided by whoever runs it, so the same computation can be run against
different surroundings, step by step, or together with others.
-/

namespace Dialogue

/-- A computation that makes requests of type `Q`, each with answers of type `A q`. -/
inductive Interaction (Q : Type) (A : Q → Type) (α : Type) where
  | done (value : α)
  | ask (request : Q) (next : A request → Interaction Q A α)

namespace Interaction

variable {Q R : Type} {A : Q → Type} {B : R → Type} {α β σ : Type}

/-- Goes on with the value of a computation. -/
def andThen : Interaction Q A α → (α → Interaction Q A β) → Interaction Q A β
  | done value, f => f value
  | ask request next, f => ask request fun answer => (next answer).andThen f

instance : Monad (Interaction Q A) where
  pure := done
  bind := andThen

/-- Makes one request. -/
def request (q : Q) : Interaction Q A (A q) := ask q done

/-- Makes every request of a computation by way of other requests. -/
def relay (f : (q : Q) → Interaction R B (A q)) : Interaction Q A α → Interaction R B α
  | done value => done value
  | ask q next => (f q).andThen fun answer => (next answer).relay f

/-- Runs a computation where every request is answered at once. -/
def run (answer : (q : Q) → σ → A q × σ) : Interaction Q A α → σ → α × σ
  | done value, s => (value, s)
  | ask q next, s =>
    let (a, s) := answer q s
    (next a).run answer s

/-- Runs a computation until it is finished or a request is not answered: what is left of it. -/
def runUntilBlocked (answer : (q : Q) → σ → Option (A q) × σ) :
    Interaction Q A α → σ → Interaction Q A α × σ
  | done value, s => (done value, s)
  | ask q next, s =>
    match answer q s with
    | (some a, s) => (next a).runUntilBlocked answer s
    | (none, s) => (ask q next, s)

end Interaction

end Dialogue
