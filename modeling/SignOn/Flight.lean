import SignOn.Answer
import SignOn.Retry

/-!
Operations under way. An operation starts by one look at the session, makes
its attempts one by one, and lands with its result and at most one write.
Between these steps other operations and events may change the session; that
does not change what the operation sends.
-/

namespace SignOn

def Config.policy (c : Config) : RetryPolicy := ⟨c.maxRetries, c.retryDelay⟩

/-- An operation under way, with the session as it was at the start. -/
structure Flight where
  operation : Operation
  held : Session
  call : Call

/-- An operation is waiting for an attempt, or it has landed. -/
inductive Stage
  | waiting (flight : Flight)
  | landed (result : Result) (write : Option Session.Write)

/-- The first step: looks at the session. -/
def Operation.start (config : Config) (op : Operation) (s : Session) : Stage :=
  let waiting : Stage :=
    .waiting {
      operation := op
      held := s
      call := { request := op.request config (op.token s), policy := config.policy } }
  match op.tokenUse, op.token s with
  | .none, _ => waiting
  | _, some _ => waiting
  | _, none => .landed op.withoutToken.1 op.withoutToken.2

/-- The last step. -/
def Flight.land (f : Flight) (outcome : Outcome) : Result × Option Session.Write :=
  f.operation.land f.held outcome

/-- The step that follows an attempt, with the notice of a retry. -/
def Flight.receive (f : Flight) (outcome : Outcome) : Option Notice × Stage :=
  match f.call.next outcome with
  | .again notice call => (some notice, .waiting { f with call })
  | .ended outcome => (none, .landed (f.land outcome).1 (f.land outcome).2)

end SignOn
