/-!
# Results with messages

A computation that reports what it does returns its messages in order, whether it succeeds or fails.
Messages are values; where they are shown is decided by whoever runs the computation.
-/
namespace UtilityCss

inductive Level where
  | warning
  | debug
  deriving DecidableEq, Repr

structure Message where
  level : Level
  text : String
  deriving DecidableEq, Repr

/-- A result, or the error that stopped the computation, with the messages up to there. -/
structure Logged (ε α : Type) where
  log : List Message
  result : Except ε α

namespace Logged

variable {ε ε' α β : Type}

def pure (a : α) : Logged ε α := ⟨[], .ok a⟩

def fail (e : ε) : Logged ε α := ⟨[], .error e⟩

def ofExcept (r : Except ε α) : Logged ε α := ⟨[], r⟩

def debug (text : String) : Logged ε PUnit := ⟨[⟨.debug, text⟩], .ok ⟨⟩⟩

def warn (text : String) : Logged ε PUnit := ⟨[⟨.warning, text⟩], .ok ⟨⟩⟩

/-- A result with messages that were collected before. -/
def report (messages : List Message) (a : α) : Logged ε α := ⟨messages, .ok a⟩

/-- Goes on with a result; after an error nothing follows. -/
def bind (x : Logged ε α) (f : α → Logged ε β) : Logged ε β :=
  match x.result with
  | .ok a => ⟨x.log ++ (f a).log, (f a).result⟩
  | .error e => ⟨x.log, .error e⟩

instance : Monad (Logged ε) where
  pure := Logged.pure
  bind := Logged.bind

def mapError (f : ε → ε') (x : Logged ε α) : Logged ε' α := ⟨x.log, x.result.mapError f⟩

/-- Runs a step for each element in turn and collects the results. -/
def forEach (f : α → Logged ε β) : List α → Logged ε (List β)
  | [] => pure []
  | a :: r => do
    let b ← f a
    let bs ← forEach f r
    return b :: bs

end Logged

end UtilityCss
