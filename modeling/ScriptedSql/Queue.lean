import ScriptedSql.Expectation

/-!
Contract: the queue of declared expectations and the resolution of calls.

Owns:
- which expectation a call fulfils. Candidates are all pending expectations that
  are unordered and the first pending one that is ordered; the first candidate
  that accepts the call takes it;
- the reason for which a call is rejected;
- what is owed at the end.

Expectations are only ever appended, so an index names the same expectation for
good.
-/

namespace ScriptedSql

/-- The declared expectations, in the order of declaration. -/
abbrev Queue := List Expectation

/-- Why no expectation takes a call: all were fulfilled before, the first pending
ordered one refuses it, or there is none of those and no other accepts it. -/
inductive Rejection where
  | exhausted
  | blocked (expectation : Expectation) (refusal : Refusal)
  | unmatched

namespace Rejection

/-- Whether an ordered expectation stands in the way of later ordered ones. -/
def isBlocked : Rejection → Bool
  | .blocked _ _ => true
  | _ => false

/-- The reason after one more pending expectation has refused the call. -/
def after (rejection : Rejection) (expectation : Expectation) (refusal : Refusal) : Rejection :=
  if expectation.ordered then .blocked expectation refusal
  else
    match rejection with
    | .exhausted => .unmatched
    | other => other

def toError (call : Call) : Rejection → Error
  | .exhausted =>
    .ofMock .unexpectedCall
      ("all expectations were already fulfilled, call to " ++ call.shown ++
        " was not expected")
  | .blocked expectation refusal => refusal.toError call expectation
  | .unmatched =>
    .ofMock .unexpectedCall
      ("call to " ++ call.shown ++ " was not expected, no pending expectation matches it")

end Rejection

namespace Queue

/-- The index of the expectation that takes a call, or why none does. `rejection`
is the reason as far as the expectations before these go. -/
def resolveFrom (converter : Converter) (call : Call) (rejection : Rejection) :
    (queue : Queue) → Except Rejection (Fin queue.length)
  | [] => .error rejection
  | expectation :: rest =>
    if expectation.fulfilled || (expectation.ordered && rejection.isBlocked) then
      (resolveFrom converter call rejection rest).map Fin.succ
    else
      match expectation.refusal? converter call with
      | none => .ok ⟨0, Nat.zero_lt_succ _⟩
      | some refusal =>
        (resolveFrom converter call (rejection.after expectation refusal) rest).map Fin.succ

/-- The index of the expectation that takes a call, or why none does. -/
def resolve (converter : Converter) (call : Call) (queue : Queue) :
    Except Rejection (Fin queue.length) :=
  resolveFrom converter call .exhausted queue

def fulfil (queue : Queue) (index : Nat) : Queue :=
  queue.modify index fun expectation => { expectation with fulfilled := true }

/-- Resolve a call and mark the expectation that takes it fulfilled. The queue of a
rejected call stays as it is. -/
def settle (converter : Converter) (call : Call) (queue : Queue) :
    Except Rejection (Fin queue.length) × Queue :=
  match queue.resolve converter call with
  | .ok slot => (.ok slot, queue.fulfil slot)
  | .error rejection => (.error rejection, queue)

def owed (queue : Queue) : List Expectation :=
  queue.filter (·.isOwed)

def verify (queue : Queue) : Except Error Unit :=
  match queue.owed with
  | [] => .ok ()
  | owed => .error (.mock (.unmet (owed.map (·.shown))))

end Queue

end ScriptedSql
