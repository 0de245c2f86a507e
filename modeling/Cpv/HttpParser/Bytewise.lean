import Cpv.HttpParser.Moves

namespace cpv.HttpParser

/-- What the caller of `http_parser_execute` sees of it: the callbacks, the size, and the parser where it has not met an
    error. -/
structure Outcome where
  callbacks : List ParserEvent
  size : Nat
  result : Except http_errno Parser

def Execution.outcome (execution : Execution) : Outcome where
  callbacks := execution.callbacks
  size := execution.size
  result :=
    match execution.parser.http_errno with
    | some errno => .error errno
    | none => .ok execution.parser

/-- A round that looks at no other character than the next one -/
def Execution.byte (data : SharedString) (execution : Execution) : Option (ForInStep Execution) :=
  match data.drop execution.p with
  | [] => (execution.leftover data).map .done
  | ch :: _ => execution.runRound data (execution.parser.round ch [])

/-- Two endings differ at most in the parser that an error leaves behind. -/
inductive Ending.Same : Ending → Ending → Prop
  | refl (ending : Ending) : Same ending ending
  | error (errno : http_errno) (parser other : Parser) (p : Nat) : Same (.error errno parser p) (.error errno other p)

structure Round.Same (round other : Round) : Prop where
  actions : round.actions = other.actions
  ending : round.ending.Same other.ending

theorem Round.Same.refl (round : Round) : round.Same round := ⟨rfl, .refl _⟩

/-- Two rounds of an execution lead on to the same one, or they end with the same outcome. -/
inductive Agrees : Option (ForInStep Execution) → Option (ForInStep Execution) → Prop
  | refl (step : Option (ForInStep Execution)) : Agrees step step
  | done {final other : Execution} (hsame : final.outcome = other.outcome) : Agrees (some (.done final)) (some (.done other))

theorem Agrees.trans {first second third : Option (ForInStep Execution)} (hfirst : Agrees first second)
    (hsecond : Agrees second third) : Agrees first third := by
  cases hfirst with
  | refl => exact hsecond
  | done hsame =>
    cases hsecond with
    | refl => exact .done hsame
    | done hnext => exact .done (hsame.trans hnext)

section loops

variable {parser : Parser} {ch : UInt8}

namespace Parser

end Parser

namespace Parser

variable {next : UInt8} {rest : List UInt8}

end Parser

end loops

namespace Execution

variable {data : SharedString} {execution : Execution}

/-- An execution behind a character -/
def behind (execution : Execution) (parser : Parser) : Execution := { execution with parser, p := execution.p + 1 }

end Execution

end cpv.HttpParser
