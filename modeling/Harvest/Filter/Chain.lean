import Harvest.Filter.Call
import Harvest.Filter.Registry
/-!
# Running a chain of filters

The calls of a chain run from left to right.  A call that fails leaves the value as it was; a validator that refuses
the value ends the chain, and so does a panic.
-/
namespace Harvest.Filter

/-- Why a chain stops before its end. -/
inductive Stop where
  /-- The validator that refused the value, and the value it saw. -/
  | rejected (filter : String) (value : Value)
  | panicked (cause : Panic)
  deriving Repr

namespace Chain

variable {σ : Type}

/-- Runs the calls on a value. -/
def run (r : Registry σ) : List Call → Value → σ → Except Stop Value × σ
  | [], value, s => (.ok value, s)
  | c :: cs, value, s =>
    match r.apply c.name value c.params s with
    | (.ok next, s) => run r cs next s
    | (.error .invalidContent, s) => (.error (.rejected c.name value), s)
    | (.error (.panic p), s) => (.error (.panicked p), s)
    | (.error _, s) => run r cs value s

/-- Runs the calls of an expression on a value. -/
def apply (r : Registry σ) (value : Value) (expr : String) (s : σ) : Except Stop Value × σ :=
  run r (Call.parse expr) value s

end Chain

end Harvest.Filter
