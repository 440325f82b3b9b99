import KairosExecution.Production.Economics
import KairosExecution.Production.WireFormats

/-! The caps of a reservation on both sides of the database. The writer sums and compares
in the decimal context of the process, the guard in exact numerics, over the same history
and with the same limits. They decide alike only where the notional has no more digits than the
context keeps, and do where nothing that is added up or multiplied for the caps has. -/

namespace KairosExecution.Production

open Python Table

variable {Digest : Type}

/-- The arithmetic of the database. -/
def Primitives.exact (p : Primitives Digest) : Primitives Digest := { p with round := id }

@[simp] theorem Primitives.exact_round (p : Primitives Digest) (x : ℚ) : p.exact.round x = x := rfl

section Comparisons

variable {p : Primitives Digest} {schema : StateSchema} {new : ReservationRow Digest} {totals : Totals}

end Comparisons

section Notional

variable {p : Primitives Digest} {request : ManagedSigningRequest Digest}
  {binding : CustodyBinding Digest} {message : Record}

end Notional

section Decision

variable [DecidableEq Digest] {p : Primitives Digest}

end Decision

section Samples

end Samples

end KairosExecution.Production
