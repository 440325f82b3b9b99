import KairosExecution.Interactive.Program
import KairosExecution.Paper.Types

/-! The contracts between the generic engine, the journaled adapter and a venue: the order
intent, the execution report, whose content a venue decides, and the calls of
`ExchangeAdapter`. Of the intent and the report the fields are kept that the code reads or
writes. A float is a finite number or none. -/

namespace KairosExecution.Venue

open Python Interactive

export Paper (OrderSide EffectStatus)

/-- An exception, by its type. A cancellation of the task is no `Exception`. -/
inductive Err
  | safety (message : String)
  | recovery (message : String)
  | noLongerRequired (message : String)
  | raised (kind message : String)
  | cancelled
  deriving DecidableEq

/-- `type(exc).__name__` -/
def Err.typeName : Err → String
  | .safety _ => "ExecutionSafetyError"
  | .recovery _ => "ExecutionRecoveryError"
  | .noLongerRequired _ => "ProtectionNoLongerRequired"
  | .raised kind _ => kind
  | .cancelled => "CancelledError"

/-- `str(exc)` -/
def Err.text : Err → String
  | .safety message | .recovery message | .noLongerRequired message | .raised _ message => message
  | .cancelled => ""

inductive OrderStatus
  | NEW | PARTIALLY_FILLED | FILLED | CANCELED | REJECTED
  deriving DecidableEq

def OrderStatus.value : OrderStatus → String
  | .NEW => "NEW"
  | .PARTIALLY_FILLED => "PARTIALLY_FILLED"
  | .FILLED => "FILLED"
  | .CANCELED => "CANCELED"
  | .REJECTED => "REJECTED"

/-- What a report has for its status: a member of the enumeration, or anything else. -/
inductive ReportedStatus
  | known (status : OrderStatus)
  | other (value : Value)

structure OrderIntent where
  clientOrderId : Option String
  symbol : String
  side : OrderSide
  quantity : ℚ
  price : Option Number
  stopPrice : Option Number
  leverage : ℚ
  deriving DecidableEq

/-- `ExecutionReport`; what is read of it without its type being known is any value. -/
structure ExecutionReport where
  source : String
  clientOrderId : Value
  exchangeOrderId : Value
  exchange : Value
  symbol : Value
  side : Value
  status : ReportedStatus
  requestedQty : Value
  filledQty : Value := .int 0
  remainingQty : Value := .int 0
  avgPrice : Value := .int 0
  feesUsd : Value := .int 0
  message : String
  retryable : Bool := false

/-- The characters that `str.strip` takes off. -/
def isSpace (c : Char) : Bool :=
  let n := c.toNat
  (0x09 ≤ n && n ≤ 0x0D) || (0x1C ≤ n && n ≤ 0x20) || (0x2000 ≤ n && n ≤ 0x200A)
    || n ∈ [0x85, 0xA0, 0x1680, 0x2028, 0x2029, 0x202F, 0x205F, 0x3000]

/-- `not text.strip()` -/
def blank (text : String) : Bool := text.toList.all isSpace

/-- `ProtectiveStopAck`, which cannot be made of a blank identifier. -/
structure ProtectiveStopAck where
  exchangeOrderId : String
  named : blank exchangeOrderId = false
  deriving DecidableEq

/-- The calls of `ExchangeAdapter` that the engine and the journaled adapter make. -/
inductive VenueCall
  | placeOrder (intent : OrderIntent)
  | cancelOrderByClientId (symbol clientOrderId : String)
  | isOrderActiveByClientId (symbol clientOrderId : String)
  | isPositionFlat (symbol : String)
  | closePosition (symbol : String) (quantity : Option ℚ) (side : Option OrderSide)
      (clientOrderId : String)
  | setLeverage (symbol : String) (leverage : ℚ)
  | setProtectiveStop (symbol : String) (stopPrice : ℚ) (positionSide : OrderSide)
      (parentOrderId : String)
  | findProtectiveStop (symbol : String) (stopPrice : ℚ) (positionSide : OrderSide)
      (parentOrderId : String)
  deriving DecidableEq

abbrev VenueCall.Answer : VenueCall → Type
  | .placeOrder _ | .closePosition .. => ExecutionReport
  | .cancelOrderByClientId .. | .setLeverage .. => Unit
  | .isOrderActiveByClientId .. | .isPositionFlat _ => Bool
  | .setProtectiveStop .. => ProtectiveStopAck
  | .findProtectiveStop .. => Option ProtectiveStopAck

/-- A call that changes something at the venue. -/
def VenueCall.mutates : VenueCall → Bool
  | .placeOrder _ | .closePosition .. | .cancelOrderByClientId .. | .setLeverage ..
  | .setProtectiveStop .. => true
  | .isOrderActiveByClientId .. | .isPositionFlat _ | .findProtectiveStop .. => false

/-- `ExchangeAdapter`, what it says of itself. -/
structure AdapterProfile where
  name : String
  exchangeOrderIdMatchesClientOrderId : Bool
  protectiveStopLookupAuthoritative : Bool

end KairosExecution.Venue
