import KairosExecution.Paper.Exit

/-! The account-wide admission check. One pass over the snapshot compares every
position, open order and TP/SL with the durable trades that may own it, and the venue's
balance summaries with the positions and orders it lists. Every finding is a blocker;
what cannot be read raises. -/

namespace KairosExecution.Paper

open Python

variable (env : Env)

/-- `dict[key] = value`, in place where the key is present. -/
def assign {κ ν : Type} [DecidableEq κ] (key : κ) (value : ν) : List (κ × ν) → List (κ × ν)
  | [] => [(key, value)]
  | (k, v) :: rest => if k = key then (k, value) :: rest else (k, v) :: assign key value rest

/-- A sum of quantities per venue symbol and side. -/
abbrev Projection := List ((String × String) × ℚ)

/-- `projection[key] = projection.get(key, 0.0) + quantity` -/
def Projection.add (projection : Projection) (key : String × String) (quantity : ℚ) : Projection :=
  assign key ((projection.lookup key).getD 0 + quantity) projection

/-- The trade, side of the plan and price that a TP/SL identity stands for. -/
structure Lineage where
  trade : TradeRecord
  tpslType : String
  price : ℚ

/-- The three indexes of the durable trades, and what building them found. -/
structure Ownership where
  bySymbol : List (String × TradeRecord) := []
  byEntry : List (String × TradeRecord) := []
  protection : List (String × Lineage) := []
  blockers : List String := []

/-- One inner round: record a TP/SL identity of the trade. -/
def ownProtection (own : Ownership) (exchangeId : Option String) (lineage : Lineage) : Ownership :=
  match exchangeId with
  | none => own
  | some id => {
    own with
    protection := assign id lineage own.protection
    blockers := own.blockers ++ (if (own.protection.lookup id).isSome then
      ["duplicate TP/SL exchange identity in durable state"] else []) }

/-- One round over the durable trades. -/
def ownTrade (own : Ownership) (trade : TradeRecord) : Ownership :=
  match env.scope.symbolMap.lookup trade.symbol with
  | none => {
    own with
    blockers := own.blockers ++ [s!"trade {trade.tradeId} has a symbol outside the DEV allowlist"] }
  | some venueSymbol =>
    let own : Ownership := {
      own with
      bySymbol := assign venueSymbol trade own.bySymbol
      byEntry := assign trade.entryClientOrderId trade own.byEntry
      blockers := own.blockers
        ++ (if (own.bySymbol.lookup venueSymbol).isSome then
          [s!"multiple nonterminal trades own {venueSymbol}"] else [])
        ++ (if (own.byEntry.lookup trade.entryClientOrderId).isSome then
          ["duplicate deterministic entry IDs in durable state"] else []) }
    let own := ownProtection own trade.stopExchangeOrderId ⟨trade, "STOP_LOSS", trade.stopPrice⟩
    ownProtection own trade.targetExchangeOrderId ⟨trade, "TAKE_PROFIT", trade.targetPrice⟩

def ownership (included : List TradeRecord) : Ownership := included.foldl (ownTrade env) {}

/-- A blocker, where the condition holds. -/
def blockIf (condition : Bool) (blocker : String) : List String :=
  if condition then [blocker] else []

/-- What one position row adds: its projection, and its blockers. -/
def positionRow (own : Ownership) (item : Record) :
    Except Err (Option ((String × String) × ℚ) × List String) := do
  let quantity ← requiredNonnegativeNumber env.lib item "quantity"
  if quantity ≤ 0 then return (none, [])
  let venueSymbol := upperField env.lib item "instrument"
  let side := upperField env.lib item "side"
  if side ≠ "BUY" ∧ side ≠ "SELL" then
    return (none, [s!"position {venueSymbol} has malformed side"])
  let entry := some ((venueSymbol, side), quantity)
  match own.bySymbol.lookup venueSymbol with
  | none => return (entry, [s!"unowned venue position {venueSymbol}"])
  | some owner =>
    let leverage ← positive env.lib (item.get "leverage") "position leverage"
    return (entry,
      blockIf (side ≠ owner.side.value)
        s!"position {venueSymbol} side differs from durable lineage"
      ++ blockIf (quantity > owner.quantity + tolerance owner.quantity)
        s!"position {venueSymbol} exceeds approved quantity"
      ++ blockIf (!closeTo leverage owner.leverage)
        s!"position {venueSymbol} leverage differs from durable approval"
      ++ match owner.state with
        | .ENTRY_PENDING => [s!"trade {owner.tradeId} has an unreconciled entry fill"]
        | .PROTECTING | .ACTIVE =>
          blockIf (!isclose quantity owner.filledQuantity 1e-9 (tolerance owner.quantity))
            s!"position {venueSymbol} differs from durable cumulative filled quantity"
        | _ => [])

/-- What one open-order row adds: its projection, and its blockers. -/
def orderRow (own : Ownership) (item : Record) :
    Except Err (Option ((String × String) × ℚ) × List String) := do
  let clientId := env.lib.str (item.getD "id" (.str ""))
  let remaining ← requiredNonnegativeNumber env.lib item "unFilledQuantity"
  let key := (upperField env.lib item "instrument", upperField env.lib item "side")
  let entry := if remaining > 0 then some (key, remaining) else none
  match own.byEntry.lookup clientId with
  | none =>
    let shown := if clientId = "" then "<missing-id>" else clientId
    return (entry, [s!"unowned open venue order {shown}"])
  | some owner =>
    let decision ← decisionForTrade env owner
    let _ ← validateEntryResponse env.lib item decision owner.entryClientOrderId
    return (entry, blockIf
      (owner.state ≠ .ENTRY_PENDING ∧ owner.state ≠ .PROTECTING ∧ owner.state ≠ .ACTIVE)
      s!"terminal/closing trade {owner.tradeId} retains an entry order")

/-- All the rows of one list, in order: their sums and their blockers. -/
def collectRows (row : Record → Except Err (Option ((String × String) × ℚ) × List String)) :
    List Record → Projection → Except Err (Projection × List String)
  | [], projection => .ok (projection, [])
  | item :: items, projection => do
    let (entry, found) ← row item
    let next := match entry with
      | none => projection
      | some (key, quantity) => projection.add key quantity
    let (total, rest) ← collectRows row items next
    return (total, found ++ rest)

/-- The TP/SL records by their exchange identity; a later record replaces an earlier one. -/
def tpslRecords : List Record → List (String × Record) → Except Err (List (String × Record))
  | [], records => .ok records
  | item :: items, records => do
    let id ← requiredText env.lib (item.get "id") "TP/SL exchange ID"
    tpslRecords items (assign id item records)

/-- The blockers of one TP/SL record. -/
def tpslRow (own : Ownership) (id : String) (item : Record) : Except Err (List String) := do
  assertKnownTpslStatus env.lib item
  if !isLiveTpsl env.lib item then return []
  match own.protection.lookup id with
  | none => return [s!"unowned live TP/SL {id}"]
  | some lineage =>
    let venueSymbol ← env.symbolMap lineage.trade.symbol
    validateTpslRecord env.lib item venueSymbol lineage.trade.side.value lineage.tpslType
      lineage.price lineage.trade.entryClientOrderId true false
    return []

/-- `record is not None and live` for the TP/SL of an optional identity. -/
def liveAt (records : List (String × Record)) (exchangeId : Option String) : Bool :=
  (records.lookup (exchangeId.getD "")).any (isLiveTpsl env.lib)

/-- The blockers of one trade about its position and its protections. -/
def exposureRow (positions : Projection) (records : List (String × Record)) (trade : TradeRecord) :
    Except Err (List String) := do
  let venueSymbol ← env.symbolMap trade.symbol
  let positionOpen := positions.any fun entry => entry.1.1 = venueSymbol
  let exposed := trade.state = .PROTECTING ∨ trade.state = .ACTIVE
  return blockIf (trade.state = .ACTIVE && !positionOpen)
      s!"ACTIVE trade {trade.tradeId} lacks its venue position"
    ++ blockIf (exposed && positionOpen && !liveAt env records trade.stopExchangeOrderId)
      s!"trade {trade.tradeId} has unprotected exposure"
    ++ blockIf (trade.state = .ACTIVE && positionOpen
        && !liveAt env records trade.targetExchangeOrderId)
      s!"ACTIVE trade {trade.tradeId} lacks its target"

def balanceProjection (quantityField : String) :
    List Record → Projection → Except Err Projection
  | [], projection => .ok projection
  | row :: rows, projection => do
    let quantity ← requiredNonnegativeNumber env.lib row quantityField
    if quantity ≤ 0 then balanceProjection quantityField rows projection
    else
      let symbol := upperField env.lib row "instrument"
      let side := upperField env.lib row "side"
      refuse (symbol = "" ∨ (side ≠ "BUY" ∧ side ≠ "SELL"))
        "balance projection has malformed instrument/side"
      balanceProjection quantityField rows (projection.add (symbol, side) quantity)

def projectionsMatch (left right : Projection) : Bool :=
  left.all (fun entry => match right.lookup entry.1 with
    | some quantity => isclose entry.2 quantity 1e-9 1e-12
    | none => false)
  && right.all fun entry => (left.lookup entry.1).isSome

/-- The blockers of the authenticated account record. -/
def accountIdentityBlockers (account : Record) : List String :=
  let identities := ["id", "exchangeId", "user"].filterMap fun key =>
    match account.get key with
    | .none => none
    | value => some (env.lib.str value)
  blockIf (!env.scope.remoteAccountId.any (identities.contains ·))
    "authenticated account identity differs from the dedicated DEV account"
  ++ match account.get "marginCall" with
    | .bool false => []
    | _ => ["authenticated DEV account is in margin call or lacks its flag"]

def authoritativeAccountBlockers (venue : Venue) (durableTrades : List TradeRecord)
    (ignoreTradeId : Option String) : Except Err (List String) := do
  let account ← object (venue.get "account") "account"
  let included := durableTrades.filter fun trade => some trade.tradeId ≠ ignoreTradeId
  let own := ownership env included
  let positionRows ← list (venue.get "positions")
  let (positions, positionBlockers) ← collectRows (positionRow env own) positionRows []
  let orderRows ← list (venue.get "orders")
  let (orders, orderBlockers) ← collectRows (orderRow env own) orderRows []
  let tpslRows ← list (venue.get "tpsl")
  let records ← tpslRecords env tpslRows []
  let tpslBlockers ← records.mapM fun entry => tpslRow env own entry.1 entry.2
  let exposureBlockers ← included.mapM (exposureRow env positions records)
  let balance ← object (venue.get "balance") "balance"
  let summaryPositions ← balanceProjection env "volume" (← list (balance.get "positions")) []
  let summaryOrders ← balanceProjection env "unFilledVolume" (← list (balance.get "openOrders")) []
  return accountIdentityBlockers env account ++ own.blockers ++ positionBlockers ++ orderBlockers
    ++ tpslBlockers.flatten ++ exposureBlockers.flatten
    ++ blockIf (!projectionsMatch summaryPositions positions)
      "balance.positions differs from fetched positions"
    ++ blockIf (!projectionsMatch summaryOrders orders)
      "balance.openOrders differs from fetched open orders"

end KairosExecution.Paper
