import KairosExecution.Paper.Reconcile
import KairosExecution.Paper.World

/-! Locating a protection against accepting one. `_find_tpsl` looks a protection up by its
type, price and parent order; `_validate_tpsl_record` judges a record that was found. The
engine takes a lookup without result for the absence of the protection, which is right for the
lists of a venue exactly where its records give the two matchers no occasion to differ. -/

namespace KairosExecution.Paper

open Python

variable (lib : Lib) (tpslType : String) (price : ℚ) (parentOrderId : String)

/-- `_find_tpsl` reads the record as the wanted protection. -/
structure Locatable (record : Record) : Prop where
  type : foldedField lib record "type" = expectedTpslType lib tpslType
  price : ∃ p, finite lib (record.get "price") = .ok p ∧ isclose p price 1e-9 0
  parent : lib.str (record.getD "order" (.str "")) = parentOrderId

/-- `_find_tpsl` raises at the record: it has the wanted type and no readable price. -/
structure Unreadable (record : Record) : Prop where
  type : foldedField lib record "type" = expectedTpslType lib tpslType
  price : ∀ p, finite lib (record.get "price") ≠ .ok p

/-- The condition of the comprehension in `_find_tpsl`. -/
def locates (record : Record) : Except Err Bool :=
  if foldedField lib record "type" = expectedTpslType lib tpslType then do
    let itemPrice ← finite lib (record.get "price")
    return isclose itemPrice price 1e-9 0
      && lib.str (record.getD "order" (.str "")) = parentOrderId
  else return false

section Lookup

variable {lib tpslType price parentOrderId}

theorem locates_eq_false {record : Record} :
    locates lib tpslType price parentOrderId record = .ok false ↔
      ¬Unreadable lib tpslType record ∧ ¬Locatable lib tpslType price parentOrderId record := by
  by_cases type : foldedField lib record "type" = expectedTpslType lib tpslType
  · cases read : finite lib (record.get "price") with
    | error e =>
      have unreadable : Unreadable lib tpslType record := ⟨type, fun p h => by simp [read] at h⟩
      simp [locates, type, read, unreadable, bind, Except.bind]
    | ok p =>
      have readable : ¬Unreadable lib tpslType record := fun h => h.price p read
      have located : Locatable lib tpslType price parentOrderId record ↔
          isclose p price 1e-9 0 = true ∧ lib.str (record.getD "order" (.str "")) = parentOrderId := by
        constructor
        · rintro ⟨_, ⟨q, hq, near⟩, parent⟩
          cases read.symm.trans hq
          exact ⟨near, parent⟩
        · rintro ⟨near, parent⟩
          exact ⟨type, ⟨p, read, near⟩, parent⟩
      simp [locates, type, read, readable, located, bind, Except.bind, pure, Except.pure]
  · have readable : ¬Unreadable lib tpslType record := fun h => type h.type
    have unlocated : ¬Locatable lib tpslType price parentOrderId record := fun h => type h.type
    simp [locates, type, readable, unlocated, pure, Except.pure]

theorem positive_eq_ok {value : Value} {field : String} {p : ℚ} :
    positive lib value field = .ok p ↔ finite lib value = .ok p ∧ 0 < p := by
  simp only [positive, bind_eq_ok]
  constructor
  · rintro ⟨q, read, h⟩
    split at h
    · cases h
    · rename_i pos
      cases h
      exact ⟨read, not_le.1 pos⟩
  · rintro ⟨read, pos⟩
    exact ⟨p, read, by rw [if_neg (not_le.2 pos)]; rfl⟩

theorem lineage_eq_ok {parent : Value} {message : String} :
    refuse (!parent.isNone && lib.str parent ≠ parentOrderId) message = .ok () ↔
      parent = .none ∨ lib.str parent = parentOrderId := by
  cases parent <;> simp [Value.isNone]

theorem findUnique_eq_none {rows : List Record} {message : String} :
    findUnique rows message = .ok none ↔ rows = [] := by
  rcases rows with _ | ⟨_, _ | ⟨_, _⟩⟩ <;> simp [findUnique]

/-- The lookup is without result where it can read every listed record and none is the
wanted protection. -/
theorem findTpsl_eq_none {venue : Venue} {rows : List Record}
    (listed : list (venue.get "tpsl") = .ok rows) :
    findTpsl lib venue tpslType price parentOrderId = .ok none ↔
      ∀ record ∈ rows, ¬Unreadable lib tpslType record ∧
        ¬Locatable lib tpslType price parentOrderId record := by
  have lookup : findTpsl lib venue tpslType price parentOrderId = (do
      let matching ← filterRows (locates lib tpslType price parentOrderId) rows
      findUnique matching "venue returned ambiguous TP/SL geometry") := by
    simp only [findTpsl, listed]
    rfl
  rw [lookup, bind_eq_ok]
  constructor
  · rintro ⟨matching, filtered, h⟩ record mem
    cases findUnique_eq_none.1 h
    exact locates_eq_false.1 (filterRows_eq_nil.1 filtered record mem)
  · intro h
    exact ⟨[], filterRows_eq_nil.2 fun record mem => locates_eq_false.2 (h record mem), rfl⟩

end Lookup

variable (venueSymbol side : String)

section Validation

/-- What `_validate_tpsl_record` demands of a record that need not be live. -/
structure Acceptable (record : Record) : Prop where
  instrument : upperField lib record "instrument" = lib.upper venueSymbol
  type : lib.replace (foldedField lib record "type") "_" "-" = expectedTpslType lib tpslType
  side : upperField lib record "side" = lib.upper side
  quantity : ∃ q, requiredNonnegativeNumber lib record "quantity" = .ok q ∧ isclose q 0 1e-9 1e-12
  price : ∃ p, finite lib (record.get "price") = .ok p ∧ 0 < p ∧ isclose p price 1e-9 1e-9
  lineage : record.get "order" = .none ∨ lib.str (record.get "order") = parentOrderId
  parent : lib.strOrEmpty (record.get "order") = parentOrderId
  id : ∃ id, requiredText lib (record.get "id") "TP/SL exchange ID" = .ok id
  status : foldedField lib record "status" ∈
    ["waitorder", "active", "process", "triggered", "done", "cancelled"]

theorem validateTpslRecord_eq_ok {record : Record} :
    validateTpslRecord lib record venueSymbol side tpslType price parentOrderId false true = .ok () ↔
      Acceptable lib tpslType price parentOrderId venueSymbol side record := by
  constructor
  · intro h
    obtain ⟨_, instrument, h⟩ := bind_eq_ok.1 h
    obtain ⟨_, type, h⟩ := bind_eq_ok.1 h
    obtain ⟨_, recordSide, h⟩ := bind_eq_ok.1 h
    obtain ⟨q, quantity, h⟩ := bind_eq_ok.1 h
    obtain ⟨_, full, h⟩ := bind_eq_ok.1 h
    obtain ⟨p, read, h⟩ := bind_eq_ok.1 h
    obtain ⟨_, near, h⟩ := bind_eq_ok.1 h
    obtain ⟨_, lineage, h⟩ := bind_eq_ok.1 h
    obtain ⟨_, parent, h⟩ := bind_eq_ok.1 h
    obtain ⟨id, text, h⟩ := bind_eq_ok.1 h
    obtain ⟨_, status, h⟩ := bind_eq_ok.1 h
    obtain ⟨finiteRead, pos⟩ := positive_eq_ok.1 read
    constructor
    · simpa using instrument
    · simpa using type
    · simpa using recordSide
    · exact ⟨q, quantity, by simpa using full⟩
    · exact ⟨p, finiteRead, pos, by simpa using near⟩
    · exact lineage_eq_ok.1 lineage
    · simpa using parent
    · exact ⟨id, text⟩
    · exact not_not.1 (of_decide_eq_false (refuse_eq_ok.1 status))
  · intro h
    obtain ⟨q, quantity, full⟩ := h.quantity
    obtain ⟨p, read, pos, near⟩ := h.price
    obtain ⟨id, text⟩ := h.id
    apply bind_eq_ok.2 ⟨(), refuse_eq_ok.2 (by simpa using h.instrument), ?_⟩
    apply bind_eq_ok.2 ⟨(), refuse_eq_ok.2 (by simpa using h.type), ?_⟩
    apply bind_eq_ok.2 ⟨(), refuse_eq_ok.2 (by simpa using h.side), ?_⟩
    apply bind_eq_ok.2 ⟨q, quantity, ?_⟩
    apply bind_eq_ok.2 ⟨(), refuse_eq_ok.2 (by simpa using full), ?_⟩
    apply bind_eq_ok.2 ⟨p, positive_eq_ok.2 ⟨read, pos⟩, ?_⟩
    apply bind_eq_ok.2 ⟨(), refuse_eq_ok.2 (by simpa using near), ?_⟩
    apply bind_eq_ok.2 ⟨(), lineage_eq_ok.2 h.lineage, ?_⟩
    apply bind_eq_ok.2 ⟨(), refuse_eq_ok.2 (by simpa using h.parent), ?_⟩
    apply bind_eq_ok.2 ⟨id, text, ?_⟩
    apply bind_eq_ok.2 ⟨(), refuse_eq_ok.2 (decide_eq_false (not_not_intro h.status)), ?_⟩
    exact refuse_eq_ok.2 rfl

end Validation

/-- A spelling on which the matchers differ: the type is not written with hyphens, the price
is within the absolute tolerance of the validator only, or the order is an explicit null that
the lookup spells out. -/
def Misread (record : Record) : Prop :=
  foldedField lib record "type" ≠ expectedTpslType lib tpslType
    ∨ (∃ p, finite lib (record.get "price") = .ok p ∧ isclose p price 1e-9 0 = false)
    ∨ (record.lookup "order" = some .none ∧ lib.str .none ≠ parentOrderId)

section Agreement

variable {lib tpslType price parentOrderId venueSymbol side}

theorem Acceptable.listed_parent {record : Record}
    (h : Acceptable lib tpslType price parentOrderId venueSymbol side record) :
    lib.str (record.getD "order" (.str "")) = parentOrderId ↔
      ¬(record.lookup "order" = some .none ∧ lib.str .none ≠ parentOrderId) := by
  have lineage := h.lineage
  have parent := h.parent
  unfold Record.get at lineage parent
  unfold Record.getD
  cases found : record.lookup "order" with
  | none =>
    simp only [found, Option.getD_none] at parent
    simpa using show lib.str (.str "") = parentOrderId from parent
  | some order =>
    simp only [found, Option.getD_some] at lineage
    rcases lineage with rfl | named
    · simp
    · simp only [Option.getD_some, named, true_iff, Option.some.injEq]
      rintro ⟨rfl, differs⟩
      exact differs named

/-- An acceptable record is one that the lookup reads, unless the matchers differ on it. -/
theorem Acceptable.locatable_iff {record : Record}
    (h : Acceptable lib tpslType price parentOrderId venueSymbol side record) :
    Locatable lib tpslType price parentOrderId record ↔
      ¬Misread lib tpslType price parentOrderId record := by
  constructor
  · rintro located (type | ⟨p, read, far⟩ | order)
    · exact type located.type
    · obtain ⟨q, readAgain, near⟩ := located.price
      cases read.symm.trans readAgain
      exact Bool.false_ne_true (far.symm.trans near)
    · exact h.listed_parent.1 located.parent order
  · intro agrees
    obtain ⟨p, read, -, -⟩ := h.price
    constructor
    · by_contra type
      exact agrees (.inl type)
    · have near : isclose p price 1e-9 0 = true := by
        by_contra far
        exact agrees (.inr (.inl ⟨p, read, Bool.eq_false_iff.2 far⟩))
      exact ⟨p, read, near⟩
    · exact h.listed_parent.2 fun order => agrees (.inr (.inr order))

end Agreement

/-- A lookup without result proves that no listed record would pass validation. -/
def AbsenceProven (venue : Venue) : Prop :=
  findTpsl lib venue tpslType price parentOrderId = .ok none →
    ∀ rows, list (venue.get "tpsl") = .ok rows → ∀ record ∈ rows,
      validateTpslRecord lib record venueSymbol side tpslType price parentOrderId false true ≠ .ok ()

/-- No record that protects the position is spelled in a way that divides the matchers. -/
def SpelledAlike (records : Set Record) : Prop :=
  ∀ record ∈ records, Acceptable lib tpslType price parentOrderId venueSymbol side record →
    ¬Misread lib tpslType price parentOrderId record

/-- The TP/SL list of the venue is made of such records. -/
def Lists (venue : Venue) (records : Set Record) : Prop :=
  ∃ rows, list (venue.get "tpsl") = .ok rows ∧ ∀ record ∈ rows, record ∈ records

section Absence

variable {lib tpslType price parentOrderId venueSymbol side} {records : Set Record}

theorem SpelledAlike.absent
    (alike : SpelledAlike lib tpslType price parentOrderId venueSymbol side records) {venue : Venue}
    (lists : Lists venue records) :
    AbsenceProven lib tpslType price parentOrderId venueSymbol side venue := by
  obtain ⟨listed, read, own⟩ := lists
  intro absent rows again record mem valid
  cases read.symm.trans again
  have acceptable :=
    (validateTpslRecord_eq_ok lib tpslType price parentOrderId venueSymbol side).1 valid
  have unlocated := ((findTpsl_eq_none read).1 absent record mem).2
  exact unlocated (acceptable.locatable_iff.2 (alike record (own record mem) acceptable))

/-- A misread record, alone on the list, is overlooked. -/
theorem Acceptable.overlooked {record : Record}
    (acceptable : Acceptable lib tpslType price parentOrderId venueSymbol side record)
    (misread : Misread lib tpslType price parentOrderId record) :
    ¬AbsenceProven lib tpslType price parentOrderId venueSymbol side [("tpsl", .list [.dict record])] := by
  intro proven
  have listed : list (Record.get [("tpsl", .list [.dict record])] "tpsl") = .ok [record] := rfl
  obtain ⟨p, read, -⟩ := acceptable.price
  have absent : findTpsl lib [("tpsl", .list [.dict record])] tpslType price parentOrderId = .ok none := by
    refine (findTpsl_eq_none listed).2 fun other mem => ?_
    cases List.mem_singleton.1 mem
    exact ⟨fun unreadable => unreadable.price p read,
      fun located => acceptable.locatable_iff.1 located misread⟩
  exact proven absent [record] listed record (List.mem_singleton_self _)
    ((validateTpslRecord_eq_ok lib tpslType price parentOrderId venueSymbol side).2 acceptable)

theorem absent_iff :
    (∀ venue, Lists venue records →
        AbsenceProven lib tpslType price parentOrderId venueSymbol side venue) ↔
      SpelledAlike lib tpslType price parentOrderId venueSymbol side records := by
  constructor
  · intro proven record own acceptable misread
    have alone : Lists [("tpsl", .list [.dict record])] records :=
      ⟨[record], rfl, fun other mem => by rwa [List.mem_singleton.1 mem]⟩
    exact acceptable.overlooked misread (proven _ alone)
  · intro alike venue lists
    exact alike.absent lists

end Absence

/-- A live stop for the whole position whose type is spelled with an underscore. -/
def underscoredStop : Record :=
  [("id", .str "stop"), ("instrument", .str "BTCUSD"), ("side", .str "BUY"),
    ("type", .str "STOP_LOSS"), ("status", .str "active"), ("quantity", .int 0),
    ("price", .int 100), ("order", .str "entry")]

theorem underscoredStop_overlooked :
    ¬AbsenceProven asciiLib "STOP_LOSS" 100 "entry" "BTCUSD" "BUY"
      [("tpsl", .list [.dict underscoredStop])] := by
  intro proven
  have absent : findTpsl asciiLib [("tpsl", .list [.dict underscoredStop])] "STOP_LOSS" 100 "entry"
      = .ok none := by rfl
  have accepted : validateTpslRecord asciiLib underscoredStop "BTCUSD" "BUY" "STOP_LOSS" 100 "entry"
      false true = .ok () := by decide +kernel
  exact proven absent [underscoredStop] rfl underscoredStop (List.mem_singleton_self _) accepted

section Consumers

open Interactive Interactive.Program

variable (env : Env)

/-- Post-exit cleanup has no geometry record exactly where the lookup is without result. -/
theorem geometryRecord_eq_none {trade : TradeRecord} {venue : Venue} {leg : ProtectionLeg} :
    geometryRecord env trade venue leg = .ok none ↔
      findTpsl env.lib venue leg.tpslType leg.price trade.entryClientOrderId = .ok none := by
  constructor
  · intro h
    obtain ⟨found, lookup, h⟩ := bind_eq_ok.1 h
    cases found with
    | none => exact lookup
    | some record =>
      obtain ⟨_, -, h⟩ := bind_eq_ok.1 h
      obtain ⟨_, -, h⟩ := bind_eq_ok.1 h
      cases h
  · intro lookup
    exact bind_eq_ok.2 ⟨none, lookup, rfl⟩

/-- The cleanup after an exit finds a leg gone only where no listed record would pass for it. -/
def CleanupProven (trade : TradeRecord) (leg : ProtectionLeg) (venueSymbol : String)
    (venue : Venue) : Prop :=
  geometryRecord env trade venue leg = .ok none →
    ∀ rows, list (venue.get "tpsl") = .ok rows → ∀ record ∈ rows,
      validateTpslRecord env.lib record venueSymbol trade.side.value leg.tpslType leg.price
        trade.entryClientOrderId false true ≠ .ok ()

theorem cleanupProven_iff {trade : TradeRecord} {leg : ProtectionLeg} {venueSymbol : String}
    {venue : Venue} :
    CleanupProven env trade leg venueSymbol venue ↔
      AbsenceProven env.lib leg.tpslType leg.price trade.entryClientOrderId venueSymbol
        trade.side.value venue := by
  unfold CleanupProven AbsenceProven
  rw [geometryRecord_eq_none]

/-- Over the lists made of some records, `_find_tpsl` and `_validate_tpsl_record` agree on what is
absent, and the cleanup after an exit with them, exactly where none of the records protects the
position under a spelling that divides them. The lookup keeps the underscores of a record's type
and allows its price no absolute tolerance. -/
theorem protections_agree_iff (records : Set Record) :
    (∀ (tpslType : String) (price : ℚ) (parentOrderId venueSymbol side : String),
      (∀ venue, Lists venue records →
          AbsenceProven env.lib tpslType price parentOrderId venueSymbol side venue) ↔
        SpelledAlike env.lib tpslType price parentOrderId venueSymbol side records) ∧
    ∀ (trade : TradeRecord) (leg : ProtectionLeg) (venueSymbol : String),
      (∀ venue, Lists venue records → CleanupProven env trade leg venueSymbol venue) ↔
        SpelledAlike env.lib leg.tpslType leg.price trade.entryClientOrderId venueSymbol
          trade.side.value records := by
  constructor
  · intro tpslType price parentOrderId venueSymbol side
    exact absent_iff
  · intro trade leg venueSymbol
    simp only [cleanupProven_iff]
    exact absent_iff

/-- Recovery of an ambiguous creation takes a lookup without result for absence: it asks for
the position only, and raises. -/
theorem reconcileProtectionCreate_absent {effect : ExecutionEffect} {venue : Venue}
    {tpslType hex parentOrderId : String} {price : ℚ}
    (type : requestText env effect.requestPayload "tpsl_type" = .ok tpslType)
    (priceText : requestText env effect.requestPayload "price_hex" = .ok hex)
    (read : fromHex env.lib hex = .ok (some price))
    (parent : requestText env effect.requestPayload "parent_order_id" = .ok parentOrderId)
    (absent : findTpsl env.lib venue tpslType price parentOrderId = .ok none) :
    reconcileProtectionCreate env effect venue = (do
      let quantity ← check (positionQuantity env venue effect.symbol)
      if quantity ≤ 0 then
        raise "ambiguous TP/SL create is absent while flat; cancellation cannot be proven"
      else raise "prepared TP/SL is absent while position remains open") := by
  have found : (do
      return (← findTpsl env.lib venue tpslType price parentOrderId).map fun record =>
        (record, price) : Except Err (Option (Record × ℚ))) = .ok none := by
    rw [absent]
    rfl
  have priceRead : (do fromHex env.lib (← requestText env effect.requestPayload "price_hex")
      : Except Err Number) = .ok (some price) := by
    rw [priceText]
    exact read
  simp only [reconcileProtectionCreate, type, parent, priceRead, found, check_ok_bind]

end Consumers

end KairosExecution.Paper
