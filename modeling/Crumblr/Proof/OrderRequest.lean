import Crumblr.Mt5Gateway.OrderRequest
import Crumblr.Proof.AtMostOnce

/-!
# What an approved order asks of MT5

The request of an approved order asks for what the order says, term by term: two orders have the
same request exactly if these terms agree. The time an order expires at is not among them. A
deal does not need it, for it is executed when it is sent; a pending order is good until it is
cancelled, and may be filled at any time after. The request of a close asks for the one position
it names, and reduces it.
-/

namespace Crumblr

/-! ## Entries -/

/-- How long the terms of an order leave it executable at MT5. -/
def validityOf : EntryType → Validity
  | .market => .atOnce
  | _ => .untilCancelled

section

variable [Externals] (module : Mt5Module) (order : ApprovedOrder)

/-- The terms of an order, as an instruction. -/
def ApprovedOrder.instruction : Mt5Instruction where
  symbol := order.brokerSymbol
  side := order.side
  kind := order.entryType
  volume := order.volume.val.value
  price := order.price.map (·.val.value)
  stop := some order.stopLossPrice.val.value
  target := order.takeProfitPrice.map (·.val.value)
  magic := order.magicNumber
  deviation := if order.entryType = .market then some order.maxSlippagePoints else none
  position := none
  validity := validityOf order.entryType

variable {module order}

omit [Externals] in
theorem readSide_marketOrderType {side : Side} {n : Int}
    (h : module.marketOrderType side = some n) :
    readSide module.orderTypeBuy module.orderTypeSell n = some side := by
  cases side with
  | buy =>
      cases h
      exact if_pos rfl
  | sell =>
      cases h
      unfold readSide
      rw [if_neg (Ne.symm module.marketTypes), if_pos rfl]
  | flat => cases h

omit [Externals] in
theorem readSide_limitOrderType {side : Side} {n : Int}
    (h : module.limitOrderType side = some n) :
    readSide module.orderTypeBuyLimit module.orderTypeSellLimit n = some side := by
  cases side with
  | buy =>
      cases h
      exact if_pos rfl
  | sell =>
      cases h
      unfold readSide
      rw [if_neg (Ne.symm module.limitTypes), if_pos rfl]
  | flat => cases h

omit [Externals] in
variable (module) in
theorem orderType_of_directional {side : Side} (h : side ≠ .flat) :
    (∃ n, module.marketOrderType side = some n) ∧ ∃ n, module.limitOrderType side = some n := by
  cases side with
  | buy => exact ⟨⟨_, rfl⟩, _, rfl⟩
  | sell => exact ⟨⟨_, rfl⟩, _, rfl⟩
  | flat => exact absurd rfl h

/-- The dictionary of an order whose entry has constants. -/
theorem buildOrderRequest_ok {action fillingMode orderType : Int}
    (h : entryConstants module order = .ok (action, some orderType, fillingMode)) :
    ∃ request, buildOrderRequest module order = .ok request
      ∧ request.int? "action" = some action
      ∧ request.str? "symbol" = some order.brokerSymbol
      ∧ request.float? "volume" = some order.volume.val.value
      ∧ request.int? "type" = some orderType
      ∧ request.int? "magic" = some order.magicNumber
      ∧ request.float? "sl" = some order.stopLossPrice.val.value
      ∧ request.int? "type_time" = some module.orderTimeGtc
      ∧ request.int? "deviation"
        = (if order.entryType = .market then some (order.maxSlippagePoints : Int) else none)
      ∧ request.float? "price" = order.price.map (·.val.value)
      ∧ request.float? "tp" = order.takeProfitPrice.map (·.val.value)
      ∧ request.int? "position" = none := by
  unfold buildOrderRequest
  rw [h]
  refine ⟨_, rfl, rfl, rfl, rfl, rfl, rfl, rfl, rfl, ?_⟩
  unfold Mt5Request.int? Mt5Request.float?
  by_cases hmarket : order.entryType = .market
  · rw [if_pos hmarket, if_pos hmarket]
    cases order.price <;> cases order.takeProfitPrice <;> exact ⟨rfl, rfl, rfl, rfl⟩
  · rw [if_neg hmarket, if_neg hmarket]
    cases order.price <;> cases order.takeProfitPrice <;> exact ⟨rfl, rfl, rfl, rfl⟩

variable (module) in
/-- **MT5 reads in the request of an order the terms of the order.** -/
theorem readRequest_build (h : order.entryType = .market ∨ order.entryType = .limit) :
    ∃ request, buildOrderRequest module order = .ok request
      ∧ readRequest module request = some order.instruction := by
  obtain ⟨⟨market, hmarketType⟩, limit, hlimitType⟩ :=
    orderType_of_directional module order.directional
  rcases h with hmarket | hlimit
  · have hconstants : entryConstants module order
        = .ok (module.tradeActionDeal, some market, module.orderFillingIoc) := by
      unfold entryConstants
      rw [hmarket, hmarketType]
    obtain ⟨request, hrequest, haction, hsymbol, hvolume, htype, hmagic, hstop, -, hdeviation,
      hprice, htarget, hposition⟩ := buildOrderRequest_ok hconstants
    refine ⟨request, hrequest, ?_⟩
    unfold readRequest
    simp only [haction, hsymbol, hvolume, htype, hmagic, hstop, hdeviation, hprice, htarget,
      hposition, readSide_marketOrderType hmarketType, if_true, bind, Option.bind]
    unfold ApprovedOrder.instruction
    rw [hmarket]
    rfl
  · have hconstants : entryConstants module order
        = .ok (module.tradeActionPending, some limit, module.orderFillingReturn) := by
      unfold entryConstants
      rw [hlimit, hlimitType]
    obtain ⟨request, hrequest, haction, hsymbol, hvolume, htype, hmagic, hstop, htime, hdeviation,
      hprice, htarget, hposition⟩ := buildOrderRequest_ok hconstants
    obtain ⟨price, hpriced⟩ := Option.isSome_iff_exists.mp (order.priced (by simp [hlimit]))
    refine ⟨request, hrequest, ?_⟩
    unfold readRequest
    simp only [haction, hsymbol, hvolume, htype, hmagic, hstop, htime, hdeviation, hprice, htarget,
      readSide_limitOrderType hlimitType, if_neg (Ne.symm module.actions), if_true, bind,
      Option.bind, hpriced, Option.map_some]
    unfold ApprovedOrder.instruction
    rw [hlimit, hpriced]
    rfl

omit [Externals] in
theorem optionalKey_congr {key : String} {price price' : Option Price}
    (h : price.map (·.val.value) = price'.map (·.val.value)) :
    optionalKey key price = optionalKey key price' := by
  cases price with
  | none =>
      cases price' with
      | none => rfl
      | some price' => cases h
  | some price =>
      cases price' with
      | none => cases h
      | some price' =>
          have hvalue : price.val.value = price'.val.value := Option.some.inj h
          unfold optionalKey
          dsimp only
          rw [hvalue]

/-- **Two orders have one request exactly if they have the same terms**, whatever else of them
differs. -/
theorem request_eq_iff {other : ApprovedOrder}
    (h : order.entryType = .market ∨ order.entryType = .limit)
    (h' : other.entryType = .market ∨ other.entryType = .limit) :
    buildOrderRequest module order = buildOrderRequest module other
      ↔ order.instruction = other.instruction := by
  constructor
  · intro heq
    obtain ⟨request, hrequest, hread⟩ := readRequest_build module h
    obtain ⟨request', hrequest', hread'⟩ := readRequest_build module h'
    rw [hrequest, hrequest'] at heq
    cases heq
    exact Option.some.inj (hread.symm.trans hread')
  · intro heq
    have hkind : order.entryType = other.entryType := congrArg Mt5Instruction.kind heq
    have hside : order.side = other.side := congrArg Mt5Instruction.side heq
    have hsymbol : order.brokerSymbol = other.brokerSymbol := congrArg Mt5Instruction.symbol heq
    have hvolume : order.volume.val.value = other.volume.val.value :=
      congrArg Mt5Instruction.volume heq
    have hmagic : order.magicNumber = other.magicNumber := congrArg Mt5Instruction.magic heq
    have hstop : order.stopLossPrice.val.value = other.stopLossPrice.val.value :=
      Option.some.inj (congrArg Mt5Instruction.stop heq)
    have hprice : optionalKey "price" order.price = optionalKey "price" other.price :=
      optionalKey_congr (congrArg Mt5Instruction.price heq)
    have htarget : optionalKey "tp" order.takeProfitPrice = optionalKey "tp" other.takeProfitPrice :=
      optionalKey_congr (congrArg Mt5Instruction.target heq)
    have hconstants : entryConstants module order = entryConstants module other := by
      unfold entryConstants
      rw [hkind, hside]
    have hslippage : (if order.entryType = .market then
          [("deviation", Mt5Value.int order.maxSlippagePoints)] else [])
        = if other.entryType = .market then
          [("deviation", Mt5Value.int other.maxSlippagePoints)] else [] := by
      have hdeviation : (if order.entryType = .market then
            some (order.maxSlippagePoints : Int) else none)
          = if other.entryType = .market then some (other.maxSlippagePoints : Int) else none :=
        congrArg Mt5Instruction.deviation heq
      rw [hkind] at hdeviation ⊢
      split at hdeviation
      · rename_i hmarket
        rw [if_pos hmarket, if_pos hmarket, Option.some.inj hdeviation]
      · rename_i hmarket
        rw [if_neg hmarket, if_neg hmarket]
    unfold buildOrderRequest
    rw [hconstants, hsymbol, hvolume, hmagic, hstop, hprice, htarget, hslippage, hside]

/-- Only an entry at the market or at a limit has a request. -/
theorem entryType_of_build {request : Mt5Request} (h : buildOrderRequest module order = .ok request) :
    order.entryType = .market ∨ order.entryType = .limit := by
  obtain ⟨constants, hconstants, -⟩ := bind_ok h
  unfold entryConstants at hconstants
  cases hkind : order.entryType with
  | market => exact .inl rfl
  | limit => exact .inr rfl
  | stop =>
      rw [hkind] at hconstants
      cases hconstants

/-- An instruction says what an order says. -/
structure Carries (order : ApprovedOrder) (i : Mt5Instruction) : Prop where
  symbol : i.symbol = order.brokerSymbol
  side : i.side = order.side
  kind : i.kind = order.entryType
  volume : i.volume = order.volume.val.value
  price : i.price = order.price.map (·.val.value)
  stop : i.stop = some order.stopLossPrice.val.value
  target : i.target = order.takeProfitPrice.map (·.val.value)
  magic : i.magic = order.magicNumber
  slippage : order.entryType = .market → i.deviation = some order.maxSlippagePoints
  opens : i.position = none

/-- Two orders say the same. -/
structure SameTerms (order other : ApprovedOrder) : Prop where
  symbol : order.brokerSymbol = other.brokerSymbol
  side : order.side = other.side
  kind : order.entryType = other.entryType
  volume : order.volume.val.value = other.volume.val.value
  price : order.price.map (·.val.value) = other.price.map (·.val.value)
  stop : order.stopLossPrice.val.value = other.stopLossPrice.val.value
  target : order.takeProfitPrice.map (·.val.value) = other.takeProfitPrice.map (·.val.value)
  magic : order.magicNumber = other.magicNumber
  slippage : order.entryType = .market → order.maxSlippagePoints = other.maxSlippagePoints

theorem sameTerms_of_instruction {other : ApprovedOrder}
    (h : order.instruction = other.instruction) : SameTerms order other where
  symbol := congrArg Mt5Instruction.symbol h
  side := congrArg Mt5Instruction.side h
  kind := congrArg Mt5Instruction.kind h
  volume := congrArg Mt5Instruction.volume h
  price := congrArg Mt5Instruction.price h
  stop := Option.some.inj (congrArg Mt5Instruction.stop h)
  target := congrArg Mt5Instruction.target h
  magic := congrArg Mt5Instruction.magic h
  slippage := by
    intro hmarket
    have hkind : order.entryType = other.entryType := congrArg Mt5Instruction.kind h
    have hdeviation : (if order.entryType = .market then
          some (order.maxSlippagePoints : Int) else none)
        = if other.entryType = .market then some (other.maxSlippagePoints : Int) else none :=
      congrArg Mt5Instruction.deviation h
    rw [if_pos hmarket, if_pos (hkind ▸ hmarket)] at hdeviation
    exact Int.ofNat.inj (Option.some.inj hdeviation)

/-- Nothing an instruction asks for in time is executed after an order's expiry. -/
def NeverLate (order : ApprovedOrder) (i : Mt5Instruction) : Prop :=
  ∀ sentAt at_, sentAt ≤ order.expiresAtUtc → i.MayExecute sentAt at_ → at_ ≤ order.expiresAtUtc

/-- The request of an order carries its terms, and those of no order that differs in them. -/
def CarriesTerms (module : Mt5Module) (order : ApprovedOrder) (late : Mt5Instruction → Prop) :
    Prop :=
  ∃ request i, buildOrderRequest module order = .ok request ∧ readRequest module request = some i
    ∧ Carries order i ∧ late i
    ∧ ∀ other : ApprovedOrder, buildOrderRequest module other = .ok request → SameTerms order other

omit [Externals] in
theorem neverLate_iff (order : ApprovedOrder) {i : Mt5Instruction}
    (h : i.validity = validityOf order.entryType) :
    NeverLate order i ↔ order.entryType = .market := by
  constructor
  · intro hlate
    cases hkind : order.entryType with
    | market => rfl
    | _ =>
        rw [hkind] at h
        have hmay : i.MayExecute order.expiresAtUtc (order.expiresAtUtc + 1) := by
          unfold Mt5Instruction.MayExecute
          rw [h]
          exact Int.le_add_of_nonneg_right (by decide)
        exact absurd (hlate _ _ (le_refl _) hmay) (Int.not_le.mpr (Int.lt_succ _))
  · intro hmarket sentAt at_ hsent hmay
    rw [hmarket] at h
    unfold Mt5Instruction.MayExecute at hmay
    rw [h] at hmay
    exact hmay ▸ hsent

end

/-! ## Closes -/

/-- The request of a close takes the named position down by its volume, and nothing else. -/
def ClosesOnly (module : Mt5Module) (instruction : FlattenInstruction) : Prop :=
  ∃ request i, buildCloseOrderRequest module instruction = .ok request
    ∧ readRequest module request = some i
    ∧ i.position = some instruction.ticket
    ∧ i.side = (if instruction.positionSide = .buy then .sell else .buy)
    ∧ i.volume = instruction.volume.val.value
    ∧ ∀ opened book,
      (∀ held ∈ i.deal opened book, held ∈ book
        ∨ ∃ before ∈ book, before.ticket = instruction.ticket
          ∧ before.side = instruction.positionSide
          ∧ held = { before with volume := before.volume - instruction.volume.val.value })
      ∧ ∀ held ∈ book, held.ticket ≠ instruction.ticket → held ∈ i.deal opened book

/-- The terms of a close, as an instruction. -/
def FlattenInstruction.closing (instruction : FlattenInstruction) : Mt5Instruction where
  symbol := instruction.brokerSymbol
  side := instruction.closeSide
  kind := .market
  volume := instruction.volume.val.value
  price := none
  stop := none
  target := none
  magic := instruction.magic.getD 0
  deviation := none
  position := some instruction.ticket
  validity := .atOnce

theorem readRequest_close (module : Mt5Module) (instruction : FlattenInstruction) :
    ∃ request, buildCloseOrderRequest module instruction = .ok request
      ∧ readRequest module request = some instruction.closing := by
  have hclose : instruction.closeSide ≠ .flat := by
    rw [instruction.inverse]
    split <;> simp
  obtain ⟨⟨orderType, htype⟩, -⟩ := orderType_of_directional module hclose
  obtain ⟨request, hrequest, haction, hsymbol, hvolume, hread, hmagic, hstop, htarget, hprice,
      hdeviation, hposition⟩ :
      ∃ request, buildCloseOrderRequest module instruction = .ok request
        ∧ request.int? "action" = some module.tradeActionDeal
        ∧ request.str? "symbol" = some instruction.brokerSymbol
        ∧ request.float? "volume" = some instruction.volume.val.value
        ∧ request.int? "type" = some orderType
        ∧ request.int? "magic" = some (instruction.magic.getD 0)
        ∧ request.float? "sl" = none ∧ request.float? "tp" = none
        ∧ request.float? "price" = none ∧ request.int? "deviation" = none
        ∧ request.int? "position" = some instruction.ticket := by
    unfold buildCloseOrderRequest
    rw [htype]
    exact ⟨_, rfl, rfl, rfl, rfl, rfl, rfl, rfl, rfl, rfl, rfl, rfl⟩
  refine ⟨request, hrequest, ?_⟩
  unfold readRequest
  simp only [haction, hsymbol, hvolume, hread, hmagic, hstop, htarget, hprice, hdeviation,
    hposition, readSide_marketOrderType htype, if_true, bind, Option.bind]
  rfl

/-- What is not on the side of a close is on the side it closes. -/
theorem side_of_closed {side held : Side} (hside : side ≠ .flat) (hheld : held ≠ .flat)
    (h : held ≠ if side = .buy then .sell else .buy) : held = side := by
  cases side <;> cases held <;> simp_all

/-- **Every close takes down the position it names, and leaves the others alone.** -/
theorem closesOnly (module : Mt5Module) (instruction : FlattenInstruction) :
    ClosesOnly module instruction := by
  obtain ⟨request, hrequest, hread⟩ := readRequest_close module instruction
  refine ⟨request, _, hrequest, hread, rfl, instruction.inverse, rfl, fun opened book =>
    ⟨fun held hheld => ?_, fun held hheld hother => ?_⟩⟩
  · obtain ⟨before, hbefore, hreduced⟩ := List.mem_filterMap.mp hheld
    unfold Mt5Instruction.reduce at hreduced
    split at hreduced
    · rename_i hnamed
      split at hreduced
      · cases hreduced
      · cases hreduced
        have hinverse : before.side ≠ if instruction.positionSide = .buy then .sell else .buy :=
          instruction.inverse ▸ hnamed.2
        exact .inr ⟨before, hbefore, hnamed.1,
          side_of_closed instruction.directional before.directional hinverse, rfl⟩
    · cases hreduced
      exact .inl hbefore
  · refine List.mem_filterMap.mpr ⟨held, hheld, ?_⟩
    unfold Mt5Instruction.reduce
    rw [if_neg fun hnamed => hother hnamed.1]

/-! ## The claim as a whole -/

section

variable [Externals]

/-- **The request of an entry carries every term of its order**, tells it from every order that
differs in one, and is never executed late exactly if it is an entry at the market. Every close
takes down the position it names. -/
theorem order_request_iff (module : Mt5Module) (order : ApprovedOrder)
    (h : order.entryType = .market ∨ order.entryType = .limit) :
    CarriesTerms module order (fun _ => True)
      ∧ (CarriesTerms module order (NeverLate order) ↔ order.entryType = .market)
      ∧ ∀ instruction : FlattenInstruction, ClosesOnly module instruction := by
  obtain ⟨request, hrequest, hread⟩ := readRequest_build module h
  have hcarries : Carries order order.instruction :=
    ⟨rfl, rfl, rfl, rfl, rfl, rfl, rfl, rfl, fun hmarket => if_pos hmarket, rfl⟩
  have hdistinct : ∀ other : ApprovedOrder, buildOrderRequest module other = .ok request →
      SameTerms order other := by
    intro other hother
    have hkind := entryType_of_build hother
    exact sameTerms_of_instruction ((request_eq_iff h hkind).mp (hrequest.trans hother.symm))
  refine ⟨⟨request, _, hrequest, hread, hcarries, trivial, hdistinct⟩, ⟨?_, fun hmarket => ?_⟩,
    closesOnly module⟩
  · rintro ⟨request', i, hrequest', hread', -, hlate, -⟩
    rw [hrequest] at hrequest'
    cases hrequest'
    rw [hread] at hread'
    cases hread'
    exact (neverLate_iff order rfl).mp hlate
  · exact ⟨request, _, hrequest, hread, hcarries, (neverLate_iff order rfl).mpr hmarket, hdistinct⟩

end

namespace Sample

/-- The constants of the package, as it documents them. -/
def mt5Module : Mt5Module where
  tradeActionDeal := 1
  tradeActionPending := 5
  orderTypeBuy := 0
  orderTypeSell := 1
  orderTypeBuyLimit := 2
  orderTypeSellLimit := 3
  orderTimeGtc := 0
  orderFillingIoc := 1
  orderFillingReturn := 2
  actions := by decide
  marketTypes := by decide
  limitTypes := by decide

/-- An order to buy, of either kind. -/
def buyOrder (kind : EntryType) : ApprovedOrder where
  orderRequestId := ⟨"order"⟩
  intentId := ⟨"intent"⟩
  intentRiskDecisionId := ⟨"risk"⟩
  finalRiskDecisionId := some ⟨"final"⟩
  supervisorDecisionId := ⟨"supervisor"⟩
  brokerSymbol := "EURUSD"
  side := .buy
  entryType := kind
  volume := riskDecision.approvedVolume.getD spec.volumeMin
  price := some (price 110000)
  stopLossPrice := price 109900
  takeProfitPrice := none
  maxSlippagePoints := 5
  createdAtUtc := noon
  expiresAtUtc := noon + minutes 5
  environment := .paper
  directional := buy_directional
  priced := fun _ => rfl
  lifetime := noon_lt

end Sample

end Crumblr

namespace Crumblr

open Sample in
theorem order_request_iff_sample :
    CarriesTerms mt5Module (buyOrder .market) (NeverLate (buyOrder .market)) :=
  (order_request_iff mt5Module (buyOrder .market) (.inl rfl)).2.1.mpr rfl

open Sample in
/-- A limit order that expires in five minutes rests at the broker until it is cancelled. -/
theorem limit_order_never_expires :
    ¬ CarriesTerms mt5Module (buyOrder .limit) (NeverLate (buyOrder .limit)) := by
  rintro ⟨request, i, hrequest, hread, -, hlate, -⟩
  have hlimit : (buyOrder .limit).entryType = .limit := rfl
  obtain ⟨request', hrequest', hread'⟩ := readRequest_build mt5Module (.inr hlimit)
  rw [hrequest] at hrequest'
  cases hrequest'
  rw [hread] at hread'
  cases hread'
  cases (neverLate_iff (buyOrder .limit) rfl).mp hlate

end Crumblr
