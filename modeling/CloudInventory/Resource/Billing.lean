import CloudInventory.Resource.Server

/-!
# Billing

Prices, discounts, ledger entries, the balance and the current usage of an
account. Amounts of money keep the decimal text that the service sends.
-/

namespace CloudInventory

/-- The price of one unit of a resource at a burst level. -/
structure Pricing where
  id : Option String := none
  currency : Option String := none
  level : Option UInt32 := none
  multiplier : Option Magnitude := none
  price : Option String := none
  resource : Option SubscriptionResource := none
  unit : Option String := none
  deriving DecidableEq, Repr, Inhabited

/-- The balance of an account. -/
structure Balance where
  balance : Option String := none
  currency : Option String := none
  deriving DecidableEq, Repr, Inhabited

/-- The discount on subscriptions of a period. -/
structure Discount where
  period : Option String := none
  value : Option String := none
  deriving DecidableEq, Repr, Inhabited

/-- An entry of the ledger. -/
structure Transaction where
  id : Option String := none
  amount : Option String := none
  billingCycle : Option UInt64 := none
  /-- The balance before the transaction. -/
  initial : Option String := none
  reason : Option String := none
  start : Option Instant := none
  finish : Option Instant := none
  time : Option Instant := none
  deriving DecidableEq, Inhabited

/-- The usage of one resource. -/
structure UsageRecord where
  burst : Option Magnitude := none
  subscribed : Option Magnitude := none
  inUse : Option Magnitude := none
  deriving DecidableEq, Repr, Inhabited

/-- The current usage of an account by resource token. -/
structure AccountUsage where
  balance : Option Balance := none
  usage : Dictionary UsageRecord := .empty
  deriving DecidableEq, Inhabited

namespace Pricing

def ofRecord (record : Json) : Except DecodeError Pricing := do
  let level ← record.boundedField UInt32 "level"
  let multiplier ← record.magnitudeField "multiplier"
  pure {
    id := record.decimalField "id"
    currency := record.textField "currency"
    level
    multiplier
    price := record.decimalField "price"
    resource := record.tokenField "resource"
    unit := record.textField "unit"
  }

def toJson (x : Pricing) : Json :=
  .ofFields [
    ("id", Member.text x.id),
    ("currency", Member.text x.currency),
    ("level", Member.number .ofUInt32 x.level),
    ("multiplier", x.multiplier.map Magnitude.toJson),
    ("price", Member.text x.price),
    ("resource", x.resource.map Token.toJson),
    ("unit", Member.text x.unit)]

instance : Resource Pricing where
  kind := .pricing
  ofRecord := ofRecord
  toJson := toJson

end Pricing

namespace Balance

def ofRecord (record : Json) : Except DecodeError Balance :=
  .ok { balance := record.decimalField "balance", currency := record.textField "currency" }

def toJson (x : Balance) : Json :=
  .ofFields [("balance", Member.text x.balance), ("currency", Member.text x.currency)]

instance : Resource Balance where
  kind := .balance
  ofRecord := ofRecord
  toJson := toJson

end Balance

namespace Discount

def ofRecord (record : Json) : Except DecodeError Discount :=
  .ok { period := record.textField "period", value := record.decimalField "value" }

def toJson (x : Discount) : Json :=
  .ofFields [("period", Member.text x.period), ("value", Member.text x.value)]

instance : Resource Discount where
  kind := .discount
  ofRecord := ofRecord
  toJson := toJson

end Discount

namespace Transaction

def ofRecord (record : Json) : Except DecodeError Transaction := do
  let billingCycle ← record.boundedField UInt64 "billing_cycle"
  let start ← record.instantField "start"
  let finish ← record.instantField "end"
  let time ← record.instantField "time"
  pure {
    id := record.decimalField "id"
    amount := record.decimalField "amount"
    billingCycle
    initial := record.decimalField "initial"
    reason := record.textField "reason"
    start
    finish
    time
  }

def toJson (x : Transaction) : Json :=
  .ofFields [
    ("id", Member.text x.id),
    ("amount", Member.text x.amount),
    ("billing_cycle", Member.number .ofUInt64 x.billingCycle),
    ("initial", Member.text x.initial),
    ("reason", Member.text x.reason),
    ("start", x.start.map Instant.toJson),
    ("end", x.finish.map Instant.toJson),
    ("time", x.time.map Instant.toJson)]

instance : Resource Transaction where
  kind := .transaction
  ofRecord := ofRecord
  toJson := toJson

end Transaction

namespace UsageRecord

def ofRecord (record : Json) : Except DecodeError UsageRecord := do
  let burst ← record.magnitudeField "burst"
  let subscribed ← record.magnitudeField "subscribed"
  let inUse ← record.magnitudeField "using"
  pure { burst, subscribed, inUse }

def toJson (x : UsageRecord) : Json :=
  .ofFields [
    ("burst", x.burst.map Magnitude.toJson),
    ("subscribed", x.subscribed.map Magnitude.toJson),
    ("using", x.inUse.map Magnitude.toJson)]

instance : Resource UsageRecord where
  kind := .usageRecord
  ofRecord := ofRecord
  toJson := toJson

end UsageRecord

namespace AccountUsage

/-- The usage of a resource. -/
def get? (x : AccountUsage) (resource : SubscriptionResource) : Option UsageRecord :=
  x.usage.get? (Token.text resource)

def ofRecord (record : Json) : Except DecodeError AccountUsage := do
  let usage ← (((record.member? "usage").map Json.members).getD []).mapM fun (key, json) =>
    (UsageRecord.ofRecord json).map (key, ·)
  let balance ← record.recordField Balance.ofRecord "balance"
  pure { balance, usage := .ofList usage }

def toJson (x : AccountUsage) : Json :=
  .ofFields [
    ("balance", x.balance.map Balance.toJson),
    ("usage", if x.usage.isEmpty then none
      else some (.object (x.usage.members.map fun (key, value) => (key, value.toJson))))]

instance : Resource AccountUsage where
  kind := .usage
  ofRecord := ofRecord
  toJson := toJson

end AccountUsage

end CloudInventory
