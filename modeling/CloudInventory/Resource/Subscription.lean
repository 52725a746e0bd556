import CloudInventory.Resource.Server

/-!
# Subscriptions

A subscription pays for a resource over a period. A renewed subscription shows its
descendants, which are subscriptions again; decoding ends because every descendant
is smaller than the record around it.
-/

namespace CloudInventory

/-- A subscription with the ones that renew it. -/
structure Subscription where
  id : Option String := none
  uuid : Option String := none
  resourceUri : Option String := none
  amount : Option Magnitude := none
  autoRenew : Option Bool := none
  descendants : List Subscription := []
  discountAmount : Option String := none
  discountPercent : Option String := none
  startTime : Option Instant := none
  endTime : Option Instant := none
  lastNotification : Option Instant := none
  period : Option String := none
  price : Option String := none
  remaining : Option Magnitude := none
  resource : Option SubscriptionResource := none
  status : Option SubscriptionStatus := none
  subscribedObject : Option String := none

namespace Subscription

instance : Inhabited Subscription := ⟨{}⟩

/-- A reference that carries nothing but the identifier. -/
def withId (id : String) : Subscription :=
  { id := some id }

mutual

/-- The number of subscriptions in the tree, the root included. -/
def treeSize : Subscription → Nat
  | ⟨_, _, _, _, _, descendants, _, _, _, _, _, _, _, _, _, _, _⟩ => 1 + treeSizes descendants

/-- The number of subscriptions in the trees of a list. -/
def treeSizes : List Subscription → Nat
  | [] => 0
  | x :: xs => treeSize x + treeSizes xs

end

/-! ## Decoding -/

def ofRecord (record : Json) : Except DecodeError Subscription := do
  let amount ← record.magnitudeField "amount"
  let descendants ← (record.children "descendants").mapM fun ⟨json, _⟩ => ofRecord json
  let startTime ← record.instantField "start_time"
  let endTime ← record.instantField "end_time"
  let lastNotification ← record.instantField "last_notification"
  let remaining ← record.magnitudeField "remaining"
  pure {
    id := record.decimalField "id"
    uuid := record.textField "uuid"
    resourceUri := record.textField "resource_uri"
    amount
    autoRenew := record.flagField "auto_renew"
    descendants
    discountAmount := record.decimalField "discount_amount"
    discountPercent := record.decimalField "discount_percent"
    startTime
    endTime
    lastNotification
    period := record.textField "period"
    price := record.decimalField "price"
    remaining
    resource := record.tokenField "resource"
    status := record.tokenField "status"
    subscribedObject := record.textField "subscribed_object"
  }
  termination_by sizeOf record

/-! ## JSON -/

mutual

def toJson : Subscription → Json
  | ⟨id, uuid, resourceUri, amount, autoRenew, descendants, discountAmount, discountPercent,
      startTime, endTime, lastNotification, period, price, remaining, resource, status,
      subscribedObject⟩ => .ofFields [
    ("id", Member.text id),
    ("uuid", Member.text uuid),
    ("resource_uri", Member.text resourceUri),
    ("amount", amount.map Magnitude.toJson),
    ("auto_renew", Member.flag autoRenew),
    ("descendants", match descendants with
      | [] => none
      | x :: xs => some (.array (toJson x :: listJson xs))),
    ("discount_amount", Member.text discountAmount),
    ("discount_percent", Member.text discountPercent),
    ("start_time", startTime.map Instant.toJson),
    ("end_time", endTime.map Instant.toJson),
    ("last_notification", lastNotification.map Instant.toJson),
    ("period", Member.text period),
    ("price", Member.text price),
    ("remaining", remaining.map Magnitude.toJson),
    ("resource", resource.map Token.toJson),
    ("status", status.map Token.toJson),
    ("subscribed_object", Member.text subscribedObject)]

def listJson : List Subscription → List Json
  | [] => []
  | x :: xs => toJson x :: listJson xs

end

instance : Resource Subscription where
  kind := .subscription
  ofRecord := ofRecord
  toJson := toJson

/-! ## Equality -/

mutual

/-- Whether two subscriptions are equal. -/
def same : Subscription → Subscription → Bool
  | ⟨a, b, c, d, e, descendants, f, g, h, i, j, k, l, m, n, o, p⟩,
      ⟨a', b', c', d', e', descendants', f', g', h', i', j', k', l', m', n', o', p'⟩ =>
    decide (a = a' ∧ b = b' ∧ c = c' ∧ d = d' ∧ e = e') &&
      decide (f = f' ∧ g = g' ∧ h = h' ∧ i = i' ∧ j = j') &&
      decide (k = k' ∧ l = l' ∧ m = m' ∧ n = n' ∧ o = o' ∧ p = p') &&
      sameList descendants descendants'

/-- Whether two lists of subscriptions are equal. -/
def sameList : List Subscription → List Subscription → Bool
  | [], [] => true
  | x :: xs, y :: ys => same x y && sameList xs ys
  | _, _ => false

end

mutual

theorem eq_of_same : {x y : Subscription} → same x y = true → x = y
  | ⟨_, _, _, _, _, descendants, _, _, _, _, _, _, _, _, _, _, _⟩,
      ⟨_, _, _, _, _, descendants', _, _, _, _, _, _, _, _, _, _, _⟩, equal => by
    simp only [same, Bool.and_eq_true, decide_eq_true_eq] at equal
    obtain ⟨⟨⟨⟨rfl, rfl, rfl, rfl, rfl⟩, rfl, rfl, rfl, rfl, rfl⟩,
      rfl, rfl, rfl, rfl, rfl, rfl⟩, equal⟩ := equal
    rw [show descendants = descendants' from eq_of_sameList equal]

theorem eq_of_sameList : {xs ys : List Subscription} → sameList xs ys = true → xs = ys
  | [], ys, equal => by cases ys <;> simp_all [sameList]
  | x :: xs, ys, equal => by
    cases ys with
    | nil => simp [sameList] at equal
    | cons y ys =>
      simp only [sameList, Bool.and_eq_true] at equal
      rw [eq_of_same equal.1, eq_of_sameList equal.2]

end

mutual

theorem same_refl : (x : Subscription) → same x x = true
  | ⟨_, _, _, _, _, descendants, _, _, _, _, _, _, _, _, _, _, _⟩ => by
    simp [same, sameList_refl descendants]

theorem sameList_refl : (xs : List Subscription) → sameList xs xs = true
  | [] => by simp [sameList]
  | x :: xs => by simp [sameList, same_refl x, sameList_refl xs]

end

instance : DecidableEq Subscription := fun x y =>
  decidable_of_iff (same x y = true) ⟨eq_of_same, fun h => h ▸ same_refl x⟩

end Subscription

end CloudInventory
