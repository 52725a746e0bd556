import CloudInventory.Proofs.Json.AcceptedValues
import CloudInventory.Decode.Record

/-!
# Metadata

A resource keeps free-form values as texts: a string as it is, any other value as its JSON
text. Only `null` is lost. Where the numbers are integers, the value can be had back from its
text, since the text is compact and denotes the value.

Results:
1. `Meta.keys_ofMembers`: the keys are those of the members that are not `null`.
2. `Meta.get?_ofMembers`: a member is kept as its text.
3. `Meta.ofMembers_keeps_values`: texts are read back as their values, so different values
   have different texts.
-/

namespace CloudInventory

theorem KeySorted.nodup_keys {α : Type} {members : List (String × α)}
    (sorted : KeySorted members) : (members.map Prod.fst).Nodup :=
  List.pairwise_map.2 (sorted.imp Std.ne_of_lt)

namespace Json

/-- The value is kept as its JSON text, and all its numbers are integers. -/
structure Transcribed (json : Json) : Prop where
  notNull : json ≠ .null
  notString : ∀ s, json ≠ .string s
  integral : json.Integral

end Json

variable {json : Json}

/-- Only `null` has no text. -/
theorem metaText?_eq_none_iff : metaText? json = none ↔ json = .null := by
  cases json <;> simp [metaText?]

theorem Json.Transcribed.metaText? (transcribed : json.Transcribed) :
    CloudInventory.metaText? json = some json.compact := by
  cases json with
  | null => exact absurd rfl transcribed.notNull
  | string s => exact absurd rfl (transcribed.notString s)
  | _ => rfl

namespace Meta

variable {members : List (String × Json)}

/-- The members that are kept, with their texts. -/
def kept (member : String × Json) : Option (String × String) :=
  (metaText? member.2).map (member.1, ·)

theorem kept_eq_some_iff {member : String × Json} {key text : String} :
    kept member = some (key, text) ↔ member.1 = key ∧ metaText? member.2 = some text := by
  simp [kept, and_comm]

/-- The members stay in key order. -/
theorem members_ofMembers (sorted : KeySorted members) :
    (ofMembers members).members = members.filterMap kept := by
  refine sortMembers_eq_self (List.Pairwise.filterMap kept ?_ sorted)
  intro first second below entry isFirst entry' isSecond
  rw [← (kept_eq_some_iff.1 isFirst).1, ← (kept_eq_some_iff.1 isSecond).1]
  exact below

/-- The keys are those of the members that are not `null`, in key order. -/
theorem keys_ofMembers (sorted : KeySorted members) :
    (ofMembers members).members.map Prod.fst =
      (members.filter fun member => member.2 ≠ .null).map Prod.fst := by
  rw [members_ofMembers sorted]
  clear sorted
  induction members with
  | nil => rfl
  | cons member rest ih =>
    obtain ⟨key, value⟩ := member
    by_cases null : value = .null
    · subst null
      exact ih
    · obtain ⟨text, is⟩ := Option.ne_none_iff_exists'.1 (mt metaText?_eq_none_iff.1 null)
      rw [List.filterMap_cons_some (kept_eq_some_iff.2 ⟨rfl, is⟩), List.map_cons, ih,
        List.filter_cons, if_pos (decide_eq_true null), List.map_cons]

/-- A member is kept as its text. -/
theorem get?_ofMembers (sorted : KeySorted members) {key : String} {text : String}
    (inside : (key, json) ∈ members) (is : metaText? json = some text) :
    (ofMembers members).get? key = some text := by
  have entry : (key, text) ∈ (ofMembers members).members := by
    rw [members_ofMembers sorted]
    exact List.mem_filterMap.2 ⟨_, inside, kept_eq_some_iff.2 ⟨rfl, is⟩⟩
  exact lookup_of_mem (ofMembers members).sorted.nodup_keys entry

open Json in
/-- Metadata keeps every member but `null`, in key order: a string as it is, and any other
value whose numbers are integers as a compact text that denotes the value. The text is read
back under every limit on the depth that the value does not exceed. A member that was itself
read from a text never exceeds the limit of the reader, and neither does it lack the key order
that the members need to have. Different values of this kind have different texts, however
deep they are. -/
theorem ofMembers_keeps_values (ordered : (Json.object members).Ordered) :
    (ofMembers members).members.map Prod.fst =
        (members.filter fun member => member.2 ≠ .null).map Prod.fst ∧
      KeySorted (ofMembers members).members ∧
      (∀ key s, (key, .string s) ∈ members → (ofMembers members).get? key = some s) ∧
      (∀ key value, (key, value) ∈ members → value.Transcribed →
        ∃ text, (ofMembers members).get? key = some text ∧ IsCompact text ∧
          (∀ limit, parseWithin? limit text = if value.depth ≤ limit then some value else none) ∧
          (value.depth ≤ maxDepth → parse? text = some value) ∧
          ∀ received body, parse? received = some body → (Json.object members).Inside body →
            parse? text = some value) ∧
      ∀ others, (Json.object others).Ordered → ∀ key value other,
        (key, value) ∈ members → (key, other) ∈ others →
        value.Transcribed → other.Transcribed →
        ((ofMembers members).get? key = (ofMembers others).get? key ↔ value = other) := by
  have sorted := ordered.members.1
  refine ⟨keys_ofMembers sorted, (ofMembers members).sorted, ?strings, ?texts, ?distinct⟩
  case strings => exact fun key s inside => get?_ofMembers sorted inside rfl
  case texts =>
    intro key value inside transcribed
    have integral := transcribed.integral
    have ordered' := ordered.members.2 _ inside
    refine ⟨_, get?_ofMembers sorted inside transcribed.metaText?, isCompact_compact integral,
      parseWithin?_compact ordered' integral, ?_, ?_⟩
    · intro limited
      rw [parse?_compact ordered' integral, if_pos limited]
    · intro received body accepted outer
      have part := Inside.trans (.member .whole inside) outer
      exact parse?_compact_of_inside accepted part integral
  case distinct =>
    intro others ordered' key value other inside inside' transcribed transcribed'
    rw [get?_ofMembers sorted inside transcribed.metaText?,
      get?_ofMembers ordered'.members.1 inside' transcribed'.metaText?, Option.some_inj]
    constructor
    · exact compact_injective (ordered.members.2 _ inside) transcribed.integral
        (ordered'.members.2 _ inside') transcribed'.integral
    · exact congrArg compact

end Meta

/-! ## Metadata of a response -/

namespace MetadataExamples

/-- A text under the empty key, and under a key with a quote, a backslash and a line feed an
array of nothing, of containers without parts and of a negative number. -/
def deep : Json :=
  .object [("", .string "\"\\\u0001é"),
    ("k\"\\\n", .array [.null, .array [], .object [], .number (.integer (-5) (by decide))])]

def members : List (String × Json) :=
  [("deep", deep), ("gone", .null), ("text", .string "say \"hi\"")]

/-- A text with these members. -/
def received : String :=
  "\x7b\"text\":\"say \\\"hi\\\"\", \"gone\":null, \"deep\":\x7b\"k\\\"\\\\\\n\":" ++
    "[null, [ ], \x7b \x7d, -5], \"\":\"\\\"\\\\\\u0001é\"\x7d\x7d"

theorem transcribed_deep : deep.Transcribed where
  notNull := nofun
  notString := nofun
  integral := by
    refine .object (List.forall_mem_cons.2 ⟨.string _, List.forall_mem_singleton.2 (.array ?_)⟩)
    simp only [List.forall_mem_cons, List.not_mem_nil, false_imp_iff, implies_true, and_true]
    exact ⟨.null, .array (List.forall_mem_nil _), .object (List.forall_mem_nil _), .integer _ _⟩

end MetadataExamples

open MetadataExamples in
/-- The value with the quotes is had back from its text. -/
theorem Meta.ofMembers_keeps_values_received :
    Json.parse? received = some (.object members) ∧
      (ofMembers members).members.map Prod.fst = ["deep", "text"] ∧
      (ofMembers members).get? "text" = some "say \"hi\"" ∧
      ((ofMembers members).get? "deep").bind Json.parse? = some deep := by
  have accepted : Json.parse? received = some (.object members) := by decide +kernel
  have ordered := (Json.within_of_parse? accepted).1
  obtain ⟨keys, -, strings, texts, -⟩ := ofMembers_keeps_values ordered
  have isText : ("text", .string "say \"hi\"") ∈ members := by simp [members]
  obtain ⟨text, found, -, -, -, denoted⟩ :=
    texts "deep" deep List.mem_cons_self transcribed_deep
  refine ⟨accepted, keys, strings "text" _ isText, ?_⟩
  rw [found]
  exact denoted received _ accepted .whole

end CloudInventory
