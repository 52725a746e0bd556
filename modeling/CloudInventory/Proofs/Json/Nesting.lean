import CloudInventory.Proofs.Json.CompactText
import CloudInventory.Proofs.Json.Fields

/-!
# Nested values

The reader puts a value together over a stack of open containers and refuses a text that
opens too many of them. The limit is a parameter here, and the reader of the library is the
one whose limit is `maxDepth`. The lexemes of a value put that value together again under
every limit that its depth does not exceed, and under no other.

Results:
1. `Json.parseWithin?_maxDepth`: the reader of the library is one of the readers with a limit.
2. `Json.parseWithin?_compact`: a compact text is read back exactly under the limits that the
   depth of its value does not exceed.
3. `Json.parse?_compact_object`: the members of an object may be written in any order.
4. `Json.compact_injective`: values with one text are one value, however deep they are.
-/

namespace CloudInventory

namespace Json

/-! ## Depth and order -/

mutual

/-- The greatest number of containers inside one another. -/
def depth : Json → Nat
  | .array items => 1 + itemsDepth items
  | .object members => 1 + membersDepth members
  | .null | .bool _ | .number _ | .string _ => 0

/-- The depth of the deepest item. -/
def itemsDepth : List Json → Nat
  | [] => 0
  | x :: xs => max (depth x) (itemsDepth xs)

/-- The depth of the deepest member. -/
def membersDepth : List (String × Json) → Nat
  | [] => 0
  | (_, v) :: ms => max (depth v) (membersDepth ms)

end

theorem itemsDepth_le_iff {items : List Json} {n : Nat} :
    itemsDepth items ≤ n ↔ ∀ item ∈ items, item.depth ≤ n := by
  induction items with
  | nil => simp [itemsDepth]
  | cons x xs ih => rw [itemsDepth, Nat.max_le, ih, List.forall_mem_cons]

theorem membersDepth_le_iff {members : List (String × Json)} {n : Nat} :
    membersDepth members ≤ n ↔ ∀ member ∈ members, member.2.depth ≤ n := by
  induction members with
  | nil => simp [membersDepth]
  | cons member ms ih => rw [membersDepth, Nat.max_le, ih, List.forall_mem_cons]

/-- All objects of the value have their members in key order. -/
inductive Ordered : Json → Prop where
  | null : Ordered .null
  | bool (value : Bool) : Ordered (.bool value)
  | number (value : Number) : Ordered (.number value)
  | string (value : String) : Ordered (.string value)
  | array {items : List Json} (each : ∀ item ∈ items, Ordered item) : Ordered (.array items)
  | object {members : List (String × Json)} (sorted : KeySorted members)
    (each : ∀ member ∈ members, Ordered member.2) : Ordered (.object members)

theorem Ordered.items {items : List Json} (ordered : (Json.array items).Ordered) :
    ∀ item ∈ items, item.Ordered := by
  cases ordered with
  | array each => exact each

theorem Ordered.members {members : List (String × Json)}
    (ordered : (Json.object members).Ordered) :
    KeySorted members ∧ ∀ member ∈ members, member.2.Ordered := by
  cases ordered with
  | object sorted each => exact ⟨sorted, each⟩

/-! ## Reading under a limit -/

namespace Assembly

variable (limit : Nat)

/-- The start of a value, with at most `limit` open containers. -/
def beginValueWithin (frames : List Frame) : Lexeme → Option Assembly
  | .openArray =>
    if frames.length < limit then some ⟨.items [] :: frames, .firstItem⟩ else none
  | .openObject =>
    if frames.length < limit then some ⟨.members [] :: frames, .firstKey⟩ else none
  | lexeme => beginValue frames lexeme

/-- One lexeme, with at most `limit` open containers. -/
def stepWithin (assembly : Assembly) (lexeme : Lexeme) : Option Assembly :=
  match assembly.expected, lexeme with
  | .value, lexeme => beginValueWithin limit assembly.frames lexeme
  | .firstItem, .closeArray => close assembly.frames .closeArray
  | .firstItem, lexeme => beginValueWithin limit assembly.frames lexeme
  | _, lexeme => assembly.step lexeme

/-- All lexemes, one after the other, with at most `limit` open containers. -/
def runWithin (assembly : Assembly) (lexemes : List Lexeme) : Option Assembly :=
  lexemes.foldlM (stepWithin limit) assembly

theorem beginValueWithin_maxDepth (frames : List Frame) (lexeme : Lexeme) :
    beginValueWithin maxDepth frames lexeme = beginValue frames lexeme := by
  cases lexeme <;> rfl

theorem stepWithin_maxDepth (assembly : Assembly) (lexeme : Lexeme) :
    stepWithin maxDepth assembly lexeme = assembly.step lexeme := by
  obtain ⟨frames, expected⟩ := assembly
  cases expected with
  | value => exact beginValueWithin_maxDepth frames lexeme
  | firstItem => cases lexeme <;> rfl
  | _ => rfl

theorem runWithin_maxDepth (assembly : Assembly) (lexemes : List Lexeme) :
    runWithin maxDepth assembly lexemes = assembly.run lexemes := by
  induction lexemes generalizing assembly with
  | nil => rfl
  | cons lexeme lexemes ih =>
    rw [runWithin, List.foldlM_cons, stepWithin_maxDepth, run]
    cases assembly.step lexeme with
    | none => rfl
    | some next => exact ih next

end Assembly

/-- The value that a JSON text denotes, if at most `limit` containers are inside one another. -/
def parseWithin? (limit : Nat) (text : String) : Option Json := do
  let lexemes ← Lexeme.all? text.toList
  let assembly ← Assembly.start.runWithin limit lexemes
  assembly.result?

theorem parseWithin?_maxDepth (text : String) : parseWithin? maxDepth text = parse? text := by
  simp only [parseWithin?, Assembly.runWithin_maxDepth, parse?]

/-! ## The lexemes of a value -/

namespace Assembly

variable {limit : Nat} {frames : List Frame}

theorem runWithin_append (assembly : Assembly) (first second : List Lexeme) :
    assembly.runWithin limit (first ++ second) =
      (assembly.runWithin limit first).bind (·.runWithin limit second) :=
  List.foldlM_append

theorem runWithin_cons (assembly : Assembly) (lexeme : Lexeme) (lexemes : List Lexeme) :
    assembly.runWithin limit (lexeme :: lexemes) =
      (assembly.stepWithin limit lexeme).bind (·.runWithin limit lexemes) :=
  List.foldlM_cons

theorem runWithin_singleton (assembly : Assembly) (lexeme : Lexeme) :
    assembly.runWithin limit [lexeme] = assembly.stepWithin limit lexeme := by
  rw [runWithin_cons]
  exact Option.bind_fun_some _

/-- The first item of an array is read like any other value, since no value starts with the
closing bracket. -/
theorem runWithin_firstItem (json : Json) (rest : List Lexeme) :
    runWithin limit ⟨frames, .firstItem⟩ (json.lexemes ++ rest) =
      runWithin limit ⟨frames, .value⟩ (json.lexemes ++ rest) := by
  cases json with
  | array items => cases items <;> rfl
  | object members => cases members <;> rfl
  | _ => rfl

end Assembly

open Assembly

section

variable (limit : Nat)

/-- The lexemes of the value put it into the innermost container, if there is room for its
depth over the open ones. -/
def Reads (json : Json) : Prop :=
  ∀ frames, frames.length ≤ limit →
    runWithin limit ⟨frames, .value⟩ json.lexemes =
      if frames.length + json.depth ≤ limit then put json frames else none

/-- The lexemes of the items complete the array that they stand in. -/
def ReadsItems (items : List Json) : Prop :=
  ∀ reversed frames, frames.length + 1 ≤ limit →
    runWithin limit ⟨.items reversed :: frames, .separator⟩ (itemLexemes items) =
      if frames.length + 1 + itemsDepth items ≤ limit then
        put (.array (reversed.reverse ++ items)) frames
      else none

/-- The lexemes of the members complete the object that they stand in, each member put among
the members before it. -/
def ReadsMembers (members : List (String × Json)) : Prop :=
  ∀ before frames, frames.length + 1 ≤ limit →
    runWithin limit ⟨.members before :: frames, .separator⟩ (memberLexemes members) =
      if frames.length + 1 + membersDepth members ≤ limit then
        put (.object (members.foldl (fun ms m => insertMember m.1 m.2 ms) before)) frames
      else none

variable {limit}

/-- Two parts have room if the deeper one has. -/
theorem ite_max_le {α : Type} (height a b : Nat) (result : Option α) :
    (if height + max a b ≤ limit then result else none) =
      if height + a ≤ limit then (if height + b ≤ limit then result else none) else none := by
  rw [← Nat.add_max_add_left]
  simp only [Nat.max_le, ite_and]

/-- A value of one lexeme has room wherever a value may stand. -/
theorem reads_of_singleton {json : Json} {lexeme : Lexeme} (single : json.lexemes = [lexeme])
    (flat : json.depth = 0)
    (step : ∀ frames, stepWithin limit ⟨frames, .value⟩ lexeme = put json frames) :
    Reads limit json := by
  intro frames room
  rw [single, runWithin_singleton, step, flat, Nat.add_zero, if_pos room]

/-! ### Arrays -/

variable {x : Json} {xs : List Json}

theorem readsItems_nil : ReadsItems limit [] := by
  intro reversed frames opened
  rw [itemLexemes, itemsDepth, if_pos opened, runWithin_singleton, List.append_nil]
  rfl

/-- An item, and the ones behind it. -/
theorem Reads.items (first : Reads limit x) (others : ReadsItems limit xs)
    (reversed : List Json) (frames : List Frame) (opened : frames.length + 1 ≤ limit) :
    runWithin limit ⟨.items reversed :: frames, .value⟩ (x.lexemes ++ itemLexemes xs) =
      if frames.length + 1 + itemsDepth (x :: xs) ≤ limit then
        put (.array (reversed.reverse ++ x :: xs)) frames
      else none := by
  have later := others (x :: reversed) frames opened
  rw [List.reverse_cons, List.append_assoc] at later
  rw [runWithin_append, first (.items reversed :: frames) opened, itemsDepth, ite_max_le,
    List.length_cons]
  split
  next => exact later
  next => rfl

theorem Reads.itemLexemes (first : Reads limit x) (others : ReadsItems limit xs) :
    ReadsItems limit (x :: xs) := by
  intro reversed frames opened
  rw [Json.itemLexemes, runWithin_cons]
  exact first.items others reversed frames opened

theorem stepWithin_openArray (frames : List Frame) :
    stepWithin limit ⟨frames, .value⟩ .openArray =
      if frames.length + 1 ≤ limit then some ⟨.items [] :: frames, .firstItem⟩ else none :=
  rfl

theorem reads_array_nil : Reads limit (.array []) := by
  intro frames _
  rw [lexemes, runWithin_cons, stepWithin_openArray, depth, itemsDepth]
  split
  next => exact runWithin_singleton _ _
  next => rfl

theorem Reads.array (first : Reads limit x) (others : ReadsItems limit xs) :
    Reads limit (.array (x :: xs)) := by
  intro frames _
  rw [lexemes, runWithin_cons, stepWithin_openArray, depth, ← Nat.add_assoc]
  split
  next opened =>
    rw [Option.bind_some, runWithin_firstItem, first.items others [] frames opened]
    rfl
  next closed => rw [if_neg (by omega), Option.bind_none]

/-! ### Objects -/

variable {key : String} {value : Json} {others : List (String × Json)}

theorem readsMembers_nil : ReadsMembers limit [] := by
  intro before frames opened
  rw [memberLexemes, membersDepth, if_pos opened, runWithin_singleton]
  rfl

/-- A member, and the ones behind it. -/
theorem Reads.members (first : Reads limit value) (behind : ReadsMembers limit others)
    (before : List (String × Json)) (frames : List Frame) (opened : frames.length + 1 ≤ limit) :
    runWithin limit ⟨.value before key :: frames, .value⟩
        (value.lexemes ++ memberLexemes others) =
      if frames.length + 1 + membersDepth ((key, value) :: others) ≤ limit then
        put (.object (((key, value) :: others).foldl (fun ms m => insertMember m.1 m.2 ms) before))
          frames
      else none := by
  have later := behind (insertMember key value before) frames opened
  rw [runWithin_append, first (.value before key :: frames) opened, membersDepth, ite_max_le,
    List.length_cons]
  split
  next => exact later
  next => rfl

theorem Reads.memberLexemes (first : Reads limit value) (behind : ReadsMembers limit others) :
    ReadsMembers limit ((key, value) :: others) :=
  first.members behind

theorem stepWithin_openObject (frames : List Frame) :
    stepWithin limit ⟨frames, .value⟩ .openObject =
      if frames.length + 1 ≤ limit then some ⟨.members [] :: frames, .firstKey⟩ else none :=
  rfl

/-- The lexemes of an object put its members in key order, whatever order they are written in. -/
def ReadsSorted (limit : Nat) (members : List (String × Json)) : Prop :=
  ∀ frames, frames.length ≤ limit →
    runWithin limit ⟨frames, .value⟩ (Json.object members).lexemes =
      if frames.length + (Json.object members).depth ≤ limit then
        put (.object (sortMembers members)) frames
      else none

theorem readsSorted_nil : ReadsSorted limit [] := by
  intro frames _
  rw [lexemes, runWithin_cons, stepWithin_openObject, depth, membersDepth]
  split
  next => exact runWithin_singleton _ _
  next => rfl

theorem Reads.sorted (first : Reads limit value) (behind : ReadsMembers limit others) :
    ReadsSorted limit ((key, value) :: others) := by
  intro frames _
  rw [lexemes, runWithin_cons, stepWithin_openObject, depth, ← Nat.add_assoc]
  split
  next opened => exact first.members behind [] frames opened
  next closed => rw [if_neg (by omega), Option.bind_none]

/-- Members that are written in key order stay as they are. -/
theorem ReadsSorted.reads {members : List (String × Json)} (reads : ReadsSorted limit members)
    (sorted : KeySorted members) : Reads limit (.object members) := by
  intro frames room
  rw [reads frames room, sortMembers_eq_self sorted]

/-! ### All values -/

mutual

/-- Every ordered value is put together from its lexemes. -/
theorem Ordered.reads : (json : Json) → json.Ordered → Reads limit json
  | .null, _ => reads_of_singleton (by rw [lexemes]) (by rw [depth]) fun _ => rfl
  | .bool _, _ => reads_of_singleton (by rw [lexemes]) (by rw [depth]) fun _ => rfl
  | .number _, _ => reads_of_singleton (by rw [lexemes]) (by rw [depth]) fun _ => rfl
  | .string _, _ => reads_of_singleton (by rw [lexemes]) (by rw [depth]) fun _ => rfl
  | .array [], _ => reads_array_nil
  | .array (x :: xs), ordered =>
    have each := List.forall_mem_cons.1 ordered.items
    (Ordered.reads x each.1).array (readsItems_of_ordered xs each.2)
  | .object [], ordered => readsSorted_nil.reads ordered.members.1
  | .object ((_, v) :: ms), ordered =>
    have each := List.forall_mem_cons.1 ordered.members.2
    ((Ordered.reads v each.1).sorted (readsMembers_of_ordered ms each.2)).reads ordered.members.1

theorem readsItems_of_ordered :
    (items : List Json) → (∀ item ∈ items, item.Ordered) → ReadsItems limit items
  | [], _ => readsItems_nil
  | x :: xs, each =>
    have each := List.forall_mem_cons.1 each
    (Ordered.reads x each.1).itemLexemes (readsItems_of_ordered xs each.2)

theorem readsMembers_of_ordered : (members : List (String × Json)) →
    (∀ member ∈ members, member.2.Ordered) → ReadsMembers limit members
  | [], _ => readsMembers_nil
  | (_, v) :: ms, each =>
    have each := List.forall_mem_cons.1 each
    (Ordered.reads v each.1).memberLexemes (readsMembers_of_ordered ms each.2)

end

/-- The members of an object may be written in any order. -/
theorem readsSorted_of_ordered {members : List (String × Json)}
    (each : ∀ member ∈ members, member.2.Ordered) : ReadsSorted limit members := by
  cases members with
  | nil => exact readsSorted_nil
  | cons member others =>
    obtain ⟨first, behind⟩ := List.forall_mem_cons.1 each
    exact (Ordered.reads member.2 first).sorted (readsMembers_of_ordered others behind)

end

/-! ## Compact texts -/

variable {json : Json}

/-- The compact text of a value is read back exactly under the limits that the depth of the
value does not exceed. -/
theorem parseWithin?_compact (ordered : json.Ordered) (integral : json.Integral) (limit : Nat) :
    parseWithin? limit json.compact = if json.depth ≤ limit then some json else none := by
  have run := Ordered.reads json ordered [] (Nat.zero_le limit)
  rw [List.length_nil, Nat.zero_add] at run
  rw [parseWithin?, all?_compact integral]
  change (runWithin limit ⟨[], .value⟩ json.lexemes).bind (·.result?) = _
  rw [run]
  split <;> rfl

theorem parse?_compact (ordered : json.Ordered) (integral : json.Integral) :
    parse? json.compact = if json.depth ≤ maxDepth then some json else none := by
  rw [← parseWithin?_maxDepth, parseWithin?_compact ordered integral]

/-- The compact text of an object is read with its members in key order, whatever order they
are written in. -/
theorem parse?_compact_object {members : List (String × Json)}
    (each : ∀ member ∈ members, member.2.Ordered) (integral : (Json.object members).Integral)
    (room : (Json.object members).depth ≤ maxDepth) :
    parse? (Json.object members).compact = some (.object (sortMembers members)) := by
  have run := readsSorted_of_ordered each [] (Nat.zero_le maxDepth)
  rw [List.length_nil, Nat.zero_add, if_pos room] at run
  rw [← parseWithin?_maxDepth, parseWithin?, all?_compact integral]
  change (runWithin maxDepth ⟨[], .value⟩ (Json.object members).lexemes).bind (·.result?) = _
  rw [run]
  rfl

/-- Values with one text are one value, however deep they are. -/
theorem compact_injective {other : Json} (ordered : json.Ordered) (integral : json.Integral)
    (ordered' : other.Ordered) (integral' : other.Integral)
    (same : json.compact = other.compact) : json = other := by
  have first := parseWithin?_compact ordered integral (max json.depth other.depth)
  have second := parseWithin?_compact ordered' integral' (max json.depth other.depth)
  rw [if_pos (Nat.le_max_left _ _), same] at first
  rw [if_pos (Nat.le_max_right _ _), first] at second
  exact Option.some.inj second

end Json

end CloudInventory
