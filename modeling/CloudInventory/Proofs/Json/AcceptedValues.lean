import CloudInventory.Proofs.Json.Nesting

/-!
# Values that are read

Whatever the reader accepts has the members of its objects in key order and does not nest
more than `maxDepth` containers. Both hold for every container that is still open, and each
lexeme keeps them.

Results:
1. `Json.Assembly.step_within` and `Json.Assembly.run_within`: reading keeps the order and the
   limit.
2. `Json.within_of_parse?`: what is read is ordered and has no more than `maxDepth` containers
   inside one another.
3. `Json.parse?_compact_of_inside`: every part of it without doubles is read back from its
   own text.
-/

namespace CloudInventory

/-! ## Lexemes that are values -/

namespace Lexeme

/-- A lexeme that is a value of its own is no container. -/
def Plain : Lexeme → Prop
  | .atom value => value.Ordered ∧ value.depth = 0
  | _ => True

theorem plain_of_scan? {cs rest : List Char} {lexeme : Lexeme}
    (scanned : scan? cs = some (lexeme, rest)) : lexeme.Plain := by
  unfold scan? at scanned
  split at scanned
  case h_1 => cases scanned
  -- The words of letters, and the numbers.
  case h_9 | h_10 | h_11 =>
    cases scanned
    exact ⟨by constructor, rfl⟩
  case h_12 =>
    obtain ⟨_, _, denoted⟩ := Option.bind_eq_some_iff.1 scanned
    obtain ⟨n, _, ⟨⟩⟩ := Option.map_eq_some_iff.1 denoted
    exact ⟨.number n, rfl⟩
  case h_8 =>
    obtain ⟨_, _, ⟨⟩⟩ := Option.map_eq_some_iff.1 scanned
    trivial
  all_goals
    cases scanned
    trivial

/-- No lexeme of a text is a container. -/
theorem plain_of_all? {cs : List Char} {lexemes : List Lexeme}
    (scanned : all? cs = some lexemes) : ∀ lexeme ∈ lexemes, lexeme.Plain := by
  fun_induction all? cs generalizing lexemes with
  | case1 =>
    cases scanned
    exact List.forall_mem_nil _
  | case2 c cs blank ih => exact ih scanned
  | case3 => cases scanned
  | case4 c cs visible lexeme rest first ih =>
    obtain ⟨others, behind, rfl⟩ := Option.map_eq_some_iff.1 scanned
    exact List.forall_mem_cons.2 ⟨plain_of_scan? first, ih behind⟩

end Lexeme

namespace Json

/-! ## Room -/

/-- The value has its members in key order, and room for its depth over `height` open
containers. -/
def Within (height : Nat) (json : Json) : Prop :=
  json.Ordered ∧ height + json.depth ≤ maxDepth

theorem within_array {items : List Json} {height : Nat} (opened : height < maxDepth)
    (each : ∀ item ∈ items, Within (height + 1) item) : Within height (.array items) := by
  refine ⟨.array fun item inside => (each item inside).1, ?_⟩
  have depths : itemsDepth items ≤ maxDepth - (height + 1) :=
    itemsDepth_le_iff.2 fun item inside => by
      have := (each item inside).2
      omega
  rw [depth]
  omega

theorem within_object {members : List (String × Json)} {height : Nat} (opened : height < maxDepth)
    (sorted : KeySorted members) (each : ∀ member ∈ members, Within (height + 1) member.2) :
    Within height (.object members) := by
  refine ⟨.object sorted fun member inside => (each member inside).1, ?_⟩
  have depths : membersDepth members ≤ maxDepth - (height + 1) :=
    membersDepth_le_iff.2 fun member inside => by
      have := (each member inside).2
      omega
  rw [depth]
  omega

/-- What an open container holds so far has room inside it, in key order. -/
def Frame.Within (height : Nat) : Frame → Prop
  | .items reversed => ∀ item ∈ reversed, item.Within height
  | .members gathered | .value gathered _ =>
    KeySorted gathered ∧ ∀ member ∈ gathered, member.2.Within height

/-- The open containers do not exceed the limit, and what each holds has room inside it. -/
def FramesWithin : List Frame → Prop
  | [] => True
  | frame :: frames =>
    frames.length < maxDepth ∧ frame.Within (frames.length + 1) ∧ FramesWithin frames

namespace Assembly

/-- Everything put together so far is in key order and has room. -/
def Within (assembly : Assembly) : Prop :=
  FramesWithin assembly.frames ∧
    ∀ value, assembly.expected = .nothing value → value.Within 0

theorem start_within : start.Within :=
  ⟨trivial, nofun⟩

variable {frames : List Frame} {next : Assembly}

theorem put_within {value : Json} (within : FramesWithin frames)
    (room : value.Within frames.length) (done : put value frames = some next) : next.Within := by
  match frames with
  | [] =>
    cases done
    exact ⟨trivial, fun _ same => by cases same; exact room⟩
  | .items reversed :: frames =>
    cases done
    obtain ⟨opened, each, outer⟩ := within
    exact ⟨⟨opened, List.forall_mem_cons.2 ⟨room, each⟩, outer⟩, nofun⟩
  | .value members key :: frames =>
    cases done
    obtain ⟨opened, ⟨sorted, each⟩, outer⟩ := within
    refine ⟨⟨opened, ⟨sorted.insertMember key value, fun member inside => ?_⟩, outer⟩, nofun⟩
    rcases mem_insertMember inside with rfl | before
    · exact room
    · exact each member before
  | .members _ :: _ => cases done

theorem close_within {lexeme : Lexeme} (within : FramesWithin frames)
    (done : close frames lexeme = some next) : next.Within := by
  unfold close at done
  split at done
  next reversed frames =>
    obtain ⟨opened, each, outer⟩ := within
    refine put_within outer (within_array opened fun item inside => ?_) done
    exact each item (List.mem_reverse.1 inside)
  next members frames =>
    obtain ⟨opened, ⟨sorted, each⟩, outer⟩ := within
    exact put_within outer (within_object opened sorted each) done
  next => cases done

theorem beginValue_within {lexeme : Lexeme} (plain : lexeme.Plain) (within : FramesWithin frames)
    (room : frames.length ≤ maxDepth) (done : beginValue frames lexeme = some next) :
    next.Within := by
  unfold beginValue at done
  split at done
  next value =>
    obtain ⟨ordered, flat⟩ := plain
    exact put_within within ⟨ordered, by omega⟩ done
  next s => exact put_within within ⟨.string s, by rw [depth]; omega⟩ done
  next =>
    obtain ⟨opened, ⟨⟩⟩ := Option.ite_none_right_eq_some.1 done
    exact ⟨⟨opened, List.forall_mem_nil _, within⟩, nofun⟩
  next =>
    obtain ⟨opened, ⟨⟩⟩ := Option.ite_none_right_eq_some.1 done
    exact ⟨⟨opened, ⟨keySorted_nil, List.forall_mem_nil _⟩, within⟩, nofun⟩
  next => cases done

theorem beginMember_within {lexeme : Lexeme} (within : FramesWithin frames)
    (done : beginMember frames lexeme = some next) : next.Within := by
  unfold beginMember at done
  split at done
  next =>
    cases done
    exact ⟨within, nofun⟩
  next => cases done

theorem afterComma_within (within : FramesWithin frames) (done : afterComma frames = some next) :
    next.Within := by
  unfold afterComma at done
  split at done
  next =>
    cases done
    exact ⟨within, nofun⟩
  next =>
    cases done
    exact ⟨within, nofun⟩
  next => cases done

theorem length_le_of_framesWithin (within : FramesWithin frames) : frames.length ≤ maxDepth := by
  match frames, within with
  | [], _ => exact Nat.zero_le _
  | _ :: _, ⟨opened, _⟩ => exact opened

/-- One lexeme keeps everything in key order and within the limit. -/
theorem step_within {assembly : Assembly} {lexeme : Lexeme} (plain : lexeme.Plain)
    (within : assembly.Within) (done : assembly.step lexeme = some next) : next.Within := by
  have room := length_le_of_framesWithin within.1
  unfold step at done
  split at done
  next => exact beginValue_within plain within.1 room done
  next => exact close_within within.1 done
  next => exact beginValue_within plain within.1 room done
  next => exact beginMember_within within.1 done
  next => exact close_within within.1 done
  next => exact beginMember_within within.1 done
  next =>
    cases done
    exact ⟨within.1, nofun⟩
  next => cases done
  next => exact afterComma_within within.1 done
  next => exact close_within within.1 done
  next => cases done

theorem run_within {assembly : Assembly} {lexemes : List Lexeme}
    (plain : ∀ lexeme ∈ lexemes, lexeme.Plain) (within : assembly.Within)
    (done : assembly.run lexemes = some next) : next.Within := by
  induction lexemes generalizing assembly with
  | nil =>
    cases done
    exact within
  | cons lexeme lexemes ih =>
    obtain ⟨first, others⟩ := List.forall_mem_cons.1 plain
    rw [run] at done
    split at done
    next middle step => exact ih others (step_within first within step) done
    next => cases done

end Assembly

/-- What is read has its members in key order and does not exceed the limit. -/
theorem within_of_parse? {text : String} {json : Json} (accepted : parse? text = some json) :
    json.Within 0 := by
  simp only [parse?, Option.bind_eq_bind, Option.bind_eq_some_iff] at accepted
  obtain ⟨lexemes, scanned, assembly, done, result⟩ := accepted
  have within := Assembly.run_within (Lexeme.plain_of_all? scanned) Assembly.start_within done
  unfold Assembly.result? at result
  split at result
  next value expected =>
    cases result
    exact within.2 _ expected
  next => cases result

/-! ## Parts of what is read -/

/-- The first value is a part of the second one, at any depth. -/
inductive Inside (part : Json) : Json → Prop
  | whole : Inside part part
  | item {items : List Json} {item : Json} (inside : Inside part item) (here : item ∈ items) :
    Inside part (.array items)
  | member {members : List (String × Json)} {member : String × Json}
    (inside : Inside part member.2) (here : member ∈ members) : Inside part (.object members)

variable {part json : Json}

theorem Inside.trans {whole : Json} (inner : Inside part json) (outer : Inside json whole) :
    Inside part whole := by
  induction outer with
  | whole => exact inner
  | item _ here ih => exact ih.item here
  | member _ here ih => exact ih.member here

theorem Inside.ordered (inside : Inside part json) (ordered : json.Ordered) : part.Ordered := by
  induction inside with
  | whole => exact ordered
  | item _ here ih => exact ih (ordered.items _ here)
  | member _ here ih => exact ih (ordered.members.2 _ here)

/-- A part is no deeper than the whole. -/
theorem Inside.depth_le (inside : Inside part json) : part.depth ≤ json.depth := by
  induction inside with
  | whole => exact Nat.le_refl _
  | @item items _ _ here ih =>
    have := itemsDepth_le_iff.1 (Nat.le_refl (itemsDepth items)) _ here
    rw [depth]
    omega
  | @member members _ _ here ih =>
    have := membersDepth_le_iff.1 (Nat.le_refl (membersDepth members)) _ here
    rw [depth]
    omega

/-- Every part of what is read is read back from its own text, if its numbers are integers. -/
theorem parse?_compact_of_inside {text : String} (accepted : parse? text = some json)
    (inside : Inside part json) (integral : part.Integral) :
    parse? part.compact = some part := by
  obtain ⟨ordered, limited⟩ := within_of_parse? accepted
  have depth := inside.depth_le
  rw [parse?_compact (inside.ordered ordered) integral, if_pos (by omega)]

end Json

end CloudInventory
